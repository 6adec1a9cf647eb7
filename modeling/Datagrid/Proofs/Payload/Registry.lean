import Datagrid.Payload.Registry
import Datagrid.Proofs.Wire.Frames
import Mathlib.Data.List.Induction
import Mathlib.Data.List.Nodup

/-!
# Registries: one serializer for a type, one for an id

Whatever serializers are registered, and in whatever order, a registry binds ids and types one to
one, with a serializer of its own under each. So what is found for a type does not hang on the
order in which bindings are looked through, what was written for a type is read back as that type,
and as no other.
-/
namespace Datagrid

/-! ## Serialized values -/

namespace Data

theorem ofIntOctets_intOctets (n : Int32) : ofIntOctets (intOctets n) = n := by
  have fits : n.toUInt32.toNat < 256 ^ 4 := n.toUInt32.toNat_lt
  rw [ofIntOctets, intOctets, Octets.ofBigEndian_bigEndian, Nat.mod_eq_of_lt fits, UInt32.ofNat_toNat,
    Int32.toInt32_toUInt32]

@[simp] theorem length_intOctets (n : Int32) : (intOctets n).length = 4 := by simp [intOctets]

variable (typeId hash : Int32) (payload : Octets)

@[simp] theorem typeId_ofParts : (ofParts typeId hash payload).typeId = typeId := by
  have here : (ofParts typeId hash payload).octets.drop typeIdOffset = intOctets typeId ++ payload :=
    List.drop_left' (length_intOctets hash)
  rw [Data.typeId, here, List.take_left' (length_intOctets typeId), ofIntOctets_intOctets]

@[simp] theorem payload_ofParts : (ofParts typeId hash payload).payload = payload := by
  have header : (intOctets hash ++ intOctets typeId).length = dataHeaderSize := by simp [dataHeaderSize]
  have parts : (ofParts typeId hash payload).octets = (intOctets hash ++ intOctets typeId) ++ payload := by
    simp [ofParts]
  rw [Data.payload, parts, List.drop_left' header]

end Data

/-! ## Looking up -/

/-- Where no two have one key, a look-up by key finds whatever has the key. -/
private theorem find?_eq_some_iff_of_keyed {α κ : Type} [DecidableEq κ] {key : α → κ} {xs : List α}
    (keyed : (xs.map key).Nodup) {k : κ} {x : α} :
    xs.find? (key · == k) = some x ↔ x ∈ xs ∧ key x = k := by
  constructor
  · intro found
    exact ⟨List.mem_of_find?_eq_some found, by simpa using List.find?_some found⟩
  · rintro ⟨mem, rfl⟩
    cases found : xs.find? (key · == key x) with
    | none => simpa using List.find?_eq_none.1 found x mem
    | some y =>
      have same : key y = key x := by simpa using List.find?_some found
      rw [List.inj_on_of_nodup_map keyed (List.mem_of_find?_eq_some found) mem same]

namespace Registry

variable {r : Registry}

/-- No two serializers of a registry share an id or a type. -/
structure OneToOne (r : Registry) : Prop where
  ids : (r.bindings.map (·.serializer.typeId)).Nodup
  types : (r.bindings.map (·.serializer.type)).Nodup

theorem OneToOne.byId?_eq_some_iff (one : r.OneToOne) {id : Int32} {b : Binding} :
    r.byId? id = some b ↔ b ∈ r.bindings ∧ b.serializer.typeId = id :=
  find?_eq_some_iff_of_keyed one.ids

theorem OneToOne.byType?_eq_some_iff (one : r.OneToOne) {type : ValueType} {b : Binding} :
    r.byType? type = some b ↔ b ∈ r.bindings ∧ b.serializer.type = type :=
  find?_eq_some_iff_of_keyed one.types

theorem resolve_eq_ok_iff {id : Int32} {s : Serializer} :
    r.resolve id = .ok s ↔ ∃ b, r.byId? id = some b ∧ b.serializer = s := by
  unfold resolve
  cases r.byId? id <;> simp

theorem resolveFor_eq_ok_iff {type : ValueType} {s : Serializer} :
    r.resolveFor type = .ok s ↔ ∃ b, r.byType? type = some b ∧ b.serializer = s := by
  unfold resolveFor
  cases r.byType? type <;> simp

/-- What is found for a type is found again under its id. -/
theorem OneToOne.resolve_of_resolveFor (one : r.OneToOne) {type : ValueType} {s : Serializer}
    (found : r.resolveFor type = .ok s) : s.type = type ∧ r.resolve s.typeId = .ok s := by
  obtain ⟨b, bound, rfl⟩ := resolveFor_eq_ok_iff.1 found
  obtain ⟨mem, type⟩ := one.byType?_eq_some_iff.1 bound
  exact ⟨type, resolve_eq_ok_iff.2 ⟨b, one.byId?_eq_some_iff.2 ⟨mem, rfl⟩, rfl⟩⟩

/-- What is found under an id is found again for its type. -/
theorem OneToOne.resolveFor_of_resolve (one : r.OneToOne) {id : Int32} {s : Serializer}
    (found : r.resolve id = .ok s) : s.typeId = id ∧ r.resolveFor s.type = .ok s := by
  obtain ⟨b, bound, rfl⟩ := resolve_eq_ok_iff.1 found
  obtain ⟨mem, id⟩ := one.byId?_eq_some_iff.1 bound
  exact ⟨id, resolveFor_eq_ok_iff.2 ⟨b, one.byType?_eq_some_iff.2 ⟨mem, rfl⟩, rfl⟩⟩

/-- What a table of types holds for a type after bindings have been put into it in this order, each
    in place of what the table held for its type. -/
def lastFor (order : List Binding) (type : ValueType) : Option Binding :=
  order.foldl (fun held b => if b.serializer.type = type then some b else held) none

theorem lastFor_eq_find? (order : List Binding) (type : ValueType) :
    lastFor order type = order.reverse.find? (·.serializer.type == type) := by
  induction order using List.reverseRecOn with
  | nil => rfl
  | append_singleton before b ih =>
    simp only [lastFor, List.foldl_append, List.foldl_cons, List.foldl_nil, List.reverse_append,
      List.reverse_singleton, List.singleton_append, List.find?_cons]
    rw [← ih]
    by_cases same : b.serializer.type = type
    · simp [same]
    · simp [same, beq_false_of_ne same, lastFor]

/-- In whatever order a table of types is filled from the bindings, it holds the same. -/
theorem OneToOne.lastFor_of_perm (one : r.OneToOne) {order : List Binding} (perm : order.Perm r.bindings)
    (type : ValueType) : lastFor order type = r.byType? type := by
  have types : (order.reverse.map (·.serializer.type)).Nodup :=
    ((order.reverse_perm.trans perm).map _).nodup_iff.2 one.types
  rw [lastFor_eq_find?]
  refine Option.ext fun b => ?_
  rw [find?_eq_some_iff_of_keyed types, one.byType?_eq_some_iff, List.mem_reverse, perm.mem_iff]

/-! ## Registering -/

/-- What becomes of a registry that a serializer is registered with. -/
def Registration.after (r : Registry) : Registration → Registry
  | .added r => r
  | .repeated => r
  | .refused _ => r

/-- What is answered to registering a serializer. -/
def Registration.answer (s : Serializer) : Registration → Except Fault (Option Int32)
  | .added _ => .ok (some s.typeId)
  | .repeated => .ok none
  | .refused fault => .error fault

variable {s : Serializer}

theorem registerAll_cons (r : Registry) (s : Serializer) (rest : List Serializer) :
    r.registerAll (s :: rest) =
      ((((r.register s).after r).registerAll rest).1,
        (r.register s).answer s :: (((r.register s).after r).registerAll rest).2) := by
  rw [registerAll]
  cases r.register s <;> rfl

theorem registerAll_append (r : Registry) (calls more : List Serializer) :
    r.registerAll (calls ++ more) =
      (((r.registerAll calls).1.registerAll more).1,
        (r.registerAll calls).2 ++ ((r.registerAll calls).1.registerAll more).2) := by
  induction calls generalizing r with
  | nil => rfl
  | cons s calls ih => simp [registerAll_cons, ih]

@[simp] theorem length_registerAll (r : Registry) (calls : List Serializer) :
    (r.registerAll calls).2.length = calls.length := by
  induction calls generalizing r with
  | nil => rfl
  | cons s calls ih => simp [registerAll_cons, ih]

theorem after_of_idle (idle : ∀ id, (r.register s).answer s ≠ .ok (some id)) : (r.register s).after r = r := by
  cases register : r.register s with
  | added => simp [register, Registration.answer] at idle
  | repeated => rfl
  | refused => rfl

/-- A serializer that is added has an id of the user's, and neither its id nor its type was bound. -/
theorem register_added {next : Registry} (added : r.register s = .added next) :
    next = { r with bindings := r.bindings ++ [⟨s, 0, 0⟩] } ∧ 0 < s.typeId ∧
      (∀ b ∈ r.bindings, b.serializer.typeId ≠ s.typeId) ∧ ∀ b ∈ r.bindings, b.serializer.type ≠ s.type := by
  unfold register at added
  split at added
  · simp at added
  · rename_i positive
    split at added
    · split at added <;> simp at added
    · rename_i noId
      split at added
      · simp at added
      · rename_i noType
        simp only [Registration.added.injEq] at added
        refine ⟨added.symm, Int32.not_le.1 positive, ?_, ?_⟩
        · simpa [byId?] using noId
        · simpa [byType?] using noType

/-- The serializers of a registry, whatever they have been asked. -/
def serializers (r : Registry) : List Serializer := r.bindings.map (·.serializer)

/-- What is answered to registering a serializer where others are bound. -/
inductive Verdict (bound : List Serializer) (s : Serializer) : Except Fault (Option Int32) → Prop
  /-- Its id is a user's, and nobody has it or is of its type. -/
  | added : 0 < s.typeId → (∀ t ∈ bound, t.typeId ≠ s.typeId) → (∀ t ∈ bound, t.type ≠ s.type) →
      Verdict bound s (.ok (some s.typeId))
  | repeated (t : Serializer) : 0 < s.typeId → t ∈ bound → t.same s = true → Verdict bound s (.ok none)
  | reserved : s.typeId ≤ 0 → Verdict bound s (.error (.config (.reservedTypeId s.typeId)))
  | duplicate (t : Serializer) : 0 < s.typeId → t ∈ bound → t.typeId = s.typeId → t.same s = false →
      Verdict bound s (.error (.duplicateType s.typeId))
  /-- Nobody has its id, but another is of its type. -/
  | taken (t : Serializer) : 0 < s.typeId → (∀ t ∈ bound, t.typeId ≠ s.typeId) → t ∈ bound → t.type = s.type →
      Verdict bound s (.error (.config (.boundType s.type.name t.typeId)))

theorem verdict_of_register (r : Registry) (s : Serializer) :
    Verdict r.serializers s ((r.register s).answer s) := by
  unfold register
  split
  next reserved => exact .reserved reserved
  next positive =>
    have positive := Int32.not_le.1 positive
    split
    next b found =>
      have mem : b.serializer ∈ r.serializers := List.mem_map_of_mem (List.mem_of_find?_eq_some found)
      split
      next same => exact .repeated b.serializer positive mem same
      next other =>
        exact .duplicate b.serializer positive mem (by simpa using List.find?_some found) (by simpa using other)
    next noId =>
      have noId : ∀ t ∈ r.serializers, t.typeId ≠ s.typeId := by simpa [serializers, byId?] using noId
      split
      next b found =>
        exact .taken b.serializer positive noId (List.mem_map_of_mem (List.mem_of_find?_eq_some found))
          (by simpa using List.find?_some found)
      next noType => exact .added positive noId (by simpa [serializers, byType?] using noType)

theorem typeId_of_same {t : Serializer} (same : t.same s = true) : t.typeId = s.typeId := by
  simp only [Serializer.same, Bool.and_eq_true, beq_iff_eq] at same
  exact same.1.1

/-- Where nobody shares an id or a type, there is one answer. -/
theorem OneToOne.verdict_unique (one : r.OneToOne) {answer answer' : Except Fault (Option Int32)}
    (verdict : Verdict r.serializers s answer) (verdict' : Verdict r.serializers s answer') : answer = answer' := by
  have sameId {t t' : Serializer} (mem : t ∈ r.serializers) (mem' : t' ∈ r.serializers)
      (same : t.typeId = t'.typeId) : t = t' := by
    refine List.inj_on_of_nodup_map ?_ mem mem' same
    simpa [serializers, Function.comp_def] using one.ids
  have sameType {t t' : Serializer} (mem : t ∈ r.serializers) (mem' : t' ∈ r.serializers)
      (same : t.type = t'.type) : t = t' := by
    refine List.inj_on_of_nodup_map ?_ mem mem' same
    simpa [serializers, Function.comp_def] using one.types
  cases verdict with
  | reserved nonpositive =>
    cases verdict' with
    | reserved => rfl
    | added positive | repeated _ positive | duplicate _ positive | taken _ positive =>
      exact absurd nonpositive (Int32.not_le.2 positive)
  | added positive noId noType =>
    cases verdict' with
    | reserved nonpositive => exact absurd nonpositive (Int32.not_le.2 positive)
    | added => rfl
    | repeated t _ mem same => exact absurd (typeId_of_same same) (noId t mem)
    | duplicate t _ mem id => exact absurd id (noId t mem)
    | taken t _ _ mem type => exact absurd type (noType t mem)
  | repeated t positive mem same =>
    cases verdict' with
    | reserved nonpositive => exact absurd nonpositive (Int32.not_le.2 positive)
    | added _ noId | taken _ _ noId => exact absurd (typeId_of_same same) (noId t mem)
    | repeated => rfl
    | duplicate t' _ mem' id other =>
      obtain rfl := sameId mem mem' ((typeId_of_same same).trans id.symm)
      cases same.symm.trans other
  | duplicate t positive mem id other =>
    cases verdict' with
    | reserved nonpositive => exact absurd nonpositive (Int32.not_le.2 positive)
    | added _ noId | taken _ _ noId => exact absurd id (noId t mem)
    | duplicate => rfl
    | repeated t' _ mem' same =>
      obtain rfl := sameId mem mem' (id.trans (typeId_of_same same).symm)
      cases same.symm.trans other
  | taken t positive noId mem type =>
    cases verdict' with
    | reserved nonpositive => exact absurd nonpositive (Int32.not_le.2 positive)
    | added _ _ noType => exact absurd type (noType t mem)
    | repeated t' _ mem' same => exact absurd (typeId_of_same same) (noId t' mem')
    | duplicate t' _ mem' id => exact absurd id (noId t' mem')
    | taken t' _ _ mem' type' =>
      obtain rfl := sameType mem mem' (type.trans type'.symm)
      rfl

/-- Registering keeps what was bound, in its place. -/
theorem bindings_after (r : Registry) (s : Serializer) :
    ∃ more, ((r.register s).after r).bindings = r.bindings ++ more := by
  cases register : r.register s with
  | added next => exact ⟨[⟨s, 0, 0⟩], by rw [Registration.after, (register_added register).1]⟩
  | repeated => exact ⟨[], by simp [Registration.after]⟩
  | refused => exact ⟨[], by simp [Registration.after]⟩

theorem OneToOne.after_register (one : r.OneToOne) (s : Serializer) : ((r.register s).after r).OneToOne := by
  cases register : r.register s with
  | added next =>
    obtain ⟨rfl, -, newId, newType⟩ := register_added register
    refine ⟨?_, ?_⟩
    · simpa [Registration.after, List.nodup_append, one.ids] using newId
    · simpa [Registration.after, List.nodup_append, one.types] using newType
  | repeated => exact one
  | refused => exact one

theorem OneToOne.registerAll (one : r.OneToOne) (calls : List Serializer) : (r.registerAll calls).1.OneToOne := by
  induction calls generalizing r with
  | nil => exact one
  | cons s calls ih =>
    rw [registerAll_cons]
    exact ih (one.after_register s)

theorem bindings_registerAll (r : Registry) (calls : List Serializer) :
    ∃ more, (r.registerAll calls).1.bindings = r.bindings ++ more := by
  induction calls generalizing r with
  | nil => exact ⟨[], by simp [Registry.registerAll]⟩
  | cons s calls ih =>
    obtain ⟨first, step⟩ := r.bindings_after s
    obtain ⟨rest, steps⟩ := ih ((r.register s).after r)
    exact ⟨first ++ rest, by rw [registerAll_cons, steps, step, List.append_assoc]⟩

/-- Each call is answered as if it were the last. -/
theorem answer_registerAll (r : Registry) (before : List Serializer) (s : Serializer) (after : List Serializer) :
    (r.registerAll (before ++ s :: after)).2[before.length]? =
      some (((r.registerAll before).1.register s).answer s) := by
  simp [registerAll_append, registerAll_cons]

/-- A call is answered by what is bound before it. -/
theorem OneToOne.answered_iff (one : r.OneToOne) (before : List Serializer) (s : Serializer) (after : List Serializer)
    {answer : Except Fault (Option Int32)} :
    (r.registerAll (before ++ s :: after)).2[before.length]? = some answer ↔
      Verdict (r.registerAll before).1.serializers s answer := by
  rw [answer_registerAll, Option.some_inj]
  constructor
  · rintro rfl
    exact verdict_of_register _ s
  · exact (one.registerAll before).verdict_unique (verdict_of_register _ s)

/-- A call that is answered with an id binds its serializer. -/
theorem mem_registerAll {before after : List Serializer} {id : Int32}
    (answered : (r.registerAll (before ++ s :: after)).2[before.length]? = some (.ok (some id))) :
    s.typeId = id ∧ ∃ b ∈ (r.registerAll (before ++ s :: after)).1.bindings, b.serializer = s := by
  rw [answer_registerAll] at answered
  rw [registerAll_append, registerAll_cons]
  cases register : (r.registerAll before).1.register s with
  | repeated => simp [register, Registration.answer] at answered
  | refused => simp [register, Registration.answer] at answered
  | added next =>
    obtain ⟨rfl, -⟩ := register_added register
    obtain ⟨more, kept⟩ :=
      bindings_registerAll { (r.registerAll before).1 with bindings := (r.registerAll before).1.bindings ++ [⟨s, 0, 0⟩] }
        after
    refine ⟨by simpa [register, Registration.answer] using answered, ⟨s, 0, 0⟩, ?_, rfl⟩
    rw [Registration.after, kept]
    simp

/-- A call that adds nothing might as well not have been made: the registry and all other answers
    are the same without it. -/
theorem registerAll_without (r : Registry) (before : List Serializer) (s : Serializer) (after : List Serializer)
    (idle : ∀ id, (r.registerAll (before ++ s :: after)).2[before.length]? ≠ some (.ok (some id))) :
    r.registerAll (before ++ after) =
      ((r.registerAll (before ++ s :: after)).1, (r.registerAll (before ++ s :: after)).2.eraseIdx before.length) := by
  have still : ((r.registerAll before).1.register s).after (r.registerAll before).1 = (r.registerAll before).1 :=
    after_of_idle fun id answered => idle id (by rw [answer_registerAll, answered])
  have erased (xs ys : List (Except Fault (Option Int32))) (y) (length : xs.length = before.length) :
      (xs ++ y :: ys).eraseIdx before.length = xs ++ ys := by
    rw [← length, List.eraseIdx_append_of_length_le le_rfl]
    simp
  rw [registerAll_append, registerAll_append, registerAll_cons, still, erased _ _ _ (by simp)]

/-- A registry before users register anything: with or without the built-in serializers. -/
def initial (builtIns : Bool) : Registry := if builtIns then standard else empty

theorem oneToOne_initial (builtIns : Bool) : (initial builtIns).OneToOne := by
  cases builtIns
  · exact ⟨by decide, by decide⟩
  · exact ⟨by decide, by decide⟩

end Registry

/-! ## Writing and reading -/

/-- Whether a serializer reads a value back from what it writes of it. -/
def Serializer.ReadsBack (s : Serializer) (v : Value) : Prop :=
  ∃ payload, (s.writeChecked v).toExcept = .ok payload ∧ (s.read.run (.ofOctets payload)).1 = .ok v

namespace Registry

variable {r : Registry} {s : Serializer}

/-- What deserializing gives: what the serializer under the id reads, if that is of the type. -/
theorem toObject_fst (r : Registry) (type : ValueType) (d : Data) :
    (r.toObject type d).1 = (r.resolve d.typeId).bind fun s =>
      (s.read.run (.ofOctets d.payload)).1.bind fun v =>
        if s.type == type then .ok v else .error (.wrongType type.name s.type.name) := by
  cases found : r.resolve d.typeId with
  | error fault => simp [toObject, found, Except.bind]
  | ok s =>
    simp only [toObject, readWith, found, Except.bind]
    obtain ⟨result, source⟩ := s.read.run (.ofOctets d.payload)
    cases result <;> rfl

/-- What is written for a value carries the id of the serializer of its type, and no hash. -/
theorem toData_eq_ok_iff {v : Value} (found : r.resolveFor v.type = .ok s) {d : Data} :
    r.toData v = .ok d ↔ ∃ payload, (s.writeChecked v).toExcept = .ok payload ∧ d = .ofParts s.typeId 0 payload := by
  simp only [toData, found, bind, Except.bind]
  cases (s.writeChecked v).toExcept with
  | error => simp
  | ok payload => simp [pure, Except.pure, eq_comm]

theorem byId?_map (r : Registry) (id : Int32) :
    (r.byId? id).map (·.serializer) = r.serializers.find? (·.typeId == id) := by
  rw [serializers, List.find?_map]
  rfl

theorem byType?_map (r : Registry) (type : ValueType) :
    (r.byType? type).map (·.serializer) = r.serializers.find? (·.type == type) := by
  rw [serializers, List.find?_map]
  rfl

@[simp] theorem serializers_countRead (r : Registry) (id : Int32) : (r.countRead id).serializers = r.serializers := by
  simp only [serializers, countRead, List.map_map]
  refine List.map_congr_left fun b _ => ?_
  simp only [Function.comp_apply]
  split <;> rfl

/-- Deserializing changes what has been asked of the serializers, and nothing else. -/
@[simp] theorem serializers_toObject (r : Registry) (type : ValueType) (d : Data) :
    (r.toObject type d).2.serializers = r.serializers := by
  cases found : r.resolve d.typeId with
  | error fault => simp [toObject, found]
  | ok s =>
    simp only [toObject, readWith, found]
    obtain ⟨result, source⟩ := s.read.run (.ofOctets d.payload)
    cases result <;> exact serializers_countRead r d.typeId

section
variable {r' : Registry} (same : r.serializers = r'.serializers)
include same

theorem resolve_eq_of_same (id : Int32) : r.resolve id = r'.resolve id := by
  have bound : (r.byId? id).map (·.serializer) = (r'.byId? id).map (·.serializer) := by
    rw [byId?_map, byId?_map, same]
  unfold resolve
  cases here : r.byId? id <;> cases there : r'.byId? id <;> simp_all

theorem resolveFor_eq_of_same (type : ValueType) : r.resolveFor type = r'.resolveFor type := by
  have bound : (r.byType? type).map (·.serializer) = (r'.byType? type).map (·.serializer) := by
    rw [byType?_map, byType?_map, same]
  unfold resolveFor
  cases here : r.byType? type <;> cases there : r'.byType? type <;> simp_all

/-- Registries of the same serializers read alike. -/
theorem toObject_eq_of_same (type : ValueType) (d : Data) : (r.toObject type d).1 = (r'.toObject type d).1 := by
  simp only [toObject_fst, resolve_eq_of_same same]

/-- Registries of the same serializers write alike. -/
theorem toData_eq_of_same (v : Value) : r.toData v = r'.toData v := by
  simp only [toData, resolveFor_eq_of_same same]

end

/-- What a serializer reads back from its own writing, the registry reads back from its. -/
theorem OneToOne.toObject_toData (one : r.OneToOne) {v : Value} (found : r.resolveFor v.type = .ok s)
    (back : s.ReadsBack v) : ∃ d, r.toData v = .ok d ∧ d.typeId = s.typeId ∧ (r.toObject v.type d).1 = .ok v := by
  obtain ⟨payload, wrote, read⟩ := back
  obtain ⟨type, resolved⟩ := one.resolve_of_resolveFor found
  refine ⟨.ofParts s.typeId 0 payload, (toData_eq_ok_iff found).2 ⟨payload, wrote, rfl⟩, by simp, ?_⟩
  simp [toObject_fst, resolved, read, type, Except.bind]

/-- What was written for one type is refused as any other, once it has been read. -/
theorem OneToOne.toObject_other (one : r.OneToOne) {v : Value} {d : Data} {other : ValueType}
    (found : r.resolveFor v.type = .ok s) (wrote : r.toData v = .ok d)
    (read : ∃ w, (s.read.run (.ofOctets d.payload)).1 = .ok w) (differs : other ≠ v.type) :
    (r.toObject other d).1 = .error (.wrongType other.name v.type.name) := by
  obtain ⟨w, read⟩ := read
  obtain ⟨type, resolved⟩ := one.resolve_of_resolveFor found
  obtain ⟨payload, -, rfl⟩ := (toData_eq_ok_iff found).1 wrote
  have unlike : (v.type == other) = false := beq_false_of_ne differs.symm
  simp_all [toObject_fst, Except.bind]

theorem toObject_unknown (type : ValueType) {d : Data}
    (unbound : ∀ b ∈ r.bindings, b.serializer.typeId ≠ d.typeId) :
    r.toObject type d = (.error (.unknownType d.typeId), r) := by
  have nobody : r.byId? d.typeId = none := by simpa [byId?] using unbound
  simp [toObject, resolve, nobody]

/-! ## A registry that serializers were registered with -/

/-- The bindings of a registry that was `start` before serializers were registered with it, and the
    answers to that. -/
structure Bijective (start : Registry) (calls : List Serializer) (r : Registry)
    (answers : List (Except Fault (Option Int32))) : Prop where
  /-- A call is answered by what is bound before it. -/
  answered : ∀ before s after, calls = before ++ s :: after → ∀ answer,
    answers[before.length]? = some answer ↔ Verdict (start.registerAll before).1.serializers s answer
  /-- A call that was answered with an id has bound its serializer to that. -/
  bound : ∀ before s after id, calls = before ++ s :: after → answers[before.length]? = some (.ok (some id)) →
    r.resolve id = .ok s ∧ r.resolveFor s.type = .ok s
  /-- Without a call that was refused or repeated, the registry and the other answers are the same. -/
  idle : ∀ before s after, calls = before ++ s :: after → (∀ id, answers[before.length]? ≠ some (.ok (some id))) →
    start.registerAll (before ++ after) = (r, answers.eraseIdx before.length)
  /-- Nothing displaces what was bound before. -/
  kept : ∀ b ∈ start.bindings, r.byId? b.serializer.typeId = some b ∧ r.byType? b.serializer.type = some b
  /-- An id leads to a serializer that has it, which is found again for its type. -/
  ofId : ∀ id s, r.resolve id = .ok s → s.typeId = id ∧ r.resolveFor s.type = .ok s
  /-- A type leads to a serializer of it, which is found again under its id. -/
  ofType : ∀ type s, r.resolveFor type = .ok s → s.type = type ∧ r.resolve s.typeId = .ok s
  /-- No two ids share a type. -/
  types : ∀ id id' s s', r.resolve id = .ok s → r.resolve id' = .ok s' → s.type = s'.type → id = id'
  /-- What is found for a type does not hang on the order in which a table of types is filled. -/
  unordered : ∀ order, order.Perm r.bindings → ∀ type, lastFor order type = r.byType? type
  /-- A value that the serializer of its type reads back comes back. -/
  back : ∀ v s, r.resolveFor v.type = .ok s → s.ReadsBack v →
    ∃ d, r.toData v = .ok d ∧ d.typeId = s.typeId ∧ (r.toObject v.type d).1 = .ok v
  /-- An id that nobody has is refused, and nobody is asked to read. -/
  unknown : ∀ type d, (∀ b ∈ r.bindings, b.serializer.typeId ≠ d.typeId) →
    r.toObject type d = (.error (.unknownType d.typeId), r)
  /-- What was written for a type, and can be read, is refused as any other type. -/
  other : ∀ v s d type, r.resolveFor v.type = .ok s → r.toData v = .ok d →
    (∃ w, (s.read.run (.ofOctets d.payload)).1 = .ok w) → type ≠ v.type →
      (r.toObject type d).1 = .error (.wrongType type.name v.type.name)

/-- Whatever is registered, with or without the built-in serializers to begin with, types and ids
    are bound one to one. -/
theorem bijective_registerAll (builtIns : Bool) (calls : List Serializer) :
    Bijective (initial builtIns) calls ((initial builtIns).registerAll calls).1
      ((initial builtIns).registerAll calls).2 := by
  have one := (oneToOne_initial builtIns).registerAll calls
  refine { answered := ?_, bound := ?_, idle := ?_, kept := ?_, ofId := fun _ _ => one.resolveFor_of_resolve,
           ofType := fun _ _ => one.resolve_of_resolveFor, types := ?_,
           unordered := fun _ => one.lastFor_of_perm, back := fun _ _ => one.toObject_toData,
           unknown := fun type _ => toObject_unknown type,
           other := fun _ _ _ _ => one.toObject_other }
  · rintro before s after rfl answer
    exact (oneToOne_initial builtIns).answered_iff before s after
  · rintro before s after id rfl answered
    obtain ⟨rfl, b, mem, rfl⟩ := mem_registerAll answered
    exact ⟨resolve_eq_ok_iff.2 ⟨b, one.byId?_eq_some_iff.2 ⟨mem, rfl⟩, rfl⟩,
      resolveFor_eq_ok_iff.2 ⟨b, one.byType?_eq_some_iff.2 ⟨mem, rfl⟩, rfl⟩⟩
  · rintro before s after rfl idle
    exact registerAll_without _ before s after idle
  · intro b mem
    obtain ⟨more, bindings⟩ := bindings_registerAll (initial builtIns) calls
    have still : b ∈ ((initial builtIns).registerAll calls).1.bindings := by
      rw [bindings]
      exact List.mem_append_left _ mem
    exact ⟨one.byId?_eq_some_iff.2 ⟨still, rfl⟩, one.byType?_eq_some_iff.2 ⟨still, rfl⟩⟩
  · intro id id' s s' found found' same
    obtain ⟨rfl, here⟩ := one.resolveFor_of_resolve found
    obtain ⟨rfl, there⟩ := one.resolveFor_of_resolve found'
    rw [same, there] at here
    rw [Except.ok.injEq] at here
    rw [here]

/-- A serializer of points under the id 1, the same again, and three that cannot be had: with an id that is not a
    user's, with the id of the points, and of a type that is built in. -/
def pointCalls : List Serializer :=
  [.ofRecord 1 "Point" "points" [.int, .int], .ofRecord 1 "Point" "points" [.int, .int],
    .ofRecord 0 "Circle" "circles" [.double], .ofRecord 1 "Circle" "circles" [.double],
    { Serializer.ofPrimitive .text with typeId := 2, identity := "texts" }]

/-- What is answered to these. -/
def pointAnswers : List (Except Fault (Option Int32)) :=
  [.ok (some 1), .ok none, .error (.config (.reservedTypeId 0)), .error (.duplicateType 1),
    .error (.config (.boundType "alloc::string::String" (-11)))]

theorem points_are_bound_once :
    ((initial true).registerAll pointCalls).2 = pointAnswers ∧ ((initial true).registerAll pointCalls).1.size = 11 ∧
      Bijective (initial true) pointCalls ((initial true).registerAll pointCalls).1 pointAnswers := by
  have answered : ((initial true).registerAll pointCalls).2 = pointAnswers := by decide +kernel
  exact ⟨answered, by decide +kernel, answered ▸ bijective_registerAll true pointCalls⟩

end Registry
end Datagrid
