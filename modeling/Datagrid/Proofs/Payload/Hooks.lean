import Datagrid.Proofs.Payload.Registry

/-!
# Shutdown hooks

A registry shuts each of its serializers down once, at the first request to do so or in the end, when it
is given up. What was refused or was there already is in no registry, so that its hook never runs. A
registry that has been shut down still finds, writes and reads as before.
-/
namespace Datagrid.Registry

/-! ## What is asked of a registry -/

/-- What is asked of a registry that serializers have been registered with. -/
inductive Use where
  | resolve (id : Int32)
  | resolveFor (type : ValueType)
  | write (v : Value)
  | readAs (type : ValueType) (d : Data)
  /-- The serializer under an id is to read. -/
  | readWith (id : Int32) (source : Source)
  | size
  | destroy

inductive Answer where
  | serializer (found : Except Fault Serializer)
  | data (written : Except Fault Data)
  | value (read : Except Fault Value)
  | valueAt (read : Except Fault Value) (left : Source)
  | size (n : Nat)

/-- What is answered, if anything is. -/
def answer? (r : Registry) : Use → Option Answer
  | .resolve id => some (.serializer (r.resolve id))
  | .resolveFor type => some (.serializer (r.resolveFor type))
  | .write v => some (.data (r.toData v))
  | .readAs type d => some (.value (r.toObject type d).1)
  | .readWith id source => some (.valueAt (r.readWith id source).1 (r.readWith id source).2.1)
  | .size => some (.size r.size)
  | .destroy => none

/-- What becomes of a registry that is asked for something. -/
def next (r : Registry) : Use → Registry
  | .readAs type d => (r.toObject type d).2
  | .readWith id source => (r.readWith id source).2.2
  | .destroy => r.destroy
  | _ => r

def used (r : Registry) : List Use → Registry
  | [] => r
  | u :: rest => (r.next u).used rest

def answers (r : Registry) : List Use → List Answer
  | [] => []
  | u :: rest => (r.answer? u).toList ++ (r.next u).answers rest

def Use.isDestroy : Use → Bool
  | .destroy => true
  | _ => false

/-- A registry that is given up is shut down, unless it has been. -/
def givenUp (r : Registry) : Registry := r.destroy

/-! ### What a single request does -/

variable {r r' : Registry}

theorem readWith_same_or_counted (r : Registry) (id : Int32) (source : Source) :
    (r.readWith id source).2.2 = r ∨ (r.readWith id source).2.2 = r.countRead id := by
  unfold readWith
  cases r.resolve id with
  | error => exact .inl rfl
  | ok s => exact .inr rfl

theorem toObject_same_or_counted (r : Registry) (type : ValueType) (d : Data) :
    (r.toObject type d).2 = r ∨ (r.toObject type d).2 = r.countRead d.typeId := by
  cases found : r.resolve d.typeId with
  | error => exact .inl (by simp [toObject, found])
  | ok s =>
    right
    simp only [toObject, readWith, found]
    obtain ⟨result, source⟩ := s.read.run (.ofOctets d.payload)
    cases result <;> rfl

/-- A registry is shut down on request only. Whatever else it is asked, it at most counts a reading. -/
theorem next_cases (r : Registry) (u : Use) :
    (u = .destroy ∧ r.next u = r.destroy) ∨
      (u ≠ .destroy ∧ (r.next u = r ∨ ∃ id, r.next u = r.countRead id)) := by
  cases u with
  | destroy => exact .inl ⟨rfl, rfl⟩
  | readAs type d => exact .inr ⟨by simp, (r.toObject_same_or_counted type d).imp_right fun read => ⟨_, read⟩⟩
  | readWith id source => exact .inr ⟨by simp, (r.readWith_same_or_counted id source).imp_right fun read => ⟨_, read⟩⟩
  | resolve | resolveFor | write | size => exact .inr ⟨by simp, .inl rfl⟩

/-! ### Which serializers there are -/

@[simp] theorem serializers_destroy (r : Registry) : r.destroy.serializers = r.serializers := by
  unfold destroy
  split
  · rfl
  · simp [serializers]

@[simp] theorem serializers_next (r : Registry) (u : Use) : (r.next u).serializers = r.serializers := by
  obtain ⟨-, down⟩ | ⟨-, same | ⟨id, read⟩⟩ := r.next_cases u
  · rw [down, serializers_destroy]
  · rw [same]
  · rw [read, serializers_countRead]

@[simp] theorem serializers_used (r : Registry) (uses : List Use) : (r.used uses).serializers = r.serializers := by
  induction uses generalizing r with
  | nil => rfl
  | cons u rest ih => rw [used, ih, serializers_next]

theorem size_eq_of_same (same : r.serializers = r'.serializers) : r.size = r'.size := by
  simpa [serializers, size] using congrArg List.length same

/-- Registries of the same serializers answer alike. -/
theorem answer?_eq_of_same (same : r.serializers = r'.serializers) (u : Use) : r.answer? u = r'.answer? u := by
  cases u with
  | resolve id => simp only [answer?, resolve_eq_of_same same]
  | resolveFor type => simp only [answer?, resolveFor_eq_of_same same]
  | write v => simp only [answer?, toData_eq_of_same same]
  | readAs type d => simp only [answer?, toObject_eq_of_same same]
  | readWith id source =>
    simp only [answer?, readWith, resolve_eq_of_same same]
    cases r'.resolve id <;> rfl
  | size => simp only [answer?, size_eq_of_same same]
  | destroy => rfl

theorem answers_eq_of_same (same : r.serializers = r'.serializers) (uses : List Use) :
    r.answers uses = r'.answers uses := by
  induction uses generalizing r r' with
  | nil => rfl
  | cons u rest ih =>
    have later : (r.next u).answers rest = (r'.next u).answers rest := ih (by simpa using same)
    rw [answers, answers, answer?_eq_of_same same, later]

/-- Requests to shut down change no other answer. -/
theorem answers_without_destroy (r : Registry) (uses : List Use) :
    r.answers uses = r.answers (uses.filter (!·.isDestroy)) := by
  induction uses generalizing r with
  | nil => rfl
  | cons u rest ih =>
    cases kind : u.isDestroy with
    | true =>
      obtain rfl : u = .destroy := by cases u <;> simp_all [Use.isDestroy]
      rw [List.filter_cons_of_neg (by simp [kind]), ← ih, answers]
      exact answers_eq_of_same (serializers_destroy r) rest
    | false => rw [List.filter_cons_of_pos (by simp [kind]), answers, answers, ih]

/-! ### How often each has been shut down -/

/-- Every serializer has been shut down once if the registry has, and not at all otherwise. -/
def InStep (r : Registry) : Prop := ∀ b ∈ r.bindings, b.shutdowns = r.isDestroyed.toNat

theorem inStep_destroy (inStep : r.InStep) : r.destroy.InStep := by
  unfold destroy
  split
  · exact inStep
  · rename_i standing
    intro b mem
    obtain ⟨before, bound, rfl⟩ := List.mem_map.1 mem
    simp [inStep before bound, standing]

theorem inStep_countRead (inStep : r.InStep) (id : Int32) : (r.countRead id).InStep := by
  intro b mem
  obtain ⟨before, bound, rfl⟩ := List.mem_map.1 mem
  refine Eq.trans ?_ (inStep before bound)
  split <;> rfl

@[simp] theorem isDestroyed_destroy (r : Registry) : r.destroy.isDestroyed = true := by
  unfold destroy
  split <;> simp_all

theorem inStep_next (inStep : r.InStep) (u : Use) : (r.next u).InStep := by
  obtain ⟨-, down⟩ | ⟨-, same | ⟨id, read⟩⟩ := r.next_cases u
  · rw [down]
    exact inStep_destroy inStep
  · rwa [same]
  · rw [read]
    exact inStep_countRead inStep id

theorem inStep_used (inStep : r.InStep) (uses : List Use) : (r.used uses).InStep := by
  induction uses generalizing r with
  | nil => exact inStep
  | cons u rest ih => exact ih (inStep_next inStep u)

/-- A registry has been shut down if it had been before or was asked to. -/
theorem isDestroyed_next (r : Registry) (u : Use) :
    (r.next u).isDestroyed = true ↔ r.isDestroyed = true ∨ u = .destroy := by
  obtain ⟨asked, down⟩ | ⟨other, same | ⟨id, read⟩⟩ := r.next_cases u
  · rw [down]
    simp [asked]
  · simp [same, other]
  · simp [read, other, countRead]

theorem isDestroyed_used (r : Registry) (uses : List Use) :
    (r.used uses).isDestroyed = true ↔ r.isDestroyed = true ∨ .destroy ∈ uses := by
  induction uses generalizing r with
  | nil => simp [used]
  | cons u rest ih => rw [used, ih, isDestroyed_next, List.mem_cons, or_assoc, eq_comm (a := u)]

/-! ### Whose hooks run -/

theorem inStep_initial (builtIns : Bool) : (initial builtIns).InStep := by
  cases builtIns
  · simp [InStep, initial, empty]
  · simp [InStep, initial, standard]

theorem isDestroyed_initial (builtIns : Bool) : (initial builtIns).isDestroyed = false := by
  cases builtIns <;> rfl

/-- Whether a call was answered with the id that its serializer is added under. -/
def isAdded : Except Fault (Option Int32) → Bool
  | .ok (some _) => true
  | _ => false

/-- The places of the calls that added their serializers. -/
def added (answers : List (Except Fault (Option Int32))) : List Nat := answers.findIdxs isAdded

variable {answers : List (Except Fault (Option Int32))} {call : Nat}

theorem mem_added : call ∈ added answers ↔ ∃ id, answers[call]? = some (.ok (some id)) := by
  rw [added, List.mem_findIdxs_iff_exists_getElem_pos]
  constructor
  · rintro ⟨there, isAdded⟩
    cases answer : answers[call] with
    | error => simp [answer, Registry.isAdded] at isAdded
    | ok id =>
      cases id with
      | none => simp [answer, Registry.isAdded] at isAdded
      | some id => exact ⟨id, by rw [List.getElem?_eq_getElem there, answer]⟩
  · rintro ⟨id, answer⟩
    obtain ⟨there, answer⟩ := List.getElem?_eq_some_iff.1 answer
    exact ⟨there, by rw [answer]; rfl⟩

/-- Registering binds, behind what is bound, the serializers of the calls that are answered with an id, and has
    shut none of them down. -/
theorem registerAll_binds (r : Registry) (calls : List Serializer) :
    ∃ fresh, (r.registerAll calls).1 = { r with bindings := r.bindings ++ fresh } ∧ (∀ b ∈ fresh, b.shutdowns = 0) ∧
      (added (r.registerAll calls).2).map (calls[·]?) = fresh.map (some ·.serializer) := by
  induction calls generalizing r with
  | nil => exact ⟨[], by simp [registerAll], by simp, rfl⟩
  | cons s calls ih =>
    obtain ⟨fresh, later, unrun, owners⟩ := ih ((r.register s).after r)
    -- The later answers are counted from 1 here, and from 0 in `ih`.
    have shifted : (List.findIdxs isAdded (((r.register s).after r).registerAll calls).2 1).map ((s :: calls)[·]?) =
        fresh.map (some ·.serializer) := by
      rw [List.findIdxs_start, List.map_map]
      exact owners
    rw [registerAll_cons, added, List.findIdxs_cons]
    cases register : r.register s with
    | added next =>
      obtain ⟨rfl, -⟩ := register_added register
      rw [register] at later shifted
      refine ⟨⟨s, 0, 0⟩ :: fresh, ?_, ?_, ?_⟩
      · simpa [Registration.after] using later
      · simpa using unrun
      · simpa [Registration.answer, isAdded] using shifted
    | repeated =>
      rw [register] at later shifted
      exact ⟨fresh, later, unrun, shifted⟩
    | refused fault =>
      rw [register] at later shifted
      exact ⟨fresh, later, unrun, shifted⟩

theorem serializers_registerAll (r : Registry) (calls : List Serializer) :
    (r.registerAll calls).1.serializers =
      r.serializers ++ (added (r.registerAll calls).2).filterMap (calls[·]?) := by
  obtain ⟨fresh, bound, -, owners⟩ := r.registerAll_binds calls
  have brought : (added (r.registerAll calls).2).filterMap (calls[·]?) = fresh.map (·.serializer) := by
    simpa [List.filterMap_map, Function.comp_def] using congrArg (List.filterMap id) owners
  rw [bound, brought]
  simp [serializers]

theorem size_registerAll (r : Registry) (calls : List Serializer) :
    (r.registerAll calls).1.size = r.size + (added (r.registerAll calls).2).length := by
  obtain ⟨fresh, bound, -, owners⟩ := r.registerAll_binds calls
  have many : (added (r.registerAll calls).2).length = fresh.length := by simpa using congrArg List.length owners
  rw [bound, many]
  simp [size]

theorem isDestroyed_registerAll (r : Registry) (calls : List Serializer) :
    (r.registerAll calls).1.isDestroyed = r.isDestroyed := by
  obtain ⟨fresh, bound, -⟩ := r.registerAll_binds calls
  rw [bound]

theorem inStep_registerAll (inStep : r.InStep) (standing : r.isDestroyed = false) (calls : List Serializer) :
    (r.registerAll calls).1.InStep := by
  obtain ⟨fresh, bound, unrun, -⟩ := r.registerAll_binds calls
  rw [bound]
  intro b mem
  rcases List.mem_append.1 mem with old | new
  · exact inStep b old
  · simp [unrun b new, standing]

/-- How often the hook of the serializer that a call has brought has run, in a registry that held so many before
    the calls. -/
def hookRuns (before : Nat) (answers : List (Except Fault (Option Int32))) (r : Registry) (call : Nat) : Nat :=
  (List.zipWith (fun owner b => if owner = call then b.shutdowns else 0) (added answers) (r.bindings.drop before)).sum

/-- Where all have been shut down as often, so has what a call has brought, if it has brought anything. -/
private theorem sum_shutdowns {times : Nat} {owners : List Nat} {bindings : List Binding}
    (length : bindings.length = owners.length) (alike : ∀ b ∈ bindings, b.shutdowns = times) (call : Nat) :
    (List.zipWith (fun owner b => if owner = call then b.shutdowns else 0) owners bindings).sum =
      owners.count call * times := by
  induction owners generalizing bindings with
  | nil => simp
  | cons owner owners ih =>
    obtain ⟨b, bindings, rfl⟩ := List.exists_cons_of_length_eq_add_one length
    have rest := ih (by simpa using length) fun b mem => alike b (List.mem_cons_of_mem _ mem)
    rw [List.zipWith_cons_cons, List.sum_cons, rest, alike b List.mem_cons_self, List.count_cons]
    by_cases here : owner = call
    · simp [here, Nat.add_mul, Nat.add_comm]
    · simp [here]

theorem hookRuns_eq {before times : Nat} (length : r.size = before + (added answers).length)
    (alike : ∀ b ∈ r.bindings, b.shutdowns = times) (call : Nat) :
    hookRuns before answers r call = (added answers).count call * times :=
  sum_shutdowns (by rw [List.length_drop, ← size, length, Nat.add_sub_cancel_left])
    (fun b mem => alike b (List.mem_of_mem_drop mem)) call

/-- What becomes of the serializers of a registry that was `start` before the calls to register, and is then
    put to use. -/
structure HooksRunOnce (start : Registry) (calls : List Serializer) (uses : List Use) (r : Registry)
    (answers : List (Except Fault (Option Int32))) : Prop where
  /-- A call is answered by what is bound before it. -/
  answered : ∀ before s after, calls = before ++ s :: after → ∀ answer,
    answers[before.length]? = some answer ↔ Verdict (start.registerAll before).1.serializers s answer
  /-- It holds what it held before the calls and, behind that, what the calls that were answered with an id brought. -/
  held : (r.used uses).serializers = start.serializers ++ (added answers).filterMap (calls[·]?)
  /-- No hook runs before the first request to shut down. -/
  silent : .destroy ∉ uses → ∀ b ∈ (r.used uses).bindings, b.shutdowns = 0
  /-- From then on every hook has run once. -/
  run : .destroy ∈ uses → ∀ b ∈ (r.used uses).bindings, b.shutdowns = 1
  /-- In the end every hook has run once, asked for or not. -/
  ended : ∀ b ∈ (r.used uses).givenUp.bindings, b.shutdowns = 1
  /-- So has that of each call that was answered with an id. -/
  once : ∀ call id, answers[call]? = some (.ok (some id)) → hookRuns start.size answers (r.used uses).givenUp call = 1
  /-- What was refused, or was there already, is never shut down, -/
  never : ∀ call, (∀ id, answers[call]? ≠ some (.ok (some id))) →
    hookRuns start.size answers (r.used uses) call = 0 ∧ hookRuns start.size answers (r.used uses).givenUp call = 0
  /-- for the registry would be the same without that call. -/
  absent : ∀ before s after, calls = before ++ s :: after → (∀ id, answers[before.length]? ≠ some (.ok (some id))) →
    (start.registerAll (before ++ after)).1 = r
  /-- In all, one hook runs for each serializer that was there before and for each that was brought. -/
  total : ((r.used uses).givenUp.bindings.map (·.shutdowns)).sum = start.size + (added answers).length
  /-- As many serializers are there, and they are found, as if nobody had asked to shut down. -/
  size : (r.used uses).size = r.size
  resolve : ∀ id, (r.used uses).resolve id = r.resolve id
  resolveFor : ∀ type, (r.used uses).resolveFor type = r.resolveFor type
  /-- All else is answered as if nobody had asked to shut down. -/
  undisturbed : r.answers uses = r.answers (uses.filter (!·.isDestroy))

/-- Whatever is registered, with or without the built-in serializers to begin with, and whatever is asked then, each
    hook runs once. -/
theorem hooks_run_once (builtIns : Bool) (calls : List Serializer) (uses : List Use) :
    HooksRunOnce (initial builtIns) calls uses ((initial builtIns).registerAll calls).1
      ((initial builtIns).registerAll calls).2 := by
  set r := ((initial builtIns).registerAll calls).1
  set answers := ((initial builtIns).registerAll calls).2
  have same : (r.used uses).serializers = r.serializers := serializers_used r uses
  have sameEnd : (r.used uses).givenUp.serializers = r.serializers := (serializers_destroy _).trans same
  have many : r.size = (initial builtIns).size + (added answers).length := size_registerAll _ calls
  have manyEnd : (r.used uses).givenUp.size = (initial builtIns).size + (added answers).length :=
    (size_eq_of_same sameEnd).trans many
  have standing : r.isDestroyed = false := (isDestroyed_registerAll _ calls).trans (isDestroyed_initial builtIns)
  have inStep : (r.used uses).InStep :=
    inStep_used (inStep_registerAll (inStep_initial builtIns) (isDestroyed_initial builtIns) calls) uses
  have asked : (r.used uses).isDestroyed = true ↔ .destroy ∈ uses := by simp [isDestroyed_used, standing]
  have ended : ∀ b ∈ (r.used uses).givenUp.bindings, b.shutdowns = 1 := by
    intro b mem
    rw [givenUp] at mem
    rw [inStep_destroy inStep b mem, isDestroyed_destroy, Bool.toNat_true]
  have runs (call : Nat) : hookRuns (initial builtIns).size answers (r.used uses).givenUp call =
      (added answers).count call := by
    rw [hookRuns_eq manyEnd ended, Nat.mul_one]
  refine { answered := ?_, held := ?_, silent := ?_, run := ?_, ended, once := ?_, never := ?_, absent := ?_, total := ?_,
           size := size_eq_of_same same, resolve := resolve_eq_of_same same,
           resolveFor := resolveFor_eq_of_same same, undisturbed := answers_without_destroy r uses }
  · rintro before s after rfl answer
    exact (oneToOne_initial builtIns).answered_iff before s after
  · rw [same]
    exact serializers_registerAll _ calls
  · intro unasked b mem
    rw [inStep b mem, Bool.eq_false_iff.2 (mt asked.1 unasked), Bool.toNat_false]
  · intro requested b mem
    rw [inStep b mem, asked.2 requested, Bool.toNat_true]
  · intro call id answer
    rw [runs]
    exact List.count_eq_one_of_mem List.nodup_findIdxs (mem_added.2 ⟨id, answer⟩)
  · intro call idle
    have nobody : (added answers).count call = 0 := List.count_eq_zero.2 (by simpa [mem_added] using idle)
    exact ⟨by rw [hookRuns_eq ((size_eq_of_same same).trans many) inStep, nobody, Nat.zero_mul], by rw [runs, nobody]⟩
  · rintro before s after rfl idle
    rw [registerAll_without _ before s after idle]
  · rw [List.map_congr_left ended, ← manyEnd]
    simp [Registry.size]

/-- Of what was registered, the serializer that was added is shut down, though that is asked for twice. -/
theorem points_are_shut_down_once :
    let r := ((initial true).registerAll pointCalls).1
    let uses : List Use := [.resolve 1, .destroy, .size, .destroy]
    ((initial true).registerAll pointCalls).2 = pointAnswers ∧
      (List.range 5).map (hookRuns 10 pointAnswers r) = [0, 0, 0, 0, 0] ∧
      (List.range 5).map (hookRuns 10 pointAnswers (r.used uses)) = [1, 0, 0, 0, 0] ∧
      (List.range 5).map (hookRuns 10 pointAnswers (r.used uses).givenUp) = [1, 0, 0, 0, 0] ∧
      HooksRunOnce (initial true) pointCalls uses r pointAnswers := by
  intro r uses
  have answered : ((initial true).registerAll pointCalls).2 = pointAnswers := by decide +kernel
  exact ⟨answered, by decide +kernel, by decide +kernel, by decide +kernel, answered ▸ hooks_run_once true pointCalls uses⟩

end Datagrid.Registry
