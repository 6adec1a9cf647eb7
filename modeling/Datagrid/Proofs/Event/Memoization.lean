import Datagrid.Proofs.Event.Arrival
import Datagrid.Proofs.Subscription.History

/-!
# Memoization: a part of an entry that could be read is not read again

Handlers ask for parts of an event, while a member reports its version and others read through the
same gate. A part that is not there is none. A part that could be read stays what it was read as, and
no serializer is asked for it again. Until then each time that it is asked for one serializer is asked
at most, and a reading that fails leaves the part as it was.
-/
namespace Datagrid

/-! ## Asking a serializer -/

namespace Registry

variable {r r' : Registry}

/-- How often the serializers of a registry have been asked to read. -/
def reads (r : Registry) : Nat := (r.bindings.map (·.reads)).sum

theorem OneToOne.of_same (one : r.OneToOne) (same : r'.serializers = r.serializers) : r'.OneToOne := by
  have keys {κ : Type} (key : Serializer → κ) :
      r'.bindings.map (fun b => key b.serializer) = r.bindings.map (fun b => key b.serializer) := by
    have mapped := congrArg (List.map key) same
    rwa [serializers, serializers, List.map_map, List.map_map] at mapped
  exact ⟨keys (·.typeId) ▸ one.ids, keys (·.type) ▸ one.types⟩

theorem reads_countRead (r : Registry) (id : Int32) :
    (r.countRead id).reads = r.reads + r.bindings.countP (·.serializer.typeId == id) := by
  simp only [reads, countRead]
  induction r.bindings with
  | nil => rfl
  | cons b bindings ih =>
    simp only [List.map_cons, List.sum_cons, List.countP_cons, ih]
    split
    · dsimp only
      omega
    · omega

/-- Where no two serializers share an id, one is asked at most. -/
theorem OneToOne.reads_countRead_le (one : r.OneToOne) (id : Int32) : (r.countRead id).reads ≤ r.reads + 1 := by
  have once : (r.bindings.map (·.serializer.typeId)).count id ≤ 1 := List.nodup_iff_count_le_one.1 one.ids id
  rw [List.count, List.countP_map] at once
  rw [reads_countRead]
  exact Nat.add_le_add_left once _

end Registry

namespace Gate

variable {g g' : Gate} {type : ValueType} {d : Data} {result : Except Fault Value}

/-- The gate after its serializer under an id has been asked to read. -/
def asked (g : Gate) (id : Int32) : Gate := { g with registry := g.registry.countRead id }

/-- What can come of deserializing a value, and of the gate. -/
inductive Decodes (g : Gate) (type : ValueType) (d : Data) : Except Fault Value → Gate → Prop
  | closed : g.version = none → Decodes g type d (.error (.protocol .notNegotiated)) g
  | unknown : g.version ≠ none → g.registry.resolve d.typeId = .error (.unknownType d.typeId) →
      Decodes g type d (.error (.unknownType d.typeId)) g
  | unreadable (s : Serializer) (fault : Fault) : g.version ≠ none → g.registry.resolve d.typeId = .ok s →
      (s.read.run (.ofOctets d.payload)).1 = .error fault → Decodes g type d (.error fault) (g.asked d.typeId)
  | mistyped (s : Serializer) (v : Value) : g.version ≠ none → g.registry.resolve d.typeId = .ok s →
      (s.read.run (.ofOctets d.payload)).1 = .ok v → s.type ≠ type →
      Decodes g type d (.error (.wrongType type.name s.type.name)) (g.asked d.typeId)
  | read (s : Serializer) (v : Value) : g.version ≠ none → g.registry.resolve d.typeId = .ok s →
      (s.read.run (.ofOctets d.payload)).1 = .ok v → s.type = type → Decodes g type d (.ok v) (g.asked d.typeId)

theorem decodes (g : Gate) (type : ValueType) (d : Data) :
    g.Decodes type d (g.toObject type d).1 (g.toObject type d).2 := by
  cases version : g.version with
  | none =>
    rw [toObject_of_closed version]
    exact .closed version
  | some n =>
    have opened : g.version ≠ none := by simp [version]
    rw [toObject_of_open version]
    cases found : g.registry.resolve d.typeId with
    | error fault =>
      have unknown : fault = .unknownType d.typeId := by
        unfold Registry.resolve at found
        split at found <;> simp_all
      subst unknown
      simp only [Registry.toObject, found]
      exact .unknown opened found
    | ok s =>
      rcases run : s.read.run (.ofOctets d.payload) with ⟨fault | v, rest⟩
      · simp only [Registry.toObject, Registry.readWith, found, run]
        exact .unreadable s fault opened found (by rw [run])
      · simp only [Registry.toObject, Registry.readWith, found, run]
        by_cases same : s.type = type
        · rw [if_pos (by simpa using same)]
          exact .read s v opened found (by rw [run]) same
        · rw [if_neg (by simpa using same)]
          exact .mistyped s v opened found (by rw [run]) same

/-- Deserializing asks one serializer at most. -/
theorem Decodes.reads_le (decodes : g.Decodes type d result g') (one : g.registry.OneToOne) :
    g'.registry.reads ≤ g.registry.reads + 1 := by
  cases decodes with
  | closed | unknown => exact Nat.le_succ _
  | unreadable | mistyped | read => exact one.reads_countRead_le d.typeId

end Gate

namespace Lazy

variable {l l' : Lazy} {g g' : Gate} {answer : Except Fault (Option Value)}

/-- What can come of asking for a value: the answer, and what becomes of the value and of the gate. -/
inductive Asks (l : Lazy) (g : Gate) : Except Fault (Option Value) → Lazy → Gate → Prop
  | absent : l.raw = none → Asks l g (.ok none) l g
  | known (d : Data) (v : Value) : l.raw = some d → l.known = some v → Asks l g (.ok (some v)) l g
  | failed (d : Data) (fault : Fault) (g' : Gate) : l.raw = some d → l.known = none →
      g.Decodes l.type d (.error fault) g' → Asks l g (.error fault) l g'
  | read (d : Data) (v : Value) (g' : Gate) : l.raw = some d → l.known = none →
      g.Decodes l.type d (.ok v) g' → Asks l g (.ok (some v)) { l with known := some v } g'

theorem asks (l : Lazy) (g : Gate) : l.Asks g (l.get g).1 (l.get g).2.1 (l.get g).2.2 := by
  obtain ⟨type, raw, known⟩ := l
  cases raw with
  | none => exact .absent rfl
  | some d =>
    cases known with
    | some v => exact .known d v rfl rfl
    | none =>
      have decodes := g.decodes type d
      rcases decoded : g.toObject type d with ⟨fault | v, g'⟩
      all_goals
        rw [decoded] at decodes
        simp only [get, decoded]
      · exact .failed d fault g' rfl rfl decodes
      · exact .read d v g' rfl rfl decodes

/-- A value comes to be known by being given as the answer, and stays known. -/
theorem Asks.known_iff (asks : l.Asks g answer l' g') {v : Value} :
    l'.known = some v ↔ l.known = some v ∨ answer = .ok (some v) := by
  cases asks with
  | absent | failed => simp
  | known d w _ known => simp [known]
  | read d w g' _ known => simp [known]

theorem Asks.raw_eq (asks : l.Asks g answer l' g') : l'.raw = l.raw := by
  cases asks <;> rfl

theorem Asks.reads_le (asks : l.Asks g answer l' g') (one : g.registry.OneToOne) :
    g'.registry.reads ≤ g.registry.reads + 1 := by
  cases asks with
  | absent | known => exact Nat.le_succ _
  | failed d fault g' _ _ decodes => exact decodes.reads_le one
  | read d v g' _ _ decodes => exact decodes.reads_le one

theorem Asks.of_absent (asks : l.Asks g answer l' g') (raw : l.raw = none) : answer = .ok none ∧ l' = l ∧ g' = g := by
  cases asks with
  | absent => exact ⟨rfl, rfl, rfl⟩
  | known d v present | failed d fault g' present | read d v g' present => simp [raw] at present

theorem Asks.of_known (asks : l.Asks g answer l' g') {d : Data} {v : Value} (raw : l.raw = some d)
    (known : l.known = some v) : answer = .ok (some v) ∧ l' = l ∧ g' = g := by
  cases asks with
  | absent none => simp [raw] at none
  | known d' w _ known' =>
    obtain rfl : v = w := Option.some.inj (known.symm.trans known')
    exact ⟨rfl, rfl, rfl⟩
  | failed d fault g' _ unknown | read d w g' _ unknown => simp [known] at unknown

/-- Whoever asks for a value that is there and not known is told what can be read of it now. -/
theorem Asks.of_unknown (asks : l.Asks g answer l' g') {d : Data} (raw : l.raw = some d) (unknown : l.known = none) :
    ∃ result, g.Decodes l.type d result g' ∧ answer = result.map some := by
  cases asks with
  | absent none => cases raw.symm.trans none
  | known d' v _ known => cases unknown.symm.trans known
  | failed d' fault g' raw' _ decodes =>
    obtain rfl := Option.some.inj (raw.symm.trans raw')
    exact ⟨_, decodes, rfl⟩
  | read d' v g' raw' _ decodes =>
    obtain rfl := Option.some.inj (raw.symm.trans raw')
    exact ⟨_, decodes, rfl⟩

theorem Asks.ne_none (asks : l.Asks g answer l' g') (present : l.raw ≠ none) : answer ≠ .ok none := by
  cases asks with
  | absent none => exact absurd none present
  | known | failed | read => simp

/-- A value that is told was known, or is read now. -/
theorem Asks.of_told {v : Value} (asks : l.Asks g answer l' g') (told : answer = .ok (some v)) :
    l.known = some v ∨ ∃ d, l.raw = some d ∧ l.known = none ∧ g.Decodes l.type d (.ok v) g' := by
  cases asks with
  | absent | failed => cases told
  | known d w _ known =>
    cases told
    exact .inl known
  | read d w g' raw unknown decodes =>
    cases told
    exact .inr ⟨d, raw, unknown, decodes⟩

theorem Asks.of_failed {fault : Fault} (asks : l.Asks g answer l' g') (told : answer = .error fault) :
    ∃ d, l.raw = some d ∧ l.known = none ∧ g.Decodes l.type d (.error fault) g' ∧ l' = l := by
  cases asks with
  | failed d fault' g' raw unknown decodes =>
    obtain rfl := Except.error.inj told
    exact ⟨d, raw, unknown, decodes, rfl⟩
  | absent | known | read => cases told

end Lazy

/-! ## Handlers that read -/

theorem EntryEvent.set_get (e : EntryEvent) (field : EntryField) : e.set (e.get field) field = e := by
  cases field <;> rfl

/-- An event whose parts are read, and the gate that they are read through. -/
structure Viewing where
  event : EntryEvent
  gate : Gate

namespace Viewing

/-- What happens while handlers look at an event: one of them asks for a part, a member reports its version, or
    a value of another event is read. -/
inductive Move where
  | read (field : EntryField)
  | report (version : UInt8)
  | decode (type : ValueType) (d : Data)

def step (v : Viewing) : Move → Viewing
  | .read field =>
    let (_, event, gate) := v.event.read field v.gate
    ⟨event, gate⟩
  | .report version => { v with gate := (v.gate.report version).2 }
  | .decode type d => { v with gate := (v.gate.toObject type d).2 }

/-- What a handler is told that asks for a part now. -/
def answer (v : Viewing) (field : EntryField) : Except Fault (Option Value) := (v.event.read field v.gate).1

abbrev History (start : Viewing) (past : List (Step Viewing Move)) (now : Viewing) : Prop :=
  Past (fun v move => some (step v move)) start past now

variable {start now v : Viewing} {past : List (Step Viewing Move)} {e : Step Viewing Move} {field : EntryField}

/-- Asking for a part is asking for its lazy value, and leaves the other parts alone. -/
theorem asks_step (v : Viewing) (field : EntryField) :
    (v.event.get field).Asks v.gate (v.answer field) ((v.step (.read field)).event.get field)
      (v.step (.read field)).gate := by
  have asks := (v.event.get field).asks v.gate
  simp only [step, answer, EntryEvent.read, EntryEvent.get_set, if_pos]
  exact asks

/-- Asking for a part leaves the other parts as they are. -/
theorem get_step_of_ne {other : EntryField} (v : Viewing) (differs : other ≠ field) :
    (v.step (.read field)).event.get other = v.event.get other := by
  simp only [step, EntryEvent.read, EntryEvent.get_set, if_neg differs]

/-- Asking for a part that stays as it was leaves the event as it was. -/
theorem step_read_eq (unchanged : (v.step (.read field)).event.get field = v.event.get field) :
    (v.step (.read field)).event = v.event := by
  have same : ((v.event.get field).get v.gate).2.1 = v.event.get field := by
    simpa only [step, EntryEvent.read, EntryEvent.get_set, if_pos] using unchanged
  simp only [step, EntryEvent.read, same, EntryEvent.set_get]

/-- Every move leaves a part of the event what it is. -/
theorem same_step (v : Viewing) (move : Move) (field : EntryField) :
    ((v.step move).event.get field).type = (v.event.get field).type ∧
      ((v.step move).event.get field).raw = (v.event.get field).raw := by
  cases move with
  | read other =>
    by_cases same : field = other
    · subst same
      have kept := (v.event.get field).get_keeps v.gate
      simp only [step, EntryEvent.read, EntryEvent.get_set, if_pos]
      exact ⟨kept.type, kept.raw⟩
    · rw [get_step_of_ne v same]
      exact ⟨rfl, rfl⟩
  | report version | decode type d => exact ⟨rfl, rfl⟩

/-- A part comes to be known by being told to whoever asks for it. -/
theorem known_step (v : Viewing) (move : Move) (field : EntryField) {value : Value} :
    ((v.step move).event.get field).known = some value ↔
      (v.event.get field).known = some value ∨ move = .read field ∧ v.answer field = .ok (some value) := by
  cases move with
  | read other =>
    by_cases same : other = field
    · subst same
      simp only [true_and]
      exact (asks_step v other).known_iff
    · simp [get_step_of_ne v (Ne.symm same), same]
  | report version => simp [step]
  | decode type d => simp [step]

/-- No move registers a serializer or forgets one. -/
theorem oneToOne_step (one : v.gate.registry.OneToOne) (move : Move) : (v.step move).gate.registry.OneToOne := by
  refine one.of_same ?_
  cases move with
  | read field => exact ((v.event.get field).get_alike v.gate).serializers
  | report version => exact congrArg Registry.serializers (v.gate.report_registry version)
  | decode type d => exact (v.gate.toObject_keeps type d).2

/-! ### Runs -/

namespace History

theorem same (run : History start past now) (field : EntryField) :
    (now.event.get field).type = (start.event.get field).type ∧
      (now.event.get field).raw = (start.event.get field).raw := by
  induction run with
  | start => exact ⟨rfl, rfl⟩
  | @step past now next move run taken ih =>
    obtain rfl := Option.some.inj taken
    obtain ⟨type, raw⟩ := now.same_step move field
    exact ⟨type.trans ih.1, raw.trans ih.2⟩

theorem oneToOne (run : History start past now) (one : start.gate.registry.OneToOne) :
    now.gate.registry.OneToOne := by
  induction run with
  | start => exact one
  | step move run taken ih =>
    obtain rfl := Option.some.inj taken
    exact oneToOne_step ih move

/-- What is known of a part was known to begin with, or told to somebody who asked for it. -/
theorem known_iff (run : History start past now) {value : Value} :
    (now.event.get field).known = some value ↔ (start.event.get field).known = some value ∨
      ∃ e ∈ past, e.move = .read field ∧ e.before.answer field = .ok (some value) := by
  induction run with
  | start => simp
  | @step past now next move run taken ih =>
    obtain rfl := Option.some.inj taken
    rw [known_step, ih]
    simp only [List.mem_append, List.mem_singleton, or_and_right, exists_or, exists_eq_left, or_assoc]

/-- Every step asks for a part as the lazy value says. -/
theorem asks (run : History start past now) (there : e ∈ past) (reads : e.move = .read field) :
    (e.before.event.get field).Asks e.before.gate (e.before.answer field) (e.after.event.get field) e.after.gate ∧
      e.after = e.before.step (.read field) := by
  obtain ⟨earlier, -, taken⟩ := run.mem there
  have after : e.after = e.before.step (.read field) := by
    rw [← reads]
    exact (Option.some.inj taken).symm
  exact ⟨after ▸ asks_step e.before field, after⟩

end History

/-- A step in which a part is asked for that is not known, and a value of it is read. -/
structure Reads (e : Step Viewing Move) (field : EntryField) (type : ValueType) (d : Data) (value : Value) : Prop where
  asked : e.move = .read field
  unknown : (e.before.event.get field).isResolved = false
  decodes : e.before.gate.Decodes type d (.ok value) e.after.gate
  told : e.before.answer field = .ok (some value)

/-- What is so of a part of an event that was not known to begin with, whoever has asked for it. -/
structure Memoized (start : Viewing) (past : List (Step Viewing Move)) (now : Viewing) (field : EntryField) :
    Prop where
  raw : (now.event.get field).raw = (start.event.get field).raw
  present : (now.event.get field).isPresent = (start.event.get field).isPresent
  resolved : (now.event.get field).isResolved = true ↔
    ∃ e ∈ past, e.move = .read field ∧ ∃ value, e.before.answer field = .ok (some value)
  /-- A part that is not there is none, and nothing is asked for it. -/
  absent : (start.event.get field).raw = none →
    ∀ e ∈ past, e.move = .read field → e.before.answer field = .ok none ∧ e.after = e.before
  /-- A part that is there is never none. -/
  given : (start.event.get field).raw ≠ none →
    ∀ e ∈ past, e.move = .read field → e.before.answer field ≠ .ok none
  /-- Whoever asks for a part that is there and not known is told what can be read of it now. -/
  decoded : ∀ d, (start.event.get field).raw = some d → ∀ e ∈ past, e.move = .read field →
    (e.before.event.get field).isResolved = false →
    ∃ result, e.before.gate.Decodes (start.event.get field).type d result e.after.gate ∧
      e.before.answer field = result.map some
  /-- Every value that anybody was told has been read of the part. -/
  read : ∀ e ∈ past, e.move = .read field → ∀ value, e.before.answer field = .ok (some value) →
    ∃ d, (start.event.get field).raw = some d ∧ ∃ e' ∈ past, Reads e' field (start.event.get field).type d value
  /-- Once somebody was told the value, all others are told the same, and nothing is asked for it. -/
  settled : ∀ earlier e later value, past = earlier ++ e :: later → e.move = .read field →
    e.before.answer field = .ok (some value) → ∀ e' ∈ later, e'.move = .read field →
      e'.before.answer field = .ok (some value) ∧ e'.after = e'.before
  reads : ∀ e ∈ past, e.move = .read field → e.after.gate.registry.reads ≤ e.before.gate.registry.reads + 1
  /-- What fails is the reading of a part that is there and was not known, and it leaves the event as it was. -/
  failed : ∀ e ∈ past, e.move = .read field → ∀ fault, e.before.answer field = .error fault →
    ∃ d, (start.event.get field).raw = some d ∧
      e.before.gate.Decodes (start.event.get field).type d (.error fault) e.after.gate ∧
      (e.before.event.get field).isResolved = false ∧ e.after.event = e.before.event

section
variable (run : History start past now)
include run

/-- A step that asks for a part and leaves both the part and the gate as they were leaves everything so. -/
theorem History.after_eq (there : e ∈ past) (reads : e.move = .read field)
    (part : e.after.event.get field = e.before.event.get field) (gate : e.after.gate = e.before.gate) :
    e.after = e.before := by
  obtain ⟨-, after⟩ := run.asks there reads
  rw [after] at part gate ⊢
  have event := step_read_eq part
  rcases read : e.before.step (.read field) with ⟨event', gate'⟩
  rw [read] at event gate
  subst event gate
  rfl

theorem History.settled {earlier later : List (Step Viewing Move)} {value : Value}
    (split : past = earlier ++ e :: later) (reads : e.move = .read field)
    (told : e.before.answer field = .ok (some value)) {e' : Step Viewing Move} (there : e' ∈ later)
    (again : e'.move = .read field) : e'.before.answer field = .ok (some value) ∧ e'.after = e'.before := by
  have mem : e ∈ past := by simp [split]
  obtain ⟨between, more, cut⟩ := List.append_of_mem there
  have rest : History e.after between e'.before := ((run.since split).upto cut).1
  obtain ⟨asks, -⟩ := run.asks mem reads
  have known : (e.after.event.get field).known = some value := asks.known_iff.2 (.inr told)
  have still : (e'.before.event.get field).known = some value := rest.known_iff.2 (.inl known)
  -- nobody is told a value of a part that is not there
  obtain ⟨d, present⟩ : ∃ d, (e'.before.event.get field).raw = some d := by
    have raw : (e.before.event.get field).raw ≠ none := fun none => by
      simp [(asks.of_absent none).1] at told
    have still : (e'.before.event.get field).raw = (e.before.event.get field).raw :=
      (rest.same field).2.trans asks.raw_eq
    exact Option.ne_none_iff_exists'.1 (still ▸ raw)
  have mem' : e' ∈ past := by simp [split, there]
  obtain ⟨asks', -⟩ := run.asks mem' again
  obtain ⟨answer, part, gate⟩ := asks'.of_known present still
  exact ⟨answer, run.after_eq mem' again part gate⟩

/-- Every value that anybody was told has been read. -/
theorem History.read (fresh : (start.event.get field).known = none) (there : e ∈ past) (asked : e.move = .read field)
    {value : Value} (told : e.before.answer field = .ok (some value)) :
    ∃ d, (start.event.get field).raw = some d ∧ ∃ e' ∈ past, Reads e' field (start.event.get field).type d value := by
  induction run generalizing e with
  | start => cases there
  | @step past now next move run taken ih =>
    have before {e : Step Viewing Move} (there : e ∈ past) (asked : e.move = .read field)
        (told : e.before.answer field = .ok (some value)) :
        ∃ d, (start.event.get field).raw = some d ∧
          ∃ e' ∈ past ++ [⟨now, move, next⟩], Reads e' field (start.event.get field).type d value := by
      obtain ⟨d, raw, e', there', reads⟩ := ih there asked told
      exact ⟨d, raw, e', List.mem_append_left _ there', reads⟩
    rcases List.mem_append.1 there with there | last
    · exact before there asked told
    · obtain rfl := List.mem_singleton.1 last
      obtain ⟨asks, -⟩ := History.asks (Past.step move run taken) there asked
      rcases asks.of_told told with known | ⟨d, raw, unknown, decodes⟩
      · rcases (History.known_iff run).1 known with first | ⟨e', there', asked', told'⟩
        · cases fresh.symm.trans first
        · exact before there' asked' told'
      · obtain ⟨type, same⟩ := History.same run field
        refine ⟨d, same ▸ raw, _, there, asked, by simp [Lazy.isResolved, unknown], type ▸ decodes, told⟩

theorem History.memoized (one : start.gate.registry.OneToOne) (fresh : (start.event.get field).known = none) :
    Memoized start past now field where
  raw := (run.same field).2
  present := by rw [Lazy.isPresent, Lazy.isPresent, (run.same field).2]
  resolved := by
    have unknown (value : Value) : (start.event.get field).known ≠ some value := by simp [fresh]
    simp only [Lazy.isResolved, Option.isSome_iff_exists, run.known_iff, unknown, false_or]
    constructor
    · rintro ⟨value, e, there, reads, told⟩
      exact ⟨e, there, reads, value, told⟩
    · rintro ⟨e, there, reads, value, told⟩
      exact ⟨value, e, there, reads, told⟩
  absent nothing e there reads := by
    obtain ⟨earlier, first, -⟩ := run.mem there
    have still : (e.before.event.get field).raw = none := (History.same first field).2.trans nothing
    obtain ⟨answer, part, gate⟩ := (run.asks there reads).1.of_absent still
    exact ⟨answer, run.after_eq there reads part gate⟩
  given present e there reads := by
    obtain ⟨earlier, first, -⟩ := run.mem there
    exact (run.asks there reads).1.ne_none ((History.same first field).2 ▸ present)
  decoded d raw e there reads unknown := by
    obtain ⟨earlier, first, -⟩ := run.mem there
    obtain ⟨type, same⟩ := History.same first field
    rw [← type]
    exact (run.asks there reads).1.of_unknown (same ▸ raw) (by simpa [Lazy.isResolved] using unknown)
  read e there reads value told := run.read fresh there reads told
  settled earlier e later value split reads told e' there again := run.settled split reads told there again
  reads e there reads := by
    obtain ⟨earlier, first, -⟩ := run.mem there
    exact (run.asks there reads).1.reads_le (History.oneToOne first one)
  failed e there reads fault told := by
    obtain ⟨earlier, first, -⟩ := run.mem there
    obtain ⟨type, raw⟩ := History.same first field
    obtain ⟨asks, after⟩ := run.asks there reads
    obtain ⟨d, present, unknown, decodes, part⟩ := asks.of_failed told
    refine ⟨d, raw ▸ present, type ▸ decodes, by simp [Lazy.isResolved, unknown], ?_⟩
    rw [after] at part ⊢
    exact step_read_eq part

end

/-! ### What handlers see -/

/-- What a step has told to whoever asked for a part. -/
def told (e : Step Viewing Move) : Option (EntryField × Except Fault (Option Value)) :=
  match e.move with
  | .read field => some (field, e.before.answer field)
  | .report _ | .decode _ _ => none

/-- Parts that are read one after the other are read by a run. -/
theorem readAll_run (v : Viewing) (fields : List EntryField) :
    ∃ more, History v more ⟨(v.event.readAll v.gate fields).2.1, (v.event.readAll v.gate fields).2.2⟩ ∧
      more.map Step.move = fields.map .read ∧ more.filterMap told = (v.event.readAll v.gate fields).1 := by
  induction fields generalizing v with
  | nil => exact ⟨[], .start, rfl, rfl⟩
  | cons field rest ih =>
    obtain ⟨more, run, moves, answers⟩ := ih (v.step (.read field))
    have first : History v [⟨v, .read field, v.step (.read field)⟩] (v.step (.read field)) := Past.start.step _ rfl
    refine ⟨_, first.append run, ?_, ?_⟩
    · simp [moves]
    · rw [List.filterMap_append, answers]
      rfl

end Viewing

/-- What an observer was told of the parts that it has read. -/
def Sighting.answers (s : Sighting) : List (EntryField × Except Fault (Option Value)) :=
  match s.entry with
  | some entry => entry.fields
  | none => []

/-- The parts that a handler reads: a handler of the whole map sees no entry. -/
def EventHandler.parts {β : Type} (h : EventHandler (Observer β)) : List EntryField :=
  match h.scope with
  | .map => []
  | .entry => h.action.reads

/-- A handler sees an event: one of the whole map sees no entry, and one of entries sees the parts that it asks for. -/
structure EventHandler.Sees {β : Type} (h : EventHandler (Observer β)) (event : MapEvent) (seen : Sighting) : Prop where
  handler : seen.handler = h.action.name
  event : seen.event = event
  entry : match h.scope with
    | .map => seen.entry = none
    | .entry => ∃ entry, seen.entry = some entry ∧ entry.fields.map (·.1) = h.action.reads

theorem EntryEvent.toMapEvent_read (e : EntryEvent) (field : EntryField) (gate : Gate) :
    (e.read field gate).2.1.toMapEvent = e.toMapEvent := by
  cases field <;> rfl

theorem EntryEvent.readAll_keeps (e : EntryEvent) (gate : Gate) (fields : List EntryField) :
    (e.readAll gate fields).2.1.toMapEvent = e.toMapEvent ∧ (e.readAll gate fields).1.map (·.1) = fields := by
  induction fields generalizing e gate with
  | nil => exact ⟨rfl, rfl⟩
  | cons field rest ih =>
    obtain ⟨event, answers⟩ := ih (e.read field gate).2.1 (e.read field gate).2.2
    exact ⟨event.trans (e.toMapEvent_read field gate), congrArg (field :: ·) answers⟩

namespace Viewing

variable {β : Type}

theorem observe_run (v : Viewing) (h : EventHandler (Observer β)) :
    ∃ more, History v more ⟨(h.observe v.event v.gate).2.1, (h.observe v.event v.gate).2.2⟩ ∧
      more.map Step.move = h.parts.map .read ∧ more.filterMap told = (h.observe v.event v.gate).1.answers := by
  cases scope : h.scope with
  | map =>
    simp only [EventHandler.observe, EventHandler.parts, scope]
    exact ⟨[], .start, rfl, rfl⟩
  | entry =>
    simp only [EventHandler.observe, EventHandler.parts, scope]
    exact v.readAll_run h.action.reads

theorem observe_sees (v : Viewing) (h : EventHandler (Observer β)) :
    h.Sees v.event.toMapEvent (h.observe v.event v.gate).1 ∧
      (h.observe v.event v.gate).2.1.toMapEvent = v.event.toMapEvent := by
  obtain ⟨event, answers⟩ := v.event.readAll_keeps v.gate h.action.reads
  cases scope : h.scope with
  | map =>
    simp only [EventHandler.observe, scope]
    exact ⟨⟨rfl, rfl, by simp [scope]⟩, trivial⟩
  | entry =>
    simp only [EventHandler.observe, scope]
    exact ⟨⟨rfl, event, by simp [scope, answers]⟩, event⟩

/-- The handlers that are shown an event read it in one run, each where the one before it has stopped. -/
theorem observeAll_run (v : Viewing) (hs : Handlers (Observer β)) (seen : List Sighting) :
    ∃ more next sightings, History v more next ∧ more.map Step.move = (hs.flatMap EventHandler.parts).map .read ∧
      more.filterMap told = sightings.flatMap Sighting.answers ∧
      List.Forall₂ (fun h seen => h.Sees v.event.toMapEvent seen) hs sightings ∧
      hs.foldl (fun (seen, e, gate) (h : EventHandler (Observer β)) =>
        let (sighting, e, gate) := h.observe e gate
        (seen ++ [sighting], e, gate)) (seen, v.event, v.gate) = (seen ++ sightings, next.event, next.gate) := by
  induction hs generalizing v seen with
  | nil => exact ⟨[], v, [], .start, rfl, rfl, .nil, by simp⟩
  | cons h hs ih =>
    obtain ⟨first, run, moves, answers⟩ := v.observe_run h
    obtain ⟨sees, same⟩ := v.observe_sees h
    obtain ⟨more, next, sightings, run', moves', answers', each, seen'⟩ :=
      ih ⟨(h.observe v.event v.gate).2.1, (h.observe v.event v.gate).2.2⟩
        (seen ++ [(h.observe v.event v.gate).1])
    rw [same] at each
    refine ⟨first ++ more, next, (h.observe v.event v.gate).1 :: sightings, run.append run', ?_, ?_, .cons sees each, ?_⟩
    · simp [moves, moves']
    · rw [List.filterMap_append, answers, answers', List.flatMap_cons]
    · rw [List.append_cons]
      exact seen'

/-- The handlers that are called for an event read it in one run. -/
theorem observed_run (v : Viewing) (hs : Handlers (Observer β)) :
    ∃ more next, History v more next ∧ next.gate = (hs.observe v.event v.gate).2 ∧
      more.map Step.move = ((hs.called v.event.kinds).flatMap EventHandler.parts).map .read ∧
      more.filterMap told = (hs.observe v.event v.gate).1.flatMap Sighting.answers ∧
      List.Forall₂ (fun h seen => h.Sees v.event.toMapEvent seen) (hs.called v.event.kinds)
        (hs.observe v.event v.gate).1 := by
  obtain ⟨more, next, sightings, run, moves, answers, each, seen⟩ := v.observeAll_run (hs.called v.event.kinds) []
  refine ⟨more, next, run, ?_, moves, ?_, ?_⟩
  · simp only [Handlers.observe, seen]
  · simp only [Handlers.observe, seen, answers, List.nil_append]
  · simpa only [Handlers.observe, seen, List.nil_append] using each

/-- Whatever handlers ask for, and whatever else happens: each part of an event is memoized once it could be read,
    and never before. And the handlers that are called for an event ask for its parts one after the other. A registry
    has one serializer for an id and for a type, whatever has been registered (`Registry.OneToOne.registerAll`). -/
theorem parts_are_memoized {start now : Viewing} {past : List (Step Viewing Move)}
    (one : start.gate.registry.OneToOne) (fresh : ∀ field, (start.event.get field).known = none)
    (run : History start past now) (hs : Handlers (Observer β)) :
    (∀ field, Memoized start past now field) ∧
      ∃ more next, History start (past ++ more) next ∧ next.gate = (hs.observe now.event now.gate).2 ∧
        more.map Step.move = ((hs.called now.event.kinds).flatMap EventHandler.parts).map .read ∧
        more.filterMap told = (hs.observe now.event now.gate).1.flatMap Sighting.answers ∧
        ∀ field, Memoized start (past ++ more) next field := by
  obtain ⟨more, next, run', gate, moves, answers, -⟩ := now.observed_run hs
  have whole : History start (past ++ more) next := run.append run'
  exact ⟨fun field => run.memoized one (fresh field), more, next, whole, gate, moves, answers,
    fun field => whole.memoized one (fresh field)⟩

/-- An entry under the number 7, with the same number as its value where a text should be, behind a gate that
    nobody has opened. -/
def sample : Viewing where
  event :=
    { source := "orders", member := none, kinds := .added, affected := 1,
      key := .ofData (.primitive .int) (some (.ofParts (-7) 0 [0, 0, 0, 7]))
      value := .ofData (.primitive .text) (some (.ofParts (-7) 0 [0, 0, 0, 7]))
      oldValue := .ofData (.primitive .text) none
      mergingValue := .ofData (.primitive .text) none }
  gate := .closed .standard

/-- The key is asked for too early, and after a version that is not spoken here; the value is of another type; then
    the key is read, and asked for again. -/
theorem parts_are_memoized_sample :
    let seven : Except Fault (Option Value) := .ok (some (.primitive (.int 7)))
    let mistyped : Except Fault (Option Value) := .error (.wrongType "alloc::string::String" "i32")
    let closed : Except Fault (Option Value) := .error (.protocol .notNegotiated)
    ∃ past now, History sample past now ∧
      past.map Step.move = [.read .key, .report 2, .read .key, .report 1, .read .value, .read .oldValue, .read .key] ∧
      past.filterMap told = [(.key, closed), (.key, closed), (.value, mistyped), (.oldValue, .ok none), (.key, seven)] ∧
      (∀ field, Memoized sample past now field) ∧
      ∃ more next, History sample (past ++ more) next ∧ more.map Step.move = [.read .value, .read .key] ∧
        more.filterMap told = [(.value, mistyped), (.key, seven)] ∧
        ∀ field, Memoized sample (past ++ more) next field := by
  intro seven mistyped closed
  have early := (((Past.start : History sample [] sample).step (.read .key) rfl).step (.report 2) rfl).step
    (.read .key) rfl
  have run := (((early.step (.report 1) rfl).step (.read .value) rfl).step (.read .oldValue) rfl).step (.read .key) rfl
  obtain ⟨memoized, more, next, whole, -, shown, answers, later⟩ :=
    parts_are_memoized (Registry.oneToOne_initial true) (fun field => by cases field <;> rfl) run
      [⟨.entry, .added, ⟨"both", [.value, .key], some ()⟩⟩, ⟨.map, .added, ⟨"map", [.value], none⟩⟩]
  refine ⟨_, _, run, rfl, by decide +kernel, memoized, more, next, whole, shown, ?_, later⟩
  rw [answers]
  decide +kernel

example :
    let read (moves : List Move) := (moves.foldl step sample).answer .key
    read [] = .error (.protocol .notNegotiated) ∧ read [.report 2] = .error (.protocol .notNegotiated) ∧
      read [.report 1] = .ok (some (.primitive (.int 7))) ∧
      read [.report 1, .read .key] = .ok (some (.primitive (.int 7))) := by
  decide

end Viewing
end Datagrid
