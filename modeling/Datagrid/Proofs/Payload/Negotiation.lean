import Datagrid.Payload.Negotiation
import Datagrid.Proofs.Payload.Registry

/-!
# Behind the version gate

A closed gate refuses whatever has to be read or written, and asks no serializer. An open one gives
what its registry gives. A lazy value is what its registry reads, each time it is asked for.
-/
namespace Datagrid

/-! ## Gates -/

namespace Gate

variable {g : Gate}

theorem toObject_of_closed (closed : g.version = none) (type : ValueType) (d : Data) :
    g.toObject type d = (.error (.protocol .notNegotiated), g) := by
  simp [toObject, registry?, closed]

theorem toData_of_closed (closed : g.version = none) (v : Value) :
    g.toData v = .error (.protocol .notNegotiated) := by
  simp [toData, registry?, closed, bind, Except.bind]

section
variable {version : UInt8} (opened : g.version = some version)
include opened

theorem toObject_of_open (type : ValueType) (d : Data) :
    g.toObject type d = ((g.registry.toObject type d).1, { g with registry := (g.registry.toObject type d).2 }) := by
  simp [toObject, registry?, opened]

theorem toData_of_open (v : Value) : g.toData v = g.registry.toData v := by
  simp [toData, registry?, opened, bind, Except.bind]

end

/-- The version that has been noted is the one that is spoken here, if any has. -/
def Spoken (g : Gate) : Prop := g.version = none ∨ g.version = some serializationVersion

theorem Spoken.of_same {g' : Gate} (spoken : g.Spoken) (same : g'.version = g.version) : g'.Spoken := by
  rwa [Spoken, same]

theorem negotiate_of_spoken (spoken : g.Spoken) :
    g.negotiate serializationVersion = .ok { g with version := some serializationVersion } := by
  rcases spoken with none | noted
  · simp [negotiate, none]
  · simp [negotiate, noted]

theorem negotiate_of_ne {reported : UInt8} (other : reported ≠ serializationVersion) (g : Gate) :
    g.negotiate reported = .error (.versionMismatch serializationVersion reported) := by
  simp [negotiate, other]

/-- Whatever is reported, no other version is noted, and nobody is told that one has been. -/
theorem Spoken.report (spoken : g.Spoken) (reported : UInt8) :
    (g.report reported).2.Spoken ∧ ∀ version, (g.report reported).1 ≠ .error (.protocol (.alreadyNegotiated version)) := by
  by_cases same : reported = serializationVersion
  · subst same
    simp [Gate.report, negotiate_of_spoken spoken, Spoken]
  · simpa [Gate.report, negotiate_of_ne same] using spoken

theorem report_registry (g : Gate) (reported : UInt8) : (g.report reported).2.registry = g.registry := by
  simp only [report, negotiate]
  split_ifs <;> rfl

/-- The gate after deserializing has the version it had, and the same serializers. -/
theorem toObject_keeps (g : Gate) (type : ValueType) (d : Data) :
    (g.toObject type d).2.version = g.version ∧
      (g.toObject type d).2.registry.serializers = g.registry.serializers := by
  cases version : g.version with
  | none => simp [toObject_of_closed version, version]
  | some n => simp [toObject_of_open version, version]

end Gate

/-! ## Lazy values -/

namespace Gate

/-- What a gate shows of a lazy value, if that has not been read. -/
def shows (g : Gate) (l : Lazy) : Except Fault (Option Value) :=
  match l.raw with
  | none => .ok none
  | some d => (g.toObject l.type d).1.map some

/-- A value that is known is what the gate shows. -/
def Vouches (g : Gate) (l : Lazy) : Prop := ∀ v, l.known = some v → g.shows l = .ok (some v)

/-- Two gates with the same serializers, that are both closed or open to one version. -/
structure Alike (g g' : Gate) : Prop where
  version : g'.version = g.version
  serializers : g'.registry.serializers = g.registry.serializers

variable {g g' : Gate} {l : Lazy}

theorem Alike.trans {g'' : Gate} (alike : g.Alike g') (further : g'.Alike g'') : g.Alike g'' :=
  ⟨further.version.trans alike.version, further.serializers.trans alike.serializers⟩

/-- Gates that are alike show the same. -/
theorem Alike.shows (alike : g.Alike g') (l : Lazy) : g'.shows l = g.shows l := by
  have same (type : ValueType) (d : Data) : (g'.toObject type d).1 = (g.toObject type d).1 := by
    cases version : g.version with
    | none => rw [toObject_of_closed version, toObject_of_closed (alike.version.trans version)]
    | some n =>
      rw [toObject_of_open version, toObject_of_open (alike.version.trans version)]
      exact Registry.toObject_eq_of_same alike.serializers type d
  cases raw : l.raw <;> simp [Gate.shows, raw, same]

theorem Alike.vouches (alike : g.Alike g') (vouches : g.Vouches l) : g'.Vouches l :=
  fun v known => (alike.shows l).trans (vouches v known)

theorem vouches_ofData (g : Gate) (type : ValueType) (raw : Option Data) : g.Vouches (.ofData type raw) := by
  simp [Vouches, Lazy.ofData]

end Gate

namespace Lazy

variable {l : Lazy} {g : Gate} {r : Registry}

/-- What a registry makes of a lazy value. -/
def content (l : Lazy) (r : Registry) : Except Fault (Option Value) :=
  match l.raw with
  | none => .ok none
  | some d => (r.toObject l.type d).1.map some

/-- A value that is known is what the registry makes of the lazy value. -/
def Agrees (l : Lazy) (r : Registry) : Prop := ∀ v, l.known = some v → l.content r = .ok (some v)

theorem agrees_ofData (type : ValueType) (raw : Option Data) (r : Registry) : (ofData type raw).Agrees r := by
  simp [Agrees, ofData]

/-- What asking for a lazy value leaves as it is: which value it is, and everything about the gate but
    what has been asked of the serializers. -/
structure Keeps (l : Lazy) (g : Gate) (l' : Lazy) (g' : Gate) : Prop where
  type : l'.type = l.type
  raw : l'.raw = l.raw
  version : g'.version = g.version
  serializers : g'.registry.serializers = g.registry.serializers

theorem get_keeps (l : Lazy) (g : Gate) : l.Keeps g (l.get g).2.1 (l.get g).2.2 := by
  obtain ⟨type, raw, known⟩ := l
  cases raw with
  | none => exact ⟨rfl, rfl, rfl, rfl⟩
  | some d =>
    cases known with
    | some v => exact ⟨rfl, rfl, rfl, rfl⟩
    | none =>
      obtain ⟨version, serializers⟩ := g.toObject_keeps type d
      simp only [get]
      rcases read : g.toObject type d with ⟨_ | v, next⟩
      all_goals
        rw [read] at version serializers
        exact ⟨rfl, rfl, version, serializers⟩

theorem get_alike (l : Lazy) (g : Gate) : g.Alike (l.get g).2.2 :=
  have kept := l.get_keeps g
  ⟨kept.version, kept.serializers⟩

/-- A value that has been asked for, whether it could be read or not, is shown as before. -/
theorem shows_get (l : Lazy) (g g' : Gate) : g'.shows (l.get g).2.1 = g'.shows l := by
  have kept := l.get_keeps g
  rw [Gate.shows, Gate.shows, kept.raw, kept.type]

/-- Whoever asks for a value is told what the gate shows. -/
theorem get_eq_shows (vouches : g.Vouches l) : (l.get g).1 = g.shows l ∧ g.Vouches (l.get g).2.1 := by
  obtain ⟨type, raw, known⟩ := l
  cases raw with
  | none => exact ⟨rfl, vouches⟩
  | some d =>
    cases known with
    | some v => exact ⟨(vouches v rfl).symm, vouches⟩
    | none =>
      rcases read : g.toObject type d with ⟨fault | v, g'⟩
      · exact ⟨by simp [get, Gate.shows, read, Except.map], by simp [Gate.Vouches, get, read]⟩
      · simp [Gate.Vouches, Gate.shows, get, read, Except.map]

theorem get_of_absent (raw : l.raw = none) (g : Gate) : l.get g = (.ok none, l, g) := by
  simp [get, raw]

/-- Behind a closed gate a lazy value that is there and has not been read is refused. -/
theorem get_of_closed {d : Data} (closed : g.version = none) (raw : l.raw = some d) (known : l.known = none) :
    l.get g = (.error (.protocol .notNegotiated), l, g) := by
  simp [get, raw, known, Gate.toObject_of_closed closed]

section
variable {version : UInt8} (opened : g.version = some version) (same : g.registry.serializers = r.serializers)
include opened same

/-- An open gate shows what its registry makes of a lazy value. -/
theorem shows_of_open (l : Lazy) : g.shows l = l.content r := by
  cases raw : l.raw <;> simp [Gate.shows, content, raw, Gate.toObject_of_open opened, Registry.toObject_eq_of_same same]

theorem vouches_of_open (agrees : l.Agrees r) : g.Vouches l :=
  fun v known => (shows_of_open opened same l).trans (agrees v known)

/-- Behind an open gate a lazy value is what its registry makes of it, and goes on to be. -/
theorem get_of_open (agrees : l.Agrees r) : (l.get g).1 = l.content r ∧ (l.get g).2.1.Agrees r := by
  obtain ⟨now, later⟩ := get_eq_shows (vouches_of_open opened same agrees)
  exact ⟨now.trans (shows_of_open opened same l), fun v known => (shows_of_open opened same _).symm.trans (later v known)⟩

end

/-- Behind a closed gate nothing comes to be known. -/
theorem get_unread (closed : g.version = none) (known : l.known = none) : (l.get g).2.1 = l := by
  cases raw : l.raw with
  | none => rw [get_of_absent raw]
  | some d => rw [get_of_closed closed raw known]

end Lazy
end Datagrid
