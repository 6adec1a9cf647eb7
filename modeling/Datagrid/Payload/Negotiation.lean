import Datagrid.Payload.Registry

/-!
The version gate. Typed payloads are read only once a member has reported the
one serialization version that is spoken here; the version then stays.
-/
namespace Datagrid

/-- The serialization version spoken here. -/
def serializationVersion : UInt8 := 1

/-- A registry behind the version gate. -/
structure Gate where
  registry : Registry
  version : Option UInt8

namespace Gate

/-- A gate that no member has opened. -/
def closed (registry : Registry) : Gate := ⟨registry, none⟩

/-- Takes note of the version that a member reports. One that has been noted
    stays. -/
def negotiate (g : Gate) (reported : UInt8) : Except Fault Gate :=
  if reported != serializationVersion then
    .error (.versionMismatch serializationVersion reported)
  else
    let stored := g.version.getD reported
    if stored != reported then .error (.protocol (.alreadyNegotiated stored))
    else .ok { g with version := some stored }

/-- Takes note of a version, and stays as it is if that is not possible. -/
def report (g : Gate) (reported : UInt8) : Except Fault Unit × Gate :=
  match g.negotiate reported with
  | .ok g => (.ok (), g)
  | .error fault => (.error fault, g)

/-- The registry, once the gate is open. -/
def registry? (g : Gate) : Except Fault Registry :=
  match g.version with
  | some _ => .ok g.registry
  | none => .error (.protocol .notNegotiated)

/-- Deserializes a value of a type, once the gate is open. -/
def toObject (g : Gate) (type : ValueType) (d : Data) : Except Fault Value × Gate :=
  match g.registry? with
  | .error fault => (.error fault, g)
  | .ok registry =>
    let (result, registry) := registry.toObject type d
    (result, { g with registry })

/-- Serializes a value, once the gate is open. -/
def toData (g : Gate) (v : Value) : Except Fault Data := do
  let registry ← g.registry?
  registry.toData v

end Gate

/-- A value that is deserialized when it is first asked for. -/
structure Lazy where
  type : ValueType
  raw : Option Data
  /-- The value, once it was read. -/
  known : Option Value

namespace Lazy

def ofData (type : ValueType) (raw : Option Data) : Lazy := ⟨type, raw, none⟩

def isPresent (l : Lazy) : Bool := l.raw.isSome

def isResolved (l : Lazy) : Bool := l.known.isSome

/-- The value, if there is one. It is read once; a reading that fails is tried
    again the next time. -/
def get (l : Lazy) (g : Gate) : Except Fault (Option Value) × Lazy × Gate :=
  match l.raw with
  | none => (.ok none, l, g)
  | some d =>
    match l.known with
    | some v => (.ok (some v), l, g)
    | none =>
      match g.toObject l.type d with
      | (.error fault, g) => (.error fault, l, g)
      | (.ok v, g) => (.ok (some v), { l with known := some v }, g)

/-- The text of a lazy value for diagnostics. -/
def debugText (l : Lazy) : String :=
  s!"LazyValue \x7b present: {l.isPresent}, resolved: {l.isResolved} \x7d"

end Lazy
end Datagrid
