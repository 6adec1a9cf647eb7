import Datagrid.Payload.Serializer

/-!
Registries of serializers. A registry binds type ids and value types one to
one: a serializer that would take an id or a type twice is refused, and one
that is there already is left alone. A registry counts what it asks of its
serializers, and shuts each down once.
-/
namespace Datagrid

/-- A serializer in a registry, with how often it was asked to read and how
    often it was shut down. -/
structure Binding where
  serializer : Serializer
  reads : Nat
  shutdowns : Nat

structure Registry where
  bindings : List Binding
  isDestroyed : Bool

namespace Registry

def empty : Registry := ⟨[], false⟩

/-- A registry of the built-in serializers. -/
def standard : Registry := ⟨Serializer.builtIn.map (⟨·, 0, 0⟩), false⟩

def byId? (r : Registry) (id : Int32) : Option Binding :=
  r.bindings.find? (·.serializer.typeId == id)

def byType? (r : Registry) (type : ValueType) : Option Binding :=
  r.bindings.find? (·.serializer.type == type)

/-- What becomes of a serializer that is registered. -/
inductive Registration where
  | added (r : Registry)
  /-- The same serializer is there already. -/
  | repeated
  | refused (fault : Fault)

/-- Registers a serializer of the user's. -/
def register (r : Registry) (s : Serializer) : Registration :=
  if s.typeId ≤ 0 then .refused (.config (.reservedTypeId s.typeId))
  else
    match r.byId? s.typeId with
    | some bound => if bound.serializer.same s then .repeated else .refused (.duplicateType s.typeId)
    | none =>
      match r.byType? s.type with
      | some bound => .refused (.config (.boundType s.type.name bound.serializer.typeId))
      | none => .added { r with bindings := r.bindings ++ [⟨s, 0, 0⟩] }

/-- Registers serializers one after the other. For each there is the type id
    that it is added under, nothing if it was there already, or the reason why
    it is refused. -/
def registerAll (r : Registry) : List Serializer → Registry × List (Except Fault (Option Int32))
  | [] => (r, [])
  | s :: rest =>
    match r.register s with
    | .added r =>
      let (r, results) := r.registerAll rest
      (r, .ok (some s.typeId) :: results)
    | .repeated =>
      let (r, results) := r.registerAll rest
      (r, .ok none :: results)
    | .refused fault =>
      let (r, results) := r.registerAll rest
      (r, .error fault :: results)

def resolve (r : Registry) (id : Int32) : Except Fault Serializer :=
  match r.byId? id with
  | some bound => .ok bound.serializer
  | none => .error (.unknownType id)

def resolveFor (r : Registry) (type : ValueType) : Except Fault Serializer :=
  match r.byType? type with
  | some bound => .ok bound.serializer
  | none => .error (.payload (.unbound type.name))

def toData (r : Registry) (v : Value) : Except Fault Data := do
  let s ← r.resolveFor v.type
  let payload ← (s.writeChecked v).toExcept
  return .ofParts s.typeId 0 payload

/-- The registry after its serializer under an id has been asked to read. -/
def countRead (r : Registry) (id : Int32) : Registry :=
  { r with bindings := r.bindings.map fun b =>
      if b.serializer.typeId == id then { b with reads := b.reads + 1 } else b }

/-- Asks the serializer under an id to read. -/
def readWith (r : Registry) (id : Int32) (source : Source) :
    Except Fault Value × Source × Registry :=
  match r.resolve id with
  | .error fault => (.error fault, source, r)
  | .ok s =>
    let (result, source) := s.read.run source
    (result, source, r.countRead id)

/-- Deserializes a value of a type. What another type's serializer has written
    is read and refused. -/
def toObject (r : Registry) (type : ValueType) (d : Data) : Except Fault Value × Registry :=
  match r.resolve d.typeId with
  | .error fault => (.error fault, r)
  | .ok s =>
    let (result, _, r) := r.readWith d.typeId (.ofOctets d.payload)
    match result with
    | .error fault => (.error fault, r)
    | .ok v => (if s.type == type then .ok v else .error (.wrongType type.name s.type.name), r)

def size (r : Registry) : Nat := r.bindings.length

/-- Shuts all serializers down, unless that has been done. -/
def destroy (r : Registry) : Registry :=
  if r.isDestroyed then r
  else ⟨r.bindings.map fun b => { b with shutdowns := b.shutdowns + 1 }, true⟩

def typeIds (r : Registry) : List Int32 :=
  (r.bindings.map (·.serializer.typeId)).mergeSort (fun a b => a ≤ b)

/-- The text of a registry for diagnostics. -/
def debugText (r : Registry) : String :=
  "SerializerRegistry \x7b type_ids: [" ++
    String.intercalate ", " (r.typeIds.map fun id => toString id.toInt) ++
    s!"], destroyed: {r.isDestroyed} \x7d"

end Registry

/-- The text of a serializer for diagnostics. -/
def Serializer.debugText (s : Serializer) : String :=
  s!"SerializerAdapter \x7b serializer_id: {s.typeId.toInt}, value_type: \"" ++ s.type.name ++
    "\" \x7d"

end Datagrid
