import Datagrid.Payload.Value

/-!
Serializers: each turns the values of one type into payloads and back, under a
type id of its own. Those of the primitives are built in.
-/
namespace Datagrid

/-- What writing a value gives: the bytes written, and the fault that ended it,
    if one did. -/
structure Written where
  octets : Octets
  fault : Option Fault

namespace Written

def whole (octets : Octets) : Written := ⟨octets, none⟩

def failed (octets : Octets) (fault : Fault) : Written := ⟨octets, some fault⟩

/-- What is written where more follows, unless a fault has ended it. -/
def andThen (w next : Written) : Written :=
  match w.fault with
  | none => ⟨w.octets ++ next.octets, next.fault⟩
  | some _ => w

/-- What is written one after the other, up to the first fault. -/
def all (ws : List Written) : Written := ws.foldr andThen (.whole [])

/-- The bytes of a value that was written as a whole. -/
def toExcept (w : Written) : Except Fault Octets :=
  match w.fault with
  | none => .ok w.octets
  | some fault => .error fault

end Written

namespace Primitive

/-- Writes bytes behind their number, or nothing if that is no 32-bit integer. -/
def writeCounted (content : Octets) : Written :=
  if content.length < 0x80000000 then .whole (counted content)
  else .failed [] (.payload (.excessiveLength content.length))

/-- Writes a primitive. -/
def write : Primitive → Written
  | text s => writeCounted (Text.Utf8.encode s)
  | bytes content => writeCounted content
  | p => .whole p.octets

end Primitive

/-- A serializer of the values of `type`. Serializers of one type and one
    `identity` are the same serializer. -/
structure Serializer where
  typeId : Int32
  type : ValueType
  identity : String
  write : Value → Written
  read : OnSource Value

namespace Serializer

/-- Whether two serializers are the same. -/
def same (s t : Serializer) : Bool :=
  s.typeId == t.typeId && s.type == t.type && s.identity == t.identity

/-- Writes a value of the serializer's type, and nothing of any other. -/
def writeChecked (s : Serializer) (v : Value) : Written :=
  if v.type == s.type then s.write v
  else .failed [] (.wrongType s.type.name "a value of another type")

/-- The serializer of a primitive type. -/
def ofPrimitive (type : PrimitiveType) : Serializer where
  typeId := type.typeId
  type := .primitive type
  identity := "built-in"
  write
    | .primitive p => p.write
    | .record _ _ => .whole []
  read := do
    let p ← type.read
    return .primitive p

def builtIn : List Serializer := PrimitiveType.all.map ofPrimitive

/-- A serializer that writes the content of a record as it comes, and reads
    primitives of the given types. -/
def ofRecord (typeId : Int32) (name identity : String) (content : List PrimitiveType) :
    Serializer where
  typeId := typeId
  type := .record name
  identity := identity
  write
    | .primitive p => p.write
    | .record _ content => .all (content.map Primitive.write)
  read := do
    let content ← content.mapM PrimitiveType.read
    return .record name content

end Serializer
end Datagrid
