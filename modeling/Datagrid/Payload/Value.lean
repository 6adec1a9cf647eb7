import Datagrid.Payload.Source

/-!
Typed values. A primitive is a number, a truth value, a text, bytes or an
identifier; a record is a value of a type of the user's own, known by its name,
with primitives for its content. Each primitive has one form in a payload.
-/
namespace Datagrid

inductive PrimitiveType where
  | byte
  | bool
  | short
  | int
  | long
  | float
  | double
  | text
  | bytes
  | uuid
  deriving DecidableEq

/-- A primitive; floating-point numbers are given by their bits. -/
inductive Primitive where
  | byte (n : Int8)
  | bool (b : Bool)
  | short (n : Int16)
  | int (n : Int32)
  | long (n : Int64)
  | float (bits : UInt32)
  | double (bits : UInt64)
  | text (s : String)
  | bytes (content : Octets)
  | uuid (u : Uuid)
  deriving DecidableEq

namespace Primitive

def type : Primitive → PrimitiveType
  | byte _ => .byte
  | bool _ => .bool
  | short _ => .short
  | int _ => .int
  | long _ => .long
  | float _ => .float
  | double _ => .double
  | text _ => .text
  | bytes _ => .bytes
  | uuid _ => .uuid

/-- Bytes behind their number. -/
def counted (content : Octets) : Octets :=
  Octets.bigEndian 4 content.length ++ content

/-- The bytes of a primitive in a payload. -/
def octets : Primitive → Octets
  | byte n => Octets.bigEndian 1 n.toUInt8.toNat
  | bool b => [if b then 1 else 0]
  | short n => Octets.bigEndian 2 n.toUInt16.toNat
  | int n => Octets.bigEndian 4 n.toUInt32.toNat
  | long n => Octets.bigEndian 8 n.toUInt64.toNat
  | float bits => Octets.bigEndian 4 bits.toNat
  | double bits => Octets.bigEndian 8 bits.toNat
  | text s => counted (Text.Utf8.encode s)
  | bytes content => counted content
  | uuid u => Octets.bigEndian 8 u.high.toNat ++ Octets.bigEndian 8 u.low.toNat

end Primitive

namespace PrimitiveType

def read : PrimitiveType → OnSource Primitive
  | byte => do return .byte (← Source.byte)
  | bool => do return .bool (← Source.bool)
  | short => do return .short (← Source.short)
  | int => do return .int (← Source.int)
  | long => do return .long (← Source.long)
  | float => do return .float (← Source.float)
  | double => do return .double (← Source.double)
  | text => do return .text (← Source.text)
  | bytes => do return .bytes (← Source.bytes)
  | uuid => do return .uuid (← Source.uuid)

/-- The name of a type in diagnostics. -/
def name : PrimitiveType → String
  | byte => "i8"
  | bool => "bool"
  | short => "i16"
  | int => "i32"
  | long => "i64"
  | float => "f32"
  | double => "f64"
  | text => "alloc::string::String"
  | bytes => "alloc::vec::Vec<u8>"
  | uuid => "uuid::Uuid"

/-- The id of the serializer of a type, the same for every member. -/
def typeId : PrimitiveType → Int32
  | byte => -3
  | bool => -4
  | short => -6
  | int => -7
  | long => -8
  | float => -9
  | double => -10
  | text => -11
  | bytes => -12
  | uuid => -21

def named : List (String × PrimitiveType) :=
  [("byte", byte), ("bool", bool), ("short", short), ("int", int), ("long", long),
    ("float", float), ("double", double), ("string", text), ("bytes", bytes), ("uuid", uuid)]

def all : List PrimitiveType := named.map (·.2)

end PrimitiveType

inductive ValueType where
  | primitive (type : PrimitiveType)
  | record (name : String)
  deriving DecidableEq

def ValueType.name : ValueType → String
  | primitive type => type.name
  | record name => name

inductive Value where
  | primitive (p : Primitive)
  | record (name : String) (content : List Primitive)
  deriving DecidableEq

def Value.type : Value → ValueType
  | primitive p => .primitive p.type
  | record name _ => .record name

end Datagrid
