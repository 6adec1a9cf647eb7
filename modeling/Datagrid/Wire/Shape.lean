import Datagrid.Wire.Codec

/-!
The shapes of values that frames can hold, nested as deep as one likes, and the
codec of each.
-/
namespace Datagrid

/-- What a value in frames looks like. -/
inductive Shape where
  | text
  | bytes
  | data
  | ints
  | longs
  | uuids
  | address
  | nullable (value : Shape)
  | list (item : Shape)
  deriving DecidableEq

namespace Shape

/-- The shapes that are not nested, by short names. -/
def named : List (String × Shape) :=
  [("string", text), ("bytes", bytes), ("data", data), ("ints", ints), ("longs", longs),
    ("uuids", uuids), ("address", address)]

abbrev Value : Shape → Type
  | text => String
  | bytes => Octets
  | data => Data
  | ints => List Int32
  | longs => List Int64
  | uuids => List Uuid
  | address => Address
  | nullable value => Option value.Value
  | list item => List item.Value

def codec : (shape : Shape) → Codec shape.Value
  | text => .text
  | bytes => .bytes
  | data => .data
  | ints => .ints
  | longs => .longs
  | uuids => .uuids
  | address => .address
  | nullable value => .nullable value.codec
  | list item => .list item.codec

end Shape
end Datagrid
