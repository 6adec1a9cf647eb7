import Datagrid.Fault
import Datagrid.Wire.Octets

/-!
Fixed fields: values of a known width at a known offset of some bytes. A field
is read and written where it lies wholly within the bytes, and nowhere else;
offsets are 64-bit numbers.
-/
namespace Datagrid

/-- A kind of value with its bytes: `decode` is asked of `width` bytes only. -/
structure Field (α : Type) where
  width : Nat
  encode : α → Octets
  decode : Octets → α

namespace Field

def int : Field Int32 where
  width := 4
  encode n := Octets.littleEndian 4 n.toUInt32.toNat
  decode bytes := (UInt32.ofNat (Octets.ofLittleEndian bytes)).toInt32

def long : Field Int64 where
  width := 8
  encode n := Octets.littleEndian 8 n.toUInt64.toNat
  decode bytes := (UInt64.ofNat (Octets.ofLittleEndian bytes)).toInt64

def byte : Field UInt8 where
  width := 1
  encode b := [b]
  decode bytes := bytes.headD 0

/-- Any byte but zero reads as true. -/
def bool : Field Bool where
  width := 1
  encode b := [if b then 1 else 0]
  decode bytes := bytes.headD 0 != 0

/-- A byte that says whether the identifier is absent, and its two halves. -/
def guid : Field (Option Uuid) where
  width := 17
  encode
    | none => 1 :: List.replicate 16 0
    | some u => 0 :: (Octets.littleEndian 8 u.high.toNat ++ Octets.littleEndian 8 u.low.toNat)
  decode bytes :=
    if bytes.headD 0 != 0 then none
    else
      let halves := bytes.drop 1
      some ⟨UInt64.ofNat (Octets.ofLittleEndian (halves.take 8)),
        UInt64.ofNat (Octets.ofLittleEndian (halves.drop 8))⟩

variable {α : Type}

/-- Why a field of `width` bytes does not lie at `offset` of `size` bytes, if
    it does not. -/
def misfit? (width offset size : Nat) : Option FramingFault :=
  if UInt64.size ≤ offset + width then some (.offsetOverflow offset)
  else if size < offset + width then some (.short .field (offset + width) size)
  else none

/-- The value of the field at `offset`. -/
def read (field : Field α) (bytes : Octets) (offset : Nat) : Except Fault α :=
  match misfit? field.width offset bytes.length with
  | some fault => .error (.framing fault)
  | none => .ok (field.decode ((bytes.drop offset).take field.width))

/-- The bytes with the field at `offset` set. -/
def write (field : Field α) (bytes : Octets) (offset : Nat) (value : α) : Except Fault Octets :=
  match misfit? field.width offset bytes.length with
  | some fault => .error (.framing fault)
  | none => .ok (bytes.take offset ++ field.encode value ++ bytes.drop (offset + field.width))

end Field
end Datagrid
