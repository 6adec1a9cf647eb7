import Datagrid.Text.Digits

/-!
Numbers as bytes: little-endian in frame headers and fixed fields, big-endian
in payloads.
-/
namespace Datagrid

/-- Bytes in the order they travel. -/
abbrev Octets := List UInt8

namespace Octets

/-- The `width` low-order bytes of a number, the least significant first. -/
def littleEndian : Nat → Nat → Octets
  | 0, _ => []
  | width + 1, n => UInt8.ofNat n :: littleEndian width (n / 256)

/-- The number whose bytes these are, the least significant first. -/
def ofLittleEndian : Octets → Nat
  | [] => 0
  | b :: rest => b.toNat + 256 * ofLittleEndian rest

/-- The `width` low-order bytes of a number, the most significant first. -/
def bigEndian (width n : Nat) : Octets :=
  (littleEndian width n).reverse

/-- The number whose bytes these are, the most significant first. -/
def ofBigEndian (bytes : Octets) : Nat :=
  ofLittleEndian bytes.reverse

@[simp] theorem length_littleEndian (width n : Nat) : (littleEndian width n).length = width := by
  induction width generalizing n with
  | zero => rfl
  | succ width ih => simp [littleEndian, ih]

@[simp] theorem length_bigEndian (width n : Nat) : (bigEndian width n).length = width := by
  simp [bigEndian]

/-- The 64-bit number of the first eight bytes, the most significant first,
    with zeros for those that are missing. -/
def word64 (bytes : Octets) : UInt64 :=
  UInt64.ofNat (ofBigEndian ((bytes ++ List.replicate 8 0).take 8))

/-- The bytes as pairs of hexadecimal digits. -/
def hex (bytes : Octets) : String :=
  String.join (bytes.map fun b => Text.hexDigits 2 b.toNat)

/-- The bytes of pairs of hexadecimal digits. -/
def ofHexDigits : List Char → Octets
  | a :: b :: rest => UInt8.ofNat (Text.ofHexDigits [a, b]) :: ofHexDigits rest
  | _ => []

end Octets
end Datagrid
