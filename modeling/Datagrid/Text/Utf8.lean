/-!
Text as UTF-8 bytes. Bytes that are no text are refused with the place where
they stop being one: the longest beginning of a character that the bytes still
follow, or the character that the end of the input cuts short.
-/
namespace Datagrid.Text.Utf8

inductive Fault where
  /-- The `width` bytes from `index` begin no character. -/
  | invalid (width index : Nat)
  /-- The input ends inside the character that begins at `index`. -/
  | incomplete (index : Nat)
  deriving DecidableEq

def Fault.message : Fault → String
  | .invalid width index => s!"invalid utf-8 sequence of {width} bytes from index {index}"
  | .incomplete index => s!"incomplete utf-8 byte sequence from index {index}"

/-- A character that has begun: where, how many of its bytes have been seen,
    how many are to come, and the range of the next one. -/
structure Begun where
  index : Nat
  seen : Nat
  owed : Nat
  low : UInt8
  high : UInt8

/-- The character that a first byte at `index` begins, `some none` if the byte
    is a character by itself. -/
def lead (index : Nat) (b : UInt8) : Option (Option Begun) :=
  if b < 0x80 then some none
  else if b < 0xC2 then none
  else if b < 0xE0 then some (some ⟨index, 1, 1, 0x80, 0xBF⟩)
  else if b == 0xE0 then some (some ⟨index, 1, 2, 0xA0, 0xBF⟩)
  else if b == 0xED then some (some ⟨index, 1, 2, 0x80, 0x9F⟩)
  else if b < 0xF0 then some (some ⟨index, 1, 2, 0x80, 0xBF⟩)
  else if b == 0xF0 then some (some ⟨index, 1, 3, 0x90, 0xBF⟩)
  else if b < 0xF4 then some (some ⟨index, 1, 3, 0x80, 0xBF⟩)
  else if b == 0xF4 then some (some ⟨index, 1, 3, 0x80, 0x8F⟩)
  else none

/-- The character after one more byte, `some none` once it is complete. -/
def Begun.next (c : Begun) (b : UInt8) : Option (Option Begun) :=
  if c.low ≤ b && b ≤ c.high then
    some (if c.owed ≤ 1 then none else some ⟨c.index, c.seen + 1, c.owed - 1, 0x80, 0xBF⟩)
  else none

/-- The first fault of bytes that stand from `index` on, after the beginning
    of a character or between two characters. -/
def faultFrom : Option Begun → Nat → List UInt8 → Option Fault
  | none, _, [] => none
  | some c, _, [] => some (.incomplete c.index)
  | none, index, b :: rest =>
    match lead index b with
    | none => some (.invalid 1 index)
    | some begun => faultFrom begun (index + 1) rest
  | some c, index, b :: rest =>
    match c.next b with
    | none => some (.invalid c.seen c.index)
    | some begun => faultFrom begun (index + 1) rest

/-- The first fault of bytes, if they are not UTF-8. -/
def fault? (bytes : List UInt8) : Option Fault :=
  faultFrom none 0 bytes

def encode (text : String) : List UInt8 :=
  text.toByteArray.data.toList

def decode (bytes : List UInt8) : Except Fault String :=
  match String.fromUTF8? ⟨bytes.toArray⟩ with
  | some text => .ok text
  | none => .error ((fault? bytes).getD (.incomplete 0))

end Datagrid.Text.Utf8
