import Datagrid.Payload.Data

/-!
Payloads as streams of bytes, most significant byte first. A source is read
from front to back; where a reading fails, what it has consumed by then stays
consumed.
-/
namespace Datagrid

/-- The bytes of a payload that are still to be read, and how many have been. -/
structure Source where
  position : Nat
  rest : Octets
  deriving DecidableEq

/-- A program that reads a payload. -/
abbrev OnSource := ExceptT Fault (StateM Source)

namespace Source

def ofOctets (bytes : Octets) : Source := ⟨0, bytes⟩

/-- The number of bytes still to be read. -/
def remaining (s : Source) : Nat := s.rest.length

def octets (count : Nat) : OnSource Octets := fun s =>
  if s.remaining < count then (.error (.payload (.insufficient count s.remaining)), s)
  else (.ok (s.rest.take count), ⟨s.position + count, s.rest.drop count⟩)

def number (width : Nat) : OnSource Nat := do
  let bytes ← octets width
  return Octets.ofBigEndian bytes

def byte : OnSource Int8 := do
  let n ← number 1
  return (UInt8.ofNat n).toInt8

/-- Any byte but zero reads as true. -/
def bool : OnSource Bool := do
  let b ← byte
  return b != 0

def short : OnSource Int16 := do
  let n ← number 2
  return (UInt16.ofNat n).toInt16

def int : OnSource Int32 := do
  let n ← number 4
  return (UInt32.ofNat n).toInt32

def long : OnSource Int64 := do
  let n ← number 8
  return (UInt64.ofNat n).toInt64

/-- The bits of a single-precision number. -/
def float : OnSource UInt32 := do
  let n ← number 4
  return UInt32.ofNat n

/-- The bits of a double-precision number. -/
def double : OnSource UInt64 := do
  let n ← number 8
  return UInt64.ofNat n

/-- Reads bytes behind their number. -/
def bytes : OnSource Octets := do
  let length ← int
  if length < 0 then throw (.payload (.negativeLength length))
  octets length.toInt.toNat

/-- Reads a text behind the number of its bytes. -/
def text : OnSource String := do
  let content ← bytes
  match Text.Utf8.decode content with
  | .ok s => return s
  | .error fault => throw (.payload (.notText fault))

def uuid : OnSource Uuid := do
  let high ← number 8
  let low ← number 8
  return ⟨UInt64.ofNat high, UInt64.ofNat low⟩

end Source
end Datagrid
