import Datagrid.Fault
import Datagrid.Payload.Murmur

/-!
Serialized values: a partition hash, the id of the serializer and its payload.
A hash of zero means that the payload is hashed instead. Values are spread over
partitions by their hash.
-/
namespace Datagrid

/-- Offsets of the hash and of the type id in a serialized value. -/
def hashOffset : Nat := 0
def typeIdOffset : Nat := 4

/-- The bytes before the payload of a serialized value. -/
def dataHeaderSize : Nat := 8

/-- A serialized value. Its bytes include the whole header. -/
structure Data where
  octets : Octets
  complete : dataHeaderSize ≤ octets.length
  deriving DecidableEq

namespace Data

/-- A 32-bit number as four bytes, the most significant first. -/
def intOctets (n : Int32) : Octets := Octets.bigEndian 4 n.toUInt32.toNat

/-- The 32-bit number of four bytes, the most significant first. -/
def ofIntOctets (bytes : Octets) : Int32 := (UInt32.ofNat (Octets.ofBigEndian bytes)).toInt32

def ofParts (typeId hash : Int32) (payload : Octets) : Data where
  octets := intOctets hash ++ (intOctets typeId ++ payload)
  complete := by simp [intOctets, dataHeaderSize]; omega

def ofOctets (octets : Octets) : Except Fault Data :=
  if complete : dataHeaderSize ≤ octets.length then .ok ⟨octets, complete⟩
  else .error (.framing (.short .dataHeader dataHeaderSize octets.length))

/-- The hash that the header gives, zero for none. -/
def givenHash (d : Data) : Int32 := ofIntOctets ((d.octets.drop hashOffset).take 4)

def typeId (d : Data) : Int32 := ofIntOctets ((d.octets.drop typeIdOffset).take 4)

def payload (d : Data) : Octets := d.octets.drop dataHeaderSize

def size (d : Data) : Nat := d.octets.length

def hasHash (d : Data) : Bool := d.givenHash != 0

def hashSeed : UInt32 := 0x01000193

/-- The hash that decides on the partition. -/
def partitionHash (d : Data) : Int32 :=
  if d.hasHash then d.givenHash else (Murmur.hash hashSeed d.payload).toInt32

/-- The partition of a value among `count`; the least hash has no absolute
    value and stands for partition 0. -/
def partition (d : Data) (count : Int32) : Int32 :=
  if count ≤ 0 then 0
  else if d.partitionHash == Int32.minValue then 0
  else d.partitionHash.abs % count

/-- The text of a value for diagnostics. -/
def debugText (d : Data) : String :=
  s!"Data \x7b type_id: {d.typeId.toInt}, payload_len: {d.payload.length} \x7d"

end Data
end Datagrid
