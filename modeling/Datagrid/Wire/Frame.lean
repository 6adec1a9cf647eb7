import Datagrid.Wire.Field
import Datagrid.Wire.Flags

/-!
Frames, the units of the wire: flags and content. A frame travels as its
length (four bytes, counting the whole frame), its flags (two bytes) and its
content; `Frame.take?` undoes `Frame.wire` and leaves what follows.
-/
namespace Datagrid

/-- The bytes of the length field of a frame. -/
def lengthSize : Nat := 4

/-- The bytes of the flags of a frame. -/
def flagsSize : Nat := 2

/-- The bytes of a frame before its content. -/
def frameHeaderSize : Nat := lengthSize + flagsSize

structure Frame where
  flags : Flags
  content : Octets
  deriving DecidableEq

namespace Frame

/-- A frame that holds bytes and nothing else. -/
def ofContent (content : Octets) : Frame := ⟨.plain, content⟩

/-- A frame that says all with its flags. -/
def ofFlags (flags : Flags) : Frame := ⟨flags, []⟩

/-- A frame of zeros, for fields to be written to. -/
def zeroed (size : Nat) (flags : Flags) : Frame := ⟨flags, List.replicate size 0⟩

/-- The frame that opens a nested structure. -/
def openStructure : Frame := ofFlags .beginStructure

/-- The frame that closes a nested structure. -/
def closeStructure : Frame := ofFlags .endStructure

def absent : Frame := ofFlags .isNull

def isBegin (f : Frame) : Bool := f.flags.has .beginStructure
def isEnd (f : Frame) : Bool := f.flags.has .endStructure
def isNull (f : Frame) : Bool := f.flags.has .isNull
def isFinal (f : Frame) : Bool := f.flags.has .isFinal
def isEvent (f : Frame) : Bool := f.flags.has .isEvent
def isBackupEvent (f : Frame) : Bool := f.flags.has .backupEvent
def isBeginFragment (f : Frame) : Bool := f.flags.has .beginFragment
def isEndFragment (f : Frame) : Bool := f.flags.has .endFragment
def isUnfragmented (f : Frame) : Bool := f.flags.hasAll .unfragmented

/-- Whether a frame marks structure and holds no value. -/
def isStructural (f : Frame) : Bool := f.isNull || f.isBegin || f.isEnd

/-- The frame as the last of its message. -/
def final (f : Frame) : Frame := { f with flags := f.flags.set .isFinal }

/-- The frame without the mark of the last one. -/
def unfinal (f : Frame) : Frame := { f with flags := f.flags.clear .isFinal }

/-- The bytes that a frame takes on the wire. -/
def wireSize (f : Frame) : Nat := frameHeaderSize + f.content.length

def wire (f : Frame) : Octets :=
  Octets.littleEndian lengthSize f.wireSize ++
    Octets.littleEndian flagsSize f.flags.toNat ++ f.content

/-- What stands at the beginning of some bytes. -/
inductive Arrival where
  /-- A frame, and the bytes after it. -/
  | frame (f : Frame) (rest : Octets)
  /-- Too few bytes for a frame, so far. -/
  | incomplete
  /-- No frame, whatever follows. -/
  | malformed (fault : FramingFault)

def take? (bytes : Octets) : Arrival :=
  if bytes.length < lengthSize then .incomplete
  else
    let size := Octets.ofLittleEndian (bytes.take lengthSize)
    if size < frameHeaderSize then .malformed (.undersized size)
    else if bytes.length < size then .incomplete
    else
      let body := (bytes.take size).drop lengthSize
      .frame ⟨UInt16.ofNat (Octets.ofLittleEndian (body.take flagsSize)), body.drop flagsSize⟩
        (bytes.drop size)

variable {α : Type}

/-- The value of a field of the content. -/
def read (f : Frame) (field : Field α) (offset : Nat) : Except Fault α :=
  field.read f.content offset

/-- The frame with a field of its content set. -/
def write (f : Frame) (field : Field α) (offset : Nat) (value : α) : Except Fault Frame := do
  let content ← field.write f.content offset value
  return { f with content }

theorem length_drop_of_take? {bytes rest : Octets} {f : Frame} (h : take? bytes = .frame f rest) :
    rest.length < bytes.length := by
  unfold take? at h
  split at h
  · cases h
  · simp only at h
    split at h
    · cases h
    · split at h
      · cases h
      · cases h
        simp only [List.length_drop]
        simp only [lengthSize, frameHeaderSize, flagsSize] at *
        omega

/-- All frames of some bytes, the fault that ends them, if one does, and the
    bytes that are left. -/
def takeAll (bytes : Octets) : List Frame × Option FramingFault × Octets :=
  match _h : take? bytes with
  | .incomplete => ([], none, bytes)
  | .malformed fault => ([], some fault, bytes)
  | .frame f rest =>
    let (frames, fault, left) := takeAll rest
    (f :: frames, fault, left)
termination_by bytes.length
decreasing_by exact length_drop_of_take? _h

end Frame
end Datagrid
