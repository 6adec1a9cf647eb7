import Datagrid.Text.Quoted
import Datagrid.Wire.Cursor

/-!
Messages: frames, the first of which carries the header, with what a client
knows of its own requests. A sealed message takes no further frames. The frames
of a message are lent to one reader at a time, and every reading gives them
back.
-/
namespace Datagrid

/-- Offsets of the header fields in the first frame of a message. -/
def typeOffset : Nat := 0
def correlationOffset : Nat := 4
def partitionOffset : Nat := 12
def backupAcksOffset : Nat := 12

/-- The bytes of the header of a request, of a response and of an event. -/
def requestHeaderSize : Nat := 16
def responseHeaderSize : Nat := 13
def eventHeaderSize : Nat := 16

/-- The partition of a request that any partition may serve. -/
def anyPartition : Int32 := -1

structure Message where
  operation : String
  retryable : Bool
  isSealed : Bool
  /-- Whether a reader has the frames. -/
  lent : Bool
  frames : List Frame
  deriving DecidableEq

/-- A program that appends to a message or reads it. -/
abbrev OnMessage := ExceptT Fault (StateM Message)

namespace Message

def empty : Message := ⟨"", false, false, false, []⟩

def request (operation : String) (retryable : Bool) : Message :=
  { empty with operation, retryable }

/-- A message as it arrives: nothing is added to it any more. -/
def received (frames : List Frame) : Message :=
  { empty with isSealed := true, frames }

/-- A copy to be sent again: open, and lent to nobody. -/
def copy (m : Message) : Message := { m with isSealed := false, lent := false }

/-- The message with nothing more to be added. -/
def sealed (m : Message) : Message := { m with isSealed := true }

/-- Whether two messages have the same frames. -/
def sameFrames (m n : Message) : Bool := m.frames == n.frames

/-- The bytes that a message takes on the wire. -/
def wireSize (m : Message) : Nat := m.frames.foldr (·.wireSize + ·) 0

/-- The frames as they are sent, the last one marked as such. -/
def sentFrames : List Frame → List Frame
  | [] => []
  | [f] => [f.final]
  | f :: rest => f :: sentFrames rest

def wire (m : Message) : Octets := (sentFrames m.frames).flatMap Frame.wire

/-- Whether the first frame carries the mark of an event. -/
def isEvent (m : Message) : Bool := m.frames.head?.any Frame.isEvent

variable {α : Type}

def header (m : Message) (field : Field α) (offset : Nat) : Except Fault α :=
  match m.frames with
  | [] => .error (.framing .noInitialFrame)
  | f :: _ => f.read field offset

/-- The message with a field of its header set. -/
def setHeader (m : Message) (field : Field α) (offset : Nat) (value : α) : Except Fault Message :=
  match m.frames with
  | [] => .error (.framing .noInitialFrame)
  | f :: rest => do
    let f ← f.write field offset value
    return { m with frames := f :: rest }

def messageType (m : Message) : Except Fault Int32 := m.header .int typeOffset

def correlation (m : Message) : Except Fault Int64 := m.header .long correlationOffset

def partition (m : Message) : Except Fault Int32 := m.header .int partitionOffset

/-- How many backups have to acknowledge before a response counts. -/
def backupAcks (m : Message) : Except Fault UInt8 := m.header .byte backupAcksOffset

def setCorrelation (m : Message) (id : Int64) : Except Fault Message :=
  m.setHeader .long correlationOffset id

def setPartition (m : Message) (id : Int32) : Except Fault Message :=
  m.setHeader .int partitionOffset id

def append (f : Frame) : OnMessage Unit := fun m =>
  if m.isSealed then (.error (.protocol (.sealed m.operation)), m)
  else (.ok (), { m with frames := m.frames ++ [f] })

/-- Lends the frames to a reader, unless one has them. -/
def lend (m : Message) : Except Fault (Cursor × Message) :=
  if m.lent then .error (.protocol (.lent m.operation))
  else .ok (⟨m.operation, 0, m.frames⟩, { m with lent := true })

/-- The message with its frames given back. -/
def release (m : Message) : Message := { m with lent := false }

/-- Reads the message from its first frame on, and gives the frames back
    whether that succeeds or not. -/
def reading (body : OnCursor α) : OnMessage α := fun m =>
  match m.lend with
  | .error fault => (.error fault, m)
  | .ok (cursor, m) => ((body.run cursor).1, m.release)

/-- What a program on a message finds, without what it leaves. -/
def inspect (m : Message) (body : OnMessage α) : Except Fault α := (body.run m).1

/-- The message that a program builds from a message. -/
def build (m : Message) (body : OnMessage Unit) : Except Fault Message :=
  match body.run m with
  | (.ok (), m) => .ok m
  | (.error fault, _) => .error fault

/-- An optional number for diagnostics. -/
def debugNumber : Option Int → String
  | none => "None"
  | some n => s!"Some({n})"

/-- The text of a message for diagnostics. -/
def debugText (m : Message) : String :=
  let type := m.messageType.toOption.map Int32.toInt
  let correlation := m.correlation.toOption.map Int64.toInt
  "ClientMessage \x7b operation_name: " ++ Text.quoted m.operation ++
    ", message_type: " ++ debugNumber type ++ ", correlation_id: " ++ debugNumber correlation ++
    s!", frames: {m.frames.length}, retryable: {m.retryable}, sealed: {m.isSealed} \x7d"

end Message
end Datagrid
