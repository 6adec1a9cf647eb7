import Datagrid.Wire.Codec

/-!
The first frames of requests, responses and events, and how a message is read
that has to be of a given type. The fields of an operation follow the header in
the first frame; its other values have frames of their own.
-/
namespace Datagrid

/-- The message type of an error that a member answers with. -/
def errorType : Int32 := 0

namespace Frame

/-- The first frame of a message on any partition. -/
def opening (flags : Flags) (type : Int32) (fields : Octets) : Frame :=
  ⟨flags, Field.int.encode type ++ Field.long.encode 0 ++ Field.int.encode anyPartition ++ fields⟩

def ofRequest (type : Int32) (fields : Octets) : Frame :=
  opening .unfragmented type fields

def ofEvent (type : Int32) (fields : Octets) : Frame :=
  opening (Flags.unfragmented.set .isEvent) type fields

/-- The first frame of a response, which waits for no backup. -/
def ofResponse (type : Int32) (fields : Octets) : Frame :=
  ⟨.unfragmented,
    Field.int.encode type ++ Field.long.encode 0 ++ Field.byte.encode 0 ++ fields⟩

end Frame

namespace Message

variable {α : Type}

/-- An open message of the given frames. -/
def ofFrames (frames : List Frame) : Message := { empty with frames }

def requestOf (operation : String) (retryable : Bool) (frames : List Frame) : Message :=
  { request operation retryable with frames }

/-- Why a message of type `actual` cannot be read as one of type `expected`. -/
def typeFault (expected actual : Int32) : Fault :=
  .protocol (if actual = errorType then .memberError expected
    else .unexpectedType expected actual)

/-- Reads a message of a given type: its first frame, then the others. -/
def reading? (type : Int32) (body : Frame → OnCursor α) : OnMessage α := fun m =>
  match m.messageType with
  | .error fault => (.error fault, m)
  | .ok actual =>
    if actual = type then (m.reading do body (← Cursor.take))
    else (.error (typeFault type actual), m)

end Message

/-- Reads a field of the first frame. -/
def Frame.field {α : Type} (f : Frame) (field : Field α) (offset : Nat) : OnCursor α :=
  Cursor.settle (f.read field offset)

end Datagrid
