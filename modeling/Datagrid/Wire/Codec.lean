import Datagrid.Payload.Data
import Datagrid.Wire.Address
import Datagrid.Wire.Message

/-!
Values in frames of their own. A codec gives the frames of a value and reads a
value back at a cursor. Texts, byte arrays, serialized values and packed lists
of numbers or identifiers take one frame each; an absent value takes a null
frame; a list stands between a begin and an end frame, and so does an address,
which may have grown fields that are not known here.
-/
namespace Datagrid

/-- The frames of a value, and a way to read them back. -/
structure Codec (α : Type) where
  frames : α → List Frame
  read : OnCursor α

variable {α β : Type}

namespace Cursor

/-- Reads a frame that holds a value, and refuses one that marks structure. -/
def takeValue (expected : FrameValue) : OnCursor Frame := do
  let f ← take
  if f.isStructural then throw (.framing (.structural expected f.flags))
  return f

/-- The first `count` pieces of `width` bytes each. -/
def pieces (width : Nat) : Nat → Octets → List Octets
  | 0, _ => []
  | count + 1, bytes => bytes.take width :: pieces width count (bytes.drop width)

/-- Reads the fields that are packed into the next frame. -/
def takePacked (field : Field α) : OnCursor (List α) := do
  let f ← take
  let size := f.content.length
  if size % field.width != 0 then throw (.framing (.raggedList field.width size))
  return (pieces field.width (size / field.width) f.content).map field.decode

/-- Reads items up to the end frame of their list, at most `fuel` of them. -/
def takeItems (item : OnCursor α) : Nat → OnCursor (List α)
  | 0 => throw (.framing .noListEnd)
  | fuel + 1 => do
    let c ← get
    if c.nextIsEnd then return []
    if !c.hasNext then throw (.framing .noListEnd)
    let first ← item
    let others ← takeItems item fuel
    return first :: others

/-- Lifts a result into a reading. -/
def settle : Except Fault α → OnCursor α
  | .ok a => return a
  | .error fault => throw fault

end Cursor

namespace Codec

open Cursor

def text : Codec String where
  frames s := [.ofContent (Text.Utf8.encode s)]
  read := do
    let f ← takeValue .text
    match Text.Utf8.decode f.content with
    | .ok s => return s
    | .error fault => throw (.framing (.notText fault))

def bytes : Codec Octets where
  frames content := [.ofContent content]
  read := do
    let f ← takeValue .bytes
    return f.content

def data : Codec Data where
  frames d := [.ofContent d.octets]
  read := do
    let f ← takeValue .data
    settle (Data.ofOctets f.content)

/-- Fields packed into one frame. -/
def packed (field : Field α) : Codec (List α) where
  frames items := [.ofContent (items.flatMap field.encode)]
  read := takePacked field

def ints : Codec (List Int32) := packed .int

def longs : Codec (List Int64) := packed .long

/-- Identifiers packed into one frame, none of them absent. -/
def uuids : Codec (List Uuid) where
  frames items := (packed .guid).frames (items.map some)
  read := do
    let items ← takePacked .guid
    match items.mapM id with
    | some items => return items
    | none => throw (.framing .nullListEntry)

/-- A value that may be absent. -/
def nullable (value : Codec α) : Codec (Option α) where
  frames
    | none => [.absent]
    | some a => value.frames a
  read := do
    let c ← get
    if c.peek.any Frame.isNull then
      skip
      return none
    let a ← value.read
    return some a

/-- Any number of values. -/
def list (item : Codec α) : Codec (List α) where
  frames items := .openStructure :: items.flatMap item.frames ++ [.closeStructure]
  read := do
    let f ← take
    if !f.isBegin then throw (.framing (.noListBegin f.flags))
    let c ← get
    let items ← takeItems item.read (c.rest.length + 1)
    skip
    return items

/-- The offset of the port in the frame of an address. -/
def portOffset : Nat := 0

def address : Codec Address where
  frames a :=
    [.openStructure, .ofContent (Field.int.encode a.port), .ofContent (Text.Utf8.encode a.host),
      .closeStructure]
  read := do
    skip
    let f ← take
    let port ← settle (f.read .int portOffset)
    let host ← text.read
    Cursor.closeStructure
    return ⟨host, port⟩

end Codec

namespace Message

def appendAll : List Frame → OnMessage Unit
  | [] => return
  | f :: rest => do
    append f
    appendAll rest

def put (codec : Codec α) (a : α) : OnMessage Unit := appendAll (codec.frames a)

end Message
end Datagrid
