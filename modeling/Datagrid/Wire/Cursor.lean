import Datagrid.Wire.Frame

/-!
A cursor over the frames of one message, which only moves forward. Readers are
programs on a cursor: where one fails the cursor stays where it got to.
-/
namespace Datagrid

/-- The frames of a message that are still to be read, and how many have
    been. -/
structure Cursor where
  operation : String
  position : Nat
  rest : List Frame
  deriving DecidableEq

/-- A program that reads at a cursor. -/
abbrev OnCursor := ExceptT Fault (StateM Cursor)

namespace Cursor

/-- The number of all frames, read or not. -/
def size (c : Cursor) : Nat := c.position + c.rest.length

/-- The next frame, not yet read. -/
def peek (c : Cursor) : Option Frame := c.rest.head?

def hasNext (c : Cursor) : Bool := !c.rest.isEmpty

def nextIsEnd (c : Cursor) : Bool := c.peek.any Frame.isEnd

def take : OnCursor Frame := fun c =>
  match c.rest with
  | [] => (.error (.framing (.ended c.operation c.position)), c)
  | f :: rest => (.ok f, { c with position := c.position + 1, rest })

/-- Reads the next frame without a look at it. -/
def skip : OnCursor Unit := do
  let _ ← take

/-- The frames up to the end frame that closes `depth` open structures, and
    those after it: how many are skipped and what remains. -/
def skipStructures : Nat → List Frame → Option (Nat × List Frame)
  | 0, rest => some (0, rest)
  | _ + 1, [] => none
  | depth + 1, f :: rest =>
    let depth := if f.isEnd then depth else if f.isBegin then depth + 2 else depth + 1
    (skipStructures depth rest).map fun (count, rest) => (count + 1, rest)

/-- Skips the rest of the open structure, nested ones as wholes, and the end
    frame that closes it. Where there is none, all frames are read. -/
def closeStructure : OnCursor Unit := fun c =>
  match skipStructures 1 c.rest with
  | some (count, rest) => (.ok (), { c with position := c.position + count, rest })
  | none => (.error (.framing (.ended c.operation c.size)), { c with position := c.size, rest := [] })

/-- The text of a cursor for diagnostics. -/
def debugText (c : Cursor) : String :=
  s!"FrameIterator \x7b position: {c.position}, frames: {c.size} \x7d"

end Cursor
end Datagrid
