import Datagrid.Wire.Message

/-!
Fragments. A message above a size limit is cut between frames into runs, each
as long as the limit allows, and every run travels behind a header frame that
holds the id of the message and says whether the run is its first or its last.
A frame is never cut: one that is too large is a run by itself.
-/
namespace Datagrid

/-- The offset of the id in the header frame of a fragment. -/
def fragmentIdOffset : Nat := 0

/-- The bytes of the header frame of a fragment. -/
def fragmentHeaderSize : Nat := frameHeaderSize + Field.long.width

namespace Fragment

/-- Cuts frames into runs. `run` is the one that is being filled, in reverse,
    and `size` the bytes of its fragment so far. -/
def runsFrom (limit : Nat) : List Frame → Nat → List Frame → List (List Frame)
  | [], _, [] => []
  | run, _, [] => [run.reverse]
  | run, size, f :: rest =>
    if !run.isEmpty && limit < size + f.wireSize then
      run.reverse :: runsFrom limit [f] (fragmentHeaderSize + f.wireSize) rest
    else runsFrom limit (f :: run) (size + f.wireSize) rest

/-- Cuts frames into runs whose fragments stay within the limit, where a single
    frame does. -/
def runs (limit : Nat) (frames : List Frame) : List (List Frame) :=
  runsFrom limit [] fragmentHeaderSize frames

/-- The frame before the run of a fragment. -/
def header (id : Int64) (flags : Flags) : Frame := ⟨flags, Field.long.encode id⟩

/-- The fragments of the runs after the first. -/
def laterParts (id : Int64) : List (List Frame) → List Message
  | [] => []
  | [run] => [.received (header id .endFragment :: run)]
  | run :: rest => .received (header id .plain :: run) :: laterParts id rest

def parts (id : Int64) : List (List Frame) → List Message
  | [] => []
  | run :: rest => .received (header id .beginFragment :: run) :: laterParts id rest

end Fragment

namespace Message

/-- The runs that a message is cut into, if it has to be cut and can be. -/
def runs? (m : Message) (limit : Nat) : Option (List (List Frame)) :=
  if m.wireSize ≤ limit then none
  else
    let runs := Fragment.runs limit m.frames
    if runs.length < 2 then none else some runs

/-- The parts that a message is sent in, with `id` for its fragments if it is
    cut. -/
def split (m : Message) (limit : Nat) (id : Int64) : List Message :=
  match m.runs? limit with
  | none => [m.copy]
  | some runs => Fragment.parts id runs

/-- Whether `split` cuts the message and so uses the id. -/
def isCut (m : Message) (limit : Nat) : Bool := (m.runs? limit).isSome

end Message
end Datagrid
