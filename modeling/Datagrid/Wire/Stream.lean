import Datagrid.Wire.Fragment

/-!
Messages on a stream of bytes. An encoder writes a message whole or in
fragments. A decoder collects frames into units, each up to a frame marked as
the last: a unit is a message, or a fragment of one. Fragments of different
messages may alternate, and only so many messages may be open at a time.
-/
namespace Datagrid

/-- The bytes of a message, cut into fragments where it is larger than the
    limit, if there is one. -/
def encodeMessage (limit : Option Nat) (id : Int64) (m : Message) : Except Fault Octets :=
  if m.frames.isEmpty then .error (.protocol .emptyMessage)
  else
    match limit with
    | none => .ok m.wire
    | some limit => .ok ((m.split limit id).flatMap Message.wire)

/-- Whether `encodeMessage` uses the id that it is given. -/
def usesFragmentId (limit : Option Nat) (m : Message) : Bool :=
  limit.any m.isCut

/-- An encoder: the size above which it cuts messages, and the id of the next
    message that it cuts. -/
structure Encoder where
  limit : Option Nat
  nextId : Nat

namespace Encoder

def new (limit : Option Nat) : Encoder := ⟨limit, 1⟩

/-- The bytes of a message, and the encoder after it. -/
def encode (e : Encoder) (m : Message) : Except Fault Octets × Encoder :=
  (encodeMessage e.limit (.ofNat e.nextId) m,
    if usesFragmentId e.limit m then { e with nextId := e.nextId + 1 } else e)

end Encoder

/-- The messages that a decoder keeps open if nothing else is said. -/
def defaultOpenLimit : Nat := 256

/-- A decoder between two frames. -/
structure Decoder where
  /-- The frames of the unit that has begun. -/
  pending : List Frame
  /-- The frames of the messages that have begun, by fragment id. -/
  fragments : List (Int64 × List Frame)
  /-- How many messages may be open at a time. -/
  limit : Nat

namespace Decoder

def new (limit : Nat) : Decoder := ⟨[], [], limit⟩

/-- The frames of the open message with an id. -/
def find? (d : Decoder) (id : Int64) : Option (List Frame) := d.fragments.lookup id

def remove (d : Decoder) (id : Int64) : Decoder :=
  { d with fragments := d.fragments.filter (·.1 != id) }

def insert (d : Decoder) (id : Int64) (frames : List Frame) : Decoder :=
  { d with fragments := d.fragments ++ [(id, frames)] }

def extend (d : Decoder) (id : Int64) (frames : List Frame) : Decoder :=
  { d with fragments := d.fragments.map fun (other, held) =>
      if other == id then (other, held ++ frames) else (other, held) }

/-- The frames of a fragment that is not the last of its message: its own last
    frame is not the last of the message. -/
def unfinalLast : List Frame → List Frame
  | [] => []
  | [f] => [f.unfinal]
  | f :: rest => f :: unfinalLast rest

/-- What a unit yields. -/
inductive Yield where
  | message (m : Message)
  /-- The unit is part of a message that is not complete, or of no open one. -/
  | nothing
  | fault (fault : Fault)

def unit (d : Decoder) : List Frame → Decoder × Yield
  | [] => (d, .nothing)
  | first :: body =>
    if first.isUnfragmented then (d, .message (.received (first :: body)))
    else
      match first.read .long fragmentIdOffset with
      | .error fault => (d, .fault fault)
      | .ok id =>
        if first.isBeginFragment then
          if (d.find? id).isSome then (d, .fault (.framing (.repeatedFragment id)))
          else if d.limit ≤ d.fragments.length then
            (d, .fault (.framing (.tooManyFragments d.limit)))
          else (d.insert id (unfinalLast body), .nothing)
        else
          match d.find? id with
          | none => (d, .nothing)
          | some held =>
            if first.isEndFragment then (d.remove id, .message (.received (held ++ body)))
            else (d.extend id (unfinalLast body), .nothing)

def accept (d : Decoder) (f : Frame) : Decoder × Yield :=
  if f.isFinal then { d with pending := [] }.unit (d.pending ++ [f])
  else ({ d with pending := d.pending ++ [f] }, .nothing)

/-- Takes in the frames of a buffer up to the first that completes a message or
    fails. Leaves the bytes that are no complete frame, or that begin none. -/
def next (d : Decoder) (buffer : Octets) : Decoder × Octets × Yield :=
  match _h : Frame.take? buffer with
  | .incomplete => (d, buffer, .nothing)
  | .malformed fault => (d, buffer, .fault (.framing fault))
  | .frame f rest =>
    match d.accept f with
    | (d, .nothing) => d.next rest
    | (d, yield) => (d, rest, yield)
termination_by buffer.length
decreasing_by exact Frame.length_drop_of_take? _h

/-- What a decoder gets out of a buffer: messages, up to a fault. -/
structure Harvest where
  messages : List Message
  fault : Option Fault
  decoder : Decoder
  left : Octets

theorem next_shorter (d : Decoder) (buffer : Octets) :
    (d.next buffer).2.1.length ≤ buffer.length ∧
      (∀ m, (d.next buffer).2.2 = .message m → (d.next buffer).2.1.length < buffer.length) := by
  fun_induction next d buffer with
  | case1 => exact ⟨Nat.le_refl _, by simp⟩
  | case2 => exact ⟨Nat.le_refl _, by simp⟩
  | case3 d buffer f rest h d' _ ih =>
    have shorter := Frame.length_drop_of_take? h
    exact ⟨by omega, fun m is => by have := ih.2 m is; omega⟩
  | case4 d buffer f rest h d' yield _ _ =>
    have shorter := Frame.length_drop_of_take? h
    exact ⟨Nat.le_of_lt shorter, fun _ _ => shorter⟩

/-- Takes all messages out of a buffer, up to a fault. -/
def drain (d : Decoder) (buffer : Octets) : Harvest :=
  match _h : d.next buffer with
  | (d', left, .message m) =>
    let harvest := d'.drain left
    { harvest with messages := m :: harvest.messages }
  | (d', left, .fault fault) => ⟨[], some fault, d', left⟩
  | (d', left, .nothing) => ⟨[], none, d', left⟩
termination_by buffer.length
decreasing_by
  have shorter := (next_shorter d buffer).2 m (by rw [_h])
  rw [_h] at shorter
  exact shorter

end Decoder
end Datagrid
