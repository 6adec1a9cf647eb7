import Datagrid.Wire.Stream
import Datagrid.Proofs.Wire.Frames
import Mathlib.Data.List.Basic

/-!
# Units on the wire

A unit is a message or a fragment of one: frames of which only the last is
marked as such. A decoder between two units reads the bytes of a unit as that
unit, whatever follows, and what it then does is `Decoder.unit`. The fragments
of a message are its runs, each behind a header frame that says where it
stands.
-/
namespace Datagrid

/-! ## Frames as they are sent -/

namespace Message

theorem sentFrames_concat (body : List Frame) (last : Frame) :
    sentFrames (body ++ [last]) = body ++ [last.final] := by
  induction body with
  | nil => rfl
  | cons f body ih =>
    cases body with
    | nil => rfl
    | cons g body => simp only [List.cons_append, sentFrames] at ih ⊢; rw [ih]

theorem sentFrames_append (before run : List Frame) (some : run ≠ []) :
    sentFrames (before ++ run) = before ++ sentFrames run := by
  obtain ⟨body, last, rfl⟩ := List.eq_nil_or_concat' run |>.resolve_left some
  rw [← List.append_assoc, sentFrames_concat, sentFrames_concat, List.append_assoc]

/-- A message that travels as one unit: only its last frame may be marked as
    the last one, and the length field of every frame can say its length. -/
structure IsUnit (m : Message) : Prop where
  some : m.frames ≠ []
  unmarked : ∀ f ∈ m.frames.dropLast, f.isFinal = false
  fits : ∀ f ∈ m.frames, f.wireSize < 256 ^ lengthSize

end Message

theorem Decoder.unfinalLast_sentFrames {run : List Frame} (unmarked : ∀ f ∈ run, f.isFinal = false) :
    Decoder.unfinalLast (Message.sentFrames run) = run := by
  induction run with
  | nil => rfl
  | cons f run ih =>
    cases run with
    | nil =>
      have restored := f.unfinal_final (unmarked f (by simp))
      simp only [Message.sentFrames, Decoder.unfinalLast, restored]
    | cons g run =>
      have tail := ih (fun h member => unmarked h (by simp [member]))
      cases run with
      | nil => simp_all [Message.sentFrames, Decoder.unfinalLast]
      | cons h run =>
        simp only [Message.sentFrames, Decoder.unfinalLast] at tail ⊢
        rw [tail]

/-! ## Reading a unit -/

namespace Decoder

/-- What `next` comes to once a frame has been taken in and `rest` is left. -/
def onward (rest : Octets) : Decoder × Yield → Decoder × Octets × Yield
  | (d, .nothing) => d.next rest
  | (d, yield) => (d, rest, yield)

theorem next_of_take? {d : Decoder} {buffer rest : Octets} {f : Frame}
    (taken : Frame.take? buffer = .frame f rest) :
    d.next buffer = onward rest (d.accept f) := by
  rw [next]
  split <;> simp_all only [reduceCtorEq, Frame.Arrival.frame.injEq]
  rcases d.accept f with ⟨d', _ | _ | _⟩ <;> rfl

theorem next_frames (d : Decoder) (body : List Frame) (last : Frame) (rest : Octets)
    (unmarked : ∀ f ∈ body, f.isFinal = false) (marked : last.isFinal = true)
    (fits : ∀ f ∈ body ++ [last], f.wireSize < 256 ^ lengthSize) :
    d.next ((body ++ [last]).flatMap Frame.wire ++ rest) =
      onward rest ({ d with pending := [] }.unit (d.pending ++ body ++ [last])) := by
  induction body generalizing d with
  | nil =>
    have taken := last.take?_wire rest (fits last (by simp))
    simp only [List.nil_append, List.flatMap_cons, List.flatMap_nil, List.append_nil]
    rw [next_of_take? taken, accept, if_pos marked]
  | cons f body ih =>
    have taken := f.take?_wire ((body ++ [last]).flatMap Frame.wire ++ rest) (fits f (by simp))
    have accepted : d.accept f = ({ d with pending := d.pending ++ [f] }, .nothing) := by
      rw [accept, unmarked f (by simp), if_neg (by simp)]
    rw [List.cons_append, List.flatMap_cons, List.append_assoc, next_of_take? taken, accepted]
    have later := ih { d with pending := d.pending ++ [f] } (fun g member => unmarked g (by simp [member]))
      (fun g member => fits g (List.mem_cons_of_mem f member))
    rw [onward, later]
    simp only [List.append_assoc, List.cons_append, List.nil_append]

/-- A decoder between two units reads a unit as what was sent. -/
theorem next_wire {d : Decoder} (boundary : d.pending = []) {m : Message} (isUnit : m.IsUnit) (rest : Octets) :
    d.next (m.wire ++ rest) = onward rest (d.unit (Message.sentFrames m.frames)) := by
  obtain ⟨body, last, split⟩ := List.eq_nil_or_concat' m.frames |>.resolve_left isUnit.some
  have unmarked : ∀ f ∈ body, f.isFinal = false := fun f member =>
    isUnit.unmarked f (by rw [split, List.dropLast_concat]; exact member)
  have fits : ∀ f ∈ body ++ [last.final], f.wireSize < 256 ^ lengthSize := by
    intro f member
    rcases List.mem_append.mp member with inside | is
    · exact isUnit.fits f (by rw [split]; exact List.mem_append_left _ inside)
    · have same : f = last.final := by simpa using is
      rw [same, Frame.wireSize_final]
      exact isUnit.fits last (by rw [split]; simp)
  have read := next_frames d body last.final rest unmarked last.isFinal_final fits
  have same : ({ d with pending := [] } : Decoder) = d := by
    obtain ⟨pending, fragments, limit⟩ := d
    simp only at boundary
    rw [boundary]
  rw [same, boundary, List.nil_append] at read
  rw [Message.wire, split, Message.sentFrames_concat]
  exact read

/-- A harvest with a message before all others. -/
def Harvest.cons (m : Message) (harvest : Harvest) : Harvest :=
  { harvest with messages := m :: harvest.messages }

theorem drain_of_next_eq {d d' : Decoder} {buffer buffer' : Octets} (same : d.next buffer = d'.next buffer') :
    d.drain buffer = d'.drain buffer' := by
  rw [drain, drain]
  split <;> split <;> simp_all

theorem drain_of_next_message {d d' : Decoder} {buffer left : Octets} {m : Message}
    (yields : d.next buffer = (d', left, .message m)) : d.drain buffer = (d'.drain left).cons m := by
  rw [drain]
  split <;> simp_all [Harvest.cons]

theorem drain_of_silent {d d' : Decoder} (boundary : d.pending = []) {m : Message} (isUnit : m.IsUnit)
    (silent : d.unit (Message.sentFrames m.frames) = (d', .nothing)) (rest : Octets) :
    d.drain (m.wire ++ rest) = d'.drain rest := by
  apply drain_of_next_eq
  rw [next_wire boundary isUnit, silent, onward]

theorem drain_of_message {d d' : Decoder} (boundary : d.pending = []) {m yield : Message} (isUnit : m.IsUnit)
    (yields : d.unit (Message.sentFrames m.frames) = (d', .message yield)) (rest : Octets) :
    d.drain (m.wire ++ rest) = (d'.drain rest).cons yield := by
  apply drain_of_next_message
  rw [next_wire boundary isUnit, yields]
  rfl

theorem drain_nil {d : Decoder} : d.drain [] = ⟨[], none, d, []⟩ := by
  have none : Frame.take? [] = .incomplete := rfl
  have waits : d.next [] = (d, [], .nothing) := by
    rw [next]
    split <;> simp_all
  rw [drain]
  split <;> simp_all

/-! ## What a unit does -/

theorem unit_whole (d : Decoder) {frames : List Frame} (unfragmented : frames.head?.any Frame.isUnfragmented) :
    d.unit frames = (d, .message (.received frames)) := by
  cases frames with
  | nil => simp at unfragmented
  | cons first body =>
    have whole : first.isUnfragmented = true := by simpa using unfragmented
    simp only [unit, whole, if_true]

variable {d : Decoder} {id : Int64} {held run : List Frame}

theorem unit_begin (fresh : d.find? id = none) (room : d.fragments.length < d.limit)
    (unmarked : ∀ f ∈ run, f.isFinal = false) :
    d.unit (Fragment.header id .beginFragment :: Message.sentFrames run) = (d.insert id run, .nothing) := by
  have fragment : (Fragment.header id .beginFragment).isUnfragmented = false :=
    show Flags.hasAll .beginFragment .unfragmented = false by decide
  have begins : (Fragment.header id .beginFragment).isBeginFragment = true :=
    show Flags.has .beginFragment .beginFragment = true by decide
  simp only [unit, fragment, Fragment.read_header, begins, fresh, Nat.not_le.mpr room, unfinalLast_sentFrames unmarked]
  simp

theorem unit_middle (found : d.find? id = some held) (unmarked : ∀ f ∈ run, f.isFinal = false) :
    d.unit (Fragment.header id .plain :: Message.sentFrames run) = (d.extend id run, .nothing) := by
  have fragment : (Fragment.header id .plain).isUnfragmented = false :=
    show Flags.hasAll .plain .unfragmented = false by decide
  have begins : (Fragment.header id .plain).isBeginFragment = false :=
    show Flags.has .plain .beginFragment = false by decide
  have ends : (Fragment.header id .plain).isEndFragment = false :=
    show Flags.has .plain .endFragment = false by decide
  simp only [unit, fragment, Fragment.read_header, begins, found, ends, unfinalLast_sentFrames unmarked]
  simp

theorem unit_end (found : d.find? id = some held) :
    d.unit (Fragment.header id .endFragment :: run) = (d.remove id, .message (.received (held ++ run))) := by
  have fragment : (Fragment.header id .endFragment).isUnfragmented = false :=
    show Flags.hasAll .endFragment .unfragmented = false by decide
  have begins : (Fragment.header id .endFragment).isBeginFragment = false :=
    show Flags.has .endFragment .beginFragment = false by decide
  have ends : (Fragment.header id .endFragment).isEndFragment = true :=
    show Flags.has .endFragment .endFragment = true by decide
  simp only [unit, fragment, Fragment.read_header, begins, found, ends]
  simp

end Decoder
end Datagrid
