import Datagrid.Proofs.Wire.Chunks
import Mathlib.Data.List.DropRight

/-!
# Whole messages

A message can be read and sent on if it has frames, and is whole if the last of them is marked as
such. Whatever bytes a decoder is fed, honest or not, the messages that it yields are whole, but
for one case: the last fragment of a message may be its header frame alone, and carry the mark
itself. The header is not part of the message, and the mark goes with it.
-/
namespace Datagrid

/-! ## What a message needs -/

namespace Message

/-- It has frames, and the last one is marked as such. -/
def IsWhole (m : Message) : Prop := ∃ last, m.frames.getLast? = some last ∧ last.isFinal = true

/-- A reader of the header finds the first frame, and every encoder takes the message. -/
structure IsUsable (m : Message) : Prop where
  headed : ∃ f : Frame, ∀ {α : Type} (field : Field α) (offset : Nat), m.header field offset = f.read field offset
  sent : ∀ limit id, ∃ bytes, encodeMessage limit id m = .ok bytes

theorem isWhole_of_concat {m : Message} {body : List Frame} {last : Frame} (frames : m.frames = body ++ [last])
    (marked : last.isFinal = true) : m.IsWhole :=
  ⟨last, by rw [frames, List.getLast?_concat], marked⟩

theorem not_isWhole_of_unmarked {m : Message} (unmarked : ∀ f ∈ m.frames, f.isFinal = false) : ¬ m.IsWhole := by
  rintro ⟨last, is, marked⟩
  rw [unmarked last (List.mem_of_getLast? is)] at marked
  cases marked

theorem isUsable_iff {m : Message} : m.IsUsable ↔ m.frames ≠ [] := by
  constructor
  · rintro usable none
    obtain ⟨bytes, sent⟩ := usable.sent .none 0
    simp [encodeMessage, none] at sent
  · intro some
    obtain ⟨f, rest, frames⟩ := List.exists_cons_of_ne_nil some
    refine ⟨⟨f, fun field offset => by rw [header, frames]⟩, fun limit id => ?_⟩
    cases limit <;> simp [encodeMessage, frames]

theorem IsWhole.isUsable {m : Message} (whole : m.IsWhole) : m.IsUsable := by
  obtain ⟨last, is, -⟩ := whole
  exact isUsable_iff.mpr (List.ne_nil_of_mem (List.mem_of_getLast? is))

end Message

theorem Frame.isFinal_unfinal (f : Frame) : f.unfinal.isFinal = false := by
  have cleared : f.flags &&& ~~~Flags.isFinal &&& Flags.isFinal = 0 := by
    rw [UInt16.and_assoc]
    simp
  simp [unfinal, isFinal, Flags.has, Flags.clear, cleared]

namespace Decoder

variable {d d' : Decoder} {frames run : List Frame} {last : Frame} {m : Message}

/-! ## Frames that wait -/

/-- No frame that waits for others is marked as the last one. -/
structure Unmarked (d : Decoder) : Prop where
  pending : ∀ f ∈ d.pending, f.isFinal = false
  held : ∀ entry ∈ d.fragments, ∀ f ∈ entry.2, f.isFinal = false

theorem unfinalLast_concat (run : List Frame) (last : Frame) : unfinalLast (run ++ [last]) = run ++ [last.unfinal] := by
  induction run with
  | nil => rfl
  | cons f run ih =>
    cases run with
    | nil => rfl
    | cons g run => simp only [List.cons_append, unfinalLast] at ih ⊢; rw [ih]

/-- Nothing that a unit carries is marked once it has been put away. -/
theorem unmarked_unfinalLast {body : List Frame} (unmarked : ∀ f ∈ body.dropLast, f.isFinal = false) :
    ∀ f ∈ unfinalLast body, f.isFinal = false := by
  rcases List.eq_nil_or_concat' body with rfl | ⟨run, last, rfl⟩
  · simp [unfinalLast]
  · rw [List.dropLast_concat] at unmarked
    intro f member
    rw [unfinalLast_concat] at member
    rcases List.mem_append.mp member with inside | is
    · exact unmarked f inside
    · rw [List.mem_singleton.mp is, Frame.isFinal_unfinal]

theorem mem_of_find? {id : Int64} {held : List Frame} (found : d.find? id = some held) : (id, held) ∈ d.fragments := by
  obtain ⟨before, after, split, -⟩ := List.lookup_eq_some_iff.mp found
  rw [split]
  simp

theorem Unmarked.insert (unmarked : d.Unmarked) (id : Int64) (added : ∀ f ∈ frames, f.isFinal = false) :
    (d.insert id frames).Unmarked := by
  refine ⟨unmarked.pending, fun entry member => ?_⟩
  rcases List.mem_append.mp member with old | is
  · exact unmarked.held entry old
  · rw [List.mem_singleton.mp is]
    exact added

theorem Unmarked.remove (unmarked : d.Unmarked) (id : Int64) : (d.remove id).Unmarked :=
  ⟨unmarked.pending, fun entry member => unmarked.held entry (List.mem_of_mem_filter member)⟩

theorem Unmarked.extend (unmarked : d.Unmarked) (id : Int64) (added : ∀ f ∈ frames, f.isFinal = false) :
    (d.extend id frames).Unmarked := by
  refine ⟨unmarked.pending, fun entry member f inside => ?_⟩
  obtain ⟨⟨key, kept⟩, old, rfl⟩ := List.mem_map.mp member
  have before : ∀ g ∈ kept, g.isFinal = false := unmarked.held _ old
  dsimp only at inside
  split at inside
  · exact (List.mem_append.mp inside).elim (before f) (added f)
  · exact before f inside

/-- A unit leaves the frames of the next one alone. -/
theorem pending_unit (d : Decoder) (frames : List Frame) : (d.unit frames).1.pending = d.pending := by
  cases frames with
  | nil => rfl
  | cons first body =>
    simp only [unit]
    repeat' split
    all_goals rfl

theorem Unmarked.unit (unmarked : d.Unmarked) (body : ∀ f ∈ frames.dropLast, f.isFinal = false) :
    (d.unit frames).1.Unmarked := by
  cases frames with
  | nil => exact unmarked
  | cons first rest =>
    have later : ∀ f ∈ unfinalLast rest, f.isFinal = false := by
      refine unmarked_unfinalLast fun f member => body f ?_
      cases rest with
      | nil => cases member
      | cons g rest => exact List.mem_cons_of_mem first member
    simp only [Decoder.unit]
    split
    · exact unmarked
    split
    · exact unmarked
    next id _ =>
    split
    · split
      · exact unmarked
      split
      · exact unmarked
      · exact unmarked.insert id later
    · split
      · exact unmarked
      split
      · exact unmarked.remove id
      · exact unmarked.extend id later

/-- The frames that are waiting to become a unit are those since the last that was marked. -/
theorem pending_accept (d : Decoder) (f : Frame) :
    (d.accept f).1.pending = if f.isFinal then [] else d.pending ++ [f] := by
  unfold accept
  split
  · exact pending_unit _ _
  · rfl

theorem Unmarked.accept (unmarked : d.Unmarked) (f : Frame) : (d.accept f).1.Unmarked := by
  unfold Decoder.accept
  split
  · have cleared : ({ d with pending := [] } : Decoder).Unmarked := ⟨by simp, unmarked.held⟩
    exact cleared.unit (by rw [List.dropLast_concat]; exact unmarked.pending)
  · next unfinal =>
    refine ⟨fun g member => ?_, unmarked.held⟩
    rcases List.mem_append.mp member with old | is
    · exact unmarked.pending g old
    · rw [List.mem_singleton.mp is]
      simpa using unfinal

/-! ## The frames of some bytes -/

/-- The bytes begin with some frames, and `left` is what follows them. -/
inductive Begins : Octets → List Frame → Octets → Prop
  | here (bytes : Octets) : Begins bytes [] bytes
  | frame {bytes rest left : Octets} {f : Frame} {frames : List Frame} (taken : Frame.take? bytes = .frame f rest)
      (goesOn : Begins rest frames left) : Begins bytes (f :: frames) left

/-- The decoder after some frames, whatever they come to. -/
def after (d : Decoder) (frames : List Frame) : Decoder := frames.foldl (fun d f => (d.accept f).1) d

theorem after_concat (d : Decoder) (frames : List Frame) (f : Frame) :
    d.after (frames ++ [f]) = ((d.after frames).accept f).1 := by
  simp [after]

theorem Unmarked.after (unmarked : d.Unmarked) (frames : List Frame) : (d.after frames).Unmarked := by
  induction frames generalizing d with
  | nil => exact unmarked
  | cons f rest ih => exact ih (unmarked.accept f)

theorem pending_after (unmarked : d.Unmarked) (frames : List Frame) :
    (d.after frames).pending = (d.pending ++ frames).rtakeWhile fun f => !f.isFinal := by
  induction frames using List.reverseRecOn with
  | nil =>
    rw [List.append_nil, List.rtakeWhile_eq_self_iff.mpr fun f member => by simp [unmarked.pending f member]]
    rfl
  | append_singleton frames f ih =>
    rw [after_concat, pending_accept, ih, ← List.append_assoc, List.rtakeWhile_concat]
    cases f.isFinal <;> simp

/-- What is read of a buffer is some of its frames, one after the other. -/
theorem next_reads (d : Decoder) (buffer : Octets) :
    ∃ read, Begins buffer read (d.next buffer).2.1 ∧ (d.next buffer).1 = d.after read := by
  fun_induction next d buffer with
  | case1 d buffer => exact ⟨[], .here buffer, rfl⟩
  | case2 d buffer => exact ⟨[], .here buffer, rfl⟩
  | case3 d buffer f rest taken d' accepted ih =>
    obtain ⟨read, begins, reached⟩ := ih
    refine ⟨f :: read, .frame taken begins, ?_⟩
    rw [reached]
    simp [after, accepted]
  | case4 d buffer f rest taken d' yield _ accepted =>
    exact ⟨[f], .frame taken (.here rest), by simp [after, accepted]⟩

/-- The last frame that is read is the one that a message comes of. -/
theorem next_message {buffer left : Octets} (yields : d.next buffer = (d', left, .message m)) :
    ∃ read last, Begins buffer (read ++ [last]) left ∧ (d.after read).accept last = (d', .message m) := by
  fun_induction next d buffer with
  | case1 => simp at yields
  | case2 => simp at yields
  | case3 d buffer f rest taken next accepted ih =>
    obtain ⟨read, last, begins, accepts⟩ := ih yields
    refine ⟨f :: read, last, .frame taken begins, ?_⟩
    simpa [after, accepted] using accepts
  | case4 d buffer f rest taken next yield _ accepted =>
    simp only [Prod.mk.injEq] at yields
    obtain ⟨rfl, rfl, rfl⟩ := yields
    exact ⟨[], f, .frame taken (.here rest), accepted⟩

/-! ## The unit that completes a message -/

/-- A unit that completes a message is that message, or carries the end of it behind a header. -/
theorem unit_message (yields : d.unit frames = (d', .message m)) :
    ∃ first body, frames = first :: body ∧
      ((first.isUnfragmented = true ∧ m.frames = first :: body) ∨
        (first.isUnfragmented = false ∧ ∃ id held, d.find? id = some held ∧ m.frames = held ++ body)) := by
  cases frames with
  | nil => simp [unit] at yields
  | cons first body =>
    refine ⟨first, body, rfl, ?_⟩
    simp only [unit] at yields
    split at yields
    next whole =>
      simp only [Prod.mk.injEq, Yield.message.injEq] at yields
      exact .inl ⟨whole, by rw [← yields.2]; rfl⟩
    next cut =>
    refine .inr ⟨by simpa using cut, ?_⟩
    split at yields
    · simp at yields
    next id _ =>
    split at yields
    · split at yields
      · simp at yields
      · split at yields <;> simp at yields
    · split at yields
      · simp at yields
      next held found =>
      split at yields
      · simp only [Prod.mk.injEq, Yield.message.injEq] at yields
        exact ⟨id, held, found, by rw [← yields.2]; rfl⟩
      · simp at yields

/-- What there is to say of a message whose last unit is the frames `run` and then `last`. -/
structure ClosedBy (run : List Frame) (last : Frame) (m : Message) : Prop where
  marked : last.isFinal = true
  /-- It is whole, unless the unit is the header frame of a fragment and nothing else. -/
  whole : m.IsWhole ↔ run ≠ [] ∨ last.isUnfragmented = true
  usable : m.IsWhole → m.IsUsable
  /-- If it is not whole, no frame of it is marked, where it has any. -/
  unmarked : ¬ m.IsWhole → ∀ f ∈ m.frames, f.isFinal = false

theorem Unmarked.closedBy (unmarked : d.Unmarked) (yields : d.accept last = (d', .message m)) :
    ClosedBy d.pending last m := by
  have marked : last.isFinal = true := by
    by_contra unfinal
    simp [Decoder.accept, unfinal] at yields
  rw [Decoder.accept, if_pos marked] at yields
  obtain ⟨first, body, unit, ⟨whole, frames⟩ | ⟨cut, id, held, found, frames⟩⟩ := unit_message yields
  · have complete : m.IsWhole := Message.isWhole_of_concat (by rw [frames, ← unit]) marked
    refine ⟨marked, ⟨fun _ => ?_, fun _ => complete⟩, Message.IsWhole.isUsable, fun not => absurd complete not⟩
    by_cases bare : d.pending = []
    · rw [bare] at unit
      obtain ⟨rfl, -⟩ : last = first ∧ [] = body := by simpa using unit
      exact .inr whole
    · exact .inl bare
  · by_cases bare : d.pending = []
    · rw [bare] at unit
      obtain ⟨rfl, rfl⟩ : last = first ∧ [] = body := by simpa using unit
      have kept : ∀ f ∈ m.frames, f.isFinal = false := by
        rw [frames, List.append_nil]
        exact unmarked.held _ (mem_of_find? found)
      have incomplete := Message.not_isWhole_of_unmarked kept
      exact ⟨marked, by simp [incomplete, bare, cut], Message.IsWhole.isUsable, fun _ => kept⟩
    · obtain ⟨g, run, pending⟩ := List.exists_cons_of_ne_nil bare
      rw [pending, List.cons_append, List.cons.injEq] at unit
      have split : m.frames = (held ++ run) ++ [last] := by rw [frames, ← unit.2, List.append_assoc]
      have complete : m.IsWhole := Message.isWhole_of_concat split marked
      exact ⟨marked, by simp [complete, bare], Message.IsWhole.isUsable, fun not => absurd complete not⟩

/-! ## Every byte stream -/

/-- A decoder that has been fed some bytes, in any pieces, whatever has come of them. -/
inductive Reached (limit : Nat) : Decoder → Prop
  | new : Reached limit (new limit)
  | next {d : Decoder} (reached : Reached limit d) (buffer : Octets) : Reached limit (d.next buffer).1

theorem Reached.unmarked {limit : Nat} (reached : Reached limit d) : d.Unmarked := by
  induction reached with
  | new => exact ⟨by simp [Decoder.new], by simp [Decoder.new]⟩
  | @next d _ buffer ih =>
    obtain ⟨read, -, after⟩ := d.next_reads buffer
    rw [after]
    exact ih.after read

/-- Every message that comes of some bytes is whole, and so can be read and sent on, if and only if
    its last unit, the frames since the last marked one before it, is not just the header frame of
    a fragment. -/
theorem whole_unless_closed_bare {limit : Nat} (reached : Reached limit d) {buffer left : Octets}
    (yields : d.next buffer = (d', left, .message m)) :
    ∃ read last, Begins buffer (read ++ [last]) left ∧
      ClosedBy ((d.pending ++ read).rtakeWhile fun f => !f.isFinal) last m := by
  obtain ⟨read, last, begins, accepts⟩ := next_message yields
  refine ⟨read, last, begins, ?_⟩
  rw [← pending_after reached.unmarked]
  exact (reached.unmarked.after read).closedBy accepts

/-- The first fragment of a message, which carries nothing yet. -/
def bareStart : Octets := (Fragment.header 7 .beginFragment).final.wire

/-- The last one, which carries nothing either. -/
def bareEnd : Octets := (Fragment.header 7 .endFragment).final.wire

/-- The last one with a frame, and the bytes of another message behind it. -/
def laden : Octets :=
  (Fragment.header 7 .endFragment).wire ++ (Frame.ofContent [1, 2, 3]).final.wire ++ letter.wire

private theorem next_bareStart :
    (new defaultOpenLimit).next bareStart = ((new defaultOpenLimit).insert 7 [], [], .nothing) := by
  have taken : Frame.take? bareStart = .frame (Fragment.header 7 .beginFragment).final [] := rfl
  rw [next_of_take? taken]
  exact next_of_incomplete rfl

/-- A last fragment that carries a frame completes the message that has begun. -/
theorem laden_end_makes_whole :
    let d := ((new defaultOpenLimit).next bareStart).1
    let m := Message.received [(Frame.ofContent [1, 2, 3]).final]
    Reached defaultOpenLimit d ∧ d.next laden = (d.remove 7, letter.wire, .message m) ∧ m.IsWhole ∧
      ∃ read last, Begins laden (read ++ [last]) letter.wire ∧
        ClosedBy ((d.pending ++ read).rtakeWhile fun f => !f.isFinal) last m := by
  intro d m
  have reached : Reached defaultOpenLimit d := .next .new bareStart
  have yields : d.next laden = (d.remove 7, letter.wire, .message m) := by
    have header : Frame.take? laden = .frame (Fragment.header 7 .endFragment)
        ((Frame.ofContent [1, 2, 3]).final.wire ++ letter.wire) := rfl
    have body : Frame.take? ((Frame.ofContent [1, 2, 3]).final.wire ++ letter.wire) =
        .frame (Frame.ofContent [1, 2, 3]).final letter.wire := rfl
    simp only [d, next_bareStart]
    rw [next_of_take? header]
    exact next_of_take? body
  exact ⟨reached, yields, ⟨_, rfl, rfl⟩, whole_unless_closed_bare reached yields⟩

/-- If it carries none, there is a message without any frame: no field of its header can be read,
    and no encoder takes it. -/
theorem bare_fragments_make_nothing :
    let d := ((new defaultOpenLimit).next bareStart).1
    let m := Message.received []
    Reached defaultOpenLimit d ∧ d.next bareEnd = (d.remove 7, [], .message m) ∧ ¬ m.IsWhole ∧
      m.messageType = .error (.framing .noInitialFrame) ∧
      ∀ limit id, encodeMessage limit id m = .error (.protocol .emptyMessage) := by
  intro d m
  have reached : Reached defaultOpenLimit d := .next .new bareStart
  have yields : d.next bareEnd = (d.remove 7, [], .message m) := by
    have taken : Frame.take? bareEnd = .frame (Fragment.header 7 .endFragment).final [] := rfl
    simp only [d, next_bareStart]
    exact next_of_take? taken
  exact ⟨reached, yields, Message.not_isWhole_of_unmarked (by simp [m, Message.received]), rfl, fun _ _ => rfl⟩

end Decoder
end Datagrid
