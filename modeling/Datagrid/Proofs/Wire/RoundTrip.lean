import Datagrid.Proofs.Wire.Fragments
import Datagrid.Proofs.Wire.Table

/-!
# What is sent arrives

A message travels whole or in fragments, and a decoder that reads its bytes
yields the frames that were sent, the last one marked. Whatever else the
decoder has open stays open.
-/
namespace Datagrid

namespace Decoder

variable {d : Decoder} {id : Int64} {held : List Frame}

/-! ## A message in fragments -/

/-- The fragments after the first complete the message that has begun. -/
theorem next_laterParts (boundary : d.pending = []) (found : d.find? id = some held) {runs : List (List Frame)}
    (more : runs ≠ []) (some : ∀ run ∈ runs, run ≠ []) (unmarked : ∀ f ∈ runs.flatten.dropLast, f.isFinal = false)
    (fits : ∀ f ∈ runs.flatten, f.wireSize < 256 ^ lengthSize) (rest : Octets) :
    d.next ((Fragment.laterParts id runs).flatMap Message.wire ++ rest) =
      (d.remove id, rest, .message (.received (held ++ Message.sentFrames runs.flatten))) := by
  induction runs generalizing d held with
  | nil => exact absurd rfl more
  | cons run runs ih =>
    have runSome := some run (by simp)
    have runFits : ∀ f ∈ run, f.wireSize < 256 ^ lengthSize := fun f member => fits f (by simp [member])
    have runUnmarked := Fragment.unmarked_run (k := 0) rfl some unmarked
    by_cases last : runs = []
    · subst last
      have isUnit := Fragment.isUnit_fragment id .endFragment (by decide) runSome runUnmarked.1 runFits
      simp only [Fragment.laterParts, List.flatMap_cons, List.flatMap_nil, List.append_nil, List.flatten_cons,
        List.flatten_nil]
      rw [next_wire boundary isUnit, Fragment.sentFrames_fragment id _ runSome, unit_end found]
      rfl
    · obtain ⟨second, others, rfl⟩ := List.exists_cons_of_ne_nil last
      have isUnit := Fragment.isUnit_fragment id .plain (by decide) runSome runUnmarked.1 runFits
      have secondSome : (second :: others).flatten ≠ [] := by
        have := some second (by simp)
        simp [this]
      have extended : (d.extend id run).find? id = Option.some (held ++ run) := by
        rw [find?_extend, if_pos rfl, found, Option.map_some]
      have later := ih (d := d.extend id run) boundary extended last
        (fun run member => some run (List.mem_cons_of_mem _ member))
        (fun f member => unmarked f (by
          rw [List.flatten_cons, List.dropLast_append_of_ne_nil secondSome]
          exact List.mem_append_right _ member))
        (fun f member => fits f (by rw [List.flatten_cons]; exact List.mem_append_right _ member))
      rw [Fragment.laterParts, List.flatMap_cons, List.append_assoc, next_wire boundary isUnit,
        Fragment.sentFrames_fragment id _ runSome, unit_middle found (runUnmarked.2 (by simp))]
      · rw [onward, later, remove_extend, List.flatten_cons (l := run), Message.sentFrames_append run _ secondSome,
          List.append_assoc]
      · simp

/-- The fragments of a message are read as the message. -/
theorem next_parts (boundary : d.pending = []) (fresh : d.find? id = none) (room : d.fragments.length < d.limit)
    {runs : List (List Frame)} (several : 2 ≤ runs.length) (some : ∀ run ∈ runs, run ≠ [])
    (unmarked : ∀ f ∈ runs.flatten.dropLast, f.isFinal = false)
    (fits : ∀ f ∈ runs.flatten, f.wireSize < 256 ^ lengthSize) (rest : Octets) :
    d.next ((Fragment.parts id runs).flatMap Message.wire ++ rest) =
      (d, rest, .message (.received (Message.sentFrames runs.flatten))) := by
  obtain ⟨run, second, others, rfl⟩ : ∃ run second others, runs = run :: second :: others := by
    match runs, several with
    | run :: second :: others, _ => exact ⟨run, second, others, rfl⟩
  have runSome := some run (by simp)
  have runUnmarked := Fragment.unmarked_run (k := 0) rfl some unmarked
  have secondSome : (second :: others).flatten ≠ [] := by
    have := some second (by simp)
    simp [this]
  have isUnit := Fragment.isUnit_fragment id .beginFragment (by decide) runSome runUnmarked.1
    (fun f member => fits f (by simp [member]))
  have later := next_laterParts (d := d.insert id run) boundary (by rw [find?_insert fresh, if_pos rfl])
    (List.cons_ne_nil second others) (fun run member => some run (List.mem_cons_of_mem _ member))
    (fun f member => unmarked f (by
      rw [List.flatten_cons, List.dropLast_append_of_ne_nil secondSome]
      exact List.mem_append_right _ member))
    (fun f member => fits f (by rw [List.flatten_cons]; exact List.mem_append_right _ member)) rest
  rw [Fragment.parts, List.flatMap_cons, List.append_assoc, next_wire boundary isUnit,
    Fragment.sentFrames_fragment id _ runSome, unit_begin fresh room (runUnmarked.2 (by simp)), onward, later,
    remove_insert fresh, List.flatten_cons (l := run), Message.sentFrames_append run _ secondSome]

/-! ## Any message -/

theorem next_whole {m : Message} (formed : m.WellFormed) (boundary : d.pending = []) (rest : Octets) :
    d.next (m.wire ++ rest) = (d, rest, .message (.received (Message.sentFrames m.frames))) := by
  rw [next_wire boundary formed.toIsUnit, unit_whole d formed.unfragmented_sentFrames]
  rfl

/-- What is sent of a message, whole or in fragments, is read as the message. -/
theorem next_split {m : Message} (formed : m.WellFormed) (limit : Nat) (boundary : d.pending = [])
    (fresh : m.isCut limit → d.find? id = none) (room : m.isCut limit → d.fragments.length < d.limit)
    (rest : Octets) :
    d.next ((m.split limit id).flatMap Message.wire ++ rest) =
      (d, rest, .message (.received (Message.sentFrames m.frames))) := by
  cases cut : m.runs? limit with
  | none =>
    rw [Message.split, cut]
    simp only [List.flatMap_cons, List.flatMap_nil, List.append_nil]
    exact next_whole formed boundary rest
  | some runs =>
    obtain ⟨several, some, frames⟩ := Message.runs?_eq_some cut
    have isCut : m.isCut limit := by rw [Message.isCut, cut]; rfl
    rw [Message.split, cut, ← frames]
    exact next_parts boundary (fresh isCut) (room isCut) several some (frames ▸ formed.unmarked)
      (frames ▸ formed.fits) rest

/-- Bytes that are read as one message, with nothing left, hold that message alone. -/
theorem drain_of_next_last {d' : Decoder} {bytes : Octets} {m : Message} (read : d.next bytes = (d', [], .message m)) :
    d.drain bytes = ⟨[m], none, d', []⟩ := by
  rw [drain_of_next_message read, drain_nil]
  rfl

/-- All bytes of a message are read as the message, and nothing is left. -/
theorem next_encoded (limit : Option Nat) (id : Int64) {m : Message} (formed : m.WellFormed)
    (boundary : d.pending = []) (fresh : usesFragmentId limit m → d.find? id = none)
    (room : usesFragmentId limit m → d.fragments.length < d.limit) :
    ∃ bytes, encodeMessage limit id m = .ok bytes ∧
      d.next bytes = (d, [], .message (.received (Message.sentFrames m.frames))) := by
  have some : m.frames.isEmpty = false := by simp [formed.some]
  cases limit with
  | none =>
    refine ⟨m.wire, by simp [encodeMessage, some], ?_⟩
    simpa using next_whole formed boundary []
  | some limit =>
    refine ⟨(m.split limit id).flatMap Message.wire, by simp [encodeMessage, some], ?_⟩
    simpa using next_split formed limit boundary fresh room []

/-- A message that says with its first frame that it is whole, whose last frame
    alone may be marked and which takes fewer than 2^31 bytes arrives, at
    whatever size messages are cut: a decoder between two units that can open
    the message, if it is cut, yields its frames with the last one marked, has
    read all bytes, and is what it was. -/
theorem encoded_message_arrives (limit : Option Nat) (id : Int64) {d : Decoder} {m : Message} {body : List Frame}
    {last : Frame} (frames : m.frames = body ++ [last]) (unfragmented : m.frames.head?.any Frame.isUnfragmented)
    (unmarked : ∀ f ∈ body, f.isFinal = false) (small : m.wireSize < 2 ^ 31) (boundary : d.pending = [])
    (fresh : usesFragmentId limit m → d.find? id = none)
    (room : usesFragmentId limit m → d.fragments.length < d.limit) :
    ∃ bytes, encodeMessage limit id m = .ok bytes ∧
      d.next bytes = (d, [], .message (.received (body ++ [last.final]))) ∧
      d.drain bytes = ⟨[.received (body ++ [last.final])], none, d, []⟩ := by
  have formed : m.WellFormed := Message.wellFormed_of_small frames unfragmented unmarked small
  obtain ⟨bytes, encoded, read⟩ := next_encoded limit id formed boundary fresh room
  rw [frames, Message.sentFrames_concat] at read
  exact ⟨bytes, encoded, read, drain_of_next_last read⟩

/-- A message of 52 bytes arrives in two fragments of at most 50 bytes at a
    decoder that has another message open. -/
theorem fragmented_message_arrives :
    let first : Frame := .zeroed 16 .unfragmented
    let body : List Frame := [first, .ofContent [1, 2, 3, 4, 5, 6, 7, 8, 9, 10]]
    let last : Frame := .ofContent [11, 12, 13, 14, 15, 16, 17, 18]
    let m : Message := { Message.empty with frames := body ++ [last] }
    let d : Decoder := ⟨[], [(6, [first])], 2⟩
    usesFragmentId (some 50) m ∧ ∃ bytes, encodeMessage (some 50) 7 m = .ok bytes ∧
      d.next bytes = (d, [], .message (.received (body ++ [last.final]))) ∧
      d.drain bytes = ⟨[.received (body ++ [last.final])], none, d, []⟩ :=
  ⟨by decide, encoded_message_arrives (some 50) 7 rfl (by decide) (by decide) (by decide) rfl (fun _ => rfl)
    (fun _ => by decide)⟩

end Decoder
end Datagrid
