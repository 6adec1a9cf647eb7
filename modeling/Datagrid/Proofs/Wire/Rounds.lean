import Datagrid.Proofs.Wire.Parts

/-!
# How readings end

Whatever the frames of a message are like, a reading ends with its cursor further on over the same
frames. If it succeeds it has taken at least one of them, and if it fails that is for what they are
like. So the loop of a list takes no more rounds than there are frames: it ends for one of its own
reasons, and never for the bound that it counts down from.
-/
namespace Datagrid

variable {α β : Type}

namespace Cursor

/-! ## Moving on -/

/-- A cursor goes over some frames, whatever they are taken for. -/
structure Skips (c : Cursor) (frames : List Frame) (c' : Cursor) : Prop where
  rest : c.rest = frames ++ c'.rest
  position : c'.position = c.position + frames.length
  operation : c'.operation = c.operation

theorem Skips.refl (c : Cursor) : c.Skips [] c := ⟨rfl, rfl, rfl⟩

theorem Skips.trans {c c' c'' : Cursor} {frames later : List Frame} (first : c.Skips frames c')
    (second : c'.Skips later c'') : c.Skips (frames ++ later) c'' where
  rest := by rw [first.rest, second.rest, List.append_assoc]
  position := by rw [second.position, first.position, List.length_append, Nat.add_assoc]
  operation := second.operation.trans first.operation

theorem Passes.skips {c c' : Cursor} {parts : List Part} (passes : c.Passes parts c') :
    c.Skips (parts.map Part.frame) c' :=
  ⟨passes.rest, by rw [passes.position, List.length_map], passes.operation⟩

/-- Among given frames, a cursor that goes over some of them gets to a later place. -/
theorem Skips.eq_reached {operation : String} {frames passed : List Frame} {p : Nat} {c : Cursor}
    (inside : p ≤ frames.length) (skips : (reached operation frames p).Skips passed c) :
    c = reached operation frames (p + passed.length) ∧ p + passed.length ≤ frames.length := by
  have split : frames.drop p = passed ++ c.rest := skips.rest
  have count := congrArg List.length split
  simp only [List.length_drop, List.length_append] at count
  have left : frames.drop (p + passed.length) = c.rest := by
    rw [← List.drop_drop, split, List.drop_left]
  have position : c.position = p + passed.length := skips.position
  have same : c.operation = operation := skips.operation
  refine ⟨?_, by omega⟩
  rw [reached, left, ← same, ← position]

/-- Whatever comes of a reading, the cursor moves on over the same frames. -/
def MovesOn (body : OnCursor α) : Prop := ∀ c : Cursor, ∃ frames, c.Skips frames (body.run c).2

theorem MovesOn.pure (a : α) : MovesOn (Pure.pure a : OnCursor α) := fun c => ⟨[], .refl c⟩

theorem MovesOn.fail (fault : Fault) : MovesOn (throw fault : OnCursor α) := fun c => ⟨[], .refl c⟩

theorem MovesOn.get : MovesOn (MonadState.get : OnCursor Cursor) := fun c => ⟨[], .refl c⟩

theorem MovesOn.bind {body : OnCursor α} {next : α → OnCursor β} (first : MovesOn body)
    (second : ∀ a, MovesOn (next a)) : MovesOn (body >>= next) := by
  intro c
  obtain ⟨frames, skips⟩ := first c
  rw [run_bind]
  rcases ran : body.run c with ⟨fault | a, c'⟩
  · exact ⟨frames, by simpa only [ran] using skips⟩
  · simp only [ran] at skips ⊢
    obtain ⟨later, further⟩ := second a c'
    exact ⟨frames ++ later, skips.trans further⟩

theorem MovesOn.take : MovesOn take := by
  rintro ⟨operation, position, _ | ⟨f, rest⟩⟩
  · exact ⟨[], .refl _⟩
  · exact ⟨[f], rfl, rfl, rfl⟩

theorem MovesOn.skip : MovesOn skip := .bind .take fun _ => .pure ()

theorem MovesOn.settle : (result : Except Fault α) → MovesOn (settle result)
  | .ok a => .pure a
  | .error fault => .fail fault

theorem MovesOn.takeValue (expected : FrameValue) : MovesOn (takeValue expected) := by
  refine .bind .take fun f => ?_
  by_cases structural : f.isStructural = true
  · rw [if_pos structural]
    exact .fail _
  · rw [if_neg structural]
    exact .pure f

theorem MovesOn.takePacked (field : Field α) : MovesOn (takePacked field) := by
  refine .bind .take fun f => ?_
  by_cases ragged : (f.content.length % field.width != 0) = true
  · simp only [if_pos ragged]
    exact .fail _
  · simp only [if_neg ragged]
    exact .pure _

/-- Where no end frame closes a structure, all frames are gone over. -/
theorem MovesOn.closeStructure : MovesOn closeStructure := by
  intro c
  cases skips : skipStructures 1 c.rest with
  | none =>
    refine ⟨c.rest, ?_⟩
    simp only [Cursor.closeStructure, ExceptT.run, skips]
    exact ⟨(List.append_nil _).symm, rfl, rfl⟩
  | some found =>
    obtain ⟨count, rest⟩ := found
    obtain ⟨skipped, closing, frames, -, rfl⟩ := skipStructures_eq_some skips
    refine ⟨skipped ++ [closing], ?_⟩
    simp only [Cursor.closeStructure, ExceptT.run, skips]
    exact ⟨by simp [frames], by simp, rfl⟩

theorem MovesOn.takeItems {item : OnCursor α} (each : MovesOn item) (fuel : Nat) : MovesOn (takeItems item fuel) := by
  induction fuel with
  | zero => exact .fail _
  | succ fuel ih =>
    refine .bind .get fun c => ?_
    split_ifs
    · exact .pure []
    · exact .fail _
    · exact .bind each fun a => .bind ih fun others => .pure _

/-! ## The loop of a list -/

/-- How the loop of a list goes, round after round, until there is a reason to leave it. -/
inductive Rounds (item : OnCursor α) : Nat → Cursor → Except Fault (List α) → Cursor → Prop
  | ended {c : Cursor} (ends : c.nextIsEnd = true) : Rounds item 0 c (.ok []) c
  | exhausted {c : Cursor} (more : c.nextIsEnd = false) (left : c.hasNext = false) :
    Rounds item 0 c (.error (.framing .noListEnd)) c
  | refused {c c' : Cursor} {fault : Fault} (more : c.nextIsEnd = false) (left : c.hasNext = true)
    (fails : item.run c = (.error fault, c')) : Rounds item 0 c (.error fault) c'
  | next {c c' c'' : Cursor} {a : α} {rounds : Nat} {result : Except Fault (List α)} (more : c.nextIsEnd = false)
    (left : c.hasNext = true) (reads : item.run c = (.ok a, c')) (others : Rounds item rounds c' result c'') :
    Rounds item (rounds + 1) c (result.map (a :: ·)) c''

/-- If every item takes a frame, the loop ends after at most as many rounds as there are frames, and
    a bound beyond that is never come to. -/
theorem rounds_takeItems (item : OnCursor α)
    (takes : ∀ {c a c'}, item.run c = (.ok a, c') → c'.rest.length < c.rest.length) {fuel : Nat} {c : Cursor}
    (enough : c.rest.length < fuel) :
    ∃ rounds ≤ c.rest.length, Rounds item rounds c ((takeItems item fuel).run c).1 ((takeItems item fuel).run c).2 := by
  induction fuel generalizing c with
  | zero => omega
  | succ fuel ih =>
    rw [takeItems, run_bind, run_get]
    by_cases ends : c.nextIsEnd = true
    · simp only [if_pos ends]
      exact ⟨0, Nat.zero_le _, .ended ends⟩
    have more : c.nextIsEnd = false := by simpa using ends
    by_cases none : (!c.hasNext) = true
    · simp only [if_neg ends, if_pos none]
      exact ⟨0, Nat.zero_le _, .exhausted more (by simpa using none)⟩
    have left : c.hasNext = true := by simpa using none
    simp only [if_neg ends, if_neg none]
    rw [run_bind]
    rcases ran : item.run c with ⟨fault | a, c'⟩
    · exact ⟨0, Nat.zero_le _, .refused more left ran⟩
    · -- The item has taken a frame, so that the bound goes down with what is left.
      have fewer := takes ran
      obtain ⟨rounds, few, others⟩ := ih (c := c') (by omega)
      refine ⟨rounds + 1, by omega, ?_⟩
      simp only [run_bind]
      rcases rest : (Cursor.takeItems item fuel).run c' with ⟨fault | items, c''⟩
      · exact .next more left ran (by simpa only [rest] using others)
      · exact .next more left ran (by simpa only [rest] using others)

end Cursor

/-! ## Shapes -/

namespace Shape

open Cursor

private theorem movesOn_text : MovesOn Codec.text.read := by
  refine .bind (.takeValue _) fun f => ?_
  cases Text.Utf8.decode f.content with
  | ok s => exact .pure s
  | error fault => exact .fail _

theorem movesOn_codec (shape : Shape) : MovesOn shape.codec.read := by
  induction shape with
  | text => exact movesOn_text
  | bytes => exact .bind (.takeValue _) fun f => .pure f.content
  | data => exact .bind (.takeValue _) fun f => .settle _
  | ints => exact .takePacked .int
  | longs => exact .takePacked .long
  | uuids =>
    refine .bind (.takePacked .guid) fun items => ?_
    cases items.mapM id with
    | some items => exact .pure items
    | none => exact .fail _
  | address =>
    refine .bind .skip fun _ => .bind .take fun f => .bind (.settle _) fun port => ?_
    exact .bind movesOn_text fun host => .bind .closeStructure fun _ => .pure _
  | nullable value ih =>
    refine .bind .get fun c => ?_
    split_ifs
    · exact .bind .skip fun _ => .pure none
    · exact .bind ih fun a => .pure (some a)
  | list item ih =>
    refine .bind .take fun f => ?_
    split_ifs
    · exact .fail _
    · exact .bind .get fun c => .bind (.takeItems ih _) fun items => .bind .skip fun _ => .pure items

/-- Every value takes a frame. -/
theorem Laid.ne_nil {shape : Shape} {a : shape.Value} {parts : List Part} (laid : shape.Laid a parts) : parts ≠ [] := by
  induction shape generalizing parts with
  | text | bytes | data | ints | longs | uuids =>
    obtain ⟨f, rfl, -⟩ := laid
    exact List.cons_ne_nil _ _
  | address =>
    obtain ⟨opening, fixed, host, skipped, closing, rfl, -⟩ := laid
    exact List.cons_ne_nil _ _
  | nullable value ih =>
    cases a with
    | none =>
      obtain ⟨f, rfl, -⟩ := laid
      exact List.cons_ne_nil _ _
    | some a => exact ih laid
  | list item =>
    obtain ⟨opening, each, closing, rfl, -⟩ := laid
    exact List.cons_ne_nil _ _

/-- A reading that fails does so for what the frames are like. -/
theorem framed_of_read (shape : Shape) {c c' : Cursor} {fault : Fault}
    (failed : shape.codec.read.run c = (.error fault, c')) : ∃ framing, fault = .framing framing := by
  simpa only [Finds, failed] using shape.finds_codec c

/-- A reading that succeeds goes over at least one frame. -/
theorem skips_of_read (shape : Shape) {c c' : Cursor} {a : shape.Value}
    (read : shape.codec.read.run c = (.ok a, c')) : ∃ frames, frames ≠ [] ∧ c.Skips frames c' := by
  have finds := shape.finds_codec c
  simp only [Finds, read] at finds
  obtain ⟨parts, passes, laid⟩ := finds
  exact ⟨_, by simpa using laid.ne_nil, passes.skips⟩

theorem length_of_read {shape : Shape} {c c' : Cursor} {a : shape.Value} (read : shape.codec.read.run c = (.ok a, c')) :
    c'.rest.length < c.rest.length := by
  obtain ⟨frames, some, skips⟩ := skips_of_read shape read
  have positive := List.length_pos_of_ne_nil some
  rw [skips.rest, List.length_append]
  omega

/-- How a reading of a value ends that begins at a place among frames. -/
structure Ends (shape : Shape) (operation : String) (frames : List Frame) (p : Nat) : Prop where
  /-- With a value, after one frame or more. -/
  reads : ∀ {a c}, shape.codec.read.run (reached operation frames p) = (.ok a, c) →
    ∃ p', c = reached operation frames p' ∧ p < p' ∧ p' ≤ frames.length
  /-- Or with a fault in the frames, at the same place or a later one. -/
  fails : ∀ {fault c}, shape.codec.read.run (reached operation frames p) = (.error fault, c) →
    (∃ framing, fault = .framing framing) ∧ ∃ p', c = reached operation frames p' ∧ p ≤ p' ∧ p' ≤ frames.length

theorem ends_inside (shape : Shape) (operation : String) {frames : List Frame} {p : Nat} (inside : p ≤ frames.length) :
    shape.Ends operation frames p where
  reads read := by
    obtain ⟨passed, some, skips⟩ := skips_of_read shape read
    obtain ⟨rfl, within⟩ := skips.eq_reached inside
    exact ⟨_, rfl, Nat.lt_add_of_pos_right (List.length_pos_of_ne_nil some), within⟩
  fails {fault c} failed := by
    refine ⟨shape.framed_of_read failed, ?_⟩
    obtain ⟨passed, skips⟩ := shape.movesOn_codec (reached operation frames p)
    rw [failed] at skips
    obtain ⟨rfl, within⟩ := skips.eq_reached inside
    exact ⟨_, rfl, Nat.le_add_right .., within⟩

/-- The loop of a list ends by itself. -/
theorem rounds_items (item : Shape) (c : Cursor) :
    ∃ rounds ≤ c.rest.length, ∃ result c', (takeItems item.codec.read (c.rest.length + 1)).run c = (result, c') ∧
      Rounds item.codec.read rounds c result c' := by
  obtain ⟨rounds, few, goes⟩ := rounds_takeItems item.codec.read length_of_read (Nat.lt_succ_self c.rest.length)
  exact ⟨rounds, few, _, _, rfl, goes⟩

end Shape
end Datagrid
