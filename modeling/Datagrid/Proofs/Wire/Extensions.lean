import Datagrid.Proofs.Wire.Growth

/-!
# Readers where more follows

A field is read off the first bytes of a frame, and a value off the next frames of a message: what
stands after them makes no difference. A reader that looks ahead, for the end of a list or for the
mark of an absent value, looks at a frame that it goes on to read.
-/
namespace Datagrid

variable {α β : Type}

/-! ## Bytes after a field -/

namespace Field

variable {field : Field α} {bytes : Octets} {offset : Nat} {a : α}

theorem read_eq_ok_iff :
    field.read bytes offset = .ok a ↔
      offset + field.width < UInt64.size ∧ offset + field.width ≤ bytes.length ∧
        field.decode ((bytes.drop offset).take field.width) = a := by
  unfold Field.read misfit?
  by_cases large : UInt64.size ≤ offset + field.width
  · simp [large, Nat.not_lt.mpr large]
  by_cases short : bytes.length < offset + field.width
  · simp [large, short, Nat.not_le.mpr short]
  · simp [large, short, Nat.not_le.mp large, Nat.not_lt.mp short]

/-- A field is where it was when bytes are added after it. -/
theorem read_extended (read : field.read bytes offset = .ok a) (extra : Octets) :
    field.read (bytes ++ extra) offset = .ok a := by
  obtain ⟨small, inside, rfl⟩ := read_eq_ok_iff.mp read
  have whole : field.width ≤ (bytes.drop offset).length := by
    rw [List.length_drop]
    omega
  refine read_eq_ok_iff.mpr ⟨small, ?_, ?_⟩
  · rw [List.length_append]
    omega
  · rw [List.drop_append_of_le_length (by omega), List.take_append_of_le_length whole]

end Field

/-- A frame with bytes after its own. -/
def Frame.extended (f : Frame) (extra : Octets) : Frame := { f with content := f.content ++ extra }

theorem Frame.read_extended {f : Frame} {field : Field α} {offset : Nat} {a : α} (read : f.read field offset = .ok a)
    (extra : Octets) : (f.extended extra).read field offset = .ok a :=
  Field.read_extended read extra

/-! ## Frames after a value -/

namespace Cursor

/-- A cursor with frames after its own. -/
def extended (c : Cursor) (more : List Frame) : Cursor := { c with rest := c.rest ++ more }

theorem peek_extended {c : Cursor} (some : c.rest ≠ []) (more : List Frame) : (c.extended more).peek = c.peek := by
  obtain ⟨f, rest, left⟩ := List.exists_cons_of_ne_nil some
  simp [extended, peek, left]

/-- What one reader reads, the other does as well where more frames follow, and gets as far. -/
def Keeps (body body' : OnCursor α) : Prop :=
  ∀ ⦃c a c'⦄, body.run c = (.ok a, c') → ∀ more, body'.run (c.extended more) = (.ok a, c'.extended more)

variable {body body' : OnCursor α} {next next' : α → OnCursor β}

theorem Keeps.pure (a : α) : Keeps (Pure.pure a : OnCursor α) (Pure.pure a) := by
  rintro c _ _ ⟨⟩ more
  rfl

theorem Keeps.fail (fault : Fault) : Keeps (throw fault : OnCursor α) body' := nofun

theorem Keeps.bind (first : Keeps body body') (second : ∀ a, Keeps (next a) (next' a)) :
    Keeps (body >>= next) (body' >>= next') := by
  intro c b c'' read more
  rw [run_bind] at read ⊢
  rcases ran : body.run c with ⟨fault | a, c'⟩
  · rw [ran] at read
    cases read
  · rw [ran] at read
    rw [first ran more]
    exact second a read more

/-- A look at the cursor may show more frames than before. -/
theorem Keeps.get {next next' : Cursor → OnCursor β}
    (onward : ∀ {c b c'}, (next c).run c = (.ok b, c') → ∀ more,
      (next' (c.extended more)).run (c.extended more) = (.ok b, c'.extended more)) :
    Keeps (MonadState.get >>= next) (MonadState.get >>= next') := by
  intro c b c' read more
  rw [run_bind, run_get] at read ⊢
  exact onward read more

theorem Keeps.take : Keeps take take := by
  rintro ⟨operation, position, _ | ⟨f, rest⟩⟩ _ _ ⟨⟩ more
  rfl

theorem Keeps.skip : Keeps skip skip := .bind .take fun _ => .pure ()

theorem Keeps.settle {result result' : Except Fault α} (same : ∀ a, result = .ok a → result' = .ok a) :
    Keeps (settle result) (settle result') := by
  cases result with
  | ok a =>
    rw [same a rfl]
    exact .pure a
  | error fault => exact .fail fault

theorem Keeps.takeValue (expected : FrameValue) : Keeps (takeValue expected) (takeValue expected) := by
  refine .bind .take fun f => ?_
  by_cases structural : f.isStructural = true
  · rw [if_pos structural]
    exact .fail _
  · rw [if_neg structural]
    exact .pure f

theorem Keeps.takePacked (field : Field α) : Keeps (takePacked field) (takePacked field) := by
  refine .bind .take fun f => ?_
  by_cases ragged : (f.content.length % field.width != 0) = true
  · simp only [if_pos ragged]
    exact .fail _
  · simp only [if_neg ragged]
    exact .pure _

/-- The frame that closes a structure is the same one whatever follows it. -/
theorem Keeps.closeStructure : Keeps closeStructure closeStructure := by
  intro c a c' closes more
  obtain ⟨before, f, skips, stays, last⟩ := closeStructure_eq_ok_iff.mp closes
  refine closeStructure_eq_ok_iff.mpr ⟨before, f, ⟨?_, skips.position, skips.operation⟩, stays, last⟩
  rw [extended, skips.rest, List.append_assoc]
  rfl

/-- The loop of a list ends at the same end frame, whatever the bound, if that is no less. -/
theorem Keeps.takeItems {item : OnCursor α} (each : Keeps item item) {fuel fuel' : Nat} (enough : fuel ≤ fuel') :
    Keeps (takeItems item fuel) (takeItems item fuel') := by
  induction fuel generalizing fuel' with
  | zero => exact .fail _
  | succ fuel ih =>
    obtain ⟨fuel', rfl⟩ := Nat.exists_eq_add_one_of_ne_zero (Nat.ne_of_gt (Nat.zero_lt_of_lt enough))
    refine .get fun {c items c'} read more => ?_
    by_cases none : (!c.hasNext) = true
    · have exhausted : c.rest = [] := by simpa [hasNext] using none
      have more : ¬ c.nextIsEnd = true := by simp [nextIsEnd, peek, exhausted]
      rw [if_neg more, if_pos none] at read
      cases read
    -- Where a frame is left, it is the one that is looked at, whatever follows.
    have some : c.rest ≠ [] := by simpa [hasNext] using none
    have ended : (c.extended more).nextIsEnd = c.nextIsEnd := by rw [nextIsEnd, peek_extended some, nextIsEnd]
    have left : ¬ (!(c.extended more).hasNext) = true := by simp [hasNext, extended, some]
    rw [if_neg none] at read
    rw [ended, if_neg left]
    by_cases ends : c.nextIsEnd = true
    · rw [if_pos ends] at read ⊢
      exact Keeps.pure [] read more
    · rw [if_neg ends] at read ⊢
      have others := ih (Nat.le_of_succ_le_succ enough)
      have goesOn : Keeps _ _ := each.bind fun a => others.bind fun rest => .pure (a :: rest)
      exact goesOn read more

end Cursor

namespace Shape

open Cursor

private theorem keeps_text : Keeps Codec.text.read Codec.text.read := by
  refine .bind (.takeValue _) fun f => ?_
  cases Text.Utf8.decode f.content with
  | ok s => exact .pure s
  | error fault => exact .fail _

/-- A value is read in the same way whatever follows it. -/
theorem keeps_codec (shape : Shape) : Keeps shape.codec.read shape.codec.read := by
  induction shape with
  | text => exact keeps_text
  | bytes => exact .bind (.takeValue _) fun f => .pure f.content
  | data => exact .bind (.takeValue _) fun f => .settle fun _ => id
  | ints => exact .takePacked .int
  | longs => exact .takePacked .long
  | uuids =>
    refine .bind (.takePacked .guid) fun items => ?_
    cases items.mapM id with
    | some items => exact .pure items
    | none => exact .fail _
  | address =>
    refine .bind .skip fun _ => .bind .take fun f => .bind (.settle fun _ => id) fun port => ?_
    exact .bind keeps_text fun host => .bind .closeStructure fun _ => .pure _
  | nullable value ih =>
    refine .get fun {c a c'} read more => ?_
    have left : c.rest ≠ [] := by
      obtain ⟨frames, taken, skips⟩ := skips_of_read value.nullable read
      simp [skips.rest, taken]
    rw [peek_extended left]
    by_cases null : c.peek.any Frame.isNull = true
    · rw [if_pos null] at read ⊢
      have absent : Keeps (do skip; return none) _ := Keeps.skip.bind fun _ => .pure (none : Option value.Value)
      exact absent read more
    · rw [if_neg null] at read ⊢
      have present : Keeps _ _ := ih.bind fun a => .pure (some a)
      exact present read more
  | list item ih =>
    refine .bind .take fun f => ?_
    by_cases begins : (!f.isBegin) = true
    · rw [if_pos begins]
      exact .fail _
    · rw [if_neg begins]
      refine .get fun {c items c'} read more => ?_
      have enough : c.rest.length + 1 ≤ (c.extended more).rest.length + 1 := by simp [extended]
      have whole : Keeps _ _ := (Keeps.takeItems ih enough).bind fun items => Keeps.skip.bind fun _ => .pure items
      exact whole read more

end Shape
end Datagrid
