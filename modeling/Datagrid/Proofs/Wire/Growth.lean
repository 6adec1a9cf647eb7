import Datagrid.Proofs.Wire.Rounds

/-!
# Values that have grown

A member that is newer may say more of an address than is known here: its fixed frame goes on after
the port, and further frames follow the host, with structures of their own. A reader counts how many
structures are open and so finds the end frame of the address, however they are nested. A frame that
is marked as a begin and as an end at once counts as an end.
-/
namespace Datagrid

/-! ## Structures -/

/-- A frame opens a structure. One that is marked as an end as well closes one instead. -/
def Frame.opens (f : Frame) : Bool := f.isBegin && !f.isEnd

/-- End frames outnumber those that open a structure. -/
def EndsOutnumber (frames : List Frame) : Prop := frames.countP Frame.opens < frames.countP Frame.isEnd

/-- What is opened is closed: end frames never outnumber those that open a structure, and in the end there are as
    many. -/
structure Balanced (frames : List Frame) : Prop where
  within : ∀ front, front <+: frames → ¬ EndsOutnumber front
  even : frames.countP Frame.isEnd = frames.countP Frame.opens

namespace Cursor

/-- How many structures are open after a frame. -/
def depthAfter (f : Frame) (depth : Nat) : Nat :=
  if f.isEnd then depth - 1 else if f.isBegin then depth + 1 else depth

/-- Of `depth` open structures, one stays open all along some frames. -/
def StaysOpen (depth : Nat) (frames : List Frame) : Prop :=
  ∀ front, front <+: frames → front.countP Frame.isEnd < front.countP Frame.opens + depth

theorem staysOpen_one {frames : List Frame} :
    StaysOpen 1 frames ↔ ∀ front, front <+: frames → ¬ EndsOutnumber front := by
  simp only [StaysOpen, EndsOutnumber, Nat.not_lt, Nat.lt_succ_iff]

theorem staysOpen_nil {depth : Nat} : StaysOpen depth [] ↔ 0 < depth := by
  simp [StaysOpen, List.prefix_nil]

/-- Each frame leaves its own number of structures to be closed by the others. -/
theorem staysOpen_cons {depth : Nat} {f : Frame} {frames : List Frame} :
    StaysOpen depth (f :: frames) ↔ 0 < depth ∧ StaysOpen (depthAfter f depth) frames := by
  have counts (front : List Frame) (positive : 0 < depth) :
      (f :: front).countP Frame.isEnd < (f :: front).countP Frame.opens + depth ↔
        front.countP Frame.isEnd < front.countP Frame.opens + depthAfter f depth := by
    cases ends : f.isEnd <;> cases begins : f.isBegin <;>
      simp [Frame.opens, depthAfter, ends, begins] <;> omega
  constructor
  · intro stays
    have positive : 0 < depth := by simpa using stays [] (List.nil_prefix)
    exact ⟨positive, fun front before => (counts front positive).mp (stays _ (List.cons_prefix_cons.mpr ⟨rfl, before⟩))⟩
  · rintro ⟨positive, stays⟩ front before
    rcases List.prefix_cons_iff.mp before with rfl | ⟨others, rfl, -⟩
    · simpa using positive
    · exact (counts others positive).mpr (stays others (List.cons_prefix_cons.mp before).2)

theorem skipStructures_cons (depth : Nat) (f : Frame) (rest : List Frame) :
    skipStructures (depth + 1) (f :: rest) =
      (skipStructures (depthAfter f (depth + 1)) rest).map fun (count, rest) => (count + 1, rest) := rfl

/-- Where no structure is closed, everything is skipped in vain. -/
theorem skipStructures_eq_none_iff {depth : Nat} {frames : List Frame} :
    skipStructures depth frames = none ↔ StaysOpen depth frames := by
  induction frames generalizing depth with
  | nil => cases depth <;> simp [skipStructures, staysOpen_nil]
  | cons f frames ih =>
    cases depth with
    | zero => simp [skipStructures, staysOpen_cons]
    | succ depth => simp [skipStructures_cons, staysOpen_cons, ih]

/-- Otherwise what is skipped ends with the first frame that leaves no structure open. -/
theorem skipStructures_eq_some_iff {depth count : Nat} {frames rest : List Frame} :
    skipStructures (depth + 1) frames = some (count, rest) ↔
      ∃ before f, frames = before ++ f :: rest ∧ count = before.length + 1 ∧ StaysOpen (depth + 1) before ∧
        ¬ StaysOpen (depth + 1) (before ++ [f]) := by
  induction frames generalizing depth count with
  | nil => simp [skipStructures]
  | cons g frames ih =>
    have first : StaysOpen (depth + 1) [g] ↔ 0 < depthAfter g (depth + 1) := by
      simp [staysOpen_cons, staysOpen_nil]
    rw [skipStructures_cons]
    -- Either the first frame closes the last open structure, or the others are skipped up to the one that does.
    rcases after : depthAfter g (depth + 1) with _ | deeper
    · have closed : ¬ StaysOpen (depth + 1) [g] := by simp [first, after]
      constructor
      · intro skips
        simp only [skipStructures, Option.map_some, Option.some.injEq, Prod.mk.injEq] at skips
        obtain ⟨rfl, rfl⟩ := skips
        exact ⟨[], g, rfl, rfl, staysOpen_nil.mpr (Nat.succ_pos _), closed⟩
      · rintro ⟨_ | ⟨h, before⟩, f, split, rfl, stays, -⟩
        · cases split
          simp [skipStructures]
        · cases split
          exact absurd (fun front before => stays front (before.trans ⟨_, rfl⟩)) closed
    · have goesOn : StaysOpen (depth + 1) [g] := by simp [first, after]
      simp only [Option.map_eq_some_iff, Prod.exists, Prod.mk.injEq]
      constructor
      · rintro ⟨fewer, _, skips, rfl, rfl⟩
        obtain ⟨before, f, rfl, rfl, stays, closes⟩ := ih.mp skips
        refine ⟨g :: before, f, rfl, rfl, ?_, ?_⟩
        · simpa [staysOpen_cons, after] using stays
        · simpa [staysOpen_cons, after] using closes
      · rintro ⟨_ | ⟨h, before⟩, f, split, rfl, stays, closes⟩
        · cases split
          exact absurd goesOn closes
        · cases split
          refine ⟨before.length + 1, rest, ih.mpr ⟨before, f, rfl, rfl, ?_, ?_⟩, rfl, rfl⟩
          · simpa [staysOpen_cons, after] using stays
          · simpa [staysOpen_cons, after] using closes

/-- The one open structure is closed where end frames outnumber the others. -/
theorem closes_iff {before : List Frame} {f : Frame} (stays : StaysOpen 1 before) :
    ¬ StaysOpen 1 (before ++ [f]) ↔ EndsOutnumber (before ++ [f]) := by
  rw [staysOpen_one] at stays ⊢
  constructor
  · intro closes
    by_contra even
    refine closes fun front earlier => ?_
    rcases List.prefix_concat_iff.mp earlier with rfl | earlier
    · exact even
    · exact stays front earlier
  · exact fun outnumber stays => stays _ List.prefix_rfl outnumber

/-- A structure is closed by the first frame at which end frames outnumber those that open one. -/
theorem closeStructure_eq_ok_iff {c c' : Cursor} :
    closeStructure.run c = (.ok (), c') ↔
      ∃ before f, c.Skips (before ++ [f]) c' ∧ (∀ front, front <+: before → ¬ EndsOutnumber front) ∧
        EndsOutnumber (before ++ [f]) := by
  simp only [closeStructure, ExceptT.run]
  constructor
  · intro closes
    cases skips : skipStructures 1 c.rest with
    | none =>
      rw [skips] at closes
      cases closes
    | some found =>
      obtain ⟨count, rest⟩ := found
      rw [skips] at closes
      cases closes
      obtain ⟨before, f, split, rfl, stays, last⟩ := skipStructures_eq_some_iff.mp skips
      exact ⟨before, f, ⟨by simpa using split, by simp, rfl⟩, staysOpen_one.mp stays, (closes_iff stays).mp last⟩
  · rintro ⟨before, f, skipped, stays, last⟩
    rw [← staysOpen_one] at stays
    have split : c.rest = before ++ f :: c'.rest := by simpa using skipped.rest
    have skips := skipStructures_eq_some_iff.mpr ⟨before, f, split, rfl, stays, (closes_iff stays).mpr last⟩
    obtain ⟨operation, position, rest⟩ := c'
    obtain ⟨-, rfl, rfl⟩ := skipped
    simp [skips]

/-- It is not closed if there is none. -/
theorem closeStructure_fails_iff {c : Cursor} :
    (∃ framing c', closeStructure.run c = (.error (.framing framing), c')) ↔
      ∀ front, front <+: c.rest → ¬ EndsOutnumber front := by
  rw [← staysOpen_one, ← skipStructures_eq_none_iff]
  simp only [closeStructure, ExceptT.run]
  cases skips : skipStructures 1 c.rest with
  | none => exact iff_of_true ⟨_, _, rfl⟩ rfl
  | some found =>
    refine iff_of_false ?_ (Option.some_ne_none found)
    rintro ⟨_, _, ⟨⟩⟩

end Cursor

/-! ## Balanced frames -/

theorem Arrive.countP_eq {p : Frame → Bool} (same : ∀ {f g : Frame}, f.Arrives g → p g = p f)
    {sent arrived : List Frame} (arrive : Arrive sent arrived) : arrived.countP p = sent.countP p := by
  induction arrive with
  | nil => rfl
  | cons arrives _ ih => rw [List.countP_cons, List.countP_cons, ih, same arrives]

theorem Frame.Arrives.opens {f g : Frame} (arrives : f.Arrives g) : g.opens = f.opens := by
  simp only [Frame.opens, arrives.isBegin, arrives.isEnd]

namespace Balanced

variable {sent arrived frames inner rest : List Frame}

/-- Balanced frames arrive as such. -/
theorem arrive (balanced : Balanced sent) (arrive : Arrive sent arrived) : Balanced arrived where
  within front before outnumber := by
    have arrives : Arrive (sent.take front.length) front := by
      have first := List.forall₂_take front.length arrive
      rwa [← List.prefix_iff_eq_take.mp before] at first
    refine balanced.within (sent.take front.length) (List.take_prefix ..) ?_
    rwa [EndsOutnumber, arrives.countP_eq Frame.Arrives.opens, arrives.countP_eq Frame.Arrives.isEnd] at outnumber
  even := by rw [arrive.countP_eq Frame.Arrives.isEnd, arrive.countP_eq Frame.Arrives.opens, balanced.even]

/-- The first frame at which end frames outnumber the others is an end frame, and what is before it is balanced. -/
theorem of_first {f : Frame} (stays : ∀ front, front <+: frames → ¬ EndsOutnumber front)
    (last : EndsOutnumber (frames ++ [f])) : f.isEnd = true ∧ Balanced frames := by
  have few := stays frames List.prefix_rfl
  simp only [EndsOutnumber, List.countP_append, List.countP_singleton] at few last
  cases ends : f.isEnd with
  | false =>
    simp only [ends, Bool.false_eq_true, if_false] at last
    omega
  | true =>
    simp only [Frame.opens, ends, Bool.not_true, Bool.and_false, Bool.false_eq_true, if_false, if_true] at last
    exact ⟨rfl, stays, by omega⟩

/-- After balanced frames, the next end frame is one too many. -/
theorem endsOutnumber (balanced : Balanced frames) {f : Frame} (ends : f.isEnd = true) :
    EndsOutnumber (frames ++ [f]) := by
  simp [EndsOutnumber, balanced.even, Frame.opens, ends]

end Balanced

/-- Balanced frames are skipped with the end frame that follows them. -/
theorem Cursor.takes_closeStructure {added : List Frame} (balanced : Balanced added) :
    Takes closeStructure (added ++ [.closeStructure]) () := by
  intro arrived arrive operation position rest
  obtain ⟨front, _, rfl, arriveAdded, _ | ⟨arrives, _ | _⟩⟩ := arrive.of_append
  have here := balanced.arrive arriveAdded
  have ends : Frame.isEnd _ = true := arrives.isEnd.trans (by decide)
  exact closeStructure_eq_ok_iff.mpr ⟨front, _, ⟨rfl, rfl, rfl⟩, here.within, here.endsOutnumber ends⟩

/-- Structures one after the other or one inside the other, each closed by an end frame of its own, and frames
    between them that mark none. -/
inductive Nested : List Frame → Prop
  | nil : Nested []
  | plain {f : Frame} {rest : List Frame} (begins : f.isBegin = false) (ends : f.isEnd = false) (others : Nested rest) :
    Nested (f :: rest)
  | enclosed {opening closing : Frame} {inner rest : List Frame} (opens : opening.opens = true) (within : Nested inner)
    (ends : closing.isEnd = true) (others : Nested rest) : Nested (opening :: (inner ++ closing :: rest))

section
open Cursor

variable {f : Frame} {frames inner rest : List Frame} {depth : Nat}

theorem Cursor.depthAfter_of_plain (begins : f.isBegin = false) (ends : f.isEnd = false) :
    depthAfter f depth = depth := by
  simp [depthAfter, begins, ends]

theorem Cursor.depthAfter_of_opens (opens : f.opens = true) : depthAfter f depth = depth + 1 := by
  obtain ⟨begins, ends⟩ : f.isBegin = true ∧ f.isEnd = false := by simpa [Frame.opens] using opens
  simp [depthAfter, begins, ends]

/-- A structure that is open around nested ones is open after them. -/
theorem Nested.staysOpen_append (nested : Nested inner) :
    StaysOpen (depth + 1) (inner ++ rest) ↔ StaysOpen (depth + 1) rest := by
  induction nested generalizing depth rest with
  | nil => rfl
  | plain begins ends _ ih =>
    rw [List.cons_append, staysOpen_cons, depthAfter_of_plain begins ends, ih]
    exact and_iff_right (Nat.succ_pos depth)
  | enclosed opens _ ends _ within others =>
    have closes : depthAfter _ (depth + 1 + 1) = depth + 1 := if_pos ends
    rw [List.cons_append, List.append_assoc, staysOpen_cons, depthAfter_of_opens opens, within, List.cons_append,
      staysOpen_cons, closes, others]
    simp

theorem Nested.balanced (nested : Nested frames) : Balanced frames where
  within := by
    rw [← staysOpen_one, ← List.append_nil frames, nested.staysOpen_append, staysOpen_nil]
    exact Nat.one_pos
  even := by
    induction nested with
    | nil => rfl
    | plain begins ends _ ih => simp [Frame.opens, begins, ends, ih]
    | @enclosed opening closing _ _ opens _ ends _ within others =>
      obtain ⟨-, more⟩ : opening.isBegin = true ∧ opening.isEnd = false := by simpa [Frame.opens] using opens
      have last : closing.opens = false := by simp [Frame.opens, ends]
      simp [opens, more, ends, last, within, others]
      omega

/-- The rest of an open structure: what is nested in it, its end frame, and what follows. -/
theorem Balanced.exists_of_opens (balanced : Balanced (f :: frames)) (opens : f.opens = true) :
    ∃ inner closing rest,
      frames = inner ++ closing :: rest ∧ Balanced inner ∧ closing.isEnd = true ∧ Balanced rest := by
  have more : f.isEnd = false := by
    cases ends : f.isEnd <;> simp_all [Frame.opens]
  have counts : frames.countP Frame.isEnd = frames.countP Frame.opens + 1 := by
    simpa [opens, more] using balanced.even
  -- Of the two structures that are open now, the outer one stays so, and the inner one is closed on the way.
  have stays : StaysOpen 2 frames := by
    have all := (staysOpen_cons.mp (staysOpen_one.mpr balanced.within)).2
    rwa [depthAfter_of_opens opens] at all
  have closed : ¬ StaysOpen 1 frames := fun open' => by
    have last := open' frames List.prefix_rfl
    omega
  rw [← skipStructures_eq_none_iff] at closed
  obtain ⟨⟨count, rest⟩, skips⟩ := Option.ne_none_iff_exists'.mp closed
  obtain ⟨inner, closing, rfl, -, before, after⟩ := skipStructures_eq_some_iff.mp skips
  obtain ⟨ends, within⟩ := Balanced.of_first (staysOpen_one.mp before) ((closes_iff before).mp after)
  have another : closing.opens = false := by simp [Frame.opens, ends]
  have even := within.even
  refine ⟨inner, closing, rest, rfl, within, ends, fun front earlier => ?_, ?_⟩
  · have here := stays (inner ++ closing :: front) (by simpa using earlier)
    simp only [List.countP_append, List.countP_cons, ends, another, if_true, Bool.false_eq_true, if_false] at here
    rw [EndsOutnumber]
    omega
  · simp only [List.countP_append, List.countP_cons, ends, another, if_true, Bool.false_eq_true, if_false] at counts
    omega

/-- Counting marks is the same as matching them. -/
theorem nested_iff_balanced : Nested frames ↔ Balanced frames := by
  refine ⟨Nested.balanced, fun balanced => ?_⟩
  induction size : frames.length using Nat.strong_induction_on generalizing frames with
  | _ size ih =>
    cases frames with
    | nil => exact .nil
    | cons f frames =>
      have stays := (staysOpen_cons.mp (staysOpen_one.mpr balanced.within)).2
      cases ends : f.isEnd with
      | true =>
        have none : StaysOpen 0 frames := by simpa [depthAfter, ends] using stays
        exact absurd (none [] List.nil_prefix) (Nat.lt_irrefl 0)
      | false =>
        cases begins : f.isBegin with
        | false =>
          rw [depthAfter_of_plain begins ends] at stays
          have even : frames.countP Frame.isEnd = frames.countP Frame.opens := by
            simpa [Frame.opens, begins, ends] using balanced.even
          exact .plain begins ends (ih _ (by simp [← size]) ⟨staysOpen_one.mp stays, even⟩ rfl)
        | true =>
          have opens : f.opens = true := by simp [Frame.opens, begins, ends]
          obtain ⟨inner, closing, rest, rfl, within, last, others⟩ := balanced.exists_of_opens opens
          simp only [List.length_cons, List.length_append] at size
          exact .enclosed opens (ih _ (by omega) within rfl) last (ih _ (by omega) others rfl)

end

/-! ## Shapes -/

namespace Shape

open Cursor (Takes)

/-- Frames of a value as a newer member may send them. The fixed frame of an address goes on after the port, and
    balanced frames stand before its end frame; all other frames are as they are written here, and a value that may
    be absent does not begin with a frame that says so. -/
def Grown : (shape : Shape) → shape.Value → List Frame → Prop
  | address, a, frames =>
    ∃ (extra : Octets) (added : List Frame), Balanced added ∧
      frames = .openStructure :: .ofContent (Field.int.encode a.port ++ extra) ::
        .ofContent (Text.Utf8.encode a.host) :: (added ++ [.closeStructure])
  | nullable _, none, frames => frames = [.absent]
  | nullable value, some a, frames => value.Grown a frames ∧ ∀ f ∈ frames.head?, f.isNull = false
  | list item, items, frames =>
    ∃ each, List.Forall₂ item.Grown items each ∧ frames = .openStructure :: (each.flatten ++ [.closeStructure])
  | shape, a, frames => frames = shape.codec.frames a

/-- What has grown begins like a value, and not like the end of a list. -/
theorem Grown.opens {shape : Shape} {a : shape.Value} {frames : List Frame} (grown : shape.Grown a frames) :
    ∃ f rest, frames = f :: rest ∧ f.isEnd = false := by
  induction shape generalizing frames with
  | text | bytes | data | ints | longs | uuids =>
    subst grown
    exact ⟨_, _, rfl, Frame.isEnd_ofContent _⟩
  | address =>
    obtain ⟨extra, added, -, rfl⟩ := grown
    exact ⟨_, _, rfl, by decide⟩
  | nullable value ih =>
    cases a with
    | none =>
      subst grown
      exact ⟨_, _, rfl, by decide⟩
    | some a => exact ih grown.1
  | list item =>
    obtain ⟨each, -, rfl⟩ := grown
    exact ⟨_, _, rfl, by decide⟩

/-- What has grown is read as before, to its very end. -/
theorem Grown.takes {shape : Shape} {a : shape.Value} {frames : List Frame} (grown : shape.Grown a frames) :
    Takes shape.codec.read frames a := by
  induction shape generalizing frames with
  | text => exact grown ▸ Codec.faithful_text.reads a
  | bytes => exact grown ▸ Codec.faithful_bytes.reads a
  | data => exact grown ▸ Codec.faithful_data.reads a
  | ints => exact grown ▸ (Codec.faithful_packed .int).reads a
  | longs => exact grown ▸ (Codec.faithful_packed .long).reads a
  | uuids => exact grown ▸ Codec.faithful_uuids.reads a
  | address =>
    obtain ⟨extra, added, balanced, rfl⟩ := grown
    exact Codec.takes_address a extra (Cursor.takes_closeStructure balanced)
  | nullable value ih =>
    cases a with
    | none =>
      subst grown
      exact Codec.takes_absent value.codec
    | some a =>
      obtain ⟨grown, present⟩ := grown
      obtain ⟨f, rest, rfl, -⟩ := grown.opens
      exact Codec.takes_nullable (ih grown) ⟨f, rest, rfl, present f rfl⟩
  | list item ih =>
    obtain ⟨each, grown, rfl⟩ := grown
    exact Codec.takes_list (grown.imp fun _ _ grown => ⟨ih grown, grown.opens⟩)

/-- What is written here has not grown, and that is a way to grow too. -/
theorem grown_frames (shape : Shape) (proper : shape.isProper = true) (a : shape.Value) :
    shape.Grown a (shape.codec.frames a) := by
  induction shape with
  | text | bytes | data | ints | longs | uuids => rfl
  | address => exact ⟨[], [], ⟨by simp [EndsOutnumber], rfl⟩, by simp [codec, Codec.address]⟩
  | nullable value ih =>
    obtain ⟨inner, solid⟩ := isProper_of_nullable proper
    cases a with
    | none => rfl
    | some a => exact ⟨ih inner a, present_codec solid a⟩
  | list item ih =>
    refine ⟨a.map item.codec.frames, ?_, ?_⟩
    · rw [List.forall₂_map_right_iff]
      exact List.forall₂_same.mpr fun a _ => ih proper a
    · rw [← List.flatMap_def]
      rfl

end Shape
end Datagrid
