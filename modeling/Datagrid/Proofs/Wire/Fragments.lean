import Datagrid.Proofs.Wire.Units

/-!
# Runs and fragments

The runs of a message are its frames in order, none of them is empty, and each
is one fragment: a unit behind a header frame. A fragment that is not the last
one holds no frame that is marked as the last of its message.
-/
namespace Datagrid
namespace Fragment

/-! ## Runs -/

theorem flatten_runsFrom (limit : Nat) (run : List Frame) (size : Nat) (frames : List Frame) :
    (runsFrom limit run size frames).flatten = run.reverse ++ frames := by
  fun_induction runsFrom limit run size frames with
  | case1 => rfl
  | case2 run _ _ => simp
  | case3 run size f rest _ ih => rw [List.flatten_cons, ih]; simp
  | case4 run size f rest _ ih => rw [ih]; simp

theorem flatten_runs (limit : Nat) (frames : List Frame) : (runs limit frames).flatten = frames := by
  rw [runs, flatten_runsFrom, List.reverse_nil, List.nil_append]

theorem ne_nil_of_mem_runsFrom {limit size : Nat} {run frames made : List Frame}
    (member : made ∈ runsFrom limit run size frames) : made ≠ [] := by
  fun_induction runsFrom limit run size frames with
  | case1 => cases member
  | case2 run _ some =>
    rw [List.mem_singleton.mp member]
    simpa using some
  | case3 run size f rest full ih =>
    rcases List.mem_cons.mp member with rfl | later
    · have some : run ≠ [] := by simp only [Bool.and_eq_true] at full; simpa using full.1
      simpa using some
    · exact ih later
  | case4 run size f rest _ ih => exact ih member

theorem ne_nil_of_mem_runs {limit : Nat} {frames run : List Frame} (member : run ∈ runs limit frames) : run ≠ [] :=
  ne_nil_of_mem_runsFrom member

/-! ## Fragments -/

/-- The flags of the header frame of the `k`-th of `count` fragments. -/
def mark (count k : Nat) : Flags :=
  if k = 0 then .beginFragment else if k + 1 = count then .endFragment else .plain

theorem length_laterParts (id : Int64) (runs : List (List Frame)) : (laterParts id runs).length = runs.length := by
  fun_induction laterParts id runs with
  | case1 => rfl
  | case2 => rfl
  | case3 run rest _ ih => rw [List.length_cons, ih, List.length_cons]

theorem length_parts (id : Int64) (runs : List (List Frame)) : (parts id runs).length = runs.length := by
  cases runs with
  | nil => rfl
  | cons run rest => rw [parts, List.length_cons, length_laterParts, List.length_cons]

theorem getElem?_laterParts (id : Int64) (runs : List (List Frame)) (k : Nat) :
    (laterParts id runs)[k]? =
      runs[k]?.map fun run => .received (header id (if k + 1 = runs.length then .endFragment else .plain) :: run) := by
  fun_induction laterParts id runs generalizing k with
  | case1 => rfl
  | case2 run => cases k <;> simp
  | case3 run rest more ih =>
    cases k with
    | zero =>
      have several : 0 + 1 ≠ (run :: rest).length := by
        have some := List.length_pos_iff.mpr more
        rw [List.length_cons]
        omega
      rw [if_neg several]
      rfl
    | succ k =>
      rw [List.getElem?_cons_succ, List.getElem?_cons_succ, ih, List.length_cons]
      simp only [Nat.add_right_cancel_iff]

theorem getElem?_parts (id : Int64) (runs : List (List Frame)) (several : 2 ≤ runs.length) (k : Nat) :
    (parts id runs)[k]? = runs[k]?.map fun run => .received (header id (mark runs.length k) :: run) := by
  cases runs with
  | nil => rfl
  | cons run rest =>
    cases k with
    | zero => rfl
    | succ k =>
      rw [parts, List.getElem?_cons_succ, List.getElem?_cons_succ, getElem?_laterParts, mark,
        if_neg (Nat.succ_ne_zero k), List.length_cons]
      simp only [Nat.add_right_cancel_iff]

/-- A run behind a header frame is a unit. -/
theorem isUnit_fragment (id : Int64) (flags : Flags) {run : List Frame} (unmarkedHeader : flags.has .isFinal = false)
    (some : run ≠ []) (unmarked : ∀ f ∈ run.dropLast, f.isFinal = false)
    (fits : ∀ f ∈ run, f.wireSize < 256 ^ lengthSize) : (Message.received (header id flags :: run)).IsUnit where
  some := List.cons_ne_nil _ _
  unmarked := by
    intro f member
    have inside : f ∈ header id flags :: run.dropLast := by
      rwa [Message.received, List.dropLast_cons_of_ne_nil some] at member
    rcases List.mem_cons.mp inside with rfl | inside
    · exact unmarkedHeader
    · exact unmarked f inside
  fits := by
    intro f member
    rcases List.mem_cons.mp member with rfl | inside
    · rw [wireSize_header]
      decide
    · exact fits f inside

theorem sentFrames_fragment (id : Int64) (flags : Flags) {run : List Frame} (some : run ≠ []) :
    Message.sentFrames (Message.received (header id flags :: run)).frames = header id flags :: Message.sentFrames run :=
  Message.sentFrames_append [header id flags] run some

theorem mark_unmarked (count k : Nat) : (mark count k).has .isFinal = false := by
  rw [mark]
  split_ifs <;> decide

/-- Of the frames of a run only the last of the last run may be marked. -/
theorem unmarked_run {runs : List (List Frame)} {k : Nat} {run : List Frame} (there : runs[k]? = some run)
    (some : ∀ run ∈ runs, run ≠ []) (unmarked : ∀ f ∈ runs.flatten.dropLast, f.isFinal = false) :
    (∀ f ∈ run.dropLast, f.isFinal = false) ∧ (k + 1 < runs.length → ∀ f ∈ run, f.isFinal = false) := by
  induction runs generalizing k with
  | nil => simp at there
  | cons first rest ih =>
    by_cases single : rest = []
    · subst single
      cases k with
      | zero =>
        obtain rfl : first = run := by simpa using there
        refine ⟨by simpa using unmarked, ?_⟩
        intro more
        simp at more
      | succ k => simp at there
    · obtain ⟨second, others, rfl⟩ := List.exists_cons_of_ne_nil single
      have secondSome : second ++ others.flatten ≠ [] := by
        have := some second (by simp)
        simp [this]
      have parted : (first :: second :: others).flatten.dropLast = first ++ (second :: others).flatten.dropLast := by
        rw [List.flatten_cons, List.flatten_cons, List.dropLast_append_of_ne_nil secondSome]
      rw [parted] at unmarked
      cases k with
      | zero =>
        obtain rfl : first = run := by simpa using there
        have all : ∀ f ∈ first, f.isFinal = false := fun f member => unmarked f (List.mem_append_left _ member)
        exact ⟨fun f member => all f (List.dropLast_subset first member), fun _ => all⟩
      | succ k =>
        rw [List.getElem?_cons_succ] at there
        have later := ih there (fun run member => some run (List.mem_cons_of_mem _ member))
          (fun f member => unmarked f (List.mem_append_right _ member))
        refine ⟨later.1, fun more => later.2 ?_⟩
        simpa using more

end Fragment

/-! ## Messages that are cut -/

namespace Message

/-- What a message has to be for its frames to arrive as they are: its first
    frame says that it is no fragment, its last frame alone may be marked as
    the last one, and the length field of every frame can say its length. -/
structure WellFormed (m : Message) : Prop extends m.IsUnit where
  unfragmented : m.frames.head?.any Frame.isUnfragmented

/-- No frame is larger than its message. -/
theorem wireSize_le_of_mem {m : Message} {f : Frame} (member : f ∈ m.frames) : f.wireSize ≤ m.wireSize := by
  unfold wireSize
  generalize m.frames = frames at member
  induction frames with
  | nil => simp at member
  | cons first rest ih =>
    rw [List.foldr_cons]
    rcases List.mem_cons.mp member with rfl | later
    · exact Nat.le_add_right _ _
    · exact Nat.le_trans (ih later) (Nat.le_add_left _ _)

theorem wellFormed_of_small {m : Message} {body : List Frame} {last : Frame} (frames : m.frames = body ++ [last])
    (unfragmented : m.frames.head?.any Frame.isUnfragmented) (unmarked : ∀ f ∈ body, f.isFinal = false)
    (small : m.wireSize < 2 ^ 31) : m.WellFormed where
  some := by simp [frames]
  unmarked := by rwa [frames, List.dropLast_concat]
  unfragmented := unfragmented
  fits := by
    intro f member
    have part := wireSize_le_of_mem member
    have below : 2 ^ 31 < 256 ^ lengthSize := by decide
    omega

theorem WellFormed.unfragmented_sentFrames {m : Message} (formed : m.WellFormed) :
    (sentFrames m.frames).head?.any Frame.isUnfragmented := by
  have first := formed.unfragmented
  cases frames : m.frames with
  | nil => exact absurd frames formed.some
  | cons f rest =>
    rw [frames] at first
    cases rest with
    | nil => simpa [sentFrames] using first
    | cons g rest => simpa [sentFrames] using first

theorem runs?_eq_some {m : Message} {limit : Nat} {runs : List (List Frame)} (cut : m.runs? limit = some runs) :
    2 ≤ runs.length ∧ (∀ run ∈ runs, run ≠ []) ∧ runs.flatten = m.frames := by
  rw [runs?] at cut
  split at cut
  · cases cut
  · simp only at cut
    split at cut
    · cases cut
    · next several =>
      obtain rfl := Option.some.inj cut
      exact ⟨Nat.le_of_not_lt several, fun run => Fragment.ne_nil_of_mem_runs, Fragment.flatten_runs limit m.frames⟩

end Message
end Datagrid
