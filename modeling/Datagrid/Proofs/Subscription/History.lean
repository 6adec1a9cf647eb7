import Datagrid.Subscription.Step
import Mathlib.Data.List.Induction

/-!
Histories: all the steps of a run, the oldest first, each with what there was
before it and what there was after it.
-/
namespace Datagrid

/-- A step of a run. -/
structure Step (S M : Type) where
  before : S
  move : M
  after : S

/-- The steps that have led from the start of a run to what there is now. -/
inductive Past {S M : Type} (step? : S → M → Option S) (start : S) : List (Step S M) → S → Prop where
  | start : Past step? start [] start
  | step {past : List (Step S M)} {now next : S} (move : M) :
      Past step? start past now → step? now move = some next →
        Past step? start (past ++ [⟨now, move, next⟩]) next

/-- Wherever a longer list is split, the split is at its last element or before. -/
theorem split_concat {α : Type} {l earlier later : List α} {last x : α}
    (split : l ++ [last] = earlier ++ x :: later) :
    (earlier = l ∧ x = last ∧ later = []) ∨ ∃ rest, later = rest ++ [last] ∧ l = earlier ++ x :: rest := by
  rcases List.eq_nil_or_concat later with none | ⟨rest, final, rfl⟩
  · subst none
    obtain ⟨rfl, same⟩ := List.append_inj' split rfl
    exact .inl ⟨rfl, by simpa using same.symm, rfl⟩
  · have cut : l ++ [last] = (earlier ++ x :: rest) ++ [final] := by simpa using split
    obtain ⟨rfl, same⟩ := List.append_inj' cut rfl
    obtain rfl : last = final := by simpa using same
    exact .inr ⟨rest, List.concat_eq_append, rfl⟩

/-- What is so of all elements of a list is so of all but the last, and of the last. -/
theorem forall_mem_concat {α : Type} {holds : α → Prop} {l : List α} {last : α} :
    (∀ x ∈ l ++ [last], holds x) ↔ (∀ x ∈ l, holds x) ∧ holds last := by
  simp [or_imp, forall_and]

namespace Past

variable {S M : Type} {step? : S → M → Option S} {start now : S} {past : List (Step S M)}

/-- What is so at the start and is kept by every step is so at any time. -/
theorem invariant {motive : S → Prop} (run : Past step? start past now) (first : motive start)
    (kept : ∀ sys move next, motive sys → step? sys move = some next → motive next) : motive now := by
  induction run with
  | start => exact first
  | step move _ taken ih => exact kept _ move _ ih taken

/-- A run up to any of its steps is a run. -/
theorem upto {earlier later : List (Step S M)} {e : Step S M}
    (run : Past step? start past now) (split : past = earlier ++ e :: later) :
    Past step? start earlier e.before ∧ step? e.before e.move = some e.after := by
  induction run generalizing earlier later with
  | start => simp at split
  | @step past now next move run taken ih =>
    rcases split_concat split with ⟨rfl, rfl, -⟩ | ⟨rest, -, split⟩
    · exact ⟨run, taken⟩
    · exact ih split

/-- What comes after a step of a run is a run, too. -/
theorem since {earlier later : List (Step S M)} {e : Step S M}
    (run : Past step? start past now) (split : past = earlier ++ e :: later) : Past step? e.after later now := by
  induction run generalizing later with
  | start => simp at split
  | step move _ taken ih =>
    rcases split_concat split with ⟨-, rfl, rfl⟩ | ⟨rest, rfl, before⟩
    · exact .start
    · exact (ih before).step move taken

/-- Every step of a run was possible, and came after a run of its own. -/
theorem mem {e : Step S M} (run : Past step? start past now) (member : e ∈ past) :
    ∃ earlier, Past step? start earlier e.before ∧ step? e.before e.move = some e.after := by
  obtain ⟨earlier, later, split⟩ := List.append_of_mem member
  exact ⟨earlier, run.upto split⟩

/-- A run that goes on where another ended makes one run with it. -/
theorem append {mid : S} {more : List (Step S M)} (run : Past step? start past mid)
    (goesOn : Past step? mid more now) : Past step? start (past ++ more) now := by
  induction goesOn with
  | start => simpa using run
  | step move _ taken ih =>
    rw [← List.append_assoc]
    exact ih.step move taken

/-- Moves that are possible one after the other make a run. -/
theorem of_moves {moves : List M} (done : moves.foldlM step? start = some now) :
    ∃ past, Past step? start past now ∧ past.map Step.move = moves := by
  induction moves using List.reverseRecOn generalizing now with
  | nil =>
    obtain rfl : start = now := by simpa using done
    exact ⟨[], .start, rfl⟩
  | append_singleton moves move ih =>
    simp only [List.foldlM_append, List.foldlM_cons, List.foldlM_nil, bind_pure, Option.bind_eq_bind,
      Option.bind_eq_some_iff] at done
    obtain ⟨before, run, taken⟩ := done
    obtain ⟨past, run, same⟩ := ih run
    exact ⟨_, run.step move taken, by simp [same]⟩

/-- A run of steps that are checked is a run of steps, all of which pass. -/
theorem of_checked {ok : S → M → Bool}
    (run : Past (fun sys move => if ok sys move then step? sys move else none) start past now) :
    Past step? start past now ∧ ∀ e ∈ past, ok e.before e.move = true := by
  induction run with
  | start => exact ⟨.start, by simp⟩
  | @step past now next move _ taken ih =>
    obtain ⟨run, passed⟩ := ih
    by_cases good : ok now move = true
    · rw [if_pos good] at taken
      refine ⟨run.step move taken, ?_⟩
      intro e there
      rcases List.mem_append.mp there with old | new
      · exact passed e old
      · obtain rfl := List.mem_singleton.mp new
        exact good
    · rw [if_neg good] at taken
      cases taken

end Past
end Datagrid
