import Datagrid.Proofs.Wire.RoundTrip
import Mathlib.Data.List.Dedup
import Mathlib.Data.List.Infix
import Mathlib.Data.List.Range
import Mathlib.Data.List.Perm.Subperm

/-!
# Messages that travel interleaved

Several messages may be under way at a time, each whole or in fragments. As
long as the units of each keep their order and no more are open at a time than
the decoder keeps, every message arrives once, with its own frames, when its
last unit does.
-/
namespace Datagrid

/-! ## Sendings and their units -/

/-- A message on its way: whole, or cut where it is larger than a limit, with
    `id` for its fragments. -/
structure Sending where
  message : Message
  limit : Option Nat
  id : Int64

namespace Sending

/-- The units in which a message travels. -/
def units (s : Sending) : List Message :=
  match s.limit with
  | none => [s.message]
  | some limit => s.message.split limit s.id

/-- Whether the message travels in fragments. -/
def isCut (s : Sending) : Bool := usesFragmentId s.limit s.message

/-- The message as it arrives: the frames that were sent, the last one marked. -/
def arrival (s : Sending) : Message := .received (Message.sentFrames s.message.frames)

/-- The frames of the message that its first `k` fragments carry. -/
def carried (s : Sending) (k : Nat) : List Frame :=
  (s.units.take k).flatMap fun part => part.frames.drop 1

/-- A message that is not cut is one unit, and one that is cut is its runs
    behind header frames. -/
theorem units_cases (s : Sending) :
    (s.isCut = false ∧ ∃ m : Message, s.units = [m] ∧ m.frames = s.message.frames) ∨
      (s.isCut = true ∧ ∃ runs, s.units = Fragment.parts s.id runs ∧ 2 ≤ runs.length ∧
        (∀ run ∈ runs, run ≠ []) ∧ runs.flatten = s.message.frames) := by
  obtain ⟨m, limit, id⟩ := s
  cases limit with
  | none => exact .inl ⟨rfl, m, rfl, rfl⟩
  | some limit =>
    cases cut : m.runs? limit with
    | none =>
      refine .inl ⟨by simp [isCut, usesFragmentId, Message.isCut, cut], m.copy, ?_, rfl⟩
      simp [units, Message.split, cut]
    | some runs =>
      refine .inr ⟨by simp [isCut, usesFragmentId, Message.isCut, cut], runs, ?_, Message.runs?_eq_some cut⟩
      simp [units, Message.split, cut]

theorem isCut_of_several {s : Sending} {k : Nat} (before : 0 < k) (after : k < s.units.length) : s.isCut = true := by
  rcases s.units_cases with ⟨-, m, units, -⟩ | ⟨cut, -⟩
  · rw [units, List.length_singleton] at after
    omega
  · exact cut

theorem several_of_isCut {s : Sending} (cut : s.isCut) : 2 ≤ s.units.length := by
  rcases s.units_cases with ⟨whole, -⟩ | ⟨-, runs, units, several, -⟩
  · rw [whole] at cut
    cases cut
  · rwa [units, Fragment.length_parts]

theorem length_units_pos (s : Sending) : 0 < s.units.length := by
  rcases s.units_cases with ⟨-, m, units, -⟩ | ⟨-, runs, units, several, -⟩
  · rw [units]
    simp
  · rw [units, Fragment.length_parts]
    omega

theorem carried_succ {s : Sending} {k : Nat} {part : Message} (there : s.units[k]? = some part) :
    s.carried (k + 1) = s.carried k ++ part.frames.drop 1 := by
  rw [carried, List.take_add_one, there, carried, List.flatMap_append]
  simp

theorem carried_eq_flatten {s : Sending} {runs : List (List Frame)} (units : s.units = Fragment.parts s.id runs)
    (several : 2 ≤ runs.length) (k : Nat) : s.carried k = (runs.take k).flatten := by
  have bodies : s.units.map (fun part => part.frames.drop 1) = runs := by
    apply List.ext_getElem?
    intro j
    rw [List.getElem?_map, units, Fragment.getElem?_parts s.id runs several, Option.map_map]
    exact congrFun Option.map_id runs[j]?
  rw [carried, List.flatMap_def, List.map_take, bodies]

/-- Every unit of a well-formed message is one on the wire. -/
theorem isUnit_of_mem_units {s : Sending} (formed : s.message.WellFormed) {part : Message} (member : part ∈ s.units) :
    part.IsUnit := by
  rcases s.units_cases with ⟨-, m, units, frames⟩ | ⟨-, runs, units, several, some, frames⟩
  · rw [units, List.mem_singleton] at member
    subst member
    exact ⟨by rw [frames]; exact formed.some, by rw [frames]; exact formed.unmarked, by rw [frames]; exact formed.fits⟩
  · obtain ⟨k, there⟩ := List.getElem?_of_mem member
    rw [units, Fragment.getElem?_parts s.id runs several, Option.map_eq_some_iff] at there
    obtain ⟨run, run_there, rfl⟩ := there
    have unmarked := Fragment.unmarked_run run_there some (by rw [frames]; exact formed.unmarked)
    have runMember := List.mem_of_getElem? run_there
    refine Fragment.isUnit_fragment s.id _ (Fragment.mark_unmarked _ _) (some run runMember) unmarked.1 ?_
    intro f inside
    apply formed.fits
    rw [← frames]
    exact List.mem_flatten.mpr ⟨run, runMember, inside⟩

/-- What a decoder does with the `k`-th unit of a message, if it holds what the
    units before it carried. -/
theorem unit_eq {s : Sending} (formed : s.message.WellFormed) {k : Nat} {part : Message}
    (there : s.units[k]? = some part) {d : Decoder}
    (begins : k = 0 → s.isCut → d.find? s.id = none ∧ d.fragments.length < d.limit)
    (goesOn : 0 < k → d.find? s.id = some (s.carried k)) :
    d.unit (Message.sentFrames part.frames) =
      if k + 1 = s.units.length then (if s.isCut then d.remove s.id else d, .message s.arrival)
      else (if k = 0 then d.insert s.id (s.carried 1) else d.extend s.id (part.frames.drop 1), .nothing) := by
  rcases s.units_cases with ⟨whole, m, units, frames⟩ | ⟨cut, runs, units, several, some, frames⟩
  · obtain ⟨rfl, rfl⟩ : k = 0 ∧ m = part := by
      rw [units] at there
      cases k with
      | zero => exact ⟨rfl, by simpa using there⟩
      | succ k => simp at there
    rw [units, frames, if_pos (by simp), whole, Decoder.unit_whole d formed.unfragmented_sentFrames]
    simp [arrival]
  · have count : s.units.length = runs.length := by rw [units, Fragment.length_parts]
    rw [units, Fragment.getElem?_parts s.id runs several, Option.map_eq_some_iff] at there
    obtain ⟨run, run_there, rfl⟩ := there
    have runSome := some run (List.mem_of_getElem? run_there)
    have unmarked := Fragment.unmarked_run run_there some (by rw [frames]; exact formed.unmarked)
    have inside : k < runs.length := (List.getElem?_eq_some_iff.mp run_there).1
    have held := carried_eq_flatten units several k
    rw [Fragment.sentFrames_fragment s.id _ runSome, count, cut]
    rcases Nat.eq_zero_or_pos k with rfl | positive
    · obtain ⟨fresh, room⟩ := begins rfl cut
      have first : s.carried 1 = run := by
        rw [carried_eq_flatten units several, List.take_add_one, run_there]
        simp
      rw [Fragment.mark, if_pos rfl, Decoder.unit_begin fresh room (unmarked.2 (by omega)), if_neg (by omega),
        if_pos rfl, first]
    · have found := goesOn positive
      by_cases last : k + 1 = runs.length
      · have whole : s.carried k ++ Message.sentFrames run = Message.sentFrames s.message.frames := by
          have all : runs = runs.take k ++ [run] := by
            have complete := List.take_of_length_le (Nat.le_of_eq last.symm)
            rw [List.take_add_one, run_there] at complete
            exact complete.symm
          rw [← frames, all, List.flatten_append, held, Message.sentFrames_append _ _ (by simpa using runSome)]
          simp
        rw [Fragment.mark, if_neg (by omega), if_pos last, Decoder.unit_end found, if_pos last, whole]
        rfl
      · rw [Fragment.mark, if_neg (by omega), if_neg last, Decoder.unit_middle found (unmarked.2 (by omega)),
          if_neg last, if_neg (by omega)]
        rfl

end Sending

/-! ## Traces -/

/-- The units of the `i`-th sending. -/
def unitsAt (family : List Sending) (i : Nat) : List Message := family[i]?.elim [] Sending.units

/-- The units of some sendings, one after the other, those of each in their
    order. A unit comes with the place of its sending in the family. -/
def Interleaves (family : List Sending) (trace : List (Nat × Message)) : Prop :=
  ∀ i, (trace.filter (·.1 == i)).map (·.2) = unitsAt family i

/-- How many units of the `i`-th sending have been seen. -/
def progress (seen : List (Nat × Message)) (i : Nat) : Nat := (seen.map (·.1)).count i

/-- Whether some units of the `i`-th sending have been seen and some not. -/
def isOpen (family : List Sending) (seen : List (Nat × Message)) (i : Nat) : Bool :=
  0 < progress seen i && progress seen i < (unitsAt family i).length

/-- How many messages are open. -/
def openCount (family : List Sending) (seen : List (Nat × Message)) : Nat :=
  (List.range family.length).countP (isOpen family seen)

theorem progress_concat (seen : List (Nat × Message)) (i j : Nat) (part : Message) :
    progress (seen ++ [(i, part)]) j = progress seen j + if i = j then 1 else 0 := by
  rw [progress, List.map_append, List.count_append, progress]
  simp [List.count_singleton]

variable {family : List Sending} {seen rest : List (Nat × Message)} {i : Nat} {part : Message}

/-- The next unit of a trace is the next one of its sending. -/
theorem Interleaves.next (interleaved : Interleaves family (seen ++ (i, part) :: rest)) :
    ∃ s, family[i]? = some s ∧ s.units[progress seen i]? = some part ∧
      (progress seen i + 1 = s.units.length ↔ i ∉ rest.map (·.1)) := by
  have units := interleaved i
  have before : ((seen.filter (·.1 == i)).map (·.2)).length = progress seen i := by
    rw [progress, List.count_eq_length_filter, List.filter_map, List.length_map, List.length_map]
    rfl
  rw [List.filter_append, List.filter_cons, if_pos (by simp), List.map_append, List.map_cons] at units
  rw [unitsAt] at units
  cases there : family[i]? with
  | none => simp [there] at units
  | some s =>
    rw [there, Option.elim_some] at units
    refine ⟨s, rfl, ?_, ?_⟩
    · rw [← units, List.getElem?_append_right (by omega), before]
      simp
    · have after : ((rest.filter (·.1 == i)).map (·.2)).length = 0 ↔ i ∉ rest.map (·.1) := by
        rw [List.length_eq_zero_iff, List.map_eq_nil_iff, List.filter_eq_nil_iff, List.mem_map]
        constructor
        · rintro none ⟨unit, member, rfl⟩
          exact none unit member (by simp)
        · intro none unit member same
          exact none ⟨unit, member, by simpa using same⟩
      rw [← after, ← units, List.length_append, before, List.length_cons]
      omega

theorem isOpen_concat_of_ne {j : Nat} (differs : i ≠ j) :
    isOpen family (seen ++ [(i, part)]) j = isOpen family seen j := by
  simp only [isOpen, progress_concat, if_neg differs, Nat.add_zero]

theorem isOpen_iff {s : Sending} (there : family[i]? = some s) :
    isOpen family seen i ↔ 0 < progress seen i ∧ progress seen i < s.units.length := by
  simp [isOpen, unitsAt, there]

theorem ids_differ (distinct : family.Pairwise fun s t => s.isCut → t.isCut → s.id ≠ t.id) {j : Nat} {s t : Sending}
    (first : family[i]? = some s) (second : family[j]? = some t) (differs : i ≠ j) (cut : s.isCut) (cut' : t.isCut) :
    s.id ≠ t.id := by
  rw [List.pairwise_iff_getElem] at distinct
  obtain ⟨inside, rfl⟩ := List.getElem?_eq_some_iff.mp first
  obtain ⟨inside', rfl⟩ := List.getElem?_eq_some_iff.mp second
  rcases Nat.lt_or_gt_of_ne differs with below | above
  · exact distinct i j inside inside' below cut cut'
  · exact (distinct j i inside' inside above cut' cut).symm

/-! ## The decoder along a trace -/

/-- A decoder holds of every open message what its units have carried so far,
    and nothing else. -/
structure Follows (family : List Sending) (limit : Nat) (seen : List (Nat × Message)) (d : Decoder) : Prop where
  boundary : d.pending = []
  limit : d.limit = limit
  distinct : d.ids.Nodup
  held : ∀ i s, family[i]? = some s → isOpen family seen i → d.find? s.id = some (s.carried (progress seen i))
  known : ∀ id ∈ d.ids, ∃ i s, family[i]? = some s ∧ isOpen family seen i ∧ s.id = id

theorem Follows.new (family : List Sending) (limit : Nat) : Follows family limit [] (.new limit) where
  boundary := rfl
  limit := rfl
  distinct := List.nodup_nil
  held := by
    intro i s _ isOpened
    simp [isOpen, progress] at isOpened
  known := by
    intro id member
    cases member

variable {limit : Nat} {d : Decoder} {s : Sending}

/-- A decoder has room for a message that is not open yet but will be with its
    next unit. -/
theorem Follows.room (follows : Follows family limit seen d) (there : family[i]? = some s)
    (closed : isOpen family seen i = false) (opens : isOpen family (seen ++ [(i, part)]) i)
    (fresh : s.id ∉ d.ids) (bound : openCount family (seen ++ [(i, part)]) ≤ limit) :
    d.fragments.length < d.limit := by
  let openIds := ((List.range family.length).filter (isOpen family (seen ++ [(i, part)]))).map
    fun j => family[j]?.elim 0 Sending.id
  have inside : ∀ {j t}, family[j]? = some t → isOpen family (seen ++ [(i, part)]) j → t.id ∈ openIds := by
    intro j t there' isOpened
    have below : j < family.length := (List.getElem?_eq_some_iff.mp there').1
    refine List.mem_map.mpr ⟨j, List.mem_filter.mpr ⟨List.mem_range.mpr below, isOpened⟩, ?_⟩
    rw [there', Option.elim_some]
  have within : s.id :: d.ids ⊆ openIds := by
    intro id member
    rcases List.mem_cons.mp member with rfl | member
    · exact inside there opens
    · obtain ⟨j, t, there', isOpened, rfl⟩ := follows.known id member
      have differs : i ≠ j := by
        rintro rfl
        rw [closed] at isOpened
        cases isOpened
      exact inside there' (by rwa [isOpen_concat_of_ne differs])
  have counted : openIds.length = openCount family (seen ++ [(i, part)]) := by
    rw [List.length_map, openCount, List.countP_eq_length_filter]
  have most := (List.subperm_of_subset (List.nodup_cons.mpr ⟨fresh, follows.distinct⟩) within).length_le
  rw [List.length_cons, Decoder.length_ids, counted] at most
  rw [follows.limit]
  omega

/-- What has to be shown of a decoder that has taken in the next unit of a
    message: it has changed at most what it held of that message. -/
theorem Follows.advance (distinct : family.Pairwise fun s t => s.isCut → t.isCut → s.id ≠ t.id)
    (follows : Follows family limit seen d) (there : family[i]? = some s) {d' : Decoder}
    (boundary : d'.pending = []) (same : d'.limit = d.limit) (once : d'.ids.Nodup)
    (frame : ∀ id, (s.isCut → id ≠ s.id) → d'.find? id = d.find? id)
    (carried : isOpen family (seen ++ [(i, part)]) i → d'.find? s.id = some (s.carried (progress seen i + 1)))
    (ids : ∀ id ∈ d'.ids,
      (id ∈ d.ids ∧ (s.isCut → id ≠ s.id)) ∨ (id = s.id ∧ isOpen family (seen ++ [(i, part)]) i)) :
    Follows family limit (seen ++ [(i, part)]) d' where
  boundary := boundary
  limit := same.trans follows.limit
  distinct := once
  held := by
    intro j t there' isOpened
    rw [progress_concat]
    by_cases own : i = j
    · subst own
      obtain rfl : s = t := Option.some.inj (there.symm.trans there')
      rw [if_pos rfl]
      exact carried isOpened
    · rw [isOpen_concat_of_ne own] at isOpened
      obtain ⟨before, after⟩ := (isOpen_iff there').mp isOpened
      have cut := Sending.isCut_of_several before after
      rw [if_neg own, Nat.add_zero, frame t.id fun cut' => (ids_differ distinct there there' own cut' cut).symm]
      exact follows.held j t there' isOpened
  known := by
    intro id member
    rcases ids id member with ⟨old, differs⟩ | ⟨rfl, isOpened⟩
    · obtain ⟨j, t, there', isOpened, rfl⟩ := follows.known id old
      have other : i ≠ j := by
        rintro rfl
        obtain rfl : s = t := Option.some.inj (there.symm.trans there')
        obtain ⟨before, after⟩ := (isOpen_iff there).mp isOpened
        exact differs (Sending.isCut_of_several before after) rfl
      exact ⟨j, t, there', by rwa [isOpen_concat_of_ne other], rfl⟩
    · exact ⟨i, s, there, isOpened, rfl⟩

/-- The id of a message that is cut and has not begun is free. -/
theorem Follows.fresh (distinct : family.Pairwise fun s t => s.isCut → t.isCut → s.id ≠ t.id)
    (follows : Follows family limit seen d) (there : family[i]? = some s) (cut : s.isCut)
    (unseen : progress seen i = 0) : s.id ∉ d.ids := by
  intro member
  obtain ⟨j, t, there', isOpened, same⟩ := follows.known s.id member
  obtain ⟨before, after⟩ := (isOpen_iff there').mp isOpened
  have other : i ≠ j := by
    rintro rfl
    omega
  exact ids_differ distinct there there' other cut (Sending.isCut_of_several before after) same.symm

/-- A unit is taken in: the last one of a message yields it, and every other
    one yields nothing. -/
theorem Follows.step (formed : ∀ s ∈ family, s.message.WellFormed)
    (distinct : family.Pairwise fun s t => s.isCut → t.isCut → s.id ≠ t.id)
    (follows : Follows family limit seen d) (there : family[i]? = some s)
    (next : s.units[progress seen i]? = some part)
    (bound : openCount family (seen ++ [(i, part)]) ≤ limit) :
    ∃ d', Follows family limit (seen ++ [(i, part)]) d' ∧ d.unit (Message.sentFrames part.frames) =
      (d', if progress seen i + 1 = s.units.length then .message s.arrival else .nothing) := by
  have inside : progress seen i < s.units.length := (List.getElem?_eq_some_iff.mp next).1
  have opens : isOpen family (seen ++ [(i, part)]) i ↔ progress seen i + 1 < s.units.length := by
    rw [isOpen_iff there, progress_concat, if_pos rfl]
    omega
  have room : progress seen i = 0 → s.isCut → d.find? s.id = none ∧ d.fragments.length < d.limit := by
    intro unseen cut
    have fresh := follows.fresh distinct there cut unseen
    have several := Sending.several_of_isCut cut
    refine ⟨Decoder.find?_eq_none_iff.mpr fresh, follows.room there ?_ (opens.mpr (by omega)) fresh bound⟩
    simp [isOpen, unseen]
  have held : 0 < progress seen i → d.find? s.id = some (s.carried (progress seen i)) := fun positive =>
    follows.held i s there ((isOpen_iff there).mpr ⟨positive, inside⟩)
  have unit := Sending.unit_eq (formed s (List.mem_of_getElem? there)) next room held
  by_cases last : progress seen i + 1 = s.units.length
  · have closes : ¬ isOpen family (seen ++ [(i, part)]) i := fun isOpened => by
      have := opens.mp isOpened
      omega
    rw [unit, if_pos last, if_pos last]
    refine ⟨if s.isCut then d.remove s.id else d,
      follows.advance distinct there ?_ ?_ ?_ ?_ (fun isOpened => absurd isOpened closes) ?_, rfl⟩
    · split_ifs <;> exact follows.boundary
    · split_ifs <;> rfl
    · split_ifs
      · rw [Decoder.ids_remove]
        exact follows.distinct.filter _
      · exact follows.distinct
    · intro id differs
      split_ifs with cut
      · rw [Decoder.find?_remove, if_neg (differs cut)]
      · rfl
    · intro id member
      split_ifs at member with cut
      · rw [Decoder.ids_remove, List.mem_filter, bne_iff_ne] at member
        exact .inl ⟨member.1, fun _ => member.2⟩
      · exact .inl ⟨member, fun cut' => absurd cut' cut⟩
  · have more : progress seen i + 1 < s.units.length := by omega
    have cut : s.isCut := Sending.isCut_of_several (Nat.succ_pos _) more
    rw [unit, if_neg last, if_neg last]
    rcases Nat.eq_zero_or_pos (progress seen i) with unseen | positive
    · obtain ⟨free, -⟩ := room unseen cut
      rw [if_pos unseen]
      refine ⟨d.insert s.id (s.carried 1), follows.advance distinct there follows.boundary rfl ?_ ?_ ?_ ?_, rfl⟩
      · rw [Decoder.ids_insert]
        rw [← List.concat_eq_append]
        exact follows.distinct.concat (Decoder.find?_eq_none_iff.mp free)
      · intro id differs
        rw [Decoder.find?_insert free, if_neg (differs cut)]
      · intro _
        rw [Decoder.find?_insert free, if_pos rfl, unseen]
      · intro id member
        rw [Decoder.ids_insert, List.mem_append, List.mem_singleton] at member
        rcases member with old | rfl
        · refine .inl ⟨old, fun _ => ?_⟩
          rintro rfl
          exact Decoder.find?_eq_none_iff.mp free old
        · exact .inr ⟨rfl, opens.mpr more⟩
    · rw [if_neg (Nat.ne_of_gt positive)]
      refine ⟨d.extend s.id (part.frames.drop 1), follows.advance distinct there follows.boundary rfl ?_ ?_ ?_ ?_, rfl⟩
      · rw [Decoder.ids_extend]
        exact follows.distinct
      · intro id differs
        rw [Decoder.find?_extend, if_neg (differs cut)]
      · intro _
        rw [Decoder.find?_extend, if_pos rfl, held positive, Option.map_some, Sending.carried_succ next]
      · intro id member
        rw [Decoder.ids_extend] at member
        by_cases own : id = s.id
        · exact .inr ⟨own, opens.mpr more⟩
        · exact .inl ⟨member, fun _ => own⟩

/-- At the end of a trace nothing is open. -/
theorem Follows.eq_new (interleaved : Interleaves family seen) (follows : Follows family limit seen d) :
    d = .new limit := by
  obtain ⟨pending, fragments, bound⟩ := d
  obtain rfl : pending = [] := follows.boundary
  obtain rfl : bound = limit := follows.limit
  rw [Decoder.new, Decoder.mk.injEq]
  refine ⟨rfl, ?_, rfl⟩
  cases fragments with
  | nil => rfl
  | cons entry rest =>
    obtain ⟨i, s, there, isOpened, -⟩ := follows.known entry.1 (by simp [Decoder.ids])
    obtain ⟨-, after⟩ := (isOpen_iff there).mp isOpened
    have all := congrArg List.length (interleaved i)
    rw [unitsAt, there, Option.elim_some, List.length_map] at all
    have seenAll : progress seen i = (seen.filter (·.1 == i)).length := by
      rw [progress, List.count_eq_length_filter, List.filter_map, List.length_map]
      rfl
    omega

/-- What is left of a trace yields the messages whose last units it holds. -/
theorem Follows.drain (formed : ∀ s ∈ family, s.message.WellFormed)
    (distinct : family.Pairwise fun s t => s.isCut → t.isCut → s.id ≠ t.id)
    (interleaved : Interleaves family (seen ++ rest))
    (room : ∀ before, before <+: seen ++ rest → openCount family before ≤ limit)
    (follows : Follows family limit seen d) :
    d.drain (rest.flatMap (·.2.wire)) =
      ⟨(rest.map (·.1)).dedup.filterMap fun i => family[i]?.map Sending.arrival, none, .new limit, []⟩ := by
  induction rest generalizing seen d with
  | nil =>
    rw [List.append_nil] at interleaved
    rw [List.flatMap_nil, Decoder.drain_nil, follows.eq_new interleaved]
    rfl
  | cons unit rest ih =>
    obtain ⟨i, part⟩ := unit
    obtain ⟨s, there, next, last⟩ := interleaved.next
    have moved : seen ++ (i, part) :: rest = seen ++ [(i, part)] ++ rest := by simp
    have bound := room (seen ++ [(i, part)]) (by rw [moved]; exact List.prefix_append _ _)
    obtain ⟨d', after, taken⟩ := follows.step formed distinct there next bound
    have isUnit := Sending.isUnit_of_mem_units (formed s (List.mem_of_getElem? there)) (List.mem_of_getElem? next)
    rw [moved] at interleaved room
    have later := ih interleaved room after
    rw [List.flatMap_cons, List.map_cons]
    by_cases again : i ∈ rest.map (·.1)
    · rw [if_neg (fun complete => last.mp complete again)] at taken
      rw [Decoder.drain_of_silent follows.boundary isUnit taken, later, List.dedup_cons_of_mem again]
    · rw [if_pos (last.mpr again)] at taken
      rw [Decoder.drain_of_message follows.boundary isUnit taken, later, List.dedup_cons_of_notMem again,
        List.filterMap_cons_some (by rw [there, Option.map_some])]
      rfl

/-- However the units of some well-formed messages are interleaved, if those of
    each keep their order, messages that are cut have ids of their own and no
    more of them are open at a time than the decoder keeps, a new decoder reads
    all bytes without a fault and is new again. It yields every message once, in
    the order of their last units (`dedup` keeps the last of equals). -/
theorem interleaved_messages_arrive {family : List Sending} {trace : List (Nat × Message)} {limit : Nat}
    (formed : ∀ s ∈ family, s.message.WellFormed)
    (distinct : family.Pairwise fun s t => s.isCut → t.isCut → s.id ≠ t.id)
    (interleaved : Interleaves family trace)
    (room : ∀ before, before <+: trace → openCount family before ≤ limit) :
    (trace.map (·.1)).dedup.Perm (List.range family.length) ∧
      (Decoder.new limit).drain (trace.flatMap (·.2.wire)) =
        ⟨(trace.map (·.1)).dedup.filterMap fun i => family[i]?.map Sending.arrival, none, .new limit, []⟩ := by
  have fromStart : Interleaves family ([] ++ trace) := interleaved
  refine ⟨?_, (Follows.new family limit).drain formed distinct fromStart room⟩
  rw [List.perm_ext_iff_of_nodup (List.nodup_dedup _) List.nodup_range]
  intro i
  rw [List.mem_dedup, List.mem_range, List.mem_map]
  constructor
  · rintro ⟨unit, member, rfl⟩
    have some : unitsAt family unit.1 ≠ [] := by
      rw [← interleaved unit.1, ne_eq, List.map_eq_nil_iff, List.filter_eq_nil_iff]
      intro none
      exact none unit member (by simp)
    by_contra outside
    rw [unitsAt, List.getElem?_eq_none (Nat.not_lt.mp outside)] at some
    exact some rfl
  · intro inside
    have units := interleaved i
    rw [unitsAt, List.getElem?_eq_getElem inside, Option.elim_some] at units
    have some := family[i].length_units_pos
    rw [← units, List.length_map, List.length_pos_iff_exists_mem] at some
    obtain ⟨unit, member⟩ := some
    rw [List.mem_filter] at member
    exact ⟨unit, member.1, by simpa using member.2⟩

/-- Two messages that are cut in two and one that is not. -/
def threeSendings : List Sending :=
  let request : List Frame := [.zeroed 16 .unfragmented, .ofContent (List.replicate 40 1)]
  let answer : List Frame := [.zeroed 13 .unfragmented, .ofContent (List.replicate 30 2)]
  [⟨.received request, some 50, 1⟩, ⟨.received answer, some 50, 2⟩, ⟨.received answer, none, 1⟩]

/-- The message that is not cut goes between the fragments of the others. -/
def threeInterleaved : List (Nat × Message) :=
  let part (i k : Nat) : Nat × Message := (i, (unitsAt threeSendings i).getD k .empty)
  [part 0 0, part 1 0, part 2 0, part 1 1, part 0 1]

theorem three_interleaved_messages_arrive :
    (threeInterleaved.map (·.1)).dedup.Perm (List.range threeSendings.length) ∧
      (Decoder.new 2).drain (threeInterleaved.flatMap (·.2.wire)) =
        ⟨(threeInterleaved.map (·.1)).dedup.filterMap fun i => threeSendings[i]?.map Sending.arrival, none,
          .new 2, []⟩ := by
  refine interleaved_messages_arrive ?_ (by decide) ?_ ?_
  · have formed : ∀ s ∈ threeSendings, s.message.frames ≠ [] ∧ (∀ f ∈ s.message.frames.dropLast, f.isFinal = false) ∧
        (∀ f ∈ s.message.frames, f.wireSize < 256 ^ lengthSize) ∧ s.message.frames.head?.any Frame.isUnfragmented := by
      decide
    intro s member
    obtain ⟨some, unmarked, fits, unfragmented⟩ := formed s member
    exact ⟨⟨some, unmarked, fits⟩, unfragmented⟩
  · intro i
    match i with
    | 0 => decide
    | 1 => decide
    | 2 => decide
    | i + 3 => simp [threeInterleaved, unitsAt, threeSendings]
  · intro before isPrefix
    have bounded : ∀ before ∈ threeInterleaved.inits, openCount threeSendings before ≤ 2 := by decide
    exact bounded before ((List.mem_inits _ _).mpr isPrefix)

end Datagrid
