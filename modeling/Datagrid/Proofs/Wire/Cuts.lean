import Datagrid.Proofs.Wire.Fragments

/-!
# Where messages are cut

A message that is too large is cut into runs that are filled in turn: a run takes its first frame
whatever the size, and the next one as long as its fragment stays within the limit. So a fragment is
above the limit only if it carries a single frame, and none could have taken the first frame of the
next one as well. The sizes are those of the bytes that are sent.
-/
namespace Datagrid

/-! ## Sizes -/

theorem Frame.length_wire (f : Frame) : f.wire.length = f.wireSize := by
  simp only [wire, List.length_append, Octets.length_littleEndian, wireSize, frameHeaderSize]

namespace Message

theorem wireSize_eq_sum (m : Message) : m.wireSize = (m.frames.map Frame.wireSize).sum := by
  rw [wireSize, List.sum_eq_foldr, List.foldr_map]

/-- A message takes as many bytes as are written of it. -/
theorem length_wire (m : Message) : m.wire.length = m.wireSize := by
  rw [wire, wireSize_eq_sum]
  rcases List.eq_nil_or_concat' m.frames with none | ⟨body, last, frames⟩
  · simp [none, sentFrames]
  · simp [frames, sentFrames_concat, List.length_flatMap, Frame.length_wire]

end Message

namespace Fragment

/-- The bytes of the fragment that carries a run. -/
def size (run : List Frame) : Nat := fragmentHeaderSize + (run.map Frame.wireSize).sum

theorem size_cons (f : Frame) (run : List Frame) : size (f :: run) = size run + f.wireSize := by
  simp only [size, List.map_cons, List.sum_cons]
  omega

theorem size_reverse (run : List Frame) : size run.reverse = size run := by
  simp [size, List.sum_reverse]

theorem wireSize_received (id : Int64) (flags : Flags) (run : List Frame) :
    (Message.received (header id flags :: run)).wireSize = size run := by
  rw [Message.wireSize_eq_sum, Message.received, List.map_cons, List.sum_cons, wireSize_header]
  rfl

/-! ## Filling runs -/

variable {limit size : Nat} {run frames made : List Frame}

/-- The run that is being filled is the first one, with what is still put into it. -/
theorem runsFrom_of_some (some : run ≠ []) :
    ∃ more others, runsFrom limit run size frames = (run.reverse ++ more) :: others := by
  fun_induction runsFrom limit run size frames with
  | case1 => exact absurd rfl some
  | case2 run => exact ⟨[], [], by rw [List.append_nil]⟩
  | case3 run size f rest => exact ⟨[], _, by rw [List.append_nil]⟩
  | case4 run size f rest _ ih =>
    obtain ⟨more, others, runs⟩ := ih (List.cons_ne_nil f run)
    exact ⟨f :: more, others, by rw [runs, List.reverse_cons, List.append_assoc, List.singleton_append]⟩

/-- A run of several frames makes a fragment within the limit, if the one that is being filled does. -/
theorem size_le_of_mem_runsFrom (filled : size = Fragment.size run) (within : 1 < run.length → size ≤ limit)
    (member : made ∈ runsFrom limit run size frames) (several : 1 < made.length) : Fragment.size made ≤ limit := by
  fun_induction runsFrom limit run size frames with
  | case1 => cases member
  | case2 run size =>
    obtain rfl := List.mem_singleton.mp member
    rw [size_reverse, ← filled]
    exact within (by simpa using several)
  | case3 run size f rest full ih =>
    rcases List.mem_cons.mp member with rfl | later
    · rw [size_reverse, ← filled]
      exact within (by simpa using several)
    · exact ih rfl (by simp) later
  | case4 run size f rest room ih =>
    refine ih (by rw [size_cons, filled]) (fun more => ?_) member
    have some : run ≠ [] := by
      rintro rfl
      simp at more
    simpa [some] using room

theorem size_le_of_mem_runs (member : made ∈ runs limit frames) (several : 1 < made.length) :
    Fragment.size made ≤ limit := by
  rw [runs] at member
  exact size_le_of_mem_runsFrom rfl (by simp) member several

/-- A run could not have taken the first frame of another one. -/
def Leaves (limit : Nat) (run next : List Frame) : Prop :=
  ∃ f, next.head? = some f ∧ limit < Fragment.size run + f.wireSize

/-- No run could have taken the first frame of the next one. -/
theorem isChain_runsFrom (filled : size = Fragment.size run) :
    (runsFrom limit run size frames).IsChain (Leaves limit) := by
  fun_induction runsFrom limit run size frames with
  | case1 => exact .nil
  | case2 => exact .singleton _
  | case3 run size f rest full ih =>
    have chain := ih rfl
    obtain ⟨more, others, runs⟩ : ∃ more others,
        runsFrom limit [f] (fragmentHeaderSize + f.wireSize) rest = ([f].reverse ++ more) :: others :=
      runsFrom_of_some (List.cons_ne_nil f [])
    rw [runs] at chain ⊢
    refine .cons_cons ⟨f, rfl, ?_⟩ chain
    rw [size_reverse, ← filled]
    simp only [Bool.and_eq_true, decide_eq_true_eq] at full
    exact full.2
  | case4 run size f rest _ ih => exact ih (by rw [size_cons, filled])

theorem isChain_runs : (runs limit frames).IsChain (Leaves limit) := by
  rw [runs]
  exact isChain_runsFrom rfl

/-- Several frames that do not fit into one message do not fit into one run. -/
theorem several_runs {m : Message} (large : limit < m.wireSize) (several : 1 < m.frames.length) :
    2 ≤ (runs limit m.frames).length := by
  by_contra few
  have all := flatten_runs limit m.frames
  match one : runs limit m.frames, few with
  | [], _ =>
    rw [one, List.flatten_nil] at all
    rw [← all] at several
    cases several
  | [run], _ =>
    obtain rfl : run = m.frames := by rw [← all, one, List.flatten_singleton]
    have within : Fragment.size m.frames ≤ limit := size_le_of_mem_runs (by rw [one]; simp) several
    rw [Fragment.size, ← Message.wireSize_eq_sum] at within
    omega
  | _ :: _ :: _, few => simp at few

end Fragment

/-! ## Parts -/

/-- The frames of a part behind its header. -/
def Message.body (part : Message) : List Frame := part.frames.tail

namespace Fragment

/-- The `k`-th of `count` parts begins with the header of a fragment, which says where it stands. -/
def Headed (id : Int64) (count k : Nat) (part : Message) : Prop :=
  ∃ f, part.frames = f :: part.body ∧ f.content.length = 8 ∧ f.read .long fragmentIdOffset = .ok id ∧
    (f.isBeginFragment = true ↔ k = 0) ∧ (f.isEndFragment = true ↔ k + 1 = count)

/-- The parts that a message is cut into. -/
structure Cut (limit : Nat) (id : Int64) (frames : List Frame) (parts : List Message) : Prop where
  several : 2 ≤ parts.length
  /-- They carry the frames of the message, in order. -/
  bodies : (parts.map Message.body).flatten = frames
  laden : ∀ part ∈ parts, part.body ≠ []
  headed : ∀ (k : Nat) (part : Message), parts[k]? = some part → Headed id parts.length k part
  /-- Only a single frame takes a part above the limit. -/
  bounded : ∀ part ∈ parts, 1 < part.body.length → part.wireSize ≤ limit
  /-- No part could have carried the first frame of the next one. -/
  greedy : ∀ (k : Nat) (part next : Message), parts[k]? = some part → parts[k + 1]? = some next →
    ∃ f, next.body.head? = some f ∧ limit < part.wireSize + f.wireSize

theorem isBeginFragment_mark (id : Int64) (count k : Nat) :
    (header id (mark count k)).isBeginFragment = true ↔ k = 0 := by
  show (mark count k).has .beginFragment = true ↔ k = 0
  rw [mark]
  split_ifs with first last
  · exact iff_of_true (by decide) first
  · exact iff_of_false (by decide) first
  · exact iff_of_false (by decide) first

theorem isEndFragment_mark (id : Int64) {count k : Nat} (several : 2 ≤ count) :
    (header id (mark count k)).isEndFragment = true ↔ k + 1 = count := by
  show (mark count k).has .endFragment = true ↔ k + 1 = count
  rw [mark]
  split_ifs with first last
  · exact iff_of_false (by decide) (by omega)
  · exact iff_of_true (by decide) last
  · exact iff_of_false (by decide) last

theorem map_body_parts (id : Int64) {runs : List (List Frame)} (several : 2 ≤ runs.length) :
    (parts id runs).map Message.body = runs := by
  apply List.ext_getElem?
  intro k
  rw [List.getElem?_map, getElem?_parts id runs several]
  cases runs[k]? <;> rfl

theorem mem_parts {id : Int64} {runs : List (List Frame)} {part : Message} (several : 2 ≤ runs.length)
    (member : part ∈ parts id runs) : part.body ∈ runs ∧ part.wireSize = size part.body := by
  obtain ⟨k, there⟩ := List.mem_iff_getElem?.mp member
  rw [getElem?_parts id runs several, Option.map_eq_some_iff] at there
  obtain ⟨run, there, rfl⟩ := there
  exact ⟨List.mem_of_getElem? there, wireSize_received ..⟩

theorem cut_parts {limit : Nat} {m : Message} (id : Int64) (large : limit < m.wireSize) (more : 1 < m.frames.length) :
    Cut limit id m.frames (parts id (runs limit m.frames)) where
  several := by
    rw [length_parts]
    exact several_runs large more
  bodies := by rw [map_body_parts id (several_runs large more), flatten_runs]
  laden part member := ne_nil_of_mem_runs (mem_parts (several_runs large more) member).1
  headed k part there := by
    have several := several_runs large more
    rw [getElem?_parts id _ several, Option.map_eq_some_iff] at there
    obtain ⟨run, -, rfl⟩ := there
    rw [length_parts]
    exact ⟨_, rfl, Field.length_encode_long id, read_header id _, isBeginFragment_mark id _ k,
      isEndFragment_mark id several⟩
  bounded part member frames := by
    obtain ⟨run, size⟩ := mem_parts (several_runs large more) member
    rw [size]
    exact size_le_of_mem_runs run frames
  greedy k part next there later := by
    have several := several_runs large more
    have chain : (runs limit m.frames).IsChain (Leaves limit) := isChain_runs
    rw [getElem?_parts id _ several, Option.map_eq_some_iff] at there later
    obtain ⟨run, there, rfl⟩ := there
    obtain ⟨other, later, rfl⟩ := later
    obtain ⟨inside, rfl⟩ := List.getElem?_eq_some_iff.mp later
    obtain ⟨-, rfl⟩ := List.getElem?_eq_some_iff.mp there
    obtain ⟨f, first, exceeds⟩ := List.isChain_iff_getElem.mp chain k inside
    exact ⟨f, first, by rwa [wireSize_received]⟩

end Fragment

/-- A message that is small enough, or has a single frame, is sent as it is. Any other is cut: its
    parts carry its frames in order behind a header each, and each of them takes as many frames as
    the limit allows. What is sent takes as many bytes as its size says. -/
theorem Message.split_exactly (m : Message) (limit : Nat) (id : Int64) :
    (m.wireSize ≤ limit ∨ m.frames.length = 1 → m.split limit id = [m.copy] ∧ m.copy.sameFrames m = true) ∧
      (¬ (m.wireSize ≤ limit ∨ m.frames.length = 1) → Fragment.Cut limit id m.frames (m.split limit id)) ∧
      ∀ part ∈ m :: m.split limit id, part.wire.length = part.wireSize := by
  refine ⟨fun whole => ⟨?_, by simp [sameFrames, copy]⟩, fun large => ?_, fun part _ => part.length_wire⟩
  · have uncut : m.runs? limit = none := by
      rcases whole with small | single
      · rw [runs?, if_pos small]
      · obtain ⟨f, frames⟩ := List.length_eq_one_iff.mp single
        simp [runs?, frames, Fragment.runs, Fragment.runsFrom]
    rw [split, uncut]
  · rw [not_or, Nat.not_le] at large
    obtain ⟨large, single⟩ := large
    have more : 1 < m.frames.length := by
      by_contra few
      have none : m.frames = [] := List.length_eq_zero_iff.mp (by omega)
      simp [wireSize, none] at large
    have several := Fragment.several_runs large more
    have cut : m.runs? limit = some (Fragment.runs limit m.frames) := by
      rw [runs?, if_neg (Nat.not_le.mpr large), if_neg (Nat.not_lt.mpr several)]
    rw [split, cut]
    exact Fragment.cut_parts id large more

/-- A message with a large frame in the midst of it is cut into three parts. The first is just
    within the limit, and the second carries the large frame alone. -/
theorem Message.large_frame_is_carried_alone :
    let m : Message := .received [.zeroed 16 .unfragmented, .zeroed 10 .plain, .zeroed 100 .plain, .zeroed 4 .plain]
    ¬ (m.wireSize ≤ 52 ∨ m.frames.length = 1) ∧ (m.split 52 7).map wireSize = [52, 120, 24] ∧
      Fragment.Cut 52 7 m.frames (m.split 52 7) ∧ m.wireSize ≤ 154 ∧ m.split 154 7 = [m.copy] := by
  intro m
  have large : ¬ (m.wireSize ≤ 52 ∨ m.frames.length = 1) := by decide
  have small : m.wireSize ≤ 154 := by decide
  exact ⟨large, by decide, (split_exactly m 52 7).2.1 large, small, ((split_exactly m 154 7).1 (.inl small)).1⟩

end Datagrid
