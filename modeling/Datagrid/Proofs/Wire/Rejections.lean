import Datagrid.Proofs.Wire.Wholeness
import Mathlib.Data.List.Nodup

/-!
# Units that are rejected

A decoder refuses a fragment whose header is too short, that begins a message that is open already
or that begins one too many, and it drops a fragment of a message that is not open. It is then what
it was before the first frame of the unit, and goes on with the bytes behind it. Every other unit
touches one message at most, and never are more messages open than the limit allows.
-/
namespace Datagrid

/-- The id of the message that a unit is a fragment of, by its first frame. -/
def Frame.fragmentId? (first : Frame) : Option Int64 :=
  if first.isUnfragmented then none else (first.read .long fragmentIdOffset).toOption

theorem Frame.fragmentId?_eq_some {first : Frame} {id : Int64} :
    first.fragmentId? = some id ↔ first.isUnfragmented = false ∧ first.read .long fragmentIdOffset = .ok id := by
  unfold fragmentId?
  cases first.isUnfragmented <;> cases first.read .long fragmentIdOffset <;> simp [Except.toOption]

/-- An id is read off eight bytes at least. -/
theorem Frame.read_fragmentId (first : Frame) :
    if first.content.length < Field.long.width then
      first.read .long fragmentIdOffset =
        .error (.framing (.short .field Field.long.width first.content.length))
    else ∃ id, first.read .long fragmentIdOffset = .ok id := by
  have within : ¬ UInt64.size ≤ fragmentIdOffset + Field.long.width := by decide
  simp only [Frame.read, Field.read, Field.misfit?, if_neg within]
  by_cases short : first.content.length < Field.long.width
  · have below : first.content.length < fragmentIdOffset + Field.long.width := short
    rw [if_pos short, if_pos below]
    rfl
  · have enough : ¬ first.content.length < fragmentIdOffset + Field.long.width := short
    rw [if_neg short, if_neg enough]
    exact ⟨_, rfl⟩

namespace Decoder

variable {d d' : Decoder} {limit : Nat} {first last f : Frame} {body read run : List Frame} {id other : Int64}
  {yield : Yield} {fault : Fault} {buffer left : Octets} {m : Message}

/-! ## What becomes of a unit -/

/-- A unit is rejected for its first frame: it is refused with a fault, or dropped without one. -/
inductive Rejects (d : Decoder) (first : Frame) : Yield → Prop
  | short (fragment : first.isUnfragmented = false) (short : first.content.length < Field.long.width) :
    Rejects d first (.fault (.framing (.short .field Field.long.width first.content.length)))
  | repeated {id : Int64} (fragment : first.fragmentId? = some id) (begins : first.isBeginFragment = true)
    (isOpen : id ∈ d.ids) : Rejects d first (.fault (.framing (.repeatedFragment id)))
  | crowded {id : Int64} (fragment : first.fragmentId? = some id) (begins : first.isBeginFragment = true)
    (fresh : id ∉ d.ids) (full : d.limit ≤ d.fragments.length) :
    Rejects d first (.fault (.framing (.tooManyFragments d.limit)))
  | unknown {id : Int64} (fragment : first.fragmentId? = some id) (goesOn : first.isBeginFragment = false)
    (absent : id ∉ d.ids) : Rejects d first .nothing

/-- All that can become of a unit. -/
inductive Handles (d : Decoder) (first : Frame) (body : List Frame) : Decoder × Yield → Prop
  | whole (unfragmented : first.isUnfragmented = true) :
    Handles d first body (d, .message (.received (first :: body)))
  | rejects {yield : Yield} (rejects : d.Rejects first yield) : Handles d first body (d, yield)
  | opens {id : Int64} (fragment : first.fragmentId? = some id) (fresh : id ∉ d.ids)
    (room : d.fragments.length < d.limit) : Handles d first body (d.insert id (unfinalLast body), .nothing)
  | grows {id : Int64} {held : List Frame} (fragment : first.fragmentId? = some id)
    (found : d.find? id = some held) : Handles d first body (d.extend id (unfinalLast body), .nothing)
  | closes {id : Int64} {held : List Frame} (fragment : first.fragmentId? = some id) (found : d.find? id = some held) :
    Handles d first body (d.remove id, .message (.received (held ++ body)))

theorem isSome_find?_iff : (d.find? id).isSome = true ↔ id ∈ d.ids := by
  rw [Option.isSome_iff_ne_none, Ne, find?_eq_none_iff, Classical.not_not]

theorem handles_unit (d : Decoder) (first : Frame) (body : List Frame) :
    d.Handles first body (d.unit (first :: body)) := by
  simp only [unit]
  split
  · next whole => exact .whole whole
  next part =>
  have fragment : first.isUnfragmented = false := by simpa using part
  have readable := first.read_fragmentId
  split at readable
  · next short =>
    rw [readable]
    exact .rejects (.short fragment short)
  · obtain ⟨id, read⟩ := readable
    have names : first.fragmentId? = some id := Frame.fragmentId?_eq_some.mpr ⟨fragment, read⟩
    rw [read]
    dsimp only
    split
    · next begins =>
      split
      · next known => exact .rejects (.repeated names begins (isSome_find?_iff.mp known))
      next unknown =>
      have fresh : id ∉ d.ids := fun known => unknown (isSome_find?_iff.mpr known)
      split
      · next full => exact .rejects (.crowded names begins fresh full)
      · next room => exact .opens names fresh (Nat.lt_of_not_le room)
    · next goesOn =>
      split
      · next absent => exact .rejects (.unknown names (by simpa using goesOn) (find?_eq_none_iff.mp absent))
      next held found =>
      split
      · exact .closes names found
      · exact .grows names found

/-- A rejected unit leaves everything as it is. -/
theorem unit_of_rejects (rejects : d.Rejects first yield) : d.unit (first :: body) = (d, yield) := by
  cases rejects with
  | short fragment short =>
    have unreadable := first.read_fragmentId
    rw [if_pos short] at unreadable
    simp [unit, fragment, unreadable]
  | repeated fragment begins isOpen =>
    obtain ⟨part, read⟩ := Frame.fragmentId?_eq_some.mp fragment
    simp [unit, part, read, begins, isSome_find?_iff.mpr isOpen]
  | crowded fragment begins fresh full =>
    obtain ⟨part, read⟩ := Frame.fragmentId?_eq_some.mp fragment
    simp [unit, part, read, begins, find?_eq_none_iff.mpr fresh, full]
  | unknown fragment goesOn absent =>
    obtain ⟨part, read⟩ := Frame.fragmentId?_eq_some.mp fragment
    simp [unit, part, read, goesOn, find?_eq_none_iff.mpr absent]

/-- There is no other reason to refuse a unit. -/
theorem rejects_of_fault (fails : (d.unit (first :: body)).2 = .fault fault) : d.Rejects first (.fault fault) := by
  have handles := d.handles_unit first body
  generalize d.unit (first :: body) = result at handles fails
  cases handles with
  | rejects rejects => exact fails ▸ rejects
  | whole | opens | grows | closes => cases fails

/-- A unit touches no message but the one that it is a fragment of. -/
theorem find?_unit (apart : first.fragmentId? ≠ some other) :
    (d.unit (first :: body)).1.find? other = d.find? other := by
  have handles := d.handles_unit first body
  generalize d.unit (first :: body) = result at handles
  have differs {id : Int64} (fragment : first.fragmentId? = some id) : other ≠ id := by
    rintro rfl
    exact apart fragment
  cases handles with
  | whole | rejects => rfl
  | opens fragment fresh => exact (find?_insert (find?_eq_none_iff.mpr fresh)).trans (if_neg (differs fragment))
  | grows fragment => exact find?_extend.trans (if_neg (differs fragment))
  | closes fragment => exact find?_remove.trans (if_neg (differs fragment))

/-! ## How many messages are open -/

/-- No more messages are open than the limit says, and each of them once. -/
structure Within (limit : Nat) (d : Decoder) : Prop where
  limited : d.limit = limit
  few : d.fragments.length ≤ limit
  distinct : d.ids.Nodup

theorem Within.unit (within : d.Within limit) (frames : List Frame) : (d.unit frames).1.Within limit := by
  cases frames with
  | nil => exact within
  | cons first body =>
    have handles := d.handles_unit first body
    generalize d.unit (first :: body) = result at handles
    cases handles with
    | whole | rejects => exact within
    | @opens id fragment fresh room =>
      refine ⟨within.limited, ?_, ?_⟩
      · rw [within.limited] at room
        simpa [insert] using Nat.succ_le_of_lt room
      · rw [ids_insert, ← List.concat_eq_append]
        exact List.Nodup.concat fresh within.distinct
    | grows => exact ⟨within.limited, by simpa [extend] using within.few, by rw [ids_extend]; exact within.distinct⟩
    | closes =>
      refine ⟨within.limited, Nat.le_trans (List.length_filter_le ..) within.few, ?_⟩
      rw [ids_remove]
      exact within.distinct.filter _

/-- The decoder before the unit that has begun. -/
def cleared (d : Decoder) : Decoder := { d with pending := [] }

theorem Within.accept (within : d.Within limit) (f : Frame) : (d.accept f).1.Within limit := by
  unfold Decoder.accept
  split
  · have before : d.cleared.Within limit := ⟨within.limited, within.few, within.distinct⟩
    exact before.unit _
  · exact ⟨within.limited, within.few, within.distinct⟩

theorem Within.after (within : d.Within limit) (frames : List Frame) : (d.after frames).Within limit := by
  induction frames generalizing d with
  | nil => exact within
  | cons f frames ih => exact ih (within.accept f)

theorem Reached.within (reached : Reached limit d) : d.Within limit := by
  induction reached with
  | new => exact ⟨rfl, Nat.zero_le _, .nil⟩
  | @next d _ buffer ih =>
    obtain ⟨read, -, after⟩ := d.next_reads buffer
    rw [after]
    exact ih.after read

/-! ## Units in some bytes -/

/-- The frames that have come since the last unit are all that the next one has so far. -/
theorem Unmarked.after_cleared (unmarked : d.Unmarked) : d.cleared.after d.pending = d := by
  have gathers (waiting : List Frame) (plain : ∀ f ∈ waiting, f.isFinal = false) :
      d.cleared.after waiting = { d with pending := waiting } := by
    induction waiting using List.reverseRecOn with
    | nil => rfl
    | append_singleton waiting f ih =>
      rw [after_concat, ih fun g member => plain g (by simp [member])]
      simp [Decoder.accept, plain f (by simp)]
  exact gathers d.pending unmarked.pending

/-- Some bytes begin with the rest of the unit that has begun, and `left` is what follows it. -/
def Completes (d : Decoder) (buffer : Octets) (unit : List Frame) (left : Octets) : Prop :=
  ∃ read last, Begins buffer (read ++ [last]) left ∧ (∀ f ∈ read, f.isFinal = false) ∧ last.isFinal = true ∧
    unit = d.pending ++ (read ++ [last])

theorem Completes.next {unit : List Frame} (completes : d.Completes buffer unit left) :
    d.next buffer = onward left (d.cleared.unit unit) := by
  obtain ⟨read, last, begins, unmarked, marked, rfl⟩ := completes
  induction read generalizing d buffer with
  | nil =>
    obtain _ | ⟨taken, _ | _⟩ := begins
    rw [next_of_take? taken, Decoder.accept, if_pos marked]
    rfl
  | cons f read ih =>
    obtain _ | ⟨taken, goesOn⟩ := begins
    have accepted : d.accept f = ({ d with pending := d.pending ++ [f] }, .nothing) := by
      rw [Decoder.accept, unmarked f (by simp), if_neg (by simp)]
    rw [next_of_take? taken, accepted, onward, ih goesOn fun g member => unmarked g (by simp [member])]
    simp [cleared]

/-- Of the frames of a message that comes of some bytes only the last can be marked as such. -/
theorem Unmarked.dropLast_of_next (unmarked : d.Unmarked) (yields : d.next buffer = (d', left, .message m)) :
    ∀ f ∈ m.frames.dropLast, f.isFinal = false := by
  obtain ⟨read, last, -, accepts⟩ := next_message yields
  have before := unmarked.after read
  generalize d.after read = d at before accepts
  have marked : last.isFinal = true := by
    by_contra unfinal
    simp [Decoder.accept, unfinal] at accepts
  rw [Decoder.accept, if_pos marked] at accepts
  obtain ⟨first, body, unit, ⟨-, frames⟩ | ⟨-, id, held, found, frames⟩⟩ := unit_message accepts
  · rw [frames, ← unit, List.dropLast_concat]
    exact before.pending
  · have kept := before.held _ (mem_of_find? found)
    rcases pending : d.pending with _ | ⟨g, run⟩
    · obtain ⟨rfl, rfl⟩ : last = first ∧ [] = body := by simpa [pending] using unit
      rw [frames, List.append_nil]
      exact fun f member => kept f (List.dropLast_subset held member)
    · obtain ⟨rfl, rfl⟩ : g = first ∧ run ++ [last] = body := by simpa [pending] using unit
      rw [frames, ← List.append_assoc, List.dropLast_concat]
      exact List.forall_mem_append.mpr ⟨kept, fun f member => before.pending f (by simp [pending, member])⟩

/-- What there is to say of a decoder between two pieces of its bytes. -/
structure Orderly (limit : Nat) (d : Decoder) : Prop where
  within : d.Within limit
  unmarked : d.Unmarked
  /-- Of the frames of a message that is yielded only the last can be marked as such. -/
  yields : ∀ {buffer left : Octets} {d' : Decoder} {m : Message}, d.next buffer = (d', left, .message m) →
    ∀ f ∈ m.frames.dropLast, f.isFinal = false
  /-- The unit that has begun is all that has come since the decoder was `d.cleared`. -/
  began : d.cleared.after d.pending = d
  /-- Once it is complete, all it touches is the message that it is a fragment of. -/
  apart : ∀ {first : Frame} {body : List Frame} {buffer left : Octets}, d.Completes buffer (first :: body) left →
    d.next buffer = onward left (d.cleared.unit (first :: body)) ∧
      ∀ {other : Int64}, first.fragmentId? ≠ some other →
        (d.cleared.unit (first :: body)).1.find? other = d.find? other
  /-- If it is refused, the decoder is `d.cleared` again, before the bytes that follow. -/
  refused : ∀ {first : Frame} {body : List Frame} {buffer left : Octets} {fault : Fault},
    d.Completes buffer (first :: body) left → d.cleared.Rejects first (.fault fault) →
      d.next buffer = (d.cleared, left, .fault fault)
  /-- If it is dropped, `d.cleared` goes on with them. -/
  dropped : ∀ {first : Frame} {body : List Frame} {buffer left : Octets}, d.Completes buffer (first :: body) left →
    d.cleared.Rejects first .nothing → d.next buffer = d.cleared.next left
  /-- No unit is refused for another reason. -/
  sound : ∀ {first : Frame} {body : List Frame} {fault : Fault},
    (d.cleared.unit (first :: body)).2 = .fault fault → d.cleared.Rejects first (.fault fault)

/-- Whatever bytes a decoder has been fed, in whatever pieces: as many messages are open as its limit
    allows at most, no frame that waits is marked as the last one, and what comes next is handled as
    if no rejected unit had ever been sent. -/
theorem rejected_units_leave_no_trace (reached : Reached limit d) : d.Orderly limit where
  within := reached.within
  unmarked := reached.unmarked
  yields := reached.unmarked.dropLast_of_next
  began := reached.unmarked.after_cleared
  apart completes := ⟨completes.next, find?_unit⟩
  refused completes rejects := by
    rw [completes.next, unit_of_rejects rejects]
    rfl
  dropped completes rejects := by rw [completes.next, unit_of_rejects rejects, onward]
  sound := rejects_of_fault

/-- The frame of a fragment that carries no other. -/
def bare (id : Int64) (flags : Flags) : Frame := (Fragment.header id flags).final

/-- A second start of a message that is open is refused, and so is the start of one more than the
    limit allows. A fragment of another message is dropped. The message behind them arrives. -/
theorem letter_arrives_after_rejected_units :
    let d := ((new 1).next (bare 7 .beginFragment).wire).1
    let whole := Message.received (Message.sentFrames letter.frames)
    Reached 1 d ∧ d.ids = [7] ∧
      d.next ((bare 7 .beginFragment).wire ++ letter.wire) =
        (d, letter.wire, .fault (.framing (.repeatedFragment 7))) ∧
      d.next ((bare 8 .beginFragment).wire ++ letter.wire) =
        (d, letter.wire, .fault (.framing (.tooManyFragments 1))) ∧
      d.next ((bare 8 .plain).wire ++ letter.wire) = (d, [], .message whole) := by
  intro d whole
  have reached : Reached 1 d := .next .new _
  have orderly := rejected_units_leave_no_trace reached
  have began : d = (new 1).insert 7 [] := by
    have taken : Frame.take? (bare 7 .beginFragment).wire = .frame (bare 7 .beginFragment) [] := rfl
    have opens : (new 1).next (bare 7 .beginFragment).wire = ((new 1).insert 7 [], [], .nothing) := by
      rw [next_of_take? taken]
      exact next_of_incomplete rfl
    exact congrArg Prod.fst opens
  have cleared : d.cleared = d := by rw [began]; rfl
  have completes (id : Int64) (flags : Flags) (marked : (bare id flags).isFinal = true) :
      d.Completes ((bare id flags).wire ++ letter.wire) [bare id flags] letter.wire := by
    have small : (bare id flags).wireSize < 2 ^ 32 := by
      rw [bare, Frame.wireSize_final, Fragment.wireSize_header]
      decide
    have taken := (bare id flags).take?_wire letter.wire small
    exact ⟨[], bare id flags, .frame taken (.here _), by simp, marked, by rw [began]; rfl⟩
  have frames : letter.frames = [.zeroed 16 .unfragmented] ++ [.ofContent [1, 2, 3, 4, 5, 6, 7, 8]] := rfl
  have formed : letter.WellFormed := Message.wellFormed_of_small frames (by decide) (by decide) (by decide)
  have arrives : d.next letter.wire = (d, [], .message whole) := by
    simpa using next_whole (d := d) formed (by rw [began]; rfl) []
  refine ⟨reached, by rw [began]; rfl, ?_, ?_, ?_⟩
  · have rejects : d.cleared.Rejects (bare 7 .beginFragment) (.fault (.framing (.repeatedFragment 7))) := by
      rw [cleared, began]
      exact .repeated rfl rfl (by decide)
    have refused := orderly.refused (completes 7 _ rfl) rejects
    rwa [cleared] at refused
  · have rejects : d.cleared.Rejects (bare 8 .beginFragment) (.fault (.framing (.tooManyFragments 1))) := by
      rw [cleared, began]
      have fragment : (bare 8 .beginFragment).fragmentId? = some 8 := rfl
      exact .crowded (d := (new 1).insert 7 []) fragment rfl (by decide) (by decide)
    have refused := orderly.refused (completes 8 _ rfl) rejects
    rwa [cleared] at refused
  · have rejects : d.cleared.Rejects (bare 8 .plain) .nothing := by
      rw [cleared, began]
      have fragment : (bare 8 .plain).fragmentId? = some 8 := rfl
      exact .unknown fragment rfl (by decide)
    have dropped := orderly.dropped (completes 8 _ rfl) rejects
    rw [dropped, cleared, arrives]

end Decoder
end Datagrid
