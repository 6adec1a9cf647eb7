import Datagrid.Proofs.Wire.Chunks
import Datagrid.Proofs.Wire.Cuts

/-!
# What is written is read, and what is read is written again

The bytes of a frame are read as that frame, and it is read off no other bytes than these. A buffer
that begins with no frame is too short for one, or declares a length that no frame has. So a stream
of whole messages is written again, byte for byte, from the messages that are read off it.
-/
namespace Datagrid

/-! ## Numbers -/

namespace Octets

theorem ofLittleEndian_lt (bytes : Octets) : ofLittleEndian bytes < 256 ^ bytes.length := by
  induction bytes with
  | nil => simp [ofLittleEndian]
  | cons b bytes ih =>
    have first : b.toNat < 256 := b.toNat_lt
    rw [ofLittleEndian, List.length_cons, Nat.pow_succ]
    omega

/-- Bytes are those of the number that they are read as. -/
theorem littleEndian_ofLittleEndian (bytes : Octets) :
    littleEndian bytes.length (ofLittleEndian bytes) = bytes := by
  induction bytes with
  | nil => rfl
  | cons b bytes ih =>
    have first : b.toNat < 256 := b.toNat_lt
    have low : UInt8.ofNat (b.toNat + 256 * ofLittleEndian bytes) = b := by
      rw [← UInt8.toNat_inj, UInt8.toNat_ofNat']
      omega
    have high : (b.toNat + 256 * ofLittleEndian bytes) / 256 = ofLittleEndian bytes := by omega
    rw [List.length_cons, ofLittleEndian, littleEndian, low, high, ih]

theorem littleEndian_ofLittleEndian_of_length {bytes : Octets} {width : Nat} (size : bytes.length = width) :
    littleEndian width (ofLittleEndian bytes) = bytes := by
  rw [← size]
  exact littleEndian_ofLittleEndian bytes

end Octets

/-! ## Frames -/

namespace Frame

/-- The length that the first bytes of a buffer declare. -/
def declared (bytes : Octets) : Nat := Octets.ofLittleEndian (bytes.take lengthSize)

/-- The frame that `size` bytes hold. -/
def ofBytes (size : Nat) (bytes : Octets) : Frame :=
  let body := (bytes.take size).drop lengthSize
  ⟨UInt16.ofNat (Octets.ofLittleEndian (body.take flagsSize)), body.drop flagsSize⟩

theorem take?_eq (bytes : Octets) :
    take? bytes =
      if bytes.length < lengthSize then .incomplete
      else if declared bytes < frameHeaderSize then .malformed (.undersized (declared bytes))
      else if bytes.length < declared bytes then .incomplete
      else .frame (ofBytes (declared bytes) bytes) (bytes.drop (declared bytes)) := rfl

theorem wireSize_lt_iff {f : Frame} : f.wireSize < 256 ^ lengthSize ↔ f.content.length < 2 ^ 32 - 6 := by
  simp only [wireSize, frameHeaderSize, lengthSize, flagsSize]
  omega

variable {bytes rest : Octets} {f : Frame}

theorem declared_lt (bytes : Octets) : declared bytes < 256 ^ lengthSize := by
  have below := Octets.ofLittleEndian_lt (bytes.take lengthSize)
  have short : (bytes.take lengthSize).length ≤ lengthSize := List.length_take_le ..
  exact Nat.lt_of_lt_of_le below (Nat.pow_le_pow_right (by decide) short)

/-- The bytes that hold a frame are written for it. -/
theorem wire_ofBytes (sized : frameHeaderSize ≤ declared bytes) (there : declared bytes ≤ bytes.length) :
    (ofBytes (declared bytes) bytes).wireSize = declared bytes ∧
      (ofBytes (declared bytes) bytes).wire = bytes.take (declared bytes) := by
  generalize length : (bytes.take (declared bytes)).drop lengthSize = body
  have bodySize : body.length = declared bytes - lengthSize := by
    rw [← length, List.length_drop, List.length_take, Nat.min_eq_left there]
  have flagsThere : (body.take flagsSize).length = flagsSize := by
    rw [List.length_take, bodySize]
    simp only [frameHeaderSize, lengthSize, flagsSize] at *
    omega
  have size : (ofBytes (declared bytes) bytes).wireSize = declared bytes := by
    rw [ofBytes, length, wireSize, List.length_drop, bodySize]
    simp only [frameHeaderSize, lengthSize, flagsSize] at *
    omega
  refine ⟨size, ?_⟩
  have lengthField : Octets.littleEndian lengthSize (declared bytes) = bytes.take lengthSize := by
    refine Octets.littleEndian_ofLittleEndian_of_length (List.length_take_of_le (Nat.le_trans ?_ there))
    exact Nat.le_trans (by decide) sized
  have flagsField : Octets.littleEndian flagsSize (UInt16.ofNat (Octets.ofLittleEndian (body.take flagsSize))).toNat =
      body.take flagsSize := by
    have below := Octets.ofLittleEndian_lt (body.take flagsSize)
    rw [flagsThere] at below
    rw [UInt16.toNat_ofNat_of_lt' below]
    exact Octets.littleEndian_ofLittleEndian_of_length flagsThere
  have lengthFirst : (bytes.take (declared bytes)).take lengthSize = bytes.take lengthSize := by
    rw [List.take_take, Nat.min_eq_left (Nat.le_trans (by decide) sized)]
  rw [wire, size, lengthField, ofBytes, length, flagsField, List.append_assoc, List.take_append_drop, ← length,
    ← lengthFirst, List.take_append_drop]

/-- A frame is read off its own bytes, and off no others. -/
theorem take?_eq_frame_iff :
    take? bytes = .frame f rest ↔ bytes = f.wire ++ rest ∧ f.content.length < 2 ^ 32 - 6 := by
  constructor
  · intro taken
    rw [take?_eq] at taken
    split_ifs at taken with headed sized there
    simp only [Arrival.frame.injEq] at taken
    obtain ⟨rfl, rfl⟩ := taken
    obtain ⟨size, written⟩ := wire_ofBytes (Nat.le_of_not_lt sized) (Nat.le_of_not_lt there)
    refine ⟨by rw [written, List.take_append_drop], wireSize_lt_iff.mp ?_⟩
    rw [size]
    exact declared_lt bytes
  · rintro ⟨rfl, fits⟩
    exact f.take?_wire rest (wireSize_lt_iff.mpr fits)

/-- What is no frame yet is shorter than a length field, or than the length that it declares. -/
theorem take?_eq_incomplete_iff :
    take? bytes = .incomplete ↔
      bytes.length < lengthSize ∨ (frameHeaderSize ≤ declared bytes ∧ bytes.length < declared bytes) := by
  rw [take?_eq]
  by_cases headed : bytes.length < lengthSize
  · simp [headed]
  · by_cases sized : declared bytes < frameHeaderSize
    · simp [headed, sized, Nat.not_le.mpr sized]
    · by_cases there : bytes.length < declared bytes
      · simp [headed, sized, there, Nat.le_of_not_lt sized]
      · simp [headed, sized, there]

/-- What is no frame whatever follows declares a length that does not count the header. -/
theorem take?_eq_malformed_iff {fault : FramingFault} :
    take? bytes = .malformed fault ↔
      (lengthSize ≤ bytes.length ∧ declared bytes < frameHeaderSize) ∧ fault = .undersized (declared bytes) := by
  rw [take?_eq]
  by_cases headed : bytes.length < lengthSize
  · simp [headed, Nat.not_le.mpr headed]
  · by_cases sized : declared bytes < frameHeaderSize
    · simp [headed, sized, Nat.le_of_not_lt headed, eq_comm]
    · by_cases there : bytes.length < declared bytes <;> simp [headed, sized, there]

/-! ## All frames of a buffer -/

theorem takeAll_of_incomplete (waits : take? bytes = .incomplete) : takeAll bytes = ([], none, bytes) := by
  rw [takeAll]
  split <;> simp_all

theorem takeAll_of_frame (taken : take? bytes = .frame f rest) :
    takeAll bytes = (f :: (takeAll rest).1, (takeAll rest).2) := by
  rw [takeAll]
  split <;> simp_all

/-- A buffer is the bytes of the frames that are read off it, and what is left. -/
theorem eq_wires_of_takeAll (bytes : Octets) :
    bytes = (takeAll bytes).1.flatMap wire ++ (takeAll bytes).2.2 ∧
      ∀ f ∈ (takeAll bytes).1, f.content.length < 2 ^ 32 - 6 := by
  fun_induction takeAll bytes with
  | case1 bytes _ => simp
  | case2 bytes fault _ => simp
  | case3 bytes f rest taken frames fault left all ih =>
    rw [all] at ih
    obtain ⟨written, fits⟩ := take?_eq_frame_iff.mp taken
    refine ⟨?_, List.forall_mem_cons.mpr ⟨fits, ih.2⟩⟩
    rw [List.flatMap_cons, List.append_assoc, ← ih.1, written]

/-- Bytes are those of frames, and nothing is left of them, exactly if they are written for these. -/
theorem takeAll_eq_iff {frames : List Frame} :
    takeAll bytes = (frames, none, []) ↔
      bytes = frames.flatMap wire ∧ ∀ f ∈ frames, f.content.length < 2 ^ 32 - 6 := by
  constructor
  · intro all
    have written := eq_wires_of_takeAll bytes
    rw [all, List.append_nil] at written
    exact written
  · rintro ⟨rfl, fits⟩
    induction frames with
    | nil => exact takeAll_of_incomplete rfl
    | cons f frames ih =>
      obtain ⟨first, later⟩ := List.forall_mem_cons.mp fits
      rw [List.flatMap_cons, takeAll_of_frame (take?_eq_frame_iff.mpr ⟨rfl, first⟩), ih later]

end Frame

/-! ## Whole messages -/

theorem Flags.set_eq_self_of_has_isFinal {flags : Flags} (marked : flags.has .isFinal) :
    flags.set .isFinal = flags := by
  have some : flags &&& .isFinal ≠ 0 := by simpa [Flags.has] using marked
  have bit : Flags.isFinal.toBitVec = BitVec.twoPow 16 13 := by decide
  rw [Ne, ← UInt16.toBitVec_inj, UInt16.toBitVec_and, bit, BitVec.and_twoPow] at some
  rw [Flags.set, ← UInt16.toBitVec_inj, UInt16.toBitVec_or, bit]
  ext i inside
  by_cases is : i = 13
  · subst is
    have there : flags.toBitVec.getLsbD 13 = true := by
      by_contra absent
      exact some (by rw [if_neg absent]; rfl)
    simp_all
  · simp [BitVec.getElem_twoPow, is]

theorem Frame.final_of_isFinal {f : Frame} (marked : f.isFinal) : f.final = f := by
  have same := Flags.set_eq_self_of_has_isFinal marked
  simp only [Frame.final, same]

namespace Message

/-- The frames of a message that travels whole: the first says so, and the last alone is marked. -/
structure IsUndivided (unit : List Frame) : Prop where
  unfragmented : unit.head?.any Frame.isUnfragmented
  unmarked : ∀ f ∈ unit.dropLast, f.isFinal = false
  marked : unit.getLast?.any Frame.isFinal

variable {unit : List Frame}

theorem IsUndivided.some (whole : IsUndivided unit) : unit ≠ [] := by
  rintro rfl
  exact absurd whole.unfragmented (by simp)

/-- A mark that is there already is not set again. -/
theorem IsUndivided.sentFrames_eq (whole : IsUndivided unit) : sentFrames unit = unit := by
  obtain ⟨body, last, rfl⟩ := List.eq_nil_or_concat' unit |>.resolve_left whole.some
  have marked : last.isFinal := by simpa using whole.marked
  rw [sentFrames_concat, Frame.final_of_isFinal marked]

theorem IsUndivided.wire_received (whole : IsUndivided unit) : (received unit).wire = unit.flatMap Frame.wire := by
  rw [wire, received, whole.sentFrames_eq]

theorem IsUndivided.isUnit (whole : IsUndivided unit) (fits : ∀ f ∈ unit, f.content.length < 2 ^ 32 - 6) :
    (received unit).IsUnit where
  some := whole.some
  unmarked := whole.unmarked
  fits f member := Frame.wireSize_lt_iff.mpr (fits f member)

end Message

/-- A decoder between two units gets out of whole messages these, and is what it was. -/
theorem Decoder.drain_whole {d : Decoder} (boundary : d.pending = []) {units : List (List Frame)}
    (whole : ∀ unit ∈ units, Message.IsUndivided unit) (fits : ∀ f ∈ units.flatten, f.content.length < 2 ^ 32 - 6) :
    d.drain (units.flatten.flatMap Frame.wire) = ⟨units.map .received, none, d, []⟩ := by
  induction units with
  | nil => exact drain_nil
  | cons unit units ih =>
    obtain ⟨first, later⟩ := List.forall_mem_cons.mp whole
    rw [List.flatten_cons, List.forall_mem_append] at fits
    have yields : d.unit (Message.sentFrames (Message.received unit).frames) = (d, .message (.received unit)) := by
      rw [Message.received, first.sentFrames_eq]
      exact unit_whole d first.unfragmented
    rw [List.flatten_cons, List.flatMap_append, ← first.wire_received,
      drain_of_message boundary (first.isUnit fits.1) yields, ih later fits.2]
    rfl

namespace Encoder

/-- The bytes of messages that are written one after the other, the fault that ends them, if one
    does, and the encoder after them. -/
def encodeAll (e : Encoder) : List Message → Octets × Option Fault × Encoder
  | [] => ([], none, e)
  | m :: rest =>
    match e.encode m with
    | (.error fault, e) => ([], some fault, e)
    | (.ok bytes, e) =>
      let (more, fault, e) := e.encodeAll rest
      (bytes ++ more, fault, e)

variable {e : Encoder}

/-- A message that is not cut is written as it is, and takes no id. -/
theorem encode_of_uncut {m : Message} (some : m.frames ≠ []) (uncut : usesFragmentId e.limit m = false) :
    e.encode m = (.ok m.wire, e) := by
  have more : m.frames.isEmpty = false := by simp [some]
  have written : encodeMessage e.limit (.ofNat e.nextId) m = .ok m.wire := by
    cases is : e.limit with
    | none => simp [encodeMessage, more]
    | some limit =>
      have one : m.runs? limit = none := by simpa [usesFragmentId, is, Message.isCut] using uncut
      have parts : m.split limit (.ofNat e.nextId) = [m.copy] := by rw [Message.split, one]
      simp [encodeMessage, more, parts, Message.wire, Message.copy]
  rw [encode, written, uncut]
  rfl

theorem encodeAll_whole {units : List (List Frame)} (whole : ∀ unit ∈ units, Message.IsUndivided unit)
    (uncut : ∀ unit ∈ units, usesFragmentId e.limit (.received unit) = false) :
    e.encodeAll (units.map .received) = (units.flatten.flatMap Frame.wire, none, e) := by
  induction units with
  | nil => rfl
  | cons unit units ih =>
    obtain ⟨first, later⟩ := List.forall_mem_cons.mp whole
    obtain ⟨firstUncut, laterUncut⟩ := List.forall_mem_cons.mp uncut
    have written : e.encode (.received unit) = (.ok (unit.flatMap Frame.wire), e) := by
      rw [encode_of_uncut first.some firstUncut, first.wire_received]
    rw [List.map_cons, encodeAll, written, List.flatten_cons, List.flatMap_append]
    simp only [ih later laterUncut]

end Encoder

/-! ## Both ways -/

/-- What is read off a buffer of bytes. -/
structure ReadsExactly (bytes : Octets) : Prop where
  /-- A frame is read exactly if the bytes are its own, and what follows them is left. -/
  frame : ∀ f rest, Frame.take? bytes = .frame f rest ↔ bytes = f.wire ++ rest ∧ f.content.length < 2 ^ 32 - 6
  /-- More is waited for exactly if the bytes are too few for a length field, or for the length that it
      declares. -/
  incomplete : Frame.take? bytes = .incomplete ↔
    bytes.length < lengthSize ∨ (frameHeaderSize ≤ Frame.declared bytes ∧ bytes.length < Frame.declared bytes)
  /-- Until there is more, no byte is taken, by no decoder. -/
  untouched : Frame.take? bytes = .incomplete →
    Frame.takeAll bytes = ([], none, bytes) ∧ ∀ d : Decoder, d.next bytes = (d, bytes, .nothing)
  /-- The bytes are refused exactly if a whole length field declares less than the header takes. -/
  malformed : ∀ fault, Frame.take? bytes = .malformed fault ↔
    (lengthSize ≤ bytes.length ∧ Frame.declared bytes < frameHeaderSize) ∧ fault = .undersized (Frame.declared bytes)

theorem readsExactly (bytes : Octets) : ReadsExactly bytes where
  frame _ _ := Frame.take?_eq_frame_iff
  incomplete := Frame.take?_eq_incomplete_iff
  untouched waits := ⟨Frame.takeAll_of_incomplete waits, fun _ => Decoder.next_of_incomplete waits⟩
  malformed _ := Frame.take?_eq_malformed_iff

/-- A frame whose length its length field can say is read off its bytes, whatever follows, and any
    buffer holds a frame in its own bytes, or too little, or a length that none has. So from a stream of
    messages that travel whole, a decoder between two units gets these messages and nothing is left, and
    an encoder that cuts none of them writes the same stream from them again. -/
theorem whole_stream_is_written_again (bytes : Octets) :
    (∀ (f : Frame) (rest : Octets), f.content.length < 2 ^ 32 - 6 → Frame.take? (f.wire ++ rest) = .frame f rest) ∧
      ReadsExactly bytes ∧
      ∀ units : List (List Frame), Frame.takeAll bytes = (units.flatten, none, []) →
        (∀ unit ∈ units, Message.IsUndivided unit) →
        ∀ d : Decoder, d.pending = [] → d.drain bytes = ⟨units.map .received, none, d, []⟩ ∧
          ∀ e : Encoder, (∀ unit ∈ units, usesFragmentId e.limit (.received unit) = false) →
            e.encodeAll (d.drain bytes).messages = (bytes, none, e) := by
  refine ⟨fun f rest fits => Frame.take?_eq_frame_iff.mpr ⟨rfl, fits⟩, readsExactly bytes, ?_⟩
  intro units stream whole d boundary
  obtain ⟨rfl, fits⟩ := Frame.takeAll_eq_iff.mp stream
  have decoded := Decoder.drain_whole boundary whole fits
  refine ⟨decoded, fun e uncut => ?_⟩
  rw [decoded]
  exact Encoder.encodeAll_whole whole uncut

/-- Two messages follow each other on the wire, the second in two frames. A decoder with a message open
    reads them, and an encoder that cuts what is larger than 100 bytes writes them again. -/
theorem two_letters_are_written_again :
    let first : List Frame := [(Frame.zeroed 16 .unfragmented).final]
    let second : List Frame := [.zeroed 16 .unfragmented, (Frame.ofContent [1, 2, 3]).final]
    let bytes := (first ++ second).flatMap Frame.wire
    let d : Decoder := ⟨[], [(6, first)], 2⟩
    let e : Encoder := ⟨some 100, 4⟩
    Frame.take? bytes = .frame (Frame.zeroed 16 .unfragmented).final (second.flatMap Frame.wire) ∧
      d.drain bytes = ⟨[.received first, .received second], none, d, []⟩ ∧
      e.encodeAll (d.drain bytes).messages = (bytes, none, e) := by
  intro first second bytes d e
  obtain ⟨reads, -, again⟩ := whole_stream_is_written_again bytes
  have stream : Frame.takeAll bytes = ([first, second].flatten, none, []) :=
    Frame.takeAll_eq_iff.mpr ⟨rfl, by decide⟩
  have whole : ∀ unit ∈ [first, second], Message.IsUndivided unit := by
    intro unit member
    rcases List.mem_pair.mp member with rfl | rfl
    · exact ⟨by decide, by decide, by decide⟩
    · exact ⟨by decide, by decide, by decide⟩
  obtain ⟨decoded, encoded⟩ := again [first, second] stream whole d rfl
  exact ⟨reads _ _ (by decide), decoded, encoded e (by decide)⟩

end Datagrid
