import Datagrid.Proofs.Wire.RoundTrip

/-!
# Bytes in chunks

Bytes reach a decoder in chunks, cut wherever the network cuts them: inside a length field, a
frame, a message. What a decoder gets out of them does not depend on the cuts. Bytes that
arrive later never change what has been read off the earlier ones.
-/
namespace Datagrid

/-! ## A frame -/

namespace Frame

/-- A frame is there whatever follows it. -/
theorem take?_append_of_frame {bytes rest : Octets} {f : Frame} (more : Octets) (taken : take? bytes = .frame f rest) :
    take? (bytes ++ more) = .frame f (rest ++ more) := by
  unfold take? at taken
  split at taken
  · cases taken
  next headed =>
  have enough : lengthSize ≤ bytes.length := Nat.le_of_not_lt headed
  simp only at taken
  split at taken
  · cases taken
  next sized =>
  split at taken
  · cases taken
  next there =>
  have whole : Octets.ofLittleEndian (bytes.take lengthSize) ≤ bytes.length := Nat.le_of_not_lt there
  simp only [Arrival.frame.injEq] at taken
  obtain ⟨rfl, rfl⟩ := taken
  have longer : bytes.length ≤ (bytes ++ more).length := by simp
  unfold take?
  rw [if_neg (Nat.not_lt.mpr (Nat.le_trans enough longer)), List.take_append_of_le_length enough]
  simp only
  rw [if_neg sized, if_neg (Nat.not_lt.mpr (Nat.le_trans whole longer)), List.take_append_of_le_length whole,
    List.drop_append_of_le_length whole]

/-- Bytes that begin no frame do not, whatever follows them. -/
theorem take?_append_of_malformed {bytes : Octets} {fault : FramingFault} (more : Octets)
    (taken : take? bytes = .malformed fault) : take? (bytes ++ more) = .malformed fault := by
  unfold take? at taken
  split at taken
  · cases taken
  next headed =>
  have enough : lengthSize ≤ bytes.length := Nat.le_of_not_lt headed
  simp only at taken
  split at taken
  next undersized =>
    simp only [Arrival.malformed.injEq] at taken
    subst taken
    unfold take?
    rw [if_neg (Nat.not_lt.mpr (Nat.le_trans enough (by simp))), List.take_append_of_le_length enough]
    simp only
    rw [if_pos undersized]
  next =>
    split at taken <;> cases taken

end Frame

namespace Decoder

variable {d d' : Decoder} {buffer left : Octets} {m : Message} {fault : Fault}

/-! ## A message -/

theorem next_of_incomplete (waits : Frame.take? buffer = .incomplete) : d.next buffer = (d, buffer, .nothing) := by
  rw [next]
  split <;> simp_all

theorem next_of_malformed {fault : FramingFault} (ends : Frame.take? buffer = .malformed fault) :
    d.next buffer = (d, buffer, .fault (.framing fault)) := by
  rw [next]
  split <;> simp_all

/-- What has been read of a buffer is read of it whatever follows, and where nothing has come of
    it yet the rest is read on. -/
theorem next_append (d : Decoder) (buffer more : Octets) :
    d.next (buffer ++ more) =
      match d.next buffer with
      | (d', left, .nothing) => d'.next (left ++ more)
      | (d', left, yield) => (d', left ++ more, yield) := by
  fun_induction next d buffer with
  | case1 d buffer waits => rfl
  | case2 d buffer fault ends =>
    rw [next_of_malformed (Frame.take?_append_of_malformed more ends)]
  | case3 d buffer f rest taken d' accepted ih =>
    rw [next_of_take? (Frame.take?_append_of_frame more taken), accepted]
    exact ih
  | case4 d buffer f rest taken d' yield speaks accepted =>
    rw [next_of_take? (Frame.take?_append_of_frame more taken), accepted]
    cases yield <;> first | exact absurd rfl speaks | rfl

/-- Where nothing comes of a buffer any more, what is left of it is no frame yet. -/
theorem incomplete_of_next (silent : d.next buffer = (d', left, .nothing)) : Frame.take? left = .incomplete := by
  fun_induction next d buffer with
  | case1 d buffer waits =>
    obtain ⟨rfl, rfl, -⟩ : d = d' ∧ buffer = left ∧ True := by simpa using silent
    exact waits
  | case2 => simp at silent
  | case3 _ _ _ _ _ _ _ ih => exact ih silent
  | case4 d buffer f rest taken d' yield speaks accepted => simp_all

/-! ## All messages -/

theorem drain_of_next_fault (fails : d.next buffer = (d', left, .fault fault)) :
    d.drain buffer = ⟨[], some fault, d', left⟩ := by
  rw [drain]
  split <;> simp_all

theorem drain_of_next_nothing (silent : d.next buffer = (d', left, .nothing)) :
    d.drain buffer = ⟨[], none, d', left⟩ := by
  rw [drain]
  split <;> simp_all

/-- What has been got first, and what is got from there on, unless a fault has ended it. -/
def Harvest.andThen (harvest : Harvest) (goOn : Decoder → Octets → Harvest) : Harvest :=
  match harvest.fault with
  | some _ => harvest
  | none =>
    let later := goOn harvest.decoder harvest.left
    { later with messages := harvest.messages ++ later.messages }

/-- Two harvests are the same, but for the bytes that a fault has left. -/
structure Harvest.Agrees (h h' : Harvest) : Prop where
  messages : h.messages = h'.messages
  fault : h.fault = h'.fault
  decoder : h.decoder = h'.decoder
  left : h.fault = none → h.left = h'.left

namespace Harvest

variable {h h' h'' : Harvest} {f g : Decoder → Octets → Harvest}

theorem Agrees.refl (h : Harvest) : h.Agrees h := ⟨rfl, rfl, rfl, fun _ => rfl⟩

theorem Agrees.symm (agrees : h.Agrees h') : h'.Agrees h :=
  ⟨agrees.messages.symm, agrees.fault.symm, agrees.decoder.symm,
    fun none => (agrees.left (agrees.fault.trans none)).symm⟩

theorem Agrees.trans (first : h.Agrees h') (second : h'.Agrees h'') : h.Agrees h'' :=
  ⟨first.messages.trans second.messages, first.fault.trans second.fault, first.decoder.trans second.decoder,
    fun none => (first.left none).trans (second.left (first.fault.symm.trans none))⟩

theorem andThen_of_fault (ends : h.fault ≠ none) : h.andThen f = h := by
  unfold andThen
  split
  · rfl
  · next none => exact absurd none ends

/-- Whatever agrees from there on agrees from the start. -/
theorem Agrees.andThen (goOn : h.fault = none → (f h.decoder h.left).Agrees (g h.decoder h.left)) :
    (h.andThen f).Agrees (h.andThen g) := by
  by_cases none : h.fault = none
  · have later := goOn none
    simp only [Harvest.andThen, none]
    exact ⟨by rw [later.messages], later.fault, later.decoder, later.left⟩
  · rw [andThen_of_fault none, andThen_of_fault none]
    exact .refl h

theorem Agrees.cons {m : Message} (agrees : h.Agrees h') : (h.cons m).Agrees (h'.cons m) :=
  ⟨by simp [Harvest.cons, agrees.messages], agrees.fault, agrees.decoder, agrees.left⟩

theorem cons_andThen (m : Message) : (h.cons m).andThen f = (h.andThen f).cons m := by
  unfold andThen
  cases none : h.fault <;> simp [Harvest.cons, none]

end Harvest

/-- What is got of a buffer, and of its rest once more bytes have come, is got of all at once. -/
theorem drain_append (d : Decoder) (buffer more : Octets) :
    ((d.drain buffer).andThen fun d left => d.drain (left ++ more)).Agrees (d.drain (buffer ++ more)) := by
  fun_induction drain d buffer with
  | case1 d buffer d' left m yields _ ih =>
    have later := next_append d buffer more
    rw [yields] at later
    rw [drain_of_next_message later]
    show (((d'.drain left).cons m).andThen _).Agrees _
    rw [Harvest.cons_andThen]
    exact ih.cons
  | case2 d buffer d' left fault fails =>
    have later := next_append d buffer more
    rw [fails] at later
    rw [drain_of_next_fault later, Harvest.andThen_of_fault (by simp)]
    exact ⟨rfl, rfl, rfl, by simp⟩
  | case3 d buffer d' left silent =>
    have later := next_append d buffer more
    rw [silent] at later
    rw [drain_of_next_eq later]
    exact .refl _

/-- Where no fault has ended it, nothing is left that could be read. -/
theorem incomplete_of_drain (d : Decoder) (buffer : Octets) (sound : (d.drain buffer).fault = none) :
    Frame.take? (d.drain buffer).left = .incomplete := by
  fun_induction drain d buffer with
  | case1 _ _ _ _ _ _ _ ih => exact ih sound
  | case2 => cases sound
  | case3 d buffer d' left silent => exact incomplete_of_next silent

/-! ## Chunks -/

/-- What a decoder gets out of chunks that come one after the other, up to a fault: each is added
    to what is left of those before it, and then all messages are taken out. -/
def fed (d : Decoder) (left : Octets) : List Octets → Harvest
  | [] => ⟨[], none, d, left⟩
  | chunk :: rest => (d.drain (left ++ chunk)).andThen fun d left => d.fed left rest

/-- It is what the decoder gets out of all bytes at once. -/
theorem fed_agrees (d : Decoder) (left : Octets) (chunks : List Octets)
    (idle : Frame.take? left = .incomplete ∨ chunks ≠ []) :
    (d.fed left chunks).Agrees (d.drain (left ++ chunks.flatten)) := by
  induction chunks generalizing d left with
  | nil =>
    have waits := idle.resolve_right (by simp)
    rw [List.flatten_nil, List.append_nil, drain_of_next_nothing (next_of_incomplete waits)]
    exact .refl _
  | cons chunk rest ih =>
    rw [fed, List.flatten_cons, ← List.append_assoc]
    refine .trans (.andThen fun sound => ?_) (drain_append d (left ++ chunk) rest.flatten)
    exact ih _ _ (.inl (incomplete_of_drain d (left ++ chunk) sound))

/-- However bytes are cut into chunks, a decoder gets the same messages out of them and fails at
    the same place, and where it does not fail it is the same in the end and leaves the same bytes.
    It may have any units and messages open at the start, and any bytes left over. -/
theorem fed_agrees_of_flatten_eq (d : Decoder) (left : Octets) {chunks others : List Octets}
    (same : chunks.flatten = others.flatten)
    (idle : Frame.take? left = .incomplete ∨ (chunks ≠ [] ∧ others ≠ [])) :
    (d.fed left chunks).Agrees (d.fed left others) := by
  have first := d.fed_agrees left chunks (idle.imp_right And.left)
  have second := d.fed_agrees left others (idle.imp_right And.right)
  rw [same] at first
  exact first.trans second.symm

/-- A message of two frames. -/
def letter : Message := .received [.zeroed 16 .unfragmented, .ofContent [1, 2, 3, 4, 5, 6, 7, 8]]

/-- Two bytes of a message are there, and the rest comes byte by byte, or in one piece. -/
theorem letter_arrives_byte_by_byte :
    let d : Decoder := ⟨[], [(6, letter.frames)], 2⟩
    let left := letter.wire.take 2
    let chunks := (letter.wire.drop 2).map fun b => [b]
    chunks.flatten = [letter.wire.drop 2].flatten ∧ Frame.take? left = .incomplete ∧
      (d.fed left chunks).messages = [.received (Message.sentFrames letter.frames)] ∧
      (d.fed left chunks).Agrees (d.fed left [letter.wire.drop 2]) := by
  intro d left chunks
  have same : chunks.flatten = [letter.wire.drop 2].flatten := by decide
  have idle : Frame.take? left = .incomplete := rfl
  have frames : letter.frames = [.zeroed 16 .unfragmented] ++ [.ofContent [1, 2, 3, 4, 5, 6, 7, 8]] := rfl
  have formed : letter.WellFormed := Message.wellFormed_of_small frames (by decide) (by decide) (by decide)
  have whole : d.next letter.wire = (d, [], .message (.received (Message.sentFrames letter.frames))) := by
    simpa using next_whole (d := d) formed rfl []
  have arrives := (d.fed_agrees left chunks (.inl idle)).messages
  rw [same, List.flatten_singleton, List.take_append_drop, drain_of_next_message whole, drain_nil] at arrives
  exact ⟨same, idle, arrives, fed_agrees_of_flatten_eq d left same (.inl idle)⟩

end Decoder
end Datagrid
