import Datagrid.Wire.Fragment
import Mathlib.Algebra.Ring.Nat

/-!
# Frames: flags, numbers and bytes

What marking a frame as the last one does to its flags, that a number in a
fixed field reads back, and that the bytes of a frame are read as that frame,
whatever follows them.
-/
namespace Datagrid

/-! ## Flags -/

namespace Flags

theorem has_set_self (flags bit : Flags) (one : bit ≠ 0) : (flags.set bit).has bit = true := by
  have absorbed : (flags ||| bit) &&& bit = bit := by
    rw [← UInt16.toBitVec_inj, UInt16.toBitVec_and, UInt16.toBitVec_or]
    ext i inside
    simp only [BitVec.getElem_and, BitVec.getElem_or]
    cases bit.toBitVec[i] <;> simp
  simp only [has, set, absorbed, bne_iff_ne]
  exact one

theorem clear_set_eq_self (flags bit : Flags) (absent : flags.has bit = false) :
    (flags.set bit).clear bit = flags := by
  have zero : flags &&& bit = 0 := by simpa [has] using absent
  rw [← UInt16.toBitVec_inj, UInt16.toBitVec_and] at zero
  rw [clear, set, ← UInt16.toBitVec_inj]
  simp only [UInt16.toBitVec_and, UInt16.toBitVec_or, UInt16.toBitVec_not]
  ext i inside
  have apart : (flags.toBitVec &&& bit.toBitVec)[i] = (0 : UInt16).toBitVec[i] := by simp only [zero]
  simp only [BitVec.getElem_and, BitVec.getElem_or, BitVec.getElem_not] at apart ⊢
  cases inFlags : flags.toBitVec[i] <;> cases inBit : bit.toBitVec[i] <;> simp_all

private theorem set_and_of_apart (flags bit bits : Flags) (apart : bit &&& bits = 0) :
    flags.set bit &&& bits = flags &&& bits := by
  rw [set]
  rw [← UInt16.toBitVec_inj] at apart ⊢
  simp only [UInt16.toBitVec_and, UInt16.toBitVec_or] at apart ⊢
  rw [BitVec.and_or_distrib_right, apart]
  simp

theorem has_set_of_apart (flags bit bits : Flags) (apart : bit &&& bits = 0) :
    (flags.set bit).has bits = flags.has bits := by
  simp only [has, set_and_of_apart flags bit bits apart]

theorem hasAll_set_of_apart (flags bit bits : Flags) (apart : bit &&& bits = 0) :
    (flags.set bit).hasAll bits = flags.hasAll bits := by
  simp only [hasAll, set_and_of_apart flags bit bits apart]

end Flags

namespace Frame

@[simp] theorem isFinal_final (f : Frame) : f.final.isFinal = true :=
  Flags.has_set_self f.flags .isFinal (by decide)

theorem unfinal_final (f : Frame) (unmarked : f.isFinal = false) : f.final.unfinal = f := by
  have flags := Flags.clear_set_eq_self f.flags .isFinal unmarked
  simp only [final, unfinal, flags]

@[simp] theorem isUnfragmented_final (f : Frame) : f.final.isUnfragmented = f.isUnfragmented :=
  Flags.hasAll_set_of_apart f.flags .isFinal .unfragmented (by decide)

@[simp] theorem isNull_final (f : Frame) : f.final.isNull = f.isNull :=
  Flags.has_set_of_apart f.flags .isFinal .isNull (by decide)

@[simp] theorem isBegin_final (f : Frame) : f.final.isBegin = f.isBegin :=
  Flags.has_set_of_apart f.flags .isFinal .beginStructure (by decide)

@[simp] theorem isEnd_final (f : Frame) : f.final.isEnd = f.isEnd :=
  Flags.has_set_of_apart f.flags .isFinal .endStructure (by decide)

@[simp] theorem isEvent_final (f : Frame) : f.final.isEvent = f.isEvent :=
  Flags.has_set_of_apart f.flags .isFinal .isEvent (by decide)

@[simp] theorem wireSize_final (f : Frame) : f.final.wireSize = f.wireSize := rfl

end Frame

/-! ## Numbers in fields -/

theorem Octets.ofLittleEndian_littleEndian (width n : Nat) :
    ofLittleEndian (littleEndian width n) = n % 256 ^ width := by
  induction width generalizing n with
  | zero => simp [littleEndian, ofLittleEndian, Nat.mod_one]
  | succ width ih =>
    have bytes : 256 ^ (width + 1) = 256 * 256 ^ width := by rw [Nat.pow_succ, Nat.mul_comm]
    rw [littleEndian, ofLittleEndian, ih, bytes, Nat.mod_mul, UInt8.toNat_ofNat']

theorem Octets.ofBigEndian_bigEndian (width n : Nat) :
    ofBigEndian (bigEndian width n) = n % 256 ^ width := by
  simp [ofBigEndian, bigEndian, ofLittleEndian_littleEndian]

theorem Octets.ofLittleEndian_littleEndian_of_lt {width n : Nat} (fits : n < 256 ^ width) :
    Octets.ofLittleEndian (Octets.littleEndian width n) = n := by
  rw [Octets.ofLittleEndian_littleEndian, Nat.mod_eq_of_lt fits]

namespace Field

@[simp] theorem length_encode_long (n : Int64) : (Field.long.encode n).length = 8 := by
  simp [Field.long]

theorem decode_encode_long (n : Int64) : Field.long.decode (Field.long.encode n) = n := by
  have below : n.toUInt64.toNat < 256 ^ 8 := n.toUInt64.toNat_lt
  simp only [Field.long, Octets.ofLittleEndian_littleEndian_of_lt below]
  simp

@[simp] theorem length_encode_int (n : Int32) : (Field.int.encode n).length = 4 := by
  simp [Field.int]

theorem decode_encode_int (n : Int32) : Field.int.decode (Field.int.encode n) = n := by
  have below : n.toUInt32.toNat < 256 ^ 4 := n.toUInt32.toNat_lt
  simp only [Field.int, Octets.ofLittleEndian_littleEndian_of_lt below]
  simp

@[simp] theorem length_encode_guid (u : Option Uuid) : (Field.guid.encode u).length = 17 := by
  cases u <;> simp [Field.guid]

theorem decode_encode_guid (u : Uuid) : Field.guid.decode (Field.guid.encode (some u)) = some u := by
  have high : u.high.toNat < 256 ^ 8 := u.high.toNat_lt
  have low : u.low.toNat < 256 ^ 8 := u.low.toNat_lt
  have left : (Octets.littleEndian 8 u.high.toNat ++ Octets.littleEndian 8 u.low.toNat).take 8 =
      Octets.littleEndian 8 u.high.toNat := List.take_left' (Octets.length_littleEndian ..)
  have right : (Octets.littleEndian 8 u.high.toNat ++ Octets.littleEndian 8 u.low.toNat).drop 8 =
      Octets.littleEndian 8 u.low.toNat := List.drop_left' (Octets.length_littleEndian ..)
  simp [Field.guid, left, right, Octets.ofLittleEndian_littleEndian_of_lt high,
    Octets.ofLittleEndian_littleEndian_of_lt low]

end Field

/-! ## Bytes -/

/-- The bytes of a frame whose length its length field can say are read as
    that frame, and what follows them is left. -/
theorem Frame.take?_wire (f : Frame) (rest : Octets) (fits : f.wireSize < 256 ^ lengthSize) :
    Frame.take? (f.wire ++ rest) = .frame f rest := by
  have flagsFit : f.flags.toNat < 256 ^ flagsSize := f.flags.toNat_lt
  have size : f.wireSize = 6 + f.content.length := rfl
  have lengthField : (f.wire ++ rest).take lengthSize = Octets.littleEndian lengthSize f.wireSize := by
    simp only [Frame.wire, List.append_assoc]
    exact List.take_left' (Octets.length_littleEndian ..)
  have whole : f.wire.length = f.wireSize := by
    simp only [Frame.wire, List.length_append, Octets.length_littleEndian, Frame.wireSize, frameHeaderSize]
  have body : (f.wire ++ rest).take f.wireSize = f.wire := List.take_left' whole
  have after : (f.wire ++ rest).drop f.wireSize = rest := List.drop_left' whole
  have flagsField : f.wire.drop lengthSize = Octets.littleEndian flagsSize f.flags.toNat ++ f.content := by
    simp only [Frame.wire, List.append_assoc]
    exact List.drop_left' (Octets.length_littleEndian ..)
  have enough : ¬ (f.wire ++ rest).length < lengthSize := by
    simp only [List.length_append, whole, size, lengthSize]
    omega
  have there : ¬ (f.wire ++ rest).length < f.wireSize := by
    simp only [List.length_append, whole]
    omega
  have headed : ¬ f.wireSize < frameHeaderSize := by
    simp only [Frame.wireSize]
    omega
  rw [Frame.take?]
  simp only [enough, lengthField, Octets.ofLittleEndian_littleEndian_of_lt fits, headed, there, body, after,
    flagsField, if_false]
  rw [List.take_left' (Octets.length_littleEndian ..), List.drop_left' (Octets.length_littleEndian ..),
    Octets.ofLittleEndian_littleEndian_of_lt flagsFit]
  simp

namespace Fragment

/-- The id of a fragment is read off its header frame. -/
theorem read_header (id : Int64) (flags : Flags) :
    (header id flags).read .long fragmentIdOffset = .ok id := by
  have inside : Field.misfit? Field.long.width fragmentIdOffset (Field.long.encode id).length = none := by
    simp [Field.misfit?, Field.long, fragmentIdOffset, UInt64.size]
  have all : ((Field.long.encode id).drop fragmentIdOffset).take Field.long.width = Field.long.encode id := by
    rw [fragmentIdOffset, List.drop_zero]
    exact List.take_of_length_le (Nat.le_of_eq (Field.length_encode_long id))
  simp only [header, Frame.read, Field.read, inside, all, Field.decode_encode_long]

theorem wireSize_header (id : Int64) (flags : Flags) : (header id flags).wireSize = 14 := by
  simp [header, Frame.wireSize, frameHeaderSize, lengthSize, flagsSize]

end Fragment
end Datagrid
