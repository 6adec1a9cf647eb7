import Datagrid.Proofs.Payload.Registry

/-!
# Partitions of serialized values

A serialized value has a partition, whatever its bytes and however many partitions there are. Beside
the accessors of a value stands the same reckoning with everything that can go wrong in it: bytes that
are not there, numbers out of range, division by zero. For the bytes of a serialized value it never goes
wrong; for fewer bytes than a header has, it does.
-/
namespace Datagrid

/-! ## Reckoning that can fail -/

namespace Checked

/-- The bytes from `start` up to `stop`, if all of them are there. -/
def slice (bytes : Octets) (start stop : Nat) : Option Octets :=
  if start ≤ stop ∧ stop ≤ bytes.length then some ((bytes.drop start).take (stop - start)) else none

/-- The 32-bit number of an integer in its range. -/
def number (n : Int) : Option Int32 :=
  if Int32.minValue.toInt ≤ n ∧ n ≤ Int32.maxValue.toInt then some (.ofInt n) else none

/-- The absolute value, if it is in range. -/
def abs (n : Int32) : Option Int32 := number n.toInt.natAbs

/-- The remainder of a division by a number other than zero whose quotient is in range. -/
def rem (n divisor : Int32) : Option Int32 :=
  if divisor = 0 then none
  else (number (n.toInt.tdiv divisor.toInt)).bind fun _ => number (n.toInt.tmod divisor.toInt)

/-- The number in the header at `offset`. -/
def headerInt (bytes : Octets) (offset : Nat) : Option Int32 :=
  (slice bytes offset (offset + 4)).map Data.ofIntOctets

def payload (bytes : Octets) : Option Octets := slice bytes dataHeaderSize bytes.length

def partitionHash (bytes : Octets) : Option Int32 := do
  let given ← headerInt bytes hashOffset
  if given != 0 then return given
  let content ← payload bytes
  return (Murmur.hash Data.hashSeed content).toInt32

def partition (bytes : Octets) (count : Int32) : Option Int32 := do
  if count ≤ 0 then return 0
  let hash ← partitionHash bytes
  if hash == Int32.minValue then return 0
  let size ← abs hash
  rem size count

/-! ### Where it does not fail -/

variable {n divisor count : Int32} {bytes : Octets}

theorem slice_eq {start stop : Nat} (order : start ≤ stop) (there : stop ≤ bytes.length) :
    slice bytes start stop = some ((bytes.drop start).take (stop - start)) :=
  if_pos ⟨order, there⟩

theorem number_toInt (n : Int32) : number n.toInt = some n := by
  have above : Int32.minValue.toInt ≤ n.toInt := n.le_toInt
  have below : n.toInt ≤ Int32.maxValue.toInt := by
    rw [Int32.toInt_maxValue]
    exact Int.le_sub_one_of_lt n.toInt_lt
  rw [number, if_pos ⟨above, below⟩, Int32.ofInt_toInt]

theorem toInt_abs (least : n ≠ Int32.minValue) : n.abs.toInt = n.toInt.natAbs :=
  BitVec.toInt_abs_eq_natAbs_of_ne_intMin fun same => least (Int32.toBitVec_inj.1 same)

/-- Every number but the least has an absolute value. -/
theorem abs_eq (least : n ≠ Int32.minValue) : abs n = some n.abs := by
  rw [abs, ← toInt_abs least, number_toInt]

/-- Every number but the least can be divided by any but zero. -/
theorem rem_eq (least : n ≠ Int32.minValue) (other : divisor ≠ 0) : rem n divisor = some (n % divisor) := by
  rw [rem, if_neg other, ← Int32.toInt_div_of_ne_left n divisor least, number_toInt, Option.bind_some,
    ← Int32.toInt_mod, number_toInt]

/-- Fewer bytes than a header has cannot be read as a serialized value. -/
theorem fails_of_short (short : bytes.length < dataHeaderSize) :
    headerInt bytes typeIdOffset = none ∧ payload bytes = none := by
  have outside : ¬ dataHeaderSize ≤ bytes.length := Nat.not_le.2 short
  have noType : slice bytes typeIdOffset (typeIdOffset + 4) = none := if_neg fun inside => outside inside.2
  exact ⟨by rw [headerInt, noType, Option.map_none], if_neg fun inside => outside inside.1⟩

end Checked

/-! ## Serialized values -/

namespace Data

variable {d d' : Data} {count : Int32}

/-- Whatever is asked of a serialized value, its bytes are there, no number is out of range and nothing is
    divided by zero. -/
structure Unfailing (d : Data) : Prop where
  typeId : Checked.headerInt d.octets typeIdOffset = some d.typeId
  givenHash : Checked.headerInt d.octets hashOffset = some d.givenHash
  payload : Checked.payload d.octets = some d.payload
  partitionHash : Checked.partitionHash d.octets = some d.partitionHash
  partition (count : Int32) : Checked.partition d.octets count = some (d.partition count)

theorem headerInt_eq {offset : Nat} (inside : offset + 4 ≤ dataHeaderSize) (d : Data) :
    Checked.headerInt d.octets offset = some (ofIntOctets ((d.octets.drop offset).take 4)) := by
  rw [Checked.headerInt, Checked.slice_eq (Nat.le_add_right ..) (Nat.le_trans inside d.complete),
    Nat.add_sub_cancel_left, Option.map_some]

theorem payload_eq (d : Data) : Checked.payload d.octets = some d.payload := by
  rw [Checked.payload, Checked.slice_eq d.complete le_rfl, List.take_of_length_le (by rw [List.length_drop])]
  rfl

theorem givenHash_eq (d : Data) : Checked.headerInt d.octets hashOffset = some d.givenHash :=
  headerInt_eq (by decide) d

theorem partitionHash_eq (d : Data) : Checked.partitionHash d.octets = some d.partitionHash := by
  rw [Checked.partitionHash, givenHash_eq, payload_eq, partitionHash, hasHash]
  by_cases given : d.givenHash = 0 <;> simp [given]

theorem abs_ne_least (least : d.partitionHash ≠ Int32.minValue) : d.partitionHash.abs ≠ Int32.minValue := by
  intro same
  have size := Checked.toInt_abs least
  rw [same, Int32.toInt_minValue] at size
  omega

theorem unfailing (d : Data) : d.Unfailing where
  typeId := headerInt_eq (by decide) d
  givenHash := d.givenHash_eq
  payload := d.payload_eq
  partitionHash := d.partitionHash_eq
  partition count := by
    rw [Checked.partition, partitionHash_eq, partition]
    by_cases empty : count ≤ 0
    · simp [empty]
    by_cases least : d.partitionHash = Int32.minValue
    · simp [empty, least]
    · have other : count ≠ 0 := by
        rintro rfl
        exact empty (by decide)
      simp [empty, least, Checked.abs_eq least, Checked.rem_eq (abs_ne_least least) other]

/-- The partition of a value, reckoned on integers of any size. -/
theorem toInt_partition (positive : 0 < count) (least : d.partitionHash ≠ Int32.minValue) :
    (d.partition count).toInt = d.partitionHash.toInt.natAbs % count.toInt := by
  rw [partition, if_neg (Int32.not_le.2 positive), if_neg (by simpa using least), Int32.toInt_mod,
    Checked.toInt_abs least, Int.tmod_eq_emod_of_nonneg (Int.natCast_nonneg _)]

theorem partition_of_least (least : d.partitionHash = Int32.minValue) (count : Int32) : d.partition count = 0 := by
  simp [partition, least]

theorem partition_of_empty (empty : count ≤ 0) (d : Data) : d.partition count = 0 := if_pos empty

theorem partition_in_range (positive : 0 < count) (d : Data) : 0 ≤ d.partition count ∧ d.partition count < count := by
  by_cases least : d.partitionHash = Int32.minValue
  · rw [partition_of_least least]
    exact ⟨Int32.le_refl 0, positive⟩
  · have divisor : 0 < count.toInt := Int32.lt_iff_toInt_lt.1 positive
    rw [Int32.le_iff_toInt_le, Int32.lt_iff_toInt_lt, toInt_partition positive least, Int32.toInt_zero]
    exact ⟨Int.emod_nonneg _ (Int.ne_of_gt divisor), Int.emod_lt_of_pos _ divisor⟩

/-- A value that carries a hash is spread by it alone. -/
theorem partition_of_given (given : d.givenHash ≠ 0) (same : d'.givenHash = d.givenHash) (count : Int32) :
    d'.partition count = d.partition count := by
  have hash : d'.partitionHash = d.partitionHash := by simp [partitionHash, hasHash, same, given]
  rw [partition, hash]
  rfl

/-- A value without a hash is spread by its payload alone. -/
theorem partition_of_payload (bare : d.givenHash = 0) (bare' : d'.givenHash = 0) (same : d'.payload = d.payload)
    (count : Int32) : d'.partition count = d.partition count := by
  have hash : d'.partitionHash = d.partitionHash := by simp [partitionHash, hasHash, same, bare, bare']
  rw [partition, hash]
  rfl

/-- Where the partition of a value lies, and what it hangs on. -/
structure Partitioned (d : Data) (count : Int32) : Prop where
  inRange : 0 < count → 0 ≤ d.partition count ∧ d.partition count < count
  /-- It is the absolute value of the hash, modulo the number of partitions. -/
  modulo : 0 < count → d.partitionHash ≠ Int32.minValue →
    (d.partition count).toInt = d.partitionHash.toInt.natAbs % count.toInt
  least : d.partitionHash = Int32.minValue → d.partition count = 0
  empty : count ≤ 0 → d.partition count = 0
  given (d' : Data) : d.givenHash ≠ 0 → d'.givenHash = d.givenHash → d'.partition count = d.partition count
  derived (d' : Data) : d.givenHash = 0 → d'.givenHash = 0 → d'.payload = d.payload →
    d'.partition count = d.partition count

theorem partitioned (d : Data) (count : Int32) : d.Partitioned count where
  inRange positive := partition_in_range positive d
  modulo := toInt_partition
  least least := partition_of_least least count
  empty empty := partition_of_empty empty d
  given _ given same := partition_of_given given same count
  derived _ bare bare' same := partition_of_payload bare bare' same count

/-! ## Bytes and parts -/

variable {bytes : Octets}

@[simp] theorem givenHash_ofParts (typeId hash : Int32) (payload : Octets) :
    (ofParts typeId hash payload).givenHash = hash := by
  rw [givenHash, hashOffset, List.drop_zero, ofParts, List.take_left' (length_intOctets hash), ofIntOctets_intOctets]

theorem ofOctets_octets (d : Data) : ofOctets d.octets = .ok d := dif_pos d.complete

theorem ofOctets_of_short (short : bytes.length < dataHeaderSize) :
    ofOctets bytes = .error (.framing (.short .dataHeader dataHeaderSize bytes.length)) :=
  dif_neg (Nat.not_le.2 short)

theorem octets_of_ofOctets (accepted : ofOctets bytes = .ok d) : d.octets = bytes := by
  unfold ofOctets at accepted
  split at accepted
  · cases accepted
    rfl
  · cases accepted

/-- What is put together from a type id, a hash and a payload is taken apart into them. -/
structure Rebuilt (typeId hash : Int32) (payload : Octets) : Prop where
  accepted : ofOctets (ofParts typeId hash payload).octets = .ok (ofParts typeId hash payload)
  sameTypeId : (ofParts typeId hash payload).typeId = typeId
  sameHash : (ofParts typeId hash payload).givenHash = hash
  samePayload : (ofParts typeId hash payload).payload = payload

/-- Eight bytes or more are accepted as they are. With fewer, there would be no type id and no payload. -/
structure AcceptedWhole (bytes : Octets) : Prop where
  accepted : (∃ d, ofOctets bytes = .ok d) ↔ 8 ≤ bytes.length
  whole (d : Data) : ofOctets bytes = .ok d → d.octets = bytes ∧ d.size = bytes.length
  refused : bytes.length < 8 → ofOctets bytes = .error (.framing (.short .dataHeader 8 bytes.length))
  short : bytes.length < 8 → Checked.headerInt bytes typeIdOffset = none ∧ Checked.payload bytes = none

theorem acceptedWhole (bytes : Octets) : AcceptedWhole bytes where
  accepted := by
    constructor
    · rintro ⟨d, accepted⟩
      rw [← octets_of_ofOctets accepted]
      exact d.complete
    · intro enough
      exact ⟨⟨bytes, enough⟩, ofOctets_octets ⟨bytes, enough⟩⟩
  whole d accepted := ⟨octets_of_ofOctets accepted, congrArg List.length (octets_of_ofOctets accepted)⟩
  refused := ofOctets_of_short
  short := Checked.fails_of_short

/-- Every serialized value has a partition among any number of them, reckoned without a failure, and in
    range; values are put together and taken apart again without a loss; and eight bytes make a value. -/
theorem partitions_are_total (d : Data) (count typeId hash : Int32) (payload bytes : Octets) :
    d.Unfailing ∧ d.Partitioned count ∧ Rebuilt typeId hash payload ∧ AcceptedWhole bytes :=
  ⟨d.unfailing, d.partitioned count,
    ⟨ofOctets_octets _, typeId_ofParts .., givenHash_ofParts .., payload_ofParts ..⟩, acceptedWhole bytes⟩

/-- The hash that has no absolute value. -/
example : (ofParts 1 Int32.minValue []).partition 271 = 0 := by decide

end Data
end Datagrid
