import Datagrid.Payload.Murmur
import Datagrid.Proofs.Wire.Inverses
import Mathlib.Data.Nat.Bitwise

/-!
# The hash of payloads is the published one

The published algorithm is stated on natural numbers, with every sum, product and shift to the left
taken modulo `2 ^ 32`. It reads the bytes by their index: the blocks of four in a loop, then those left
over in a switch whose cases fall through. The hash of payloads walks down the bytes instead, and takes
what is left over as one number. Both give the same word, whatever the bytes and the seed.
-/
namespace Datagrid.Murmur

/-! ## The published algorithm -/

namespace Published

/-- Words are numbers below this one. -/
def words : Nat := 2 ^ 32

/-- The word moved `r` places to the left, what falls out returning on the right. -/
def rotl (x r : Nat) : Nat := (x <<< r) % words ||| x >>> (32 - r)

/-- The scrambling of a block before it enters the hash. -/
def scramble (k : Nat) : Nat := rotl (k * 0xcc9e2d51 % words) 15 * 0x1b873593 % words

def byte (data : Octets) (i : Nat) : Nat := (data.getD i 0).toNat

/-- The little-endian word of the four bytes from `4 * i` on. -/
def block (data : Octets) (i : Nat) : Nat :=
  byte data (4 * i) + 2 ^ 8 * byte data (4 * i + 1) + 2 ^ 16 * byte data (4 * i + 2) +
    2 ^ 24 * byte data (4 * i + 3)

/-- What a block makes of the hash. -/
def round (h k : Nat) : Nat := (rotl (h ^^^ scramble k) 13 * 5 + 0xe6546b64) % words

def body (data : Octets) (seed : Nat) : Nat :=
  (List.range (data.length / 4)).foldl (fun h i => round h (block data i)) seed

/-- The case of the switch for one byte left over at `start`, which ends in the hash. -/
def caseOne (data : Octets) (start k h : Nat) : Nat := h ^^^ scramble (k ^^^ byte data start)

/-- The case for two bytes, which falls through to that for one. -/
def caseTwo (data : Octets) (start k h : Nat) : Nat := caseOne data start (k ^^^ byte data (start + 1) <<< 8) h

/-- The case for three bytes, which falls through to that for two. -/
def caseThree (data : Octets) (start k h : Nat) : Nat := caseTwo data start (k ^^^ byte data (start + 2) <<< 16) h

/-- The switch over the number of bytes left over. -/
def tail (data : Octets) (start left h : Nat) : Nat :=
  match left with
  | 3 => caseThree data start 0 h
  | 2 => caseTwo data start 0 h
  | 1 => caseOne data start 0 h
  | _ => h

/-- The final avalanche. -/
def fmix (h : Nat) : Nat :=
  let h := h ^^^ h >>> 16
  let h := h * 0x85ebca6b % words
  let h := h ^^^ h >>> 13
  let h := h * 0xc2b2ae35 % words
  h ^^^ h >>> 16

def hash (seed : Nat) (data : Octets) : Nat :=
  let h := body data seed
  let h := tail data (4 * (data.length / 4)) (data.length % 4) h
  fmix (h ^^^ data.length % words)

end Published

/-! ## Words -/

theorem toNat_rotateLeft_of {x n : UInt32} {r : Nat} (left : n.toNat = r) (positive : 0 < r) (small : r < 32) :
    (rotateLeft x n).toNat = Published.rotl x.toNat r := by
  have back : (32 - n).toNat = 32 - r := by
    rw [UInt32.toNat_sub_of_le _ _ (by rw [UInt32.le_iff_toNat_le, left]; exact small.le), left]
    rfl
  rw [rotateLeft, UInt32.toNat_or, UInt32.toNat_shiftLeft, UInt32.toNat_shiftRight, left, back,
    Nat.mod_eq_of_lt small, Nat.mod_eq_of_lt (by omega : 32 - r < 32)]
  rfl

theorem toNat_scramble (k : UInt32) : (scramble k).toNat = Published.scramble k.toNat := by
  rw [scramble, UInt32.toNat_mul, toNat_rotateLeft_of rfl (by decide) (by decide), UInt32.toNat_mul]
  simp only [UInt32.reduceToNat, Published.scramble, Published.words]

theorem toNat_mixBlock (h k : UInt32) : (mixBlock h k).toNat = Published.round h.toNat k.toNat := by
  rw [mixBlock, UInt32.toNat_add, UInt32.toNat_mul, toNat_rotateLeft_of rfl (by decide) (by decide),
    UInt32.toNat_xor, toNat_scramble, Nat.mod_add_mod]
  simp only [UInt32.reduceToNat, Published.round, Published.words]

theorem toNat_avalanche (h : UInt32) : (avalanche h).toNat = Published.fmix h.toNat := by
  simp only [avalanche, Published.fmix, UInt32.toNat_xor, UInt32.toNat_shiftRight, UInt32.toNat_mul,
    UInt32.reduceToNat, Nat.reduceMod, Published.words]

/-! ## Blocks -/

namespace Published

variable (a b c d : UInt8) (rest : Octets)

theorem block_succ (i : Nat) : block (a :: b :: c :: d :: rest) (i + 1) = block rest i := rfl

theorem byte_four (i : Nat) : byte (a :: b :: c :: d :: rest) (i + 4) = byte rest i := rfl

theorem tail_four (start left h : Nat) :
    tail (a :: b :: c :: d :: rest) (start + 4) left h = tail rest start left h := by
  simp only [tail, caseThree, caseTwo, caseOne, Nat.add_right_comm start 4, byte_four]

/-- The loop over the blocks takes in the first one and goes on with the bytes after it. -/
theorem body_four (h : Nat) :
    body (a :: b :: c :: d :: rest) h = body rest (round h (block (a :: b :: c :: d :: rest) 0)) := by
  have blocks : (a :: b :: c :: d :: rest).length / 4 = rest.length / 4 + 1 :=
    Nat.add_div_right rest.length (show 0 < 4 by decide)
  rw [body, blocks, List.range_succ_eq_map, List.foldl_cons, List.foldl_map]
  simp only [Nat.succ_eq_add_one, block_succ, body]

theorem block_zero : block (a :: b :: c :: d :: rest) 0 = Octets.ofLittleEndian [a, b, c, d] := by
  change a.toNat + 2 ^ 8 * b.toNat + 2 ^ 16 * c.toNat + 2 ^ 24 * d.toNat = _
  simp only [Octets.ofLittleEndian]
  omega

theorem xor_shiftLeft {x y r : Nat} (small : y < 2 ^ r) : x <<< r ^^^ y = 2 ^ r * x + y := by
  have high : (x <<< r ^^^ y) / 2 ^ r = x := by
    rw [Nat.xor_div_two_pow, Nat.shiftLeft_eq, Nat.mul_div_cancel _ (Nat.two_pow_pos r), Nat.div_eq_of_lt small,
      Nat.xor_zero]
  have low : (x <<< r ^^^ y) % 2 ^ r = y := by
    rw [Nat.xor_mod_two_pow, Nat.shiftLeft_eq, Nat.mul_mod_left, Nat.mod_eq_of_lt small, Nat.zero_xor]
  rw [← Nat.div_add_mod (x <<< r ^^^ y) (2 ^ r), high, low]

/-- The switch takes in the bytes that are left over as their little-endian number. -/
theorem tail_left : ∀ {left : Octets}, left ≠ [] → left.length < 4 → ∀ h,
    tail left 0 left.length h = h ^^^ scramble (Octets.ofLittleEndian left)
  | [a], _, _, h => by
    change h ^^^ scramble (0 ^^^ a.toNat) = _
    rw [Nat.zero_xor]
    rfl
  | [a, b], _, _, h => by
    change h ^^^ scramble (0 ^^^ b.toNat <<< 8 ^^^ a.toNat) = _
    congr 2
    rw [Nat.zero_xor, xor_shiftLeft a.toNat_lt]
    simp only [Octets.ofLittleEndian]
    omega
  | [a, b, c], _, _, h => by
    have places : c.toNat <<< 16 = (c.toNat <<< 8) <<< 8 := by rw [← Nat.shiftLeft_add]
    change h ^^^ scramble (0 ^^^ c.toNat <<< 16 ^^^ b.toNat <<< 8 ^^^ a.toNat) = _
    congr 2
    rw [Nat.zero_xor, places, ← Nat.shiftLeft_xor_distrib, xor_shiftLeft b.toNat_lt, xor_shiftLeft a.toNat_lt]
    simp only [Octets.ofLittleEndian]
    omega
  | _ :: _ :: _ :: _ :: _, _, short, _ => by
    simp only [List.length_cons] at short
    omega

end Published

/-- A block of up to four bytes is their little-endian number. -/
theorem toNat_block {bytes : Octets} (short : bytes.length ≤ 4) :
    (block bytes).toNat = Octets.ofLittleEndian bytes := by
  have small : Octets.ofLittleEndian bytes < 2 ^ 32 :=
    (Octets.ofLittleEndian_lt bytes).trans_le (Nat.pow_le_pow_right (show 0 < 256 by decide) short)
  rw [block, UInt32.toNat_ofNat_of_lt' small]

/-- Walking down the bytes is the loop over the blocks, followed by the switch. -/
theorem toNat_mix (h : UInt32) (bytes : Octets) :
    (mix h bytes).toNat =
      Published.tail bytes (4 * (bytes.length / 4)) (bytes.length % 4) (Published.body bytes h.toNat) := by
  fun_induction mix h bytes with
  | case1 h a b c d rest ih =>
    -- One round is done, and what is left over starts four bytes earlier in what follows.
    rw [ih, toNat_mixBlock, toNat_block le_rfl, ← Published.block_zero a b c d rest, ← Published.body_four,
      ← Published.tail_four a b c d]
    congr 1
    all_goals simp only [List.length_cons]; omega
  | case2 h => rfl
  | case3 h left short nonempty =>
    have short : left.length < 4 := by
      match left, short with
      | [], _ | [_], _ | [_, _], _ | [_, _, _], _ => simp
      | a :: b :: c :: d :: rest, short => exact (short a b c d rest rfl).elim
    have noBlock : Published.body left h.toNat = h.toNat := by
      rw [Published.body, Nat.div_eq_of_lt short]
      rfl
    rw [UInt32.toNat_xor, toNat_scramble, toNat_block short.le, noBlock, Nat.div_eq_of_lt short,
      Nat.mod_eq_of_lt short]
    exact (Published.tail_left nonempty short h.toNat).symm

/-- The hash of payloads is the published one, as a word and as the signed number that a partition is
    found by. -/
theorem hash_is_published (seed : UInt32) (bytes : Octets) :
    (hash seed bytes).toNat = Published.hash seed.toNat bytes ∧
      (hash seed bytes).toInt32.toInt = (Published.hash seed.toNat bytes : Int).bmod (2 ^ 32) := by
  have word : (hash seed bytes).toNat = Published.hash seed.toNat bytes := by
    rw [hash, toNat_avalanche, UInt32.toNat_xor, toNat_mix, UInt32.toNat_ofNat']
    rfl
  refine ⟨word, ?_⟩
  rw [← word]
  exact BitVec.toInt_eq_toNat_bmod _

/-- Thirteen bytes: three blocks, and one byte for the switch. -/
example : Published.hash 0x9747b28c [72, 101, 108, 108, 111, 44, 32, 119, 111, 114, 108, 100, 33] = 0x24884cba := by
  decide

example : hash 1 [] = 0x514e28b7 := by decide

end Datagrid.Murmur
