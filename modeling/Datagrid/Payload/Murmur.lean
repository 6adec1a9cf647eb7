import Datagrid.Wire.Octets

/-!
The 32-bit hash that spreads payloads over partitions: blocks of four bytes are
mixed in one after the other, then the one to three bytes left over, then the
length; a final avalanche lets every bit of the input reach every bit of the
hash.
-/
namespace Datagrid.Murmur

/-- The bits moved `n` places to the left, those that fall out returning on the
    right, for `0 < n < 32`. -/
def rotateLeft (x n : UInt32) : UInt32 := (x <<< n) ||| (x >>> (32 - n))

/-- A block, scrambled. -/
def scramble (k : UInt32) : UInt32 :=
  rotateLeft (k * 0xcc9e2d51) 15 * 0x1b873593

def mixBlock (h k : UInt32) : UInt32 :=
  rotateLeft (h ^^^ scramble k) 13 * 5 + 0xe6546b64

/-- The number of up to four bytes, the least significant first. -/
def block (bytes : Octets) : UInt32 := UInt32.ofNat (Octets.ofLittleEndian bytes)

/-- The hash after all blocks of four and the bytes left over. -/
def mix (h : UInt32) : Octets → UInt32
  | a :: b :: c :: d :: rest => mix (mixBlock h (block [a, b, c, d])) rest
  | [] => h
  | tail => h ^^^ scramble (block tail)

/-- Lets every bit reach every other. -/
def avalanche (h : UInt32) : UInt32 :=
  let h := (h ^^^ (h >>> 16)) * 0x85ebca6b
  let h := (h ^^^ (h >>> 13)) * 0xc2b2ae35
  h ^^^ (h >>> 16)

def hash (seed : UInt32) (bytes : Octets) : UInt32 :=
  avalanche (mix seed bytes ^^^ UInt32.ofNat bytes.length)

end Datagrid.Murmur
