import Datagrid.Text.Digits

/-!
Universally unique identifiers, as two 64-bit halves.
-/
namespace Datagrid

structure Uuid where
  high : UInt64
  low : UInt64
  deriving DecidableEq, Inhabited

namespace Uuid

/-- The identifier of nothing. -/
def nil : Uuid := ⟨0, 0⟩

/-- The hyphenated lower-case text. -/
def text (u : Uuid) : String :=
  let h := u.high.toNat
  let l := u.low.toNat
  Text.hexDigits 8 (h >>> 32) ++ "-" ++ Text.hexDigits 4 ((h >>> 16) % 0x10000) ++ "-" ++
    Text.hexDigits 4 (h % 0x10000) ++ "-" ++ Text.hexDigits 4 (l >>> 48) ++ "-" ++
    Text.hexDigits 12 (l % 0x1000000000000)

/-- The identifier of a text, wherever its hyphens stand. -/
def ofText (text : String) : Uuid :=
  let n := Text.ofHexDigits (text.toList.filter (· != '-'))
  ⟨UInt64.ofNat (n >>> 64), UInt64.ofNat n⟩

end Uuid
end Datagrid
