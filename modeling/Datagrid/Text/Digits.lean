/-!
Numbers as digits: hexadecimal text with a least number of digits, its value,
and decimal fractions of a whole.
-/
namespace Datagrid.Text

/-- The lower-case hexadecimal digits of a number, at least `width` of them. -/
def hexDigits (width n : Nat) : String :=
  let digits := Nat.toDigits 16 n
  String.ofList (List.replicate (width - digits.length) '0' ++ digits)

/-- The value of a hexadecimal digit of either case. -/
def hexValue (c : Char) : Nat :=
  if c.isDigit then c.toNat - '0'.toNat
  else if 'a' ≤ c then c.toNat - 'a'.toNat + 10
  else c.toNat - 'A'.toNat + 10

/-- The number that hexadecimal digits stand for. -/
def ofHexDigits (digits : List Char) : Nat :=
  digits.foldl (fun n c => n * 16 + hexValue c) 0

/-- A hexadecimal number behind `0x`, with at least `width` digits. -/
def hexNumber (width n : Nat) : String :=
  "0x" ++ hexDigits width n

/-- The digits of `part` as a fraction of `10 ^ width`: leading zeros kept,
    trailing zeros dropped, and the point only before a digit. -/
def decimalFraction (width part : Nat) : String :=
  let digits := Nat.toDigits 10 part
  let padded := List.replicate (width - digits.length) '0' ++ digits
  let kept := (padded.reverse.dropWhile (· == '0')).reverse
  if kept.isEmpty then "" else "." ++ String.ofList kept

end Datagrid.Text
