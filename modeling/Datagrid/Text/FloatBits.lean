import Datagrid.Text.Digits

/-!
Floating-point numbers as the hexadecimal digits of their bits. All bits that
stand for no number have one text.
-/
namespace Datagrid.Text

/-- A binary format: the digits of its bits, the bits of its fraction, and the
    bits of a quiet number that is none. -/
structure FloatFormat where
  digits : Nat
  fraction : Nat
  quiet : Nat

namespace FloatFormat

def single : FloatFormat := ⟨8, 23, 0x7fc00000⟩
def double : FloatFormat := ⟨16, 52, 0x7ff8000000000000⟩

/-- The exponent of what is infinite or no number. -/
def topExponent (format : FloatFormat) : Nat := 1 <<< (format.digits * 4 - 1 - format.fraction) - 1

/-- Whether bits stand for no number. -/
def isNaN (format : FloatFormat) (bits : Nat) : Bool :=
  let exponent := (bits >>> format.fraction) % (format.topExponent + 1)
  exponent == format.topExponent && bits % (1 <<< format.fraction) != 0

def text (format : FloatFormat) (bits : Nat) : String :=
  if format.isNaN bits then "nan" else hexDigits format.digits bits

def ofText (format : FloatFormat) (text : String) : Nat :=
  if text == "nan" then format.quiet else ofHexDigits text.toList

end FloatFormat
end Datagrid.Text
