import Datagrid.Text.Digits

/-!
Lengths of time with nanoseconds, and their text in the largest unit that
leaves a whole part.
-/
namespace Datagrid

/-- A length of time: whole seconds and the nanoseconds beyond them. -/
structure Timespan where
  nanoseconds : Nat
  deriving DecidableEq

namespace Timespan

def ofSeconds (s : Nat) : Timespan := ⟨s * 1000000000⟩

def ofMilliseconds (ms : Nat) : Timespan := ⟨ms * 1000000⟩

/-- The whole milliseconds, rounded down. -/
def milliseconds (t : Timespan) : Nat := t.nanoseconds / 1000000

/-- The whole milliseconds that cover the timespan, rounded up. -/
def millisecondsUp (t : Timespan) : Nat := (t.nanoseconds + 999999) / 1000000

def isZero (t : Timespan) : Bool := t.nanoseconds == 0

/-- The text of a timespan: seconds, milliseconds, microseconds or
    nanoseconds, whichever is the largest unit not longer than it, with a
    decimal fraction for the rest. -/
def text (t : Timespan) : String :=
  let n := t.nanoseconds
  if 1000000000 ≤ n then
    toString (n / 1000000000) ++ Text.decimalFraction 9 (n % 1000000000) ++ "s"
  else if 1000000 ≤ n then
    toString (n / 1000000) ++ Text.decimalFraction 6 (n % 1000000) ++ "ms"
  else if 1000 ≤ n then
    toString (n / 1000) ++ Text.decimalFraction 3 (n % 1000) ++ "µs"
  else toString n ++ "ns"

end Timespan
end Datagrid
