/-!
Lengths of time in whole nanoseconds. They have two written forms: the one operators use
in settings, in whole seconds or else in whole milliseconds, and an exact one in the
largest unit that leaves a whole part.
-/
namespace ClusterWatch

structure Duration where
  nanos : Nat
deriving DecidableEq, Repr, Inhabited

namespace Duration

def ofMillis (n : Nat) : Duration := ⟨n * 1000000⟩

def ofSeconds (seconds nanos : Nat) : Duration := ⟨seconds * 1000000000 + nanos⟩

/-- Whole milliseconds, the rest cut off. -/
def millis (d : Duration) : Nat := d.nanos / 1000000

/-- Whole seconds where the milliseconds come out even and are not zero, else milliseconds. -/
def text (d : Duration) : String :=
  if d.millis ≠ 0 ∧ d.millis % 1000 = 0 then
    toString (d.millis / 1000) ++ "s"
  else toString d.millis ++ "ms"

/-- The digits after the point of `part / 10 ^ places`, without trailing zeros. -/
private def fraction (places part : Nat) : String :=
  let digits := Nat.toDigits 10 part
  let padded := List.replicate (places - digits.length) '0' ++ digits
  if part = 0 then ""
  else "." ++ String.ofList (padded.reverse.dropWhile (· == '0')).reverse

/-- No digit is lost: the unit is the largest with a whole part, and a fraction follows it. -/
def exactText (d : Duration) : String :=
  let inUnit (places : Nat) (unit : String) : String :=
    toString (d.nanos / Nat.pow 10 places) ++ fraction places (d.nanos % Nat.pow 10 places) ++ unit
  if 1000000000 ≤ d.nanos then inUnit 9 "s"
  else if 1000000 ≤ d.nanos then inUnit 6 "ms"
  else if 1000 ≤ d.nanos then inUnit 3 "µs"
  else inUnit 0 "ns"

end Duration
end ClusterWatch
