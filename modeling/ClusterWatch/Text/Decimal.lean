/-!
Whole numbers in decimal text. A natural number is one or more of the digits 0 to 9,
leading zeros allowed; a sign may stand before it where a reader says so. Readers take a
bound and refuse what lies outside it.
-/
namespace ClusterWatch.Text

def natural? (text : List Char) : Option Nat :=
  if text ≠ [] ∧ text.all Char.isDigit then some (Nat.ofDigitChars 10 text 0) else none

/-- A natural number below the bound, with or without a plus sign. -/
def unsigned? (bound : Nat) (text : List Char) : Option Nat :=
  let digits := match text with
    | '+' :: rest => rest
    | rest => rest
  (natural? digits).filter (· < bound)

/-- A whole number from `-bound` up to but not including `bound`, with or without a sign. -/
def signed? (bound : Nat) (text : List Char) : Option Int :=
  match text with
  | '-' :: rest => ((natural? rest).filter (· ≤ bound)).map (fun n => - (n : Int))
  | rest => (unsigned? bound rest).map Int.ofNat

def bound32 : Nat := UInt32.size

/-- Signed words of 64 bits run from the negated bound up to the bound. -/
def signedBound64 : Nat := UInt64.size / 2

theorem natural?_toDigits (n : Nat) : natural? (Nat.toDigits 10 n) = some n := by
  have hdigits : (Nat.toDigits 10 n).all Char.isDigit = true :=
    List.all_eq_true.2 fun _ hc => Nat.isDigit_of_mem_toDigits (by decide) (by decide) hc
  rw [natural?, if_pos ⟨Nat.toDigits_ne_nil, hdigits⟩,
    Nat.ofDigitChars_toDigits (by decide) (by decide)]

end ClusterWatch.Text
