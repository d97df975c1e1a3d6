import ClusterWatch.Proofs.Json.Lexemes

/-!
Whole numbers in text. A number is written in decimal digits, leading zeros allowed, with a sign
before them where there may be one. Readers take what is written so and within their bounds, and
nothing else, so that whatever a number is printed as is read as that number.
-/
namespace ClusterWatch.Text

open Json (Digits decimal natural?_eq_some_iff takeWhile_digits)

/-- A natural number in digits, with or without a plus sign. -/
inductive Unsigned : List Char → Nat → Prop
  | bare {ds : List Char} (digits : Digits ds) : Unsigned ds (decimal ds)
  | plus {ds : List Char} (digits : Digits ds) : Unsigned ('+' :: ds) (decimal ds)

/-- A whole number in digits, with or without a sign. -/
inductive Signed : List Char → Int → Prop
  | unsigned {text : List Char} {n : Nat} (numeral : Unsigned text n) : Signed text n
  | minus {ds : List Char} (digits : Digits ds) : Signed ('-' :: ds) (-(decimal ds : Int))

/-- The number is a signed word of 64 bits. -/
def FitsSigned64 (k : Int) : Prop := -2 ^ 63 ≤ k ∧ k < 2 ^ 63

instance (k : Int) : Decidable (FitsSigned64 k) := inferInstanceAs (Decidable (_ ∧ _))

/-- A reader that knows what it accepts and returns what it does not accept refuses all else. -/
theorem refused_iff {α ε : Type} {result : Except ε α} {Accepted : α → Prop} {given e : ε}
    (accepts : ∀ a, result = .ok a ↔ Accepted a) (returns : ∀ e, result = .error e → e = given) :
    result = .error e ↔ e = given ∧ ∀ a, ¬ Accepted a := by
  constructor
  · intro h
    exact ⟨returns e h, fun a ha => nomatch h.symm.trans ((accepts a).2 ha)⟩
  · rintro ⟨rfl, hnone⟩
    cases h : result with
    | ok a => exact absurd ((accepts a).1 h) (hnone a)
    | error e' => rw [returns e' h]

section Readers

variable {text ds : List Char} {bound n m : Nat} {k l : Int}

theorem digits_toDigits (n : Nat) : Digits (Nat.toDigits 10 n) ∧ n = decimal (Nat.toDigits 10 n) :=
  natural?_eq_some_iff.1 (natural?_toDigits n)

/-- Nothing but digits and signs stands in a numeral. -/
theorem Unsigned.mem (h : Unsigned text n) : ∀ c ∈ text, c.isDigit = true ∨ c = '+' := by
  cases h with
  | bare digits => exact fun c hc => .inl (digits.2 c hc)
  | plus digits =>
    intro c hc
    rcases List.mem_cons.1 hc with rfl | hc
    · exact .inr rfl
    · exact .inl (digits.2 c hc)

theorem Unsigned.not_minus (h : Unsigned ('-' :: ds) n) : False := by
  rcases h.mem '-' List.mem_cons_self with hminus | hminus <;> exact absurd hminus (by decide)

theorem Unsigned.unique (h : Unsigned text n) (h' : Unsigned text m) : n = m := by
  cases h with
  | bare digits =>
    cases h' with
    | bare => rfl
    | plus => exact absurd digits.isDigit_head (by decide)
  | plus digits =>
    cases h' with
    | bare digits => exact absurd digits.isDigit_head (by decide)
    | plus => rfl

theorem Signed.mem (h : Signed text k) : ∀ c ∈ text, c.isDigit = true ∨ c = '+' ∨ c = '-' := by
  cases h with
  | unsigned numeral => exact fun c hc => (numeral.mem c hc).imp_right Or.inl
  | minus digits =>
    intro c hc
    rcases List.mem_cons.1 hc with rfl | hc
    · exact .inr (.inr rfl)
    · exact .inl (digits.2 c hc)

theorem Signed.unique (h : Signed text k) (h' : Signed text l) : k = l := by
  cases h with
  | unsigned numeral =>
    cases h' with
    | unsigned numeral' => exact congrArg Int.ofNat (numeral.unique numeral')
    | minus => exact numeral.not_minus.elim
  | minus digits =>
    cases h' with
    | unsigned numeral => exact numeral.not_minus.elim
    | minus => rfl

theorem unsigned?_eq_some_iff : unsigned? bound text = some n ↔ Unsigned text n ∧ n < bound := by
  unfold unsigned?
  split
  next rest =>
    simp only [Option.filter_eq_some_iff, natural?_eq_some_iff, decide_eq_true_eq]
    refine and_congr_left fun _ => ⟨fun ⟨digits, hn⟩ => hn ▸ .plus digits, fun numeral => ?_⟩
    cases numeral with
    | bare digits => exact absurd digits.isDigit_head (by decide)
    | plus digits => exact ⟨digits, rfl⟩
  next rest hsign =>
    simp only [Option.filter_eq_some_iff, natural?_eq_some_iff, decide_eq_true_eq]
    refine and_congr_left fun _ => ⟨fun ⟨digits, hn⟩ => hn ▸ .bare digits, fun numeral => ?_⟩
    cases numeral with
    | bare digits => exact ⟨digits, rfl⟩
    | plus digits => exact absurd rfl (hsign _)

/-- A negative zero is zero, so there has to be room for zero. -/
theorem signed?_eq_some_iff (hbound : 0 < bound) :
    signed? bound text = some k ↔ Signed text k ∧ -(bound : Int) ≤ k ∧ k < bound := by
  unfold signed?
  split
  next rest =>
    simp only [Option.map_eq_some_iff, bind, Option.bind_eq_some_iff, Option.filter_eq_some_iff,
      natural?_eq_some_iff, decide_eq_true_eq, pure, Option.some.injEq]
    constructor
    · rintro ⟨_, ⟨_, ⟨⟨digits, rfl⟩, hle⟩, rfl⟩, rfl⟩
      exact ⟨.minus digits, by omega, by omega⟩
    · rintro ⟨hsigned, hlow, -⟩
      cases hsigned with
      | unsigned numeral => exact numeral.not_minus.elim
      | minus digits => exact ⟨_, ⟨_, ⟨⟨digits, rfl⟩, by omega⟩, rfl⟩, rfl⟩
  next hsign =>
    simp only [Option.map_eq_some_iff, unsigned?_eq_some_iff]
    constructor
    · rintro ⟨n, ⟨numeral, hlt⟩, rfl⟩
      exact ⟨.unsigned numeral, by simp only [Int.ofNat_eq_natCast]; omega,
        by simp only [Int.ofNat_eq_natCast]; omega⟩
    · rintro ⟨hsigned, -, hlt⟩
      cases hsigned with
      | unsigned numeral => exact ⟨_, ⟨numeral, by omega⟩, rfl⟩
      | minus digits => exact absurd rfl (hsign _)

theorem signed?_bound64_eq_some_iff :
    signed? signedBound64 text = some k ↔ Signed text k ∧ FitsSigned64 k :=
  signed?_eq_some_iff (by decide)

end Readers

section Printers

theorem unsigned_toString (n : Nat) : Unsigned (toString n).toList n := by
  obtain ⟨digits, hn⟩ := digits_toDigits n
  have h : Unsigned (Nat.toDigits 10 n) (decimal (Nat.toDigits 10 n)) := .bare digits
  rw [← hn] at h
  simpa using h

/-- A printed number and what stands behind it can be told apart, unless a digit is what comes
next. -/
theorem toString_append_inj {n m : Nat} {s t : String}
    (hs : s.toList.head?.any Char.isDigit = false) (ht : t.toList.head?.any Char.isDigit = false) :
    toString n ++ s = toString m ++ t ↔ n = m ∧ s = t := by
  have hnext {text : List Char} (h : text.head?.any Char.isDigit = false) :
      ∀ c ∈ text.head?, c.isDigit = false := by
    intro c hc
    rwa [Option.mem_def.1 hc] at h
  constructor
  · intro h
    have hsame : Nat.toDigits 10 n ++ s.toList = Nat.toDigits 10 m ++ t.toList := by
      simpa using congrArg String.toList h
    obtain ⟨hdigits, hn⟩ := digits_toDigits n
    obtain ⟨hdigits', hm⟩ := digits_toDigits m
    obtain ⟨hfront, hback⟩ := takeWhile_digits hdigits.2 (hnext hs)
    obtain ⟨hfront', hback'⟩ := takeWhile_digits hdigits'.2 (hnext ht)
    rw [hsame] at hfront hback
    refine ⟨?_, String.toList_injective (hback.symm.trans hback')⟩
    rw [hn, hm, hfront.symm.trans hfront']
  · rintro ⟨rfl, rfl⟩
    rfl

theorem signed_toString (k : Int) : Signed (toString k).toList k := by
  cases k with
  | ofNat n => exact .unsigned (unsigned_toString n)
  | negSucc n =>
    obtain ⟨digits, hn⟩ := digits_toDigits (n + 1)
    have h := Signed.minus digits
    rw [← hn] at h
    have hprinted : (toString (Int.negSucc n)).toList = '-' :: Nat.toDigits 10 (n + 1) := by
      show ("-" ++ Nat.repr (n + 1)).toList = _
      simp
    rw [hprinted]
    exact h

end Printers

end ClusterWatch.Text
