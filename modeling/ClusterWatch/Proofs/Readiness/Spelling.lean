import ClusterWatch.Cluster.ShardCount
import ClusterWatch.Proofs.Text.Margins
import ClusterWatch.Proofs.Text.Numerals

/-!
How shard counts are written. A count is one of two words, in any case of letters, or a number with
leading zeros and a plus sign where people like them; blanks around it do not matter. Everything
else is refused, with the text that was given and not with what was made of it.
-/
namespace ClusterWatch.ShardCount

open Text (isBlank strip Surrounded Bare Blanks Unsigned)

/-- The same letters, of which some may be in another case. -/
def SameLetters (word other : List Char) : Prop := word.map Char.toLower = other.map Char.toLower

instance (word other : List Char) : Decidable (SameLetters word other) :=
  inferInstanceAs (Decidable (_ = _))

/-- How a count may be spelled. -/
inductive Spelled : List Char → ShardCount → Prop
  | all {word : List Char} (letters : SameLetters word "all".toList) : Spelled word .all
  | indexDefault {word : List Char} (letters : SameLetters word "default".toList) :
      Spelled word .indexDefault
  | copies {word : List Char} {n : Nat} (numeral : Unsigned word n) (fits : n < 2 ^ 32) :
      Spelled word (.copies n)

/-- The count is a word of 32 bits, if it is a number. -/
def Fits : ShardCount → Prop
  | .copies n => n < 2 ^ 32
  | _ => True

instance : ∀ count : ShardCount, Decidable count.Fits
  | .copies n => inferInstanceAs (Decidable (n < 2 ^ 32))
  | .all => isTrue trivial
  | .indexDefault => isTrue trivial

section Letters

variable {word other : List Char} {c : Char} {n : Nat} {count : ShardCount}

theorem code_of_numeral (h : c.isDigit = true ∨ c = '+') : 33 ≤ c.toNat ∧ c.toNat ≤ 57 := by
  obtain h | rfl := h
  · simp only [Char.isDigit, Bool.and_eq_true, decide_eq_true_eq, ge_iff_le,
      UInt32.le_iff_toNat_le] at h
    exact ⟨Nat.le_trans (by decide) h.1, h.2⟩
  · decide

theorem code_of_isBlank (h : isBlank c = true) : c.toNat ≤ 32 ∨ 133 ≤ c.toNat := by
  have hcode : c.toNat = c.val.toNat := rfl
  simp only [isBlank, Bool.or_eq_true, Bool.and_eq_true, decide_eq_true_eq, Char.le_def,
    UInt32.le_iff_toNat_le, Char.ext_iff, ← UInt32.toNat_inj] at h
  simp at h
  omega

theorem toLower_eq_self (h : c.toNat < 65 ∨ 90 < c.toNat) : c.toLower = c := by
  refine dif_neg fun hcapital => ?_
  simp only [ge_iff_le, UInt32.le_iff_toNat_le] at hcapital
  have hcode : c.toNat = c.val.toNat := rfl
  have hfirst : 'A'.val.toNat = 65 := rfl
  have hlast : 'Z'.val.toNat = 90 := rfl
  omega

theorem code_le_toLower (c : Char) : c.toNat ≤ c.toLower.toNat := by
  unfold Char.toLower
  split
  next hcapital =>
    simp only [ge_iff_le, UInt32.le_iff_toNat_le] at hcapital
    have hlast : 'Z'.val.toNat = 90 := rfl
    have hshift : ('a'.val - 'A'.val).toNat = 32 := rfl
    show c.val.toNat ≤ (c.val + ('a'.val - 'A'.val)).toNat
    rw [UInt32.toNat_add]
    omega
  next => exact Nat.le_refl _

/-- What is no letter was none before. -/
theorem toLower_eq_self_of_toLower (h : c.toLower.isDigit = true ∨ c.toLower = '+') :
    c.toLower = c := by
  have hcode := code_le_toLower c
  have hnumeral := code_of_numeral h
  exact toLower_eq_self (.inl (by omega))

theorem map_eq_self {f : Char → Char} (h : ∀ c ∈ word, f c = c) : word.map f = word :=
  (List.map_congr_left h).trans (List.map_id' word)

/-- Numbers have no case. -/
theorem unsigned_map_toLower_iff : Unsigned (word.map Char.toLower) n ↔ Unsigned word n := by
  constructor
  · intro h
    rwa [map_eq_self fun c hc =>
      toLower_eq_self_of_toLower (h.mem c.toLower (List.mem_map_of_mem hc))] at h
  · intro h
    rwa [map_eq_self fun c hc =>
      toLower_eq_self (.inl (Nat.lt_of_le_of_lt (code_of_numeral (h.mem c hc)).2 (by decide)))]

theorem not_isBlank_of_numeral (h : c.isDigit = true ∨ c = '+') : isBlank c = false := by
  have hnumeral := code_of_numeral h
  refine Bool.eq_false_iff.2 fun hblank => ?_
  have hcode := code_of_isBlank hblank
  omega

/-- A word in other letters has no blanks either. -/
theorem SameLetters.not_isBlank (h : SameLetters word other)
    (hother : other.map Char.toLower = other)
    (hbare : other.any isBlank = false) : ∀ c ∈ word, isBlank c = false := by
  intro c hc
  refine Bool.eq_false_iff.2 fun hblank => ?_
  have hsame : c.toLower = c :=
    toLower_eq_self ((code_of_isBlank hblank).imp (by omega) (by omega))
  have hmem : c ∈ other := by
    have hlower : c.toLower ∈ word.map Char.toLower := List.mem_map_of_mem hc
    rwa [h, hother, hsame] at hlower
  exact List.any_eq_false.1 hbare c hmem hblank

theorem Spelled.bare (h : Spelled word count) : Bare word := by
  have hnone : ∀ c ∈ word, isBlank c = false := by
    cases h with
    | all letters => exact letters.not_isBlank (by decide) (by decide)
    | indexDefault letters => exact letters.not_isBlank (by decide) (by decide)
    | copies numeral => exact fun c hc => not_isBlank_of_numeral (numeral.mem c hc)
  exact ⟨fun c hc => hnone c (List.mem_of_mem_head? hc),
    fun c hc => hnone c (List.mem_of_mem_getLast? hc)⟩

end Letters

section Texts

variable {given : String} {count : ShardCount} {e : Malformed}

theorem parse_eq_ok_iff_strip :
    parse given = .ok count ↔ Spelled (strip given.toList) count := by
  have hbound : Text.bound32 = 2 ^ 32 := rfl
  have hall : "all".toList.map Char.toLower = "all".toList := by decide
  have hdefault : "default".toList.map Char.toLower = "default".toList := by decide
  unfold parse
  dsimp only
  constructor
  · intro h
    split at h
    next hword =>
      obtain rfl := Except.ok.inj h
      exact .all (hword.trans hall.symm)
    next =>
      split at h
      next hword =>
        obtain rfl := Except.ok.inj h
        exact .indexDefault (hword.trans hdefault.symm)
      next =>
        split at h
        next n hnumber =>
          obtain rfl := Except.ok.inj h
          obtain ⟨numeral, fits⟩ := Text.unsigned?_eq_some_iff.1 hnumber
          exact .copies (unsigned_map_toLower_iff.1 numeral) (hbound ▸ fits)
        next => cases h
  · intro h
    cases h with
    | all letters => rw [if_pos (letters.trans hall)]
    | indexDefault letters =>
      have hword := letters.trans hdefault
      rw [if_neg (by rw [hword]; decide), if_pos hword]
    | copies numeral fits =>
      have hlower := unsigned_map_toLower_iff.2 numeral
      have hletter {c : Char} (hc : c ∈ (strip given.toList).map Char.toLower) :
          c.isDigit = true ∨ c = '+' := hlower.mem c hc
      rw [if_neg fun hword => absurd (hletter (c := 'a') (by rw [hword]; decide)) (by decide),
        if_neg fun hword => absurd (hletter (c := 'a') (by rw [hword]; decide)) (by decide),
        Text.unsigned?_eq_some_iff.2 ⟨hlower, hbound ▸ fits⟩]

/-- A text is read as a count exactly if it spells the count, blanks around it apart. -/
theorem parse_eq_ok_iff : parse given = .ok count ↔
    ∃ word, Surrounded given.toList word ∧ Bare word ∧ Spelled word count := by
  rw [parse_eq_ok_iff_strip]
  constructor
  · intro h
    obtain ⟨hsurrounded, hbare⟩ := Text.strip_eq_iff.1 (rfl : strip given.toList = _)
    exact ⟨_, hsurrounded, hbare, h⟩
  · rintro ⟨word, hsurrounded, hbare, hspelled⟩
    rwa [Text.strip_eq_iff.2 ⟨hsurrounded, hbare⟩]

theorem eq_given_of_parse (h : parse given = .error e) : e = ⟨given⟩ := by
  unfold parse at h
  dsimp only at h
  split at h
  next => cases h
  next =>
    split at h
    next => cases h
    next =>
      split at h
      next => cases h
      next => exact (Except.error.inj h).symm

theorem spelled_text (fits : count.Fits) {word : List Char}
    (letters : SameLetters word count.text.toList) : Spelled word count := by
  cases count with
  | all => exact .all letters
  | indexDefault => exact .indexDefault letters
  | copies n =>
    refine .copies (unsigned_map_toLower_iff.1 ?_) fits
    rw [letters]
    exact unsigned_map_toLower_iff.2 (Text.unsigned_toString n)

end Texts

/-- What comes of a text that is read as a count. -/
structure ReadAs (given : String) : Prop where
  accepted : ∀ count, parse given = .ok count ↔
    ∃ word, Surrounded given.toList word ∧ Bare word ∧ Spelled word count
  /-- The text is given back with the blanks around it. -/
  refused : ∀ e, parse given = .error e ↔ e = ⟨given⟩ ∧
    ∀ word count, Surrounded given.toList word → Bare word → ¬ Spelled word count

theorem readAs (given : String) : ReadAs given where
  accepted _ := parse_eq_ok_iff
  refused e := by
    rw [Text.refused_iff (fun _ => parse_eq_ok_iff) fun _ => eq_given_of_parse]
    refine and_congr_right fun _ => ⟨?_, ?_⟩
    · exact fun hnone word count hsurrounded hbare hspelled =>
        hnone count ⟨word, hsurrounded, hbare, hspelled⟩
    · rintro hnone count ⟨word, hsurrounded, hbare, hspelled⟩
      exact hnone word count hsurrounded hbare hspelled

/-- A text is read as a count exactly if it spells it, and a count is read as it is printed, in any
case of letters and with any blanks around it. -/
theorem counts_read (given : String) (count : ShardCount) (fits : count.Fits) :
    ReadAs given ∧
      ∀ before shown after : String, Blanks before.toList → Blanks after.toList →
        SameLetters shown.toList count.text.toList →
          parse (before ++ shown ++ after) = .ok count := by
  refine ⟨readAs given, fun before shown after hbefore hafter letters => ?_⟩
  have hspelled := spelled_text fits letters
  refine parse_eq_ok_iff.2 ⟨shown.toList, ⟨before.toList, after.toList, ?_, hbefore, hafter⟩,
    hspelled.bare, hspelled⟩
  simp

/-- The largest count among blanks, a word in capitals, and a text that is refused. -/
theorem counts_read_at_bound :
    (ShardCount.copies (2 ^ 32 - 1)).Fits ∧
      parse "\t4294967295\u3000" = .ok (.copies (2 ^ 32 - 1)) ∧
      parse "\u00a0DeFAULT" = .ok .indexDefault ∧
      parse " -1 " = .error ⟨" -1 "⟩ ∧ ReadAs " -1 " := by
  have hbound := counts_read " -1 " (.copies (2 ^ 32 - 1)) (by decide)
  have hword := counts_read " -1 " .indexDefault trivial
  refine ⟨by decide, ?_, ?_, by decide, hbound.1⟩
  · exact hbound.2 "\t" "4294967295" "\u3000" (by decide) (by decide) (by decide)
  · exact hword.2 "\u00a0" "DeFAULT" "" (by decide) (by decide) (by decide)

end ClusterWatch.ShardCount
