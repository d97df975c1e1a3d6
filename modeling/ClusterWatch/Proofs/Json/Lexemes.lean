import Mathlib.Data.List.TakeWhile
import Mathlib.Tactic.IntervalCases
import ClusterWatch.Proofs.Json.Grammar

/-!
Numbers and quoted texts. The characters of a number are read as a number exactly if it may be
written so, and the pieces of a quoted text come to characters exactly if all halves pair up.
-/
namespace ClusterWatch.Json

section Numbers

variable {ds cs tail : List Char} {m : Nat} {n : Number}

theorem natural?_eq_some_iff : ClusterWatch.Text.natural? ds = some m ↔ Digits ds ∧ m = decimal ds := by
  simp only [ClusterWatch.Text.natural?, Digits, decimal, List.all_eq_true]
  constructor
  · intro h
    obtain ⟨hdigits, h⟩ := Option.ite_none_right_eq_some.1 h
    exact ⟨hdigits, (Option.some.inj h).symm⟩
  · rintro ⟨hdigits, rfl⟩
    exact if_pos hdigits

theorem natural?_isSome_iff : (ClusterWatch.Text.natural? ds).isSome = true ↔ Digits ds := by
  simp [Option.isSome_iff_exists, natural?_eq_some_iff]

theorem magnitude?_eq_some_iff : magnitude? ds = some m ↔ Whole ds ∧ m = decimal ds := by
  unfold magnitude?
  split
  next rest =>
    refine iff_of_false (fun h => nomatch h) fun ⟨hwhole, _⟩ => ?_
    cases hwhole.leading rfl
  next hleading =>
    rw [natural?_eq_some_iff]
    refine and_congr_left fun _ => ⟨fun hdigits => ⟨hdigits, fun hzero => ?_⟩, Whole.digits⟩
    match ds, hzero with
    | [_], rfl => rfl
    | _ :: c :: rest, rfl => exact absurd rfl (hleading c rest)

theorem Digits.isDigit_head {c : Char} (h : Digits (c :: cs)) : c.isDigit = true :=
  h.2 c List.mem_cons_self

theorem Digits.ne_minus (h : Digits ds) (tail rest : List Char) : ds ++ tail ≠ '-' :: rest := by
  intro heq
  cases ds with
  | nil => exact h.1 rfl
  | cons c ds =>
    obtain ⟨rfl, -⟩ := List.cons.inj heq
    exact absurd h.isDigit_head (by decide)

theorem isExponent_iff : isExponent cs = true ↔ Signed cs := by
  unfold isExponent
  constructor
  · intro h
    split at h
    · exact .plus (natural?_isSome_iff.1 h)
    · exact .minus (natural?_isSome_iff.1 h)
    · exact .unsigned (natural?_isSome_iff.1 h)
  · intro h
    cases h with
    | plus h => exact natural?_isSome_iff.2 h
    | minus h => exact natural?_isSome_iff.2 h
    | unsigned h =>
      split
      · exact absurd h.isDigit_head (by decide)
      · exact absurd h.isDigit_head (by decide)
      · exact natural?_isSome_iff.2 h

theorem exponent_cons_iff {c : Char} :
    Exponent (c :: cs) ↔ (c = 'e' ∨ c = 'E') ∧ Signed cs := by
  constructor
  · rintro (h | h)
    · exact ⟨.inl rfl, h⟩
    · exact ⟨.inr rfl, h⟩
  · rintro ⟨rfl | rfl, h⟩
    · exact .lower h
    · exact .upper h

/-- Behind digits stands what does not begin with another one. -/
theorem Tail.isDigit_head {c : Char} (h : Tail (c :: cs)) : c.isDigit = false := by
  cases h with
  | fraction => rfl
  | exponent h => cases h <;> rfl
  | both => rfl

theorem takeWhile_digits (hds : ∀ c ∈ ds, c.isDigit = true)
    (htail : ∀ c ∈ tail.head?, c.isDigit = false) :
    (ds ++ tail).takeWhile Char.isDigit = ds ∧ (ds ++ tail).dropWhile Char.isDigit = tail := by
  rw [List.takeWhile_append_of_pos hds, List.dropWhile_append_of_pos hds]
  cases tail with
  | nil => simp
  | cons c tail =>
    have hc := htail c rfl
    simp [hc]

theorem digits_takeWhile (hsome : cs.takeWhile Char.isDigit ≠ []) :
    Digits (cs.takeWhile Char.isDigit) :=
  ⟨hsome, fun _ hc => List.mem_takeWhile_imp hc⟩

theorem isTail_iff : isTail cs = true ↔ Tail cs := by
  constructor
  · intro h
    unfold isTail at h
    split at h
    next rest =>
      have hrest := rest.takeWhile_append_dropWhile (p := Char.isDigit)
      simp only [Bool.and_eq_true, Bool.not_eq_true', List.isEmpty_eq_false_iff] at h
      obtain ⟨hsome, h⟩ := h
      rw [← hrest]
      split at h
      next hnil =>
        rw [hnil, List.append_nil]
        exact .fraction (digits_takeWhile hsome)
      next e exponent hcons =>
        rw [hcons]
        simp only [Bool.and_eq_true, Bool.or_eq_true, decide_eq_true_eq, isExponent_iff] at h
        exact .both (digits_takeWhile hsome) (exponent_cons_iff.2 h)
    next e rest _ =>
      simp only [Bool.and_eq_true, Bool.or_eq_true, decide_eq_true_eq, isExponent_iff] at h
      exact .exponent (exponent_cons_iff.2 h)
    next => cases h
  · intro h
    cases h with
    | @fraction ds hds =>
      have hsplit := @takeWhile_digits ds [] hds.2 (fun _ hc => nomatch hc)
      rw [List.append_nil] at hsplit
      simp [isTail, hsplit.1, hsplit.2, hds.1]
    | @both ds exponent hds hexponent =>
      have hsplit := @takeWhile_digits ds exponent hds.2 (by cases hexponent <;> simp)
      cases hexponent with
      | lower h => simp [isTail, hsplit.1, hsplit.2, hds.1, isExponent_iff.2 h]
      | upper h => simp [isTail, hsplit.1, hsplit.2, hds.1, isExponent_iff.2 h]
    | exponent h =>
      cases h with
      | lower h => simp [isTail, isExponent_iff.2 h]
      | upper h => simp [isTail, isExponent_iff.2 h]

/-- What digits and the characters after them are read as goes by how the characters divide. -/
theorem magnitude?_bind_iff {f : Nat → List Char → Option Number} :
    ((magnitude? (cs.takeWhile Char.isDigit)).bind fun m => f m (cs.dropWhile Char.isDigit)) =
        some n ↔
      ∃ ds tail, cs = ds ++ tail ∧ Whole ds ∧ (∀ c ∈ tail.head?, c.isDigit = false) ∧
        f (decimal ds) tail = some n := by
  constructor
  · intro h
    obtain ⟨m, hm, h⟩ := Option.bind_eq_some_iff.1 h
    obtain ⟨hwhole, rfl⟩ := magnitude?_eq_some_iff.1 hm
    refine ⟨_, _, (List.takeWhile_append_dropWhile).symm, hwhole, fun c hc => ?_, h⟩
    have hhead := List.head?_dropWhile_not Char.isDigit cs
    rw [Option.mem_def.1 hc] at hhead
    simpa using hhead
  · rintro ⟨ds, tail, rfl, hwhole, htail, h⟩
    have hsplit := takeWhile_digits hwhole.digits.2 htail
    rw [hsplit.1, hsplit.2]
    exact Option.bind_eq_some_iff.2 ⟨_, magnitude?_eq_some_iff.2 ⟨hwhole, rfl⟩, h⟩

theorem magnitude?_bind_of_whole {f : Nat → List Char → Option Number} (hwhole : Whole ds)
    (h : f (decimal ds) [] = some n) :
    ((magnitude? (ds.takeWhile Char.isDigit)).bind fun m => f m (ds.dropWhile Char.isDigit)) =
      some n :=
  magnitude?_bind_iff.2 ⟨ds, [], (List.append_nil ds).symm, hwhole, by simp, h⟩

/-- A number of the given magnitude, or of another kind if something follows the digits. -/
def Number.followed (negative : Bool) (m : Nat) (tail : List Char) : Option Number :=
  match tail with
  | [] =>
      if negative then some (if m = 0 then .other else .whole (-(m : Int)))
      else some (.whole m)
  | tail => if isTail tail then some .other else none

theorem Number.followed_eq_some_iff {negative : Bool} :
    Number.followed negative m tail = some n ↔
      (tail = [] ∧
        n = if negative then (if m = 0 then .other else .whole (-(m : Int))) else .whole m) ∨
      (Tail tail ∧ n = .other) := by
  cases tail with
  | nil =>
    have hnil : ¬ Tail [] := by
      intro h
      cases h with
      | exponent h => cases h
    cases negative <;> simp [followed, hnil, eq_comm (a := n)]
  | cons c tail => simp [followed, isTail_iff, eq_comm (a := n)]

theorem Number.ofChars?_minus (cs : List Char) : Number.ofChars? ('-' :: cs) =
    (magnitude? (cs.takeWhile Char.isDigit)).bind fun m =>
      followed true m (cs.dropWhile Char.isDigit) := rfl

theorem Number.ofChars?_of_ne_minus (hminus : ∀ rest, cs ≠ '-' :: rest) : Number.ofChars? cs =
    (magnitude? (cs.takeWhile Char.isDigit)).bind fun m =>
      followed false m (cs.dropWhile Char.isDigit) := by
  unfold ofChars?
  split
  next heq =>
    split at heq
    next rest => exact absurd rfl (hminus rest)
    next =>
      cases heq
      rfl

theorem Tail.head_isDigit (h : Tail tail) : ∀ c ∈ tail.head?, c.isDigit = false := by
  cases tail with
  | nil => exact fun _ hc => nomatch hc
  | cons c tail =>
    intro d hd
    obtain rfl : c = d := by simpa using hd
    exact h.isDigit_head

theorem Number.ofChars?_eq_some_iff : Number.ofChars? cs = some n ↔ n.Written cs := by
  constructor
  · intro h
    by_cases hminus : ∃ rest, cs = '-' :: rest
    · obtain ⟨rest, rfl⟩ := hminus
      rw [ofChars?_minus, magnitude?_bind_iff] at h
      obtain ⟨ds, tail, rfl, hwhole, -, h⟩ := h
      rcases followed_eq_some_iff.1 h with ⟨rfl, rfl⟩ | ⟨htail, rfl⟩
      · rw [List.append_nil, if_pos rfl]
        split
        next hzero => exact .negativeZero hwhole hzero
        next hzero => exact .negative hwhole hzero
      · exact .negativeOther hwhole htail
    · rw [ofChars?_of_ne_minus (fun rest hrest => hminus ⟨rest, hrest⟩),
        magnitude?_bind_iff] at h
      obtain ⟨ds, tail, rfl, hwhole, -, h⟩ := h
      rcases followed_eq_some_iff.1 h with ⟨rfl, rfl⟩ | ⟨htail, rfl⟩
      · rw [List.append_nil]
        exact .whole hwhole
      · exact .other hwhole htail
  · intro h
    cases h with
    | whole hwhole =>
      rw [ofChars?_of_ne_minus (by simpa using hwhole.digits.ne_minus [])]
      exact magnitude?_bind_of_whole hwhole rfl
    | negative hwhole hzero =>
      rw [ofChars?_minus]
      exact magnitude?_bind_of_whole hwhole (by rw [followed, if_pos rfl, if_neg hzero])
    | negativeZero hwhole hzero =>
      rw [ofChars?_minus]
      exact magnitude?_bind_of_whole hwhole (by rw [followed, if_pos rfl, if_pos hzero])
    | other hwhole htail =>
      rw [ofChars?_of_ne_minus (hwhole.digits.ne_minus _), magnitude?_bind_iff]
      exact ⟨_, _, rfl, hwhole, htail.head_isDigit, followed_eq_some_iff.2 (.inr ⟨htail, rfl⟩)⟩
    | negativeOther hwhole htail =>
      rw [ofChars?_minus, magnitude?_bind_iff]
      exact ⟨_, _, rfl, hwhole, htail.head_isDigit, followed_eq_some_iff.2 (.inr ⟨htail, rfl⟩)⟩

end Numbers

section Texts

variable {ps : List Piece} {cs text : List Char} {t : Text}

theorem escape?_eq_some_iff {l c : Char} : escape? l = some c ↔ Letter l c := by
  constructor
  · intro h
    unfold escape? at h
    split at h
    all_goals first | (cases h; constructor) | cases h
  · intro h
    cases h <;> rfl

/-- Characters stand in the order of their numbers. -/
theorem between_iff {c low high : Char} :
    (low ≤ c ∧ c ≤ high) ↔ low.toNat ≤ c.toNat ∧ c.toNat ≤ high.toNat := by
  simp only [Char.le_def, UInt32.le_iff_toNat_le]
  rfl

theorem hexDigit?_eq_some_iff {d : Nat} {c : Char} : hexDigit? c = some d ↔ HexDigit d c := by
  constructor
  · intro h
    have hchar : Char.ofNat c.toNat = c := Char.ofNat_toNat c
    rw [hexDigit?, Char.isDigit] at h
    simp only [ge_iff_le, Bool.and_eq_true, decide_eq_true_eq, ← Char.le_def, between_iff] at h
    simp only [show '0'.toNat = 48 from rfl, show '9'.toNat = 57 from rfl,
      show 'a'.toNat = 97 from rfl, show 'f'.toNat = 102 from rfl,
      show 'A'.toNat = 65 from rfl, show 'F'.toNat = 70 from rfl] at h
    split_ifs at h with hc hc hc
    all_goals
      obtain ⟨hlow, hhigh⟩ := hc
      generalize c.toNat = n at h hchar hlow hhigh
      interval_cases n
      all_goals
        cases h
        subst hchar
        first
          | exact .inl rfl
          | exact .inr rfl
  · intro h
    have hd : d < 16 := by
      rcases h with h | h <;> exact (List.getElem?_eq_some_iff.1 h).1
    interval_cases d <;> rcases h with h | h <;> cases h <;> rfl

theorem isHigh_iff {n : Nat} : Piece.isHigh n = true ↔ 0xd800 ≤ n ∧ n < 0xdc00 := by
  simp [Piece.isHigh]

theorem isLow_iff {n : Nat} : Piece.isLow n = true ↔ 0xdc00 ≤ n ∧ n < 0xe000 := by
  simp [Piece.isLow]

theorem joinOnto_eq_some_iff {done : List Char} :
    Piece.joinOnto done ps = some text ↔
      ∃ cs, Piece.Characters ps cs ∧ text = done.reverse ++ cs := by
  fun_induction Piece.joinOnto done ps with
  | case1 done =>
    constructor
    · rintro ⟨⟩
      exact ⟨[], .nil, (List.append_nil _).symm⟩
    · rintro ⟨cs, hcs, rfl⟩
      cases hcs
      rw [List.append_nil]
  | case2 done c rest ih =>
    rw [ih]
    constructor
    · rintro ⟨cs, hcs, rfl⟩
      exact ⟨c :: cs, .char hcs, by simp⟩
    · rintro ⟨cs, hcs, rfl⟩
      cases hcs with
      | char hcs => exact ⟨_, hcs, by simp⟩
  | case3 done n hhigh m rest hlow ih =>
    rw [isHigh_iff] at hhigh
    rw [isLow_iff] at hlow
    rw [ih]
    constructor
    · rintro ⟨cs, hcs, rfl⟩
      exact ⟨_ :: cs, .pair hhigh.1 hhigh.2 hlow.1 hlow.2 hcs, by simp⟩
    · rintro ⟨cs, hcs, rfl⟩
      cases hcs with
      | unit hn => omega
      | pair _ _ _ _ hcs => exact ⟨_, hcs, by simp⟩
  | case4 done n hhigh m rest hlow =>
    rw [isHigh_iff] at hhigh
    rw [isLow_iff] at hlow
    refine iff_of_false (fun h => nomatch h) ?_
    rintro ⟨cs, hcs, -⟩
    cases hcs <;> omega
  | case5 done n rest hhigh hrest =>
    rw [isHigh_iff] at hhigh
    refine iff_of_false (fun h => nomatch h) ?_
    rintro ⟨cs, hcs, -⟩
    cases hcs with
    | unit hn => omega
    | pair => exact hrest _ _ rfl
  | case6 done n rest hhigh hlow =>
    rw [isHigh_iff] at hhigh
    rw [isLow_iff] at hlow
    refine iff_of_false (fun h => nomatch h) ?_
    rintro ⟨cs, hcs, -⟩
    cases hcs <;> omega
  | case7 done n rest hhigh hlow ih =>
    rw [isHigh_iff] at hhigh
    rw [isLow_iff] at hlow
    rw [ih]
    constructor
    · rintro ⟨cs, hcs, rfl⟩
      exact ⟨_ :: cs, .unit (by omega) hcs, by simp⟩
    · rintro ⟨cs, hcs, rfl⟩
      cases hcs with
      | unit _ hcs => exact ⟨_, hcs, by simp⟩
      | pair => omega

theorem join_eq_some_iff : Piece.join ps = some text ↔ Piece.Characters ps text := by
  simp [Piece.join, joinOnto_eq_some_iff]

/-- What a quoted text stands for is what its pieces come to. -/
theorem quoted_iff : Quoted t cs ↔
    ∃ ps inner, cs = '"' :: (inner ++ ['"']) ∧ Piece.Written ps inner ∧
      t = (Piece.join ps).map String.ofList := by
  constructor
  · rintro (⟨hwritten, hcharacters⟩ | ⟨hwritten, hbroken⟩)
    · exact ⟨_, _, rfl, hwritten, by rw [join_eq_some_iff.2 hcharacters]; rfl⟩
    · refine ⟨_, _, rfl, hwritten, ?_⟩
      rw [Option.eq_none_iff_forall_not_mem.2 fun text htext =>
        hbroken text (join_eq_some_iff.1 htext)]
      rfl
  · rintro ⟨ps, inner, rfl, hwritten, rfl⟩
    cases hjoin : Piece.join ps with
    | none => exact .broken hwritten fun text htext => by simp [join_eq_some_iff.2 htext] at hjoin
    | some text => exact .text hwritten (join_eq_some_iff.1 hjoin)

end Texts

end ClusterWatch.Json
