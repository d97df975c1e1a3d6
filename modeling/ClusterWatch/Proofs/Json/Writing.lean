import ClusterWatch.Json.Writer
import ClusterWatch.Proofs.Json.Reading

/-!
What a value is written as. It is one of the value's documents, whatever characters its texts are
made of, and so it is read as the value again.
-/
namespace ClusterWatch.Json

section Numbers

theorem head?_toDigits {n : Nat} (hn : 0 < n) : (Nat.toDigits 10 n).head? ≠ some '0' := by
  induction n using Nat.strongRecOn with
  | _ n ih =>
    by_cases hdigit : n < 10
    · rw [Nat.toDigits_of_lt_base hdigit]
      interval_cases n <;> decide
    · have hshorter := ih (n / 10) (by omega) (by omega)
      rw [Nat.toDigits_of_base_le (by decide) (by omega),
        List.head?_append_of_ne_nil _ Nat.toDigits_ne_nil]
      exact hshorter

theorem whole_toDigits (n : Nat) : Whole (Nat.toDigits 10 n) where
  digits := (natural?_eq_some_iff.1 (ClusterWatch.Text.natural?_toDigits n)).1
  leading hzero := by
    rcases Nat.eq_zero_or_pos n with rfl | hn
    · rfl
    · exact absurd hzero (head?_toDigits hn)

theorem decimal_toDigits (n : Nat) : decimal (Nat.toDigits 10 n) = n :=
  Nat.ofDigitChars_toDigits (by decide) (by decide)

theorem written_writeNumber (n : Number) : n.Written (writeNumber n) := by
  cases n with
  | other => exact .negativeZero (whole_toDigits 0) rfl
  | whole n =>
    cases n with
    | ofNat n =>
      have h := Number.Written.whole (whole_toDigits n)
      rw [decimal_toDigits] at h
      have hwrite : writeNumber (.whole (.ofNat n)) = Nat.toDigits 10 n := String.toList_ofList
      rwa [hwrite]
    | negSucc n =>
      have h := Number.Written.negative (whole_toDigits (n + 1)) (by simp [decimal_toDigits])
      rw [decimal_toDigits] at h
      have hwrite : writeNumber (.whole (.negSucc n)) = '-' :: Nat.toDigits 10 (n + 1) := by
        show ("-" ++ Nat.repr (n + 1)).toList = _
        simp [Nat.repr_eq_ofList_toDigits]
      rwa [hwrite]

end Numbers

section Texts

theorem Piece.Characters.append {ps qs : List Piece} {cs ds : List Char}
    (h : Piece.Characters ps cs) (h' : Piece.Characters qs ds) :
    Piece.Characters (ps ++ qs) (cs ++ ds) := by
  induction h with
  | nil => exact h'
  | char _ ih => exact .char ih
  | unit hn _ ih => exact .unit hn ih
  | pair hhigh hhigh' hlow hlow' _ ih => exact .pair hhigh hhigh' hlow hlow' ih

theorem hexDigit_spec {d : Nat} (hd : d < 16) : HexDigit d (hexDigit d) := by
  refine .inl ?_
  interval_cases d <;> decide

/-- A character is written as one piece that stands for it. -/
theorem written_escaped (c : Char) :
    ∃ p, Piece.Written [p] (escaped c) ∧ Piece.Characters [p] [c] := by
  unfold escaped
  split
  case h_8 hquote hbackslash _ _ _ _ _ =>
    split
    next hcontrol =>
      have hsmall : c.toNat < 32 := UInt32.lt_iff_toNat_lt.1 hcontrol
      have hvalue : ((0 * 16 + 0) * 16 + c.toNat / 16) * 16 + c.toNat % 16 = c.toNat := by omega
      have hwritten := Piece.Written.unit (.inl rfl : HexDigit 0 '0') (.inl rfl : HexDigit 0 '0')
        (hexDigit_spec (d := c.toNat / 16) (by omega)) (hexDigit_spec (d := c.toNat % 16) (by omega))
        .nil
      rw [hvalue] at hwritten
      have hcharacters := Piece.Characters.unit (n := c.toNat) (.inl (by omega)) .nil
      rw [Char.ofNat_toNat] at hcharacters
      exact ⟨_, hwritten, hcharacters⟩
    next hcontrol =>
      exact ⟨.char c, .plain (Char.not_lt.1 hcontrol) hquote hbackslash .nil, .char .nil⟩
  all_goals exact ⟨_, .letter (by constructor) .nil, .char .nil⟩

theorem written_flatMap_escaped (cs : List Char) :
    ∃ ps, Piece.Written ps (cs.flatMap escaped) ∧ Piece.Characters ps cs := by
  induction cs with
  | nil => exact ⟨[], .nil, .nil⟩
  | cons c cs ih =>
    obtain ⟨p, hp, hp'⟩ := written_escaped c
    obtain ⟨ps, hps, hps'⟩ := ih
    exact ⟨[p] ++ ps, hp.append hps, hp'.append hps'⟩

theorem quoted_writeText (t : Text) : Quoted t (writeText t) := by
  cases t with
  | some t =>
    obtain ⟨ps, hwritten, hcharacters⟩ := written_flatMap_escaped t.toList
    have h := Quoted.text hwritten hcharacters
    rwa [String.ofList_toList] at h
  | none =>
    have hwritten : Piece.Written [.unit 0xd800] "\\ud800".toList :=
      .unit (.inl rfl : HexDigit 13 'd') (.inl rfl : HexDigit 8 '8') (.inl rfl : HexDigit 0 '0')
        (.inl rfl : HexDigit 0 '0') .nil
    refine .broken hwritten fun text h => ?_
    cases h with
    | unit hn => omega

end Texts

namespace Value

theorem writeItems_cons {v : Value} {items : List Value} (hitems : items ≠ []) :
    writeItems (v :: items) = v.write ++ ',' :: writeItems items := by
  cases items with
  | nil => exact absurd rfl hitems
  | cons w items => rw [writeItems]

theorem writeMembers_cons {name : Text} {v : Value} {members : List (Text × Value)}
    (hmembers : members ≠ []) : writeMembers ((name, v) :: members) =
      writeText name ++ ':' :: v.write ++ ',' :: writeMembers members := by
  cases members with
  | nil => exact absurd rfl hmembers
  | cons m members => rw [writeMembers]

theorem written_writeItems {items : List Value} (h : ∀ v ∈ items, v.Document v.write) :
    Written (itemTokens items) (writeItems items) := by
  induction items with
  | nil => exact .nil .nil
  | cons v items ih =>
    obtain ⟨hv, hitems⟩ := List.forall_mem_cons.1 h
    by_cases hnil : items = []
    · subst hnil
      exact hv
    · rw [itemTokens_cons hnil, writeItems_cons hnil]
      exact hv.append ((Written.token .comma).append (ih hitems))

theorem written_writeMembers {members : List (Text × Value)}
    (h : ∀ m ∈ members, m.2.Document m.2.write) :
    Written (memberTokens members) (writeMembers members) := by
  induction members with
  | nil => exact .nil .nil
  | cons m members ih =>
    obtain ⟨name, v⟩ := m
    obtain ⟨hv, hmembers⟩ := List.forall_mem_cons.1 h
    have hname := (Written.token (.text (quoted_writeText name))).append
      ((Written.token .colon).append hv)
    by_cases hnil : members = []
    · subst hnil
      exact hname
    · rw [memberTokens_cons hnil, writeMembers_cons hnil]
      exact hname.append ((Written.token .comma).append (ih hmembers))

theorem document_write (v : Value) : v.Document v.write := by
  induction v with
  | null => exact .token .null
  | bool b =>
    cases b with
    | false => exact .token .false
    | true => exact .token .true
  | number n => exact .token (.number (written_writeNumber n))
  | text t => exact .token (.text (quoted_writeText t))
  | array items ih =>
    exact (Written.token .openBracket).append
      ((written_writeItems ih).append (.token .closeBracket))
  | object members ih =>
    exact (Written.token .openBrace).append
      ((written_writeMembers ih).append (.token .closeBrace))

theorem parse?_toText (v : Value) : parse? v.toText = some v := by
  rw [parse?_eq_some_iff, toText, String.toList_ofList]
  exact v.document_write

end Value
end ClusterWatch.Json
