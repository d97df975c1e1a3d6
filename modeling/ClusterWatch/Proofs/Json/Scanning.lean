import Mathlib.Data.List.Chain
import Mathlib.Data.List.Forall2
import ClusterWatch.Proofs.Json.Lexemes

/-!
The tokens of a text. Tokens written with any blanks around them are found again, provided that
of two neighbours one tells where it ends or begins, and tokens that are found are written so. A
number or a word ends only where a character stands that cannot continue it, so a scan leaves the
last one begun until then.
-/
namespace ClusterWatch.Json

section Steps

variable {σ α : Type} {step : σ → α → Option σ} {s t u : σ} {x : α} {xs ys : List α}

/-- Taking in the list, step by step, leads from the one state to the other. -/
def Leads (step : σ → α → Option σ) (s : σ) (xs : List α) (t : σ) : Prop :=
  xs.foldlM step s = some t

theorem Leads.nil : Leads step s [] s := rfl

theorem leads_cons_iff : Leads step s (x :: xs) u ↔ ∃ t, step s x = some t ∧ Leads step t xs u := by
  rw [Leads, List.foldlM_cons]
  exact Option.bind_eq_some_iff

theorem Leads.cons (h : step s x = some t) (h' : Leads step t xs u) : Leads step s (x :: xs) u :=
  leads_cons_iff.2 ⟨t, h, h'⟩

theorem Leads.append (h : Leads step s xs t) (h' : Leads step t ys u) :
    Leads step s (xs ++ ys) u := by
  rw [Leads, List.foldlM_append, h]
  exact h'

/-- What holds of the state and all that has been taken in is kept by the whole if it is kept by
every step. -/
theorem Leads.keeps {P : σ → List α → Prop}
    (hstep : ∀ s xs x t, P s xs → step s x = some t → P t (xs ++ [x]))
    (hleads : Leads step s ys t) (h : P s xs) : P t (xs ++ ys) := by
  induction ys generalizing s xs with
  | nil =>
    cases hleads
    rwa [List.append_nil]
  | cons y ys ih =>
    obtain ⟨between, hbetween, hleads⟩ := leads_cons_iff.1 hleads
    simpa using ih hleads (hstep _ _ _ _ h hbetween)

end Steps

section Numbers

variable {cs : List Char} {n : Number}

theorem isNumberChar_of_isDigit {c : Char} (h : c.isDigit = true) : isNumberChar c = true := by
  simp [isNumberChar, h]

theorem forall_isNumberChar_cons {c : Char} (hc : isNumberChar c = true)
    (hcs : ∀ d ∈ cs, isNumberChar d = true) : ∀ d ∈ c :: cs, isNumberChar d = true :=
  List.forall_mem_cons.2 ⟨hc, hcs⟩

theorem Digits.isNumberChar (h : Digits cs) : ∀ c ∈ cs, isNumberChar c = true :=
  fun c hc => isNumberChar_of_isDigit (h.2 c hc)

theorem Signed.isNumberChar (h : Signed cs) : ∀ c ∈ cs, isNumberChar c = true := by
  cases h with
  | unsigned h => exact h.isNumberChar
  | plus h | minus h => exact forall_isNumberChar_cons rfl h.isNumberChar

theorem Exponent.isNumberChar (h : Exponent cs) : ∀ c ∈ cs, isNumberChar c = true := by
  cases h with
  | lower h | upper h => exact forall_isNumberChar_cons rfl h.isNumberChar

theorem Tail.isNumberChar (h : Tail cs) : ∀ c ∈ cs, isNumberChar c = true := by
  cases h with
  | fraction h => exact forall_isNumberChar_cons rfl h.isNumberChar
  | exponent h => exact h.isNumberChar
  | both h h' =>
    exact forall_isNumberChar_cons rfl (List.forall_mem_append.2 ⟨h.isNumberChar, h'.isNumberChar⟩)

theorem Number.Written.isNumberChar (h : n.Written cs) : ∀ c ∈ cs, isNumberChar c = true := by
  cases h with
  | whole h => exact h.digits.isNumberChar
  | negative h | negativeZero h => exact forall_isNumberChar_cons rfl h.digits.isNumberChar
  | other h h' => exact List.forall_mem_append.2 ⟨h.digits.isNumberChar, h'.isNumberChar⟩
  | negativeOther h h' =>
    exact forall_isNumberChar_cons rfl
      (List.forall_mem_append.2 ⟨h.digits.isNumberChar, h'.isNumberChar⟩)

theorem Digits.exists_cons (h : Digits cs) : ∃ c rest, cs = c :: rest ∧ c.isDigit = true := by
  cases cs with
  | nil => exact absurd rfl h.1
  | cons c rest => exact ⟨c, rest, rfl, h.isDigit_head⟩

theorem Number.Written.exists_cons (h : n.Written cs) :
    ∃ c rest, cs = c :: rest ∧ (c.isDigit = true ∨ c = '-') := by
  cases h with
  | whole h =>
    obtain ⟨c, rest, rfl, hc⟩ := h.digits.exists_cons
    exact ⟨c, rest, rfl, .inl hc⟩
  | other h =>
    obtain ⟨c, rest, rfl, hc⟩ := h.digits.exists_cons
    exact ⟨c, _, rfl, .inl hc⟩
  | negative | negativeZero | negativeOther => exact ⟨_, _, rfl, .inr rfl⟩

end Numbers

/-- Punctuation and quoted texts tell by themselves where they begin and end. -/
def Token.closesItself : Token → Bool
  | .number _ | .bool _ | .null => false
  | _ => true

/-- Of any two neighbours one tells where the other ends or begins. -/
def Separated (ts : List Token) : Prop :=
  ts.IsChain fun t u => t.closesItself = true ∨ u.closesItself = true

theorem Separated.append_closing {t : Token} {ts us : List Token} (hts : Separated ts)
    (ht : t.closesItself = true) (hus : Separated us) : Separated (ts ++ t :: us) := by
  refine List.isChain_append.2 ⟨hts, List.isChain_cons.2 ⟨fun _ _ => .inl ht, hus⟩, ?_⟩
  rintro u - t' ht'
  cases ht'
  exact .inr ht

/-- The character continues no number and no word. -/
def Delimits (c : Char) : Prop := isNumberChar c = false ∧ c.isAlpha = false

instance : DecidablePred Delimits := fun _ => inferInstanceAs (Decidable (_ ∧ _))

namespace Scan

variable {s t u : Scan} {c : Char} {cs ds : List Char} {before : List Token}

theorem step_of_finish (hfinish : s.finish = some ⟨.nothing, before⟩) (hc : Delimits c) :
    s.step c = fresh ⟨.nothing, before⟩ c := by
  obtain ⟨begun, tokens⟩ := s
  cases begun with
  | nothing =>
    cases hfinish
    rfl
  | number chars => simp [step, hc.1, hfinish]
  | word chars => simp [step, hc.2, hfinish]
  | quoted | escaped | hex => cases hfinish

section Blanks

theorem isSpace_iff : isSpace c = true ↔ c = ' ' ∨ c = '\n' ∨ c = '\r' ∨ c = '\t' := by
  simp [isSpace, or_assoc]

theorem delimits_of_isSpace (h : isSpace c = true) : Delimits c := by
  rcases isSpace_iff.1 h with rfl | rfl | rfl | rfl <;> decide

theorem fresh_of_isSpace (h : isSpace c = true) : s.fresh c = some s := by
  rcases isSpace_iff.1 h with rfl | rfl | rfl | rfl <;> rfl

/-- Blanks complete what may be complete, and change nothing after that. -/
theorem reads_blank (hblank : Blank cs) (hfinish : s.finish = some ⟨.nothing, before⟩) :
    cs = [] ∨ Leads step s cs ⟨.nothing, before⟩ := by
  induction cs generalizing s with
  | nil => exact .inl rfl
  | cons c cs ih =>
    have hc := isSpace_iff.2 (hblank c List.mem_cons_self)
    have hstep : s.step c = some ⟨.nothing, before⟩ := by
      rw [step_of_finish hfinish (delimits_of_isSpace hc), fresh_of_isSpace hc]
    refine .inr (.cons hstep ?_)
    rcases @ih ⟨.nothing, before⟩ (fun d hd => hblank d (List.mem_cons_of_mem c hd)) rfl with
      rfl | h
    · exact .nil
    · exact h

end Blanks

section Complete

variable {chars : List Char} {ps done : List Piece} {t : Token} {ts : List Token}

theorem reads_number (hcs : ∀ c ∈ cs, isNumberChar c = true) :
    Leads step ⟨.number chars, before⟩ cs ⟨.number (cs.reverse ++ chars), before⟩ := by
  induction cs generalizing chars with
  | nil => exact .nil
  | cons c cs ih =>
    refine .cons (if_pos (hcs c List.mem_cons_self)) ?_
    rw [List.reverse_cons, List.append_assoc]
    exact ih fun d hd => hcs d (List.mem_cons_of_mem c hd)

theorem reads_pieces (h : Piece.Written ps cs) :
    Leads step ⟨.quoted done, before⟩ cs ⟨.quoted (ps.reverse ++ done), before⟩ := by
  induction h generalizing done with
  | nil => exact .nil
  | @plain c ps cs hspace hquote hbackslash _ ih =>
    have hstep : step ⟨.quoted done, before⟩ c = some ⟨.quoted (.char c :: done), before⟩ := by
      simp [step, hquote, hbackslash, Char.not_lt.2 hspace]
    refine .cons hstep ?_
    rw [List.reverse_cons, List.append_assoc]
    exact ih
  | @letter l c ps cs hl _ ih =>
    have hu : l ≠ 'u' := by
      rintro rfl
      cases hl
    have hstep : step ⟨.escaped done, before⟩ l = some ⟨.quoted (.char c :: done), before⟩ := by
      simp [step, hu, escape?_eq_some_iff.2 hl]
    refine .cons rfl (.cons hstep ?_)
    rw [List.reverse_cons, List.append_assoc]
    exact ih
  | @unit i j k l p q r s ps cs hi hj hk hl _ ih =>
    have hstep {c : Char} {d missing value : Nat} (hd : HexDigit d c) :
        step ⟨.hex done missing value, before⟩ c = some
          (if missing ≤ 1 then ⟨.quoted (.unit (value * 16 + d) :: done), before⟩
          else ⟨.hex done (missing - 1) (value * 16 + d), before⟩) := by
      simp [step, hexDigit?_eq_some_iff.2 hd]
    refine .cons rfl (.cons rfl
      (.cons (hstep hi) (.cons (hstep hj) (.cons (hstep hk) (.cons (hstep hl) ?_)))))
    rw [List.reverse_cons, List.append_assoc]
    simpa using @ih (.unit (((i * 16 + j) * 16 + k) * 16 + l) :: done)

theorem reads_quoted {text : Text} (h : Quoted text cs) :
    Leads step ⟨.nothing, before⟩ cs ⟨.nothing, .text text :: before⟩ := by
  obtain ⟨ps, inner, rfl, hwritten, rfl⟩ := quoted_iff.1 h
  refine .cons rfl ((reads_pieces hwritten).append (.cons ?_ .nil))
  simp [step, put]

theorem fresh_of_number (h : c.isDigit = true ∨ c = '-') :
    fresh ⟨.nothing, before⟩ c = some ⟨.number [c], before⟩ := by
  rcases h with h | rfl
  · unfold fresh
    split
    case h_8 =>
      have hspace : isSpace c ≠ true := fun hc => by
        rcases isSpace_iff.1 hc with rfl | rfl | rfl | rfl <;> cases h
      simp [h, hspace]
    all_goals cases h
  · rfl

theorem reads_token (h : t.Written cs) : ∃ s, Leads step ⟨.nothing, before⟩ cs s ∧
    s.finish = some ⟨.nothing, t :: before⟩ ∧
    (t.closesItself = true → s = ⟨.nothing, t :: before⟩) := by
  cases h with
  | openBrace | closeBrace | openBracket | closeBracket | colon | comma =>
    exact ⟨_, .cons rfl .nil, rfl, fun _ => rfl⟩
  | text h => exact ⟨_, reads_quoted h, rfl, fun _ => rfl⟩
  | true => exact ⟨⟨.word "true".toList.reverse, before⟩, rfl, rfl, fun h => nomatch h⟩
  | false => exact ⟨⟨.word "false".toList.reverse, before⟩, rfl, rfl, fun h => nomatch h⟩
  | null => exact ⟨⟨.word "null".toList.reverse, before⟩, rfl, rfl, fun h => nomatch h⟩
  | number h =>
    obtain ⟨c, rest, rfl, hc⟩ := h.exists_cons
    refine ⟨_, .cons (fresh_of_number hc)
      (reads_number (List.forall_mem_cons.1 h.isNumberChar).2), ?_, fun h => nomatch h⟩
    simp [finish, put, Number.ofChars?_eq_some_iff.2 h]

theorem delimits_head (h : t.Written cs) (ht : t.closesItself = true) :
    ∃ c rest, cs = c :: rest ∧ Delimits c := by
  cases h with
  | openBrace | closeBrace | openBracket | closeBracket | colon | comma =>
    exact ⟨_, _, rfl, by decide⟩
  | text h =>
    obtain ⟨ps, inner, rfl, -⟩ := quoted_iff.1 h
    exact ⟨_, _, rfl, by decide⟩
  | number | true | false | null => cases ht

/-- A token that begins by itself may follow what is still to be completed. -/
theorem reads_closing_token (h : t.Written cs) (ht : t.closesItself = true)
    (hfinish : s.finish = some ⟨.nothing, before⟩) :
    Leads step s cs ⟨.nothing, t :: before⟩ := by
  obtain ⟨c, rest, rfl, hc⟩ := delimits_head h ht
  obtain ⟨u, hu, -, hclosed⟩ := @reads_token _ before _ h
  rw [← hclosed ht, Leads, List.foldlM_cons, step_of_finish hfinish hc]
  exact hu

/-- What a token leaves to be completed is the token itself, or nothing if it closes itself. -/
theorem reads_next_token (h : t.Written cs) (hfinish : s.finish = some ⟨.nothing, before⟩)
    (hopen : s = ⟨.nothing, before⟩ ∨ t.closesItself = true) :
    ∃ u, Leads step s cs u ∧ u.finish = some ⟨.nothing, t :: before⟩ ∧
      (u = ⟨.nothing, t :: before⟩ ∨ t.closesItself = false) := by
  rcases hopen with rfl | ht
  · obtain ⟨u, hu, hufinish, hclosed⟩ := @reads_token _ before _ h
    refine ⟨u, hu, hufinish, ?_⟩
    cases ht : t.closesItself with
    | true => exact .inl (hclosed ht)
    | false => exact .inr rfl
  · exact ⟨_, reads_closing_token h ht hfinish, rfl, .inl rfl⟩

theorem reads_written (h : Written ts cs) (hsep : Separated ts)
    (hfinish : s.finish = some ⟨.nothing, before⟩)
    (hopen : s = ⟨.nothing, before⟩ ∨ ∀ t ∈ ts.head?, t.closesItself = true) :
    ∃ u, Leads step s cs u ∧ u.finish = some ⟨.nothing, ts.reverse ++ before⟩ := by
  induction h generalizing s before with
  | nil hblank =>
    rcases reads_blank hblank hfinish with rfl | hreads
    · exact ⟨s, .nil, hfinish⟩
    · exact ⟨_, hreads, rfl⟩
  | @cons t ts blank cs rest hblank ht _ ih =>
    have hnext : ∃ u, Leads step s blank u ∧ u.finish = some ⟨.nothing, before⟩ ∧
        (u = ⟨.nothing, before⟩ ∨ t.closesItself = true) := by
      rcases reads_blank hblank hfinish with rfl | hreads
      · exact ⟨s, .nil, hfinish, hopen.imp_right fun h => h t rfl⟩
      · exact ⟨_, hreads, rfl, .inl rfl⟩
    obtain ⟨u, hu, hufinish, huopen⟩ := hnext
    obtain ⟨v, hv, hvfinish, hvopen⟩ := reads_next_token ht hufinish huopen
    have hvopen' : v = ⟨.nothing, t :: before⟩ ∨ ∀ t ∈ ts.head?, t.closesItself = true :=
      hvopen.imp_right fun ht t' ht' =>
        ((List.isChain_cons.1 hsep).1 t' ht').resolve_left (by simp [ht])
    obtain ⟨w, hw, hwfinish⟩ := ih (List.isChain_cons.1 hsep).2 hvfinish hvopen'
    exact ⟨w, hu.append (hv.append hw), by simpa using hwfinish⟩

end Complete
end Scan

section Sound

/-- The characters read of what has been begun. -/
inductive Begun.Spelled : Begun → List Char → Prop
  | nothing : Spelled .nothing []
  | quoted {ps : List Piece} {inner : List Char} : Piece.Written ps.reverse inner →
      Spelled (.quoted ps) ('"' :: inner)
  | escaped {ps : List Piece} {inner : List Char} : Piece.Written ps.reverse inner →
      Spelled (.escaped ps) ('"' :: (inner ++ ['\\']))
  | hex {ps : List Piece} {inner : List Char} {digits : List Nat} {ds : List Char} {missing : Nat} :
      Piece.Written ps.reverse inner → digits.Forall₂ HexDigit ds →
      digits.length + (missing + 1) = 4 →
      Spelled (.hex ps (missing + 1) (digits.foldl (fun n d => n * 16 + d) 0))
        ('"' :: (inner ++ '\\' :: 'u' :: ds))
  | number {chars : List Char} : Spelled (.number chars) chars.reverse
  | word {chars : List Char} : Spelled (.word chars) chars.reverse

/-- The complete tokens are written in the characters up to those of what has been begun. -/
def Scan.Stands (s : Scan) (cs : List Char) : Prop :=
  ∃ front back, cs = front ++ back ∧ Written s.tokens.reverse front ∧ s.begun.Spelled back

variable {t : Token} {ts : List Token} {cs ds : List Char} {ps qs : List Piece}

theorem Written.append_blank (h : Written ts cs) (hblank : Blank ds) : Written ts (cs ++ ds) := by
  simpa using h.append (.nil hblank)

theorem Written.append_token (h : Written ts.reverse cs) (ht : t.Written ds) :
    Written (t :: ts).reverse (cs ++ ds) := by
  rw [List.reverse_cons]
  exact h.append (.token ht)

theorem Piece.Written.append (h : Piece.Written ps cs) (h' : Piece.Written qs ds) :
    Piece.Written (ps ++ qs) (cs ++ ds) := by
  induction h with
  | nil => exact h'
  | plain hspace hquote hbackslash _ ih => exact .plain hspace hquote hbackslash ih
  | letter hl _ ih => exact .letter hl ih
  | unit hi hj hk hl _ ih => exact .unit hi hj hk hl ih

theorem Piece.Written.push {p : Piece} (h : Piece.Written ps.reverse cs)
    (hp : Piece.Written [p] ds) : Piece.Written (p :: ps).reverse (cs ++ ds) := by
  rw [List.reverse_cons]
  exact h.append hp

theorem Piece.written_unit {digits : List Nat} (h : digits.Forall₂ HexDigit ds)
    (hlength : digits.length = 4) :
    Piece.Written [.unit (digits.foldl (fun n d => n * 16 + d) 0)] ('\\' :: 'u' :: ds) := by
  match digits, ds, h, hlength with
  | [i, j, k, l], [p, q, r, s], .cons hi (.cons hj (.cons hk (.cons hl .nil))), _ =>
    simpa using Piece.Written.unit hi hj hk hl .nil

theorem Token.written_of_word? (h : word? cs = some t) : t.Written cs := by
  unfold word? at h
  split_ifs at h with hword hword hword <;> cases h <;> subst hword
  · exact .true
  · exact .false
  · exact .null

namespace Scan

variable {s u : Scan} {c : Char}

theorem Stands.of_written (h : Written ts.reverse cs) : Stands ⟨.nothing, ts⟩ cs :=
  ⟨cs, [], (List.append_nil cs).symm, h, .nothing⟩

theorem Stands.written (h : Stands ⟨.nothing, ts⟩ cs) : Written ts.reverse cs := by
  obtain ⟨front, back, rfl, hfront, hback⟩ := h
  cases hback
  rwa [List.append_nil]

theorem Stands.fresh (h : Stands ⟨.nothing, ts⟩ cs) (hfresh : Scan.fresh ⟨.nothing, ts⟩ c = some u) :
    Stands u (cs ++ [c]) := by
  have hwritten := h.written
  unfold Scan.fresh at hfresh
  split at hfresh
  case h_7 =>
    cases hfresh
    exact ⟨cs, _, rfl, hwritten, .quoted .nil⟩
  case h_8 =>
    split_ifs at hfresh with hspace hnumber hword <;> cases hfresh
    · exact .of_written (hwritten.append_blank fun d hd => by
        rw [List.mem_singleton.1 hd]
        exact isSpace_iff.1 hspace)
    · exact ⟨cs, _, rfl, hwritten, .number⟩
    · exact ⟨cs, _, rfl, hwritten, .word⟩
  all_goals
    cases hfresh
    exact .of_written (hwritten.append_token (by constructor))

theorem Stands.finish (h : s.Stands cs) (hfinish : s.finish = some u) :
    u.begun = .nothing ∧ u.Stands cs := by
  obtain ⟨begun, tokens⟩ := s
  cases begun with
  | nothing =>
    cases hfinish
    exact ⟨rfl, h⟩
  | number chars =>
    obtain ⟨n, hn, rfl⟩ := Option.map_eq_some_iff.1 hfinish
    obtain ⟨front, back, rfl, hfront, hback⟩ := h
    cases hback
    exact ⟨rfl, .of_written (hfront.append_token (.number (Number.ofChars?_eq_some_iff.1 hn)))⟩
  | word chars =>
    obtain ⟨t, ht, rfl⟩ := Option.map_eq_some_iff.1 hfinish
    obtain ⟨front, back, rfl, hfront, hback⟩ := h
    cases hback
    exact ⟨rfl, .of_written (hfront.append_token (Token.written_of_word? ht))⟩
  | quoted | escaped | hex => cases hfinish

theorem Stands.finish_fresh (h : s.Stands cs)
    (hstep : (s.finish.bind fun s => s.fresh c) = some u) : u.Stands (cs ++ [c]) := by
  obtain ⟨⟨begun, tokens⟩, hfinish, hfresh⟩ := Option.bind_eq_some_iff.1 hstep
  obtain ⟨rfl, h⟩ := h.finish hfinish
  exact h.fresh hfresh

theorem Stands.step (h : s.Stands cs) (hstep : s.step c = some u) : u.Stands (cs ++ [c]) := by
  obtain ⟨begun, tokens⟩ := s
  have hstands := h
  obtain ⟨front, back, rfl, hfront, hback⟩ := h
  rw [List.append_assoc]
  cases hback with
  | nothing => exact List.append_assoc front _ _ ▸ hstands.fresh hstep
  | @quoted ps inner hinner =>
    simp only [Scan.step] at hstep
    split_ifs at hstep with hquote hbackslash hspace <;> cases hstep
    · subst hquote
      rw [← List.append_assoc]
      refine .of_written (List.append_assoc front _ _ ▸ hfront.append_token (.text ?_))
      exact quoted_iff.2 ⟨_, inner, rfl, hinner, rfl⟩
    · subst hbackslash
      exact ⟨front, _, rfl, hfront, .escaped hinner⟩
    · refine ⟨front, _, rfl, hfront, .quoted (hinner.push ?_)⟩
      exact .plain (Char.not_lt.1 hspace) hquote hbackslash .nil
  | @escaped ps inner hinner =>
    simp only [Scan.step] at hstep
    split_ifs at hstep with hu
    · cases hstep
      subst hu
      refine ⟨front, _, ?_, hfront, @Begun.Spelled.hex _ _ [] [] 3 hinner .nil rfl⟩
      simp
    · obtain ⟨meant, hmeant, rfl⟩ := Option.map_eq_some_iff.1 hstep
      refine ⟨front, '"' :: (inner ++ ['\\', c]), by simp, hfront, .quoted (hinner.push ?_)⟩
      exact .letter (escape?_eq_some_iff.1 hmeant) .nil
  | @hex ps inner digits ds missing hinner hdigits hlength =>
    obtain ⟨d, hd, hu⟩ := Option.map_eq_some_iff.1 hstep
    have hdigits' : (digits ++ [d]).Forall₂ HexDigit (ds ++ [c]) :=
      List.rel_append hdigits (.cons (hexDigit?_eq_some_iff.1 hd) .nil)
    have hlength' : (digits ++ [d]).length = digits.length + 1 := List.length_append
    have hvalue : digits.foldl (fun n d => n * 16 + d) 0 * 16 + d =
        (digits ++ [d]).foldl (fun n d => n * 16 + d) 0 := by simp
    simp only [hvalue] at hu
    cases missing with
    | zero =>
      cases hu
      refine ⟨front, '"' :: (inner ++ '\\' :: 'u' :: (ds ++ [c])), by simp, hfront, .quoted ?_⟩
      exact hinner.push (Piece.written_unit hdigits' (by omega))
    | succ missing =>
      rw [if_neg (by omega)] at hu
      cases hu
      exact ⟨front, '"' :: (inner ++ '\\' :: 'u' :: (ds ++ [c])), by simp, hfront,
        .hex hinner hdigits' (by omega)⟩
  | @number chars =>
    simp only [Scan.step] at hstep
    split_ifs at hstep
    · cases hstep
      refine ⟨front, _, ?_, hfront, .number⟩
      simp
    · exact List.append_assoc front _ _ ▸ hstands.finish_fresh hstep
  | @word chars =>
    simp only [Scan.step] at hstep
    split_ifs at hstep
    · cases hstep
      refine ⟨front, _, ?_, hfront, .word⟩
      simp
    · exact List.append_assoc front _ _ ▸ hstands.finish_fresh hstep

end Scan
end Sound

theorem tokens?_of_written {ts : List Token} {cs : List Char} (h : Written ts cs)
    (hsep : Separated ts) : tokens? cs = some ts := by
  obtain ⟨s, hs, hfinish⟩ := @Scan.reads_written Scan.start _ [] _ h hsep rfl (.inl rfl)
  rw [Leads] at hs
  simp [tokens?, hs, hfinish]

theorem written_of_tokens? {ts : List Token} {cs : List Char} (h : tokens? cs = some ts) :
    Written ts cs := by
  obtain ⟨⟨begun, tokens⟩, hscan, rfl⟩ := Option.map_eq_some_iff.1 h
  obtain ⟨s, hreads, hfinish⟩ := Option.bind_eq_some_iff.1 hscan
  have hstart : Scan.start.Stands [] := .of_written (.nil .nil)
  have hend : s.Stands cs := Leads.keeps (fun _ _ _ _ => Scan.Stands.step) hreads hstart
  obtain ⟨rfl, hstands⟩ := hend.finish hfinish
  exact hstands.written

end ClusterWatch.Json
