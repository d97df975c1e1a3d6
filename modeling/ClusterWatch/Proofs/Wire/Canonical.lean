import ClusterWatch.Text.Decimal
import ClusterWatch.Wire.Format

/-!
Canonical formats. A format is canonical if reading undoes writing whatever follows, and if
nothing can be read but what writing produces. Both are one equivalence, which the ways of putting
formats together keep; so each format of a record is canonical because its parts are.
-/
namespace ClusterWatch.Wire

variable {α β : Type}

namespace Format

/-- Bytes are read as a value exactly if there is room for the value and they begin with what it is
written as. -/
def Canonical (format : Format α) (Writable : α → Prop) : Prop :=
  ∀ bytes v rest,
    format.decode bytes = some (v, rest) ↔ Writable v ∧ bytes = format.encode v ++ rest

section Combinators

variable {first : Format α} {second : Format β} {P : α → Prop} {Q : β → Prop}

theorem canonical_octet : octet.Canonical fun _ => True := by
  intro bytes v rest
  cases bytes with
  | nil => simp [octet]
  | cons b tail => simp [octet]

/-- What goes on from a value that has been read, goes on from the bytes that follow it. -/
theorem Canonical.bind_iff {γ : Type} {bytes : Bytes} {next : α × Bytes → Option γ} {out : γ}
    (h : first.Canonical P) :
    (first.decode bytes).bind next = some out ↔
      ∃ v rest, P v ∧ bytes = first.encode v ++ rest ∧ next (v, rest) = some out := by
  constructor
  · intro hbind
    obtain ⟨⟨v, rest⟩, hread, hnext⟩ := Option.bind_eq_some_iff.1 hbind
    obtain ⟨hP, hbytes⟩ := (h bytes v rest).1 hread
    exact ⟨v, rest, hP, hbytes, hnext⟩
  · rintro ⟨v, rest, hP, hbytes, hnext⟩
    have hread := (h bytes v rest).2 ⟨hP, hbytes⟩
    exact Option.bind_eq_some_iff.2 ⟨_, hread, hnext⟩

/-- What is read after a tag is written after it. -/
theorem Canonical.tagged {γ : Type} (h : first.Canonical P) (wrap : α → γ) {tag bytes tail : Bytes}
    {out : γ} {rest : Bytes} (hbytes : bytes = tag ++ tail)
    (hread : ((first.decode tail).bind fun p => some (wrap p.1, p.2)) = some (out, rest)) :
    ∃ v, P v ∧ wrap v = out ∧ bytes = tag ++ first.encode v ++ rest := by
  obtain ⟨v, rest', hP, htail, heq⟩ := h.bind_iff.1 hread
  cases heq
  refine ⟨v, hP, rfl, ?_⟩
  rw [hbytes, htail]
  exact (List.append_assoc ..).symm

theorem Canonical.pair (hfirst : first.Canonical P) (hsecond : second.Canonical Q) :
    (first.pair second).Canonical fun v => P v.1 ∧ Q v.2 := by
  rintro bytes ⟨a, b⟩ rest
  constructor
  · intro h
    obtain ⟨a', tail, hP, hbytes, h⟩ := hfirst.bind_iff.1 h
    obtain ⟨b', rest', hQ, htail, h⟩ := hsecond.bind_iff.1 h
    cases h
    refine ⟨⟨hP, hQ⟩, ?_⟩
    rw [hbytes, htail]
    exact (List.append_assoc ..).symm
  · rintro ⟨⟨hP, hQ⟩, hbytes⟩
    apply hfirst.bind_iff.2 ⟨a, second.encode b ++ rest, hP, ?_, ?_⟩
    · rw [hbytes]
      exact List.append_assoc ..
    · exact hsecond.bind_iff.2 ⟨b, rest, hQ, rfl, rfl⟩

/-- Values that are written as others are canonical where the two correspond. -/
theorem Canonical.via {wrap : α → β} {unwrap : β → α} (h : first.Canonical P)
    (hwrap : ∀ a, P a → Q (wrap a) ∧ unwrap (wrap a) = a)
    (hunwrap : ∀ b, Q b → P (unwrap b) ∧ wrap (unwrap b) = b) :
    (first.via wrap unwrap).Canonical Q := by
  intro bytes b rest
  constructor
  · intro hdecode
    obtain ⟨⟨a, rest'⟩, ha, heq⟩ := Option.map_eq_some_iff.1 hdecode
    cases heq
    obtain ⟨hP, hbytes⟩ := (h bytes a rest).1 ha
    obtain ⟨hQ, hback⟩ := hwrap a hP
    refine ⟨hQ, ?_⟩
    rw [hbytes]
    exact congrArg (first.encode · ++ rest) hback.symm
  · rintro ⟨hQ, hbytes⟩
    obtain ⟨hP, hback⟩ := hunwrap b hQ
    have ha := (h bytes (unwrap b) rest).2 ⟨hP, hbytes⟩
    apply Option.map_eq_some_iff.2 ⟨_, ha, ?_⟩
    exact congrArg (·, rest) hback

/-- Values that are written one to one as others of which all can be written. -/
theorem Canonical.wrapped {wrap : α → β} {unwrap : β → α} (h : first.Canonical P)
    (hwrap : ∀ a, unwrap (wrap a) = a) (hunwrap : ∀ b, wrap (unwrap b) = b) :
    (first.via wrap unwrap).Canonical fun b => P (unwrap b) := by
  apply h.via
  · intro a hP
    rw [hwrap a]
    exact ⟨hP, rfl⟩
  · intro b hP
    exact ⟨hP, hunwrap b⟩

theorem Canonical.congr {Q : α → Prop} (h : first.Canonical P) (hiff : ∀ a, P a ↔ Q a) :
    first.Canonical Q := by
  intro bytes a rest
  rw [h bytes a rest, hiff a]

end Combinators

theorem toNat_toUInt8 (n : Nat) : n.toUInt8.toNat = n % 256 := UInt8.toNat_ofNat'

theorem eq_toUInt8_iff (b : UInt8) (n : Nat) : b = n.toUInt8 ↔ b.toNat = n % 256 := by
  rw [← toNat_toUInt8, UInt8.toNat_inj]

theorem canonical_word (width : Nat) : (word width).Canonical (· < Nat.pow 256 width) := by
  induction width with
  | zero =>
    intro bytes n rest
    have hpow : Nat.pow 256 0 = 1 := rfl
    simp only [word, decodeWord, encodeWord, Option.some.injEq, Prod.mk.injEq, List.nil_append,
      hpow, Nat.lt_one_iff]
    exact and_congr_left' eq_comm
  | succ width ih =>
    intro bytes n rest
    cases bytes with
    | nil => simp [word, decodeWord, encodeWord]
    | cons b tail =>
      have hpow : Nat.pow 256 (width + 1) = Nat.pow 256 width * 256 := rfl
      have hlower := b.toNat_lt
      simp only [word, encodeWord, List.cons_append, List.cons.injEq, eq_toUInt8_iff, hpow]
      constructor
      · intro h
        obtain ⟨⟨m, rest'⟩, hm, heq⟩ := Option.map_eq_some_iff.1 h
        cases heq
        obtain ⟨hlt, htail⟩ := (ih tail m rest).1 hm
        have hupper : (b.toNat + 256 * m) / 256 = m := by omega
        refine ⟨by omega, by omega, ?_⟩
        rw [hupper]
        exact htail
      · rintro ⟨hlt, hb, htail⟩
        have hupper := (ih tail (n / 256) rest).2 ⟨by omega, htail⟩
        apply Option.map_eq_some_iff.2 ⟨_, hupper, ?_⟩
        rw [hb]
        exact congrArg (·, rest) (Nat.mod_add_div n 256)

/-- A whole number that a signed word of eight bytes can hold. -/
def SignedWritable (i : Int) : Prop := -(Text.signedBound64 : Int) ≤ i ∧ i < Text.signedBound64

instance (i : Int) : Decidable (SignedWritable i) := inferInstanceAs (Decidable (_ ∧ _))

theorem canonical_signedWord : (signedWord 8).Canonical SignedWritable := by
  have hsize : ((Nat.pow 256 8 : Nat) : Int) = 18446744073709551616 := rfl
  have hbound : (Text.signedBound64 : Int) = 9223372036854775808 := rfl
  have hpos : 0 < Nat.pow 256 8 := by decide
  apply (canonical_word 8).via
  · intro n hn
    have hlower := Int.le_bmod (x := n) hpos
    have hupper := Int.bmod_lt (x := n) hpos
    refine ⟨⟨by omega, by omega⟩, ?_⟩
    rw [Int.bmod_emod, Int.emod_eq_of_lt (by omega) (by omega), Int.toNat_natCast]
  · rintro i ⟨hlower, hupper⟩
    have hnonneg : 0 ≤ i % (Nat.pow 256 8 : Nat) := Int.emod_nonneg i (by omega)
    have hlt : i % (Nat.pow 256 8 : Nat) < (Nat.pow 256 8 : Nat) := Int.emod_lt_of_pos i (by omega)
    refine ⟨by omega, ?_⟩
    rw [Int.toNat_of_nonneg hnonneg, Int.emod_bmod]
    exact Int.bmod_eq_of_le (by omega) (by omega)

theorem canonical_flag : flag.Canonical fun _ => True := by
  intro bytes b rest
  constructor
  · intro h
    simp only [flag] at h
    split at h
    · cases h
      exact ⟨trivial, rfl⟩
    · cases h
      exact ⟨trivial, rfl⟩
    · cases h
  · rintro ⟨-, rfl⟩
    cases b <;> rfl

theorem Canonical.optional {format : Format α} {P : α → Prop} (h : format.Canonical P) :
    (optional format).Canonical fun v? => ∀ v ∈ v?, P v := by
  intro bytes v? rest
  constructor
  · intro hdecode
    simp only [Format.optional] at hdecode
    split at hdecode
    · cases hdecode
      exact ⟨fun _ hv => (nomatch hv), rfl⟩
    next tail =>
      obtain ⟨⟨v, rest'⟩, hv, heq⟩ := Option.map_eq_some_iff.1 hdecode
      cases heq
      obtain ⟨hP, htail⟩ := (h tail v _).1 hv
      refine ⟨fun w hw => Option.some.inj hw ▸ hP, ?_⟩
      rw [htail]
      rfl
    · cases hdecode
  · rintro ⟨hP, rfl⟩
    cases v? with
    | none => rfl
    | some v => exact Option.map_eq_some_iff.2 ⟨_, (h _ v rest).2 ⟨hP v rfl, rfl⟩, rfl⟩

/-- The text is not too long for its length to be written. -/
def TextWritable (s : String) : Prop := (utf8 s).length < UInt64.size

instance (s : String) : Decidable (TextWritable s) := inferInstanceAs (Decidable (_ < _))

/-- A text is no longer than what it is written as. -/
theorem textWritable_of_length_le {s : String} {n : Nat} (h : (text.encode s).length ≤ n)
    (hn : n < UInt64.size) : TextWritable s := by
  have hsplit : (text.encode s).length =
      ((word 8).encode (utf8 s).length).length + (utf8 s).length := List.length_append
  show (utf8 s).length < UInt64.size
  omega

theorem fromUTF8?_eq_some_iff (bytes : Bytes) (s : String) :
    String.fromUTF8? bytes.toByteArray = some s ↔ bytes = utf8 s := by
  unfold String.fromUTF8?
  constructor
  · intro h
    split at h
    · cases h
      exact List.toList_data_toByteArray.symm
    · cases h
  · intro h
    have hback : bytes.toByteArray = s.toByteArray := by
      apply ByteArray.ext
      rw [List.data_toByteArray, h]
      rfl
    have hvalid : bytes.toByteArray.IsValidUTF8 := hback ▸ s.isValidUTF8
    rw [dif_pos hvalid, Option.some.injEq]
    exact String.toByteArray_inj.1 hback

theorem canonical_text : text.Canonical TextWritable := by
  intro bytes s rest
  constructor
  · intro h
    obtain ⟨size, tail, hsize, hbytes, h⟩ := (canonical_word 8).bind_iff.1 h
    by_cases hshort : tail.length < size
    · simp [hshort] at h
    · simp only [hshort, ↓reduceIte] at h
      obtain ⟨s', hs, heq⟩ := Option.bind_eq_some_iff.1 h
      cases heq
      have hutf8 := (fromUTF8?_eq_some_iff _ s).1 hs
      have hlength : (utf8 s).length = size := by
        rw [← hutf8, List.length_take]
        omega
      have hwritable : TextWritable s := by
        rw [TextWritable, hlength]
        exact hsize
      refine ⟨hwritable, ?_⟩
      show bytes = (word 8).encode (utf8 s).length ++ utf8 s ++ tail.drop size
      rw [hlength, ← hutf8, List.append_assoc, List.take_append_drop]
      exact hbytes
  · rintro ⟨hwritable, hbytes⟩
    apply (canonical_word 8).bind_iff.2 ⟨(utf8 s).length, utf8 s ++ rest, hwritable, ?_, ?_⟩
    · rw [hbytes]
      exact List.append_assoc ..
    · have henough : ¬ (utf8 s ++ rest).length < (utf8 s).length := by
        rw [List.length_append]
        omega
      simp only [henough, ↓reduceIte, List.take_left, List.drop_left]
      exact Option.bind_eq_some_iff.2 ⟨s, (fromUTF8?_eq_some_iff _ s).2 rfl, rfl⟩

end Format
end ClusterWatch.Wire
