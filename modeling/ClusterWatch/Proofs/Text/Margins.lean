import Mathlib.Data.List.Basic
import Mathlib.Data.List.TakeWhile
import ClusterWatch.Text.Blank

/-!
Blanks around a text. To strip a text is to take away as many blanks as stand at its two ends, so
what is left is known by having none there; where it stood and how many blanks there were makes no
difference.
-/
namespace ClusterWatch.Text

def Blanks (text : List Char) : Prop := ∀ c ∈ text, isBlank c = true

instance (text : List Char) : Decidable (Blanks text) :=
  decidable_of_iff (text.all isBlank = true) List.all_eq_true

/-- No blank stands at either end. -/
structure Bare (text : List Char) : Prop where
  front : ∀ c ∈ text.head?, isBlank c = false
  back : ∀ c ∈ text.getLast?, isBlank c = false

/-- The text is the word with blanks around it. -/
def Surrounded (text word : List Char) : Prop :=
  ∃ before after, text = before ++ word ++ after ∧ Blanks before ∧ Blanks after

variable {text word : List Char}

theorem dropWhile_isBlank_eq_self (h : ∀ c ∈ text.head?, isBlank c = false) :
    text.dropWhile isBlank = text := by
  cases text with
  | nil => rfl
  | cons c rest => exact List.dropWhile_cons_of_neg (by simp [h c rfl])

theorem strip_surrounded (bare : Bare word) (h : Surrounded text word) : strip text = word := by
  obtain ⟨before, after, rfl, hbefore, hafter⟩ := h
  by_cases hword : word = []
  · subst hword
    rw [strip_eq_nil_iff, List.append_nil]
    exact List.forall_mem_append.2 ⟨hbefore, hafter⟩
  · have hfront : ((before ++ word ++ after).dropWhile isBlank) = word ++ after := by
      rw [List.append_assoc, List.dropWhile_append_of_pos hbefore]
      refine dropWhile_isBlank_eq_self fun c hc => bare.front c ?_
      rwa [List.head?_append_of_ne_nil word hword] at hc
    have hback : (word ++ after).reverse.dropWhile isBlank = word.reverse := by
      rw [List.reverse_append,
        List.dropWhile_append_of_pos fun c hc => hafter c (by simpa using hc)]
      exact dropWhile_isBlank_eq_self fun c hc => bare.back c (by simpa using hc)
    rw [strip, hfront, hback, List.reverse_reverse]

/-- The blanks in front are taken away first, and then those behind. -/
theorem dropWhile_eq_strip_append (text : List Char) : text.dropWhile isBlank =
    strip text ++ ((text.dropWhile isBlank).reverse.takeWhile isBlank).reverse := by
  rw [strip, ← List.reverse_append, List.takeWhile_append_dropWhile, List.reverse_reverse]

theorem surrounded_strip (text : List Char) : Surrounded text (strip text) := by
  refine ⟨text.takeWhile isBlank, ((text.dropWhile isBlank).reverse.takeWhile isBlank).reverse, ?_,
    fun c hc => List.mem_takeWhile_imp hc,
    fun c hc => List.mem_takeWhile_imp (List.mem_reverse.1 hc)⟩
  rw [List.append_assoc, ← dropWhile_eq_strip_append, List.takeWhile_append_dropWhile]

theorem head?_dropWhile_isBlank (text : List Char) :
    ∀ c ∈ (text.dropWhile isBlank).head?, isBlank c = false := by
  intro c hc
  have h := List.head?_dropWhile_not isBlank text
  rwa [Option.mem_def.1 hc] at h

theorem bare_strip (text : List Char) : Bare (strip text) where
  front c hc := by
    refine head?_dropWhile_isBlank text c ?_
    rw [dropWhile_eq_strip_append, List.head?_append, Option.mem_def.1 hc]
    rfl
  back c hc := by
    rw [strip, List.getLast?_reverse] at hc
    exact head?_dropWhile_isBlank _ c hc

/-- What is left is the one word without blanks at its ends that the text is around. -/
theorem strip_eq_iff : strip text = word ↔ Surrounded text word ∧ Bare word := by
  constructor
  · rintro rfl
    exact ⟨surrounded_strip text, bare_strip text⟩
  · rintro ⟨h, bare⟩
    exact strip_surrounded bare h

end ClusterWatch.Text
