/-!
Blank characters are those of the Unicode property White_Space. Text that people type,
such as a shard count or a cluster name, is read without the blanks around it.
-/
namespace ClusterWatch.Text

def isBlank (c : Char) : Bool :=
  ('\t' ≤ c && c ≤ '\r') || c = ' ' || c = '\u0085' || c = '\u00a0' || c = '\u1680' ||
    ('\u2000' ≤ c && c ≤ '\u200a') || c = '\u2028' || c = '\u2029' || c = '\u202f' ||
    c = '\u205f' || c = '\u3000'

/-- The text without the blanks at both of its ends. -/
def strip (text : List Char) : List Char :=
  ((text.dropWhile isBlank).reverse.dropWhile isBlank).reverse

private theorem dropWhile_eq_nil {p : Char → Bool} {text : List Char} :
    text.dropWhile p = [] ↔ ∀ c ∈ text, p c := by
  induction text with
  | nil => simp
  | cons c rest ih => by_cases h : p c <;> simp [h, ih]

/-- Nothing is left exactly when every character is blank. -/
theorem strip_eq_nil_iff {text : List Char} : strip text = [] ↔ ∀ c ∈ text, isBlank c := by
  constructor
  · intro h
    rw [strip, List.reverse_eq_nil_iff, dropWhile_eq_nil] at h
    refine dropWhile_eq_nil.1 (Decidable.byContradiction fun hne => ?_)
    have hhead := List.head_dropWhile_not isBlank hne
    have hmem : (text.dropWhile isBlank).head hne ∈ (text.dropWhile isBlank).reverse :=
      List.mem_reverse.2 (List.head_mem hne)
    simp [h _ hmem] at hhead
  · intro h
    simp [strip, dropWhile_eq_nil.2 h]

end ClusterWatch.Text
