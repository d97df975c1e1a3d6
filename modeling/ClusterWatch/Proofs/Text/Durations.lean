import ClusterWatch.Duration
import ClusterWatch.Proofs.Text.Numerals

/-!
Lengths of time as operators read them. Less than a millisecond is cut off, and nothing else is lost:
the two forms end differently, in either of them the number can be read off, and a number of
milliseconds has only one of them.
-/
namespace ClusterWatch

namespace Duration

variable {d e : Duration} {k l m n : Nat}

/-- The whole milliseconds make up whole seconds, one of them or more. -/
def InSeconds (d : Duration) : Prop := d.millis ≠ 0 ∧ 1000 ∣ d.millis

theorem inSeconds_iff : d.InSeconds ↔ ∃ k, 1 ≤ k ∧ d.millis = 1000 * k := by
  constructor
  · rintro ⟨hpositive, k, hk⟩
    exact ⟨k, by omega, hk⟩
  · rintro ⟨k, hpositive, hk⟩
    exact ⟨by omega, k, hk⟩

theorem text_of_seconds (positive : 1 ≤ k) (hk : d.millis = 1000 * k) :
    d.text = toString k ++ "s" := by
  have heven : d.millis ≠ 0 ∧ d.millis % 1000 = 0 := by omega
  have hseconds : d.millis / 1000 = k := by omega
  rw [text, if_pos heven, hseconds]

theorem text_of_not_inSeconds (h : ¬ d.InSeconds) : d.text = toString d.millis ++ "ms" :=
  if_neg fun heven => h ⟨heven.1, Nat.dvd_of_mod_eq_zero heven.2⟩

theorem seconds_inj : toString k ++ "s" = toString l ++ "s" ↔ k = l := by
  rw [Text.toString_append_inj rfl rfl, and_iff_left rfl]

theorem millis_inj : toString m ++ "ms" = toString n ++ "ms" ↔ m = n := by
  rw [Text.toString_append_inj rfl rfl, and_iff_left rfl]

theorem seconds_ne_millis : toString k ++ "s" ≠ toString m ++ "ms" := by
  rw [ne_eq, Text.toString_append_inj rfl rfl]
  exact fun h => absurd h.2 (by decide)

theorem text_eq_seconds_iff : d.text = toString k ++ "s" ↔ 1 ≤ k ∧ d.millis = 1000 * k := by
  refine ⟨fun h => ?_, fun ⟨positive, hk⟩ => text_of_seconds positive hk⟩
  by_cases hseconds : d.InSeconds
  · obtain ⟨l, positive, hl⟩ := inSeconds_iff.1 hseconds
    obtain rfl := seconds_inj.1 ((text_of_seconds positive hl).symm.trans h)
    exact ⟨positive, hl⟩
  · exact absurd (h.symm.trans (text_of_not_inSeconds hseconds)) seconds_ne_millis

theorem text_eq_millis_iff : d.text = toString m ++ "ms" ↔ m = d.millis ∧ ¬ d.InSeconds := by
  constructor
  · intro h
    by_cases hseconds : d.InSeconds
    · obtain ⟨k, positive, hk⟩ := inSeconds_iff.1 hseconds
      exact absurd ((text_of_seconds positive hk).symm.trans h) seconds_ne_millis
    · exact ⟨millis_inj.1 (h.symm.trans (text_of_not_inSeconds hseconds)), hseconds⟩
  · rintro ⟨rfl, hseconds⟩
    exact text_of_not_inSeconds hseconds

theorem text_eq_text_iff : d.text = e.text ↔ d.millis = e.millis := by
  constructor
  · intro h
    by_cases hseconds : e.InSeconds
    · obtain ⟨k, positive, hk⟩ := inSeconds_iff.1 hseconds
      rw [text_of_seconds positive hk, text_eq_seconds_iff] at h
      exact h.2.trans hk.symm
    · rw [text_of_not_inSeconds hseconds, text_eq_millis_iff] at h
      exact h.1.symm
  · intro h
    simp only [text, h]

/-- What the text of a duration is worth. -/
structure TellsMillis (d : Duration) : Prop where
  form : (∃ k : Nat, d.text = toString k ++ "s") ∨ ∃ m : Nat, d.text = toString m ++ "ms"
  seconds : ∀ k, d.text = toString k ++ "s" ↔ 1 ≤ k ∧ d.millis = 1000 * k
  millis : ∀ m, d.text = toString m ++ "ms" ↔ m = d.millis ∧ ¬ d.InSeconds
  evenly : (∃ k : Nat, d.text = toString k ++ "s") ↔ d.millis ≠ 0 ∧ 1000 ∣ d.millis
  same : ∀ e : Duration, d.text = e.text ↔ d.millis = e.millis

/-- A duration is written in seconds where its whole milliseconds come out even and are not zero, and
else in milliseconds. Its text tells the whole milliseconds, and nothing but these. -/
theorem text_tells_millis (d : Duration) : d.TellsMillis := by
  constructor
  case form =>
    by_cases hseconds : d.InSeconds
    · obtain ⟨k, hk⟩ := inSeconds_iff.1 hseconds
      exact .inl ⟨k, text_eq_seconds_iff.2 hk⟩
    · exact .inr ⟨d.millis, text_of_not_inSeconds hseconds⟩
  case seconds => exact fun k => text_eq_seconds_iff
  case millis => exact fun m => text_eq_millis_iff
  case evenly => exact (exists_congr fun k => text_eq_seconds_iff).trans inSeconds_iff.symm
  case same => exact fun e => text_eq_text_iff

example : (ofMillis 30000).text = "30s" ∧ (ofMillis 1500).text = "1500ms" := by decide

end Duration

end ClusterWatch
