import ClusterWatch.Proofs.Text.Numerals
import ClusterWatch.Task.Id

/-!
How task ids read. A text is cut at its last colon, so the id of a node may hold colons of its own,
and may look like anything else as well. What is printed is read as the same task id unless the
number is the one that marks the lack of a task, which is printed as a word and without the node,
or there is no node, which is printed but not read.
-/
namespace ClusterWatch.TaskId

open Text (Signed FitsSigned64)

/-- How a text may read, and the task id that it is then. -/
inductive Reads : (given : String) → TaskId → Prop
  | unset : Reads "unset" unset
  /-- The colon is the last one, and the node is all that stands before it. -/
  | task {node number : String} {k : Int} (named : node ≠ "") (last : ':' ∉ number.toList)
      (numeral : Signed number.toList k) (fits : FitsSigned64 k) :
      Reads (node ++ ":" ++ number) ⟨node, k⟩

section Splitting

variable {mark : Char} {text front back : List Char}

theorem splitAtLast_eq_none_iff : splitAtLast mark text = none ↔ mark ∉ text := by
  induction text with
  | nil => simp [splitAtLast]
  | cons c rest ih =>
    rw [splitAtLast]
    split
    next front back hsplit =>
      have hrest : mark ∈ rest := Decidable.of_not_not fun hnone => by simp [ih.2 hnone] at hsplit
      exact iff_of_false nofun fun hnone => hnone (List.mem_cons_of_mem _ hrest)
    next hsplit =>
      have hrest : mark ∉ rest := ih.1 hsplit
      by_cases hc : c = mark
      · simp [hc]
      · simp [hc, hrest, Ne.symm hc]

theorem splitAtLast_eq_some_iff :
    splitAtLast mark text = some (front, back) ↔ text = front ++ mark :: back ∧ mark ∉ back := by
  induction text generalizing front back with
  | nil => simp [splitAtLast]
  | cons c rest ih =>
    rw [splitAtLast]
    cases hsplit : splitAtLast mark rest with
    | some parts =>
      obtain ⟨front', back'⟩ := parts
      have hrest := ih.1 hsplit
      constructor
      · rintro ⟨⟩
        exact ⟨congrArg (c :: ·) hrest.1, hrest.2⟩
      · rintro ⟨htext, hlast⟩
        cases front with
        | nil =>
          obtain ⟨-, rfl⟩ := List.cons.inj htext
          exact absurd (hrest.1 ▸ List.mem_append_right _ List.mem_cons_self) hlast
        | cons d front =>
          obtain ⟨rfl, hsame⟩ := List.cons.inj htext
          obtain ⟨⟩ := hsplit.symm.trans (ih.2 ⟨hsame, hlast⟩)
          rfl
    | none =>
      have hrest : mark ∉ rest := splitAtLast_eq_none_iff.1 hsplit
      by_cases hc : c = mark
      · subst hc
        simp only [↓reduceIte]
        constructor
        · rintro ⟨⟩
          exact ⟨rfl, hrest⟩
        · rintro ⟨htext, -⟩
          cases front with
          | nil =>
            obtain ⟨-, rfl⟩ := List.cons.inj htext
            rfl
          | cons d front =>
            obtain ⟨-, rfl⟩ := List.cons.inj htext
            exact absurd (List.mem_append_right _ List.mem_cons_self) hrest
      · simp only [hc, ↓reduceIte]
        refine iff_of_false nofun ?_
        rintro ⟨htext, -⟩
        have hmem : mark ∈ c :: rest := htext ▸ List.mem_append_right _ List.mem_cons_self
        exact (List.mem_cons.1 hmem).elim (fun heq => hc heq.symm) hrest

theorem splitAtLast_joined {node number : String} (last : ':' ∉ number.toList) :
    splitAtLast ':' (node ++ ":" ++ number).toList = some (node.toList, number.toList) :=
  splitAtLast_eq_some_iff.2 ⟨by simp, last⟩

theorem splitAtLast_unset : splitAtLast ':' "unset".toList = none :=
  splitAtLast_eq_none_iff.2 (by decide)

end Splitting

section Texts

variable {given : String} {t : TaskId} {e : Malformed}

theorem reads_unset_iff : Reads "unset" t ↔ t = TaskId.unset := by
  constructor
  · intro h
    have hnone := splitAtLast_unset
    generalize "unset" = given at h hnone
    cases h with
    | unset => rfl
    | task _ last => cases hnone.symm.trans (splitAtLast_joined last)
  · rintro rfl
    exact .unset

/-- Where the colon is the last one, what stands before it is the node and nothing else is. -/
theorem reads_joined_iff {node number : String} (last : ':' ∉ number.toList) :
    Reads (node ++ ":" ++ number) t ↔
      node ≠ "" ∧ ∃ k, Signed number.toList k ∧ FitsSigned64 k ∧ t = ⟨node, k⟩ := by
  constructor
  · intro h
    have hsplit : splitAtLast ':' (node ++ ":" ++ number).toList =
        some (node.toList, number.toList) := splitAtLast_joined last
    generalize node ++ ":" ++ number = given at h hsplit
    cases h with
    | unset => cases splitAtLast_unset.symm.trans hsplit
    | task named last' numeral fits =>
      obtain ⟨hnode, hnumber⟩ := Prod.mk.inj
        (Option.some.inj (hsplit.symm.trans (splitAtLast_joined last')))
      obtain rfl := String.toList_injective hnode
      obtain rfl := String.toList_injective hnumber
      exact ⟨named, _, numeral, fits, rfl⟩
  · rintro ⟨named, k, numeral, fits, rfl⟩
    exact .task named last numeral fits

/-- A text is read as a task id exactly if it reads so. -/
theorem parse_eq_ok_iff : parse given = .ok t ↔ Reads given t := by
  unfold parse
  split
  next hunset =>
    subst hunset
    rw [reads_unset_iff]
    exact ⟨fun h => (Except.ok.inj h).symm, fun h => h ▸ rfl⟩
  next hunset =>
    constructor
    · intro h
      split at h
      next c front back hsplit =>
        split at h
        next k hnumber =>
          obtain rfl := Except.ok.inj h
          obtain ⟨hgiven, hlast⟩ := splitAtLast_eq_some_iff.1 hsplit
          obtain ⟨numeral, fits⟩ := Text.signed?_bound64_eq_some_iff.1 hnumber
          have htext : given = String.ofList (c :: front) ++ ":" ++ String.ofList back :=
            String.toList_injective (by simpa using hgiven)
          rw [htext]
          refine .task (fun hempty => ?_) (by simpa using hlast) (by simpa using numeral) fits
          exact List.cons_ne_nil c front (by simpa using congrArg String.toList hempty)
        next => cases h
      next => cases h
    · intro h
      cases h with
      | unset => exact absurd rfl hunset
      | @task node number k named last numeral fits =>
        rw [splitAtLast_joined last]
        cases hnode : node.toList with
        | nil => exact absurd (String.toList_injective hnode) named
        | cons c front =>
          have hnumber := Text.signed?_bound64_eq_some_iff.2 ⟨numeral, fits⟩
          simp [hnumber, ← hnode]

theorem eq_given_of_parse (h : parse given = .error e) : e = ⟨given⟩ := by
  unfold parse at h
  split at h
  next => cases h
  next =>
    split at h
    next =>
      split at h
      next => cases h
      next => exact (Except.error.inj h).symm
    next => exact (Except.error.inj h).symm

theorem parse_eq_error_iff : parse given = .error e ↔ e = ⟨given⟩ ∧ ∀ t, ¬ Reads given t :=
  Text.refused_iff (fun _ => parse_eq_ok_iff) fun _ => eq_given_of_parse

end Texts

/-- What comes of a task id that is printed and read again. -/
structure ReadBack (t : TaskId) : Prop where
  same : parse t.text = .ok t ↔ (t.node ≠ "" ∧ t.number ≠ -1) ∨ t = unset
  /-- The node is lost where the number marks the lack of a task. -/
  unset : t.number = -1 → parse t.text = .ok TaskId.unset
  nameless : t.node = "" → t.number ≠ -1 → parse t.text = .error ⟨t.text⟩

/-- What comes of a text that is read as a task id. -/
structure ReadAs (given : String) : Prop where
  accepted : ∀ t, parse given = .ok t ↔ Reads given t
  /-- The whole text is given back. -/
  refused : ∀ e, parse given = .error e ↔ e = ⟨given⟩ ∧ ∀ t, ¬ Reads given t

section Printing

variable {t : TaskId}

theorem text_of_unset (h : t.number = -1) : t.text = "unset" := by
  simp [text, isSet, h]

theorem text_of_set (h : t.number ≠ -1) : t.text = t.node ++ ":" ++ toString t.number := by
  simp [text, isSet, h]

theorem colon_notMem_toString (k : Int) : ':' ∉ (toString k).toList := by
  intro hmem
  rcases (Text.signed_toString k).mem ':' hmem with h | h | h <;> exact absurd h (by decide)

/-- A task id that is printed with its number reads as itself, if its node has an id. -/
theorem reads_text_iff (fits : FitsSigned64 t.number) (h : t.number ≠ -1) {read : TaskId} :
    Reads t.text read ↔ t.node ≠ "" ∧ read = t := by
  rw [text_of_set h, reads_joined_iff (colon_notMem_toString t.number)]
  refine and_congr_right fun _ => ⟨?_, ?_⟩
  · rintro ⟨k, numeral, -, rfl⟩
    rw [numeral.unique (Text.signed_toString t.number)]
  · rintro rfl
    exact ⟨_, Text.signed_toString _, fits, rfl⟩

theorem readBack (fits : FitsSigned64 t.number) : t.ReadBack where
  same := by
    rw [parse_eq_ok_iff]
    by_cases h : t.number = -1
    · rw [text_of_unset h, reads_unset_iff]
      simp [h]
    · rw [reads_text_iff fits h]
      have hset : t ≠ TaskId.unset := fun heq => h (congrArg TaskId.number heq)
      simp [h, hset]
  unset h := by
    rw [text_of_unset h]
    exact parse_eq_ok_iff.2 .unset
  nameless hnode h := by
    refine parse_eq_error_iff.2 ⟨rfl, fun read hreads => ?_⟩
    exact ((reads_text_iff fits h).1 hreads).1 hnode

/-- A task id with a node and a number is read as it is printed, and a text is read as a task id
exactly if it reads so. -/
theorem texts_read (t : TaskId) (fits : FitsSigned64 t.number) (given : String) :
    t.ReadBack ∧ ReadAs given :=
  ⟨readBack fits, fun _ => parse_eq_ok_iff, fun _ => parse_eq_error_iff⟩

/-- A node that goes by the word, a number at the bound, and a text with signs and colons. -/
theorem texts_read_at_bound :
    FitsSigned64 (-2 ^ 63) ∧
      parse (TaskId.mk "unset" (-2 ^ 63)).text = .ok ⟨"unset", -2 ^ 63⟩ ∧
      parse "a::+0" = .ok ⟨"a:", 0⟩ ∧
      (TaskId.mk "unset" (-2 ^ 63)).ReadBack ∧ ReadAs "a::+0" := by
  have hread := texts_read ⟨"unset", -2 ^ 63⟩ (by decide) "a::+0"
  exact ⟨by decide, hread.1.same.2 (.inl ⟨by decide, by decide⟩), by decide, hread⟩

end Printing

end ClusterWatch.TaskId
