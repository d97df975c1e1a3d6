/-!
Lists whose members are told apart by their keys: one of them, and the others.
-/
namespace ClusterWatch

variable {α β κ : Type} [DecidableEq κ] {key : α → κ} {a : α} {l : List α} {f : α → Option β}

/-- One of those who are told apart by their keys, and the others. -/
theorem perm_cons_others (member : a ∈ l) (distinct : (l.map key).Nodup) :
    l.Perm (a :: l.filter fun b => key b ≠ key a) := by
  induction l with
  | nil => simp at member
  | cons k rest ih =>
    obtain ⟨hk, hrest⟩ := List.nodup_cons.1 distinct
    rcases List.mem_cons.1 member with rfl | member
    · have hothers : rest.filter (fun b => key b ≠ key a) = rest :=
        List.filter_eq_self.2 fun b hb => by
          have hne : key b ≠ key a := fun heq => hk (List.mem_map.2 ⟨b, hb, heq⟩)
          simpa using hne
      rw [List.filter_cons_of_neg (by simp), hothers]
    · have hne : key k ≠ key a := fun heq => hk (List.mem_map.2 ⟨a, member, heq.symm⟩)
      rw [List.filter_cons_of_pos (by simpa using hne)]
      exact ((ih member hrest).cons k).trans (List.Perm.swap a k _)

/-- Whoever is looked for by the key of one of them is that one. -/
theorem find?_eq_some_of_key (member : a ∈ l) (distinct : (l.map key).Nodup) :
    l.find? (fun b => key b = key a) = some a := by
  induction l with
  | nil => simp at member
  | cons k rest ih =>
    obtain ⟨hk, hrest⟩ := List.nodup_cons.1 distinct
    rcases List.mem_cons.1 member with rfl | member
    · rw [List.find?_cons_of_pos (by simp)]
    · have hne : key k ≠ key a := fun heq => hk (List.mem_map.2 ⟨a, member, heq.symm⟩)
      rw [List.find?_cons_of_neg (by simpa using hne), ih member hrest]

theorem filterMap_perm_others (member : a ∈ l) (distinct : (l.map key).Nodup) :
    (l.filterMap f).Perm ((f a).toList ++ (l.filter fun b => key b ≠ key a).filterMap f) := by
  refine ((perm_cons_others member distinct).filterMap f).trans ?_
  cases hfound : f a <;> simp [hfound]

/-- One is changed, and the others stay. -/
theorem map_perm_change (member : a ∈ l) (distinct : (l.map key).Nodup) (change : α → α) :
    (l.map fun b => if key b = key a then change b else b).Perm
      (change a :: l.filter fun b => key b ≠ key a) := by
  let others := l.filter fun b => key b ≠ key a
  have hothers : (others.map fun b => if key b = key a then change b else b) = others := by
    refine (List.map_congr_left (g := id) fun b hb => ?_).trans (List.map_id _)
    have hne : key b ≠ key a := by simpa using (List.mem_filter.1 hb).2
    simp [hne]
  have hperm := (perm_cons_others member distinct).map fun b =>
    if key b = key a then change b else b
  rwa [List.map_cons, if_pos rfl, hothers] at hperm

/-- What is shown once one is changed: what it shows now, and what the others do. -/
theorem filterMap_perm_changed (member : a ∈ l) (distinct : (l.map key).Nodup) (change : α → α) :
    ((l.map fun b => if key b = key a then change b else b).filterMap f).Perm
      ((f (change a)).toList ++ (l.filter fun b => key b ≠ key a).filterMap f) := by
  refine ((map_perm_change member distinct change).filterMap f).trans ?_
  cases hfound : f (change a) <;> simp [hfound]

/-- One that had nothing to show has something else to show now, and the others stay. -/
theorem filterMap_perm_change (member : a ∈ l) (distinct : (l.map key).Nodup) (hnone : f a = none)
    (change : α → α) :
    ((l.map fun b => if key b = key a then change b else b).filterMap f).Perm
      ((f (change a)).toList ++ l.filterMap f) := by
  have hothers := filterMap_perm_others (f := f) member distinct
  rw [hnone] at hothers
  exact (filterMap_perm_changed member distinct change).trans
    (List.Perm.append_left _ hothers.symm)

variable {g : β → κ}

omit [DecidableEq κ] in
/-- What is shown goes by the keys of those that show it. -/
theorem map_filterMap_sublist (hkey : ∀ a b, f a = some b → g b = key a) (l : List α) :
    ((l.filterMap f).map g).Sublist (l.map key) := by
  induction l with
  | nil => exact .slnil
  | cons a rest ih =>
    rw [List.map_cons]
    cases hfound : f a with
    | none =>
      rw [List.filterMap_cons_none hfound]
      exact ih.cons _
    | some b =>
      rw [List.filterMap_cons_some hfound, List.map_cons, hkey a b hfound]
      exact ih.cons_cons _

theorem filter_filterMap_key (hkey : ∀ a b, f a = some b → g b = key a) (k : κ) (l : List α) :
    (l.filterMap f).filter (fun b => g b ≠ k) =
      (l.filter fun a => key a ≠ k).filterMap f := by
  induction l with
  | nil => rfl
  | cons a rest ih =>
    cases hfound : f a with
    | none =>
      rw [List.filterMap_cons_none hfound, ih, List.filter_cons]
      split
      · rw [List.filterMap_cons_none hfound]
      · rfl
    | some b =>
      rw [List.filterMap_cons_some hfound, List.filter_cons, List.filter_cons, hkey a b hfound, ih]
      split
      · rw [List.filterMap_cons_some hfound]
      · rfl

end ClusterWatch
