/-!
Finite tables in key order. A table holds at most one entry per key, and its entries
stand in increasing order of their keys, so listing a table always gives one answer.
Entries carry their own key, which is read off by the function that is the second
parameter. Looking up an entry after an insertion, an erasure or a filter is settled by
the three lookup theorems.
-/

namespace ClusterWatch

structure Table (α : Type) (key : α → String) where
  entries : List α
  increasing : entries.Pairwise (fun x y => key x < key y)

namespace Table

variable {α : Type} {key : α → String}

/-- The list with `x` in its place, in place of an entry with the same key if there is one. -/
def place (key : α → String) (x : α) : List α → List α
  | [] => [x]
  | y :: rest =>
      if key x < key y then x :: y :: rest
      else if key x = key y then x :: rest
      else y :: place key x rest

theorem mem_of_mem_place {x z : α} {entries : List α} (h : z ∈ place key x entries) :
    z = x ∨ z ∈ entries := by
  induction entries with
  | nil => simpa [place] using h
  | cons y rest ih =>
    rw [place] at h
    split at h
    · simpa using h
    · split at h
      · rcases List.mem_cons.1 h with rfl | h
        · exact .inl rfl
        · exact .inr (List.mem_cons_of_mem _ h)
      · rcases List.mem_cons.1 h with rfl | h
        · exact .inr List.mem_cons_self
        · exact (ih h).imp id (List.mem_cons_of_mem _)

private theorem lt_of_not {s t : String} (hlt : ¬ s < t) (hne : ¬ s = t) : t < s := by
  rcases Decidable.em (t < s) with h | h
  · exact h
  · exact absurd (String.le_antisymm (String.not_lt.1 h) (String.not_lt.1 hlt)) hne

theorem increasing_place (x : α) {entries : List α}
    (h : entries.Pairwise (fun x y => key x < key y)) :
    (place key x entries).Pairwise (fun x y => key x < key y) := by
  induction entries with
  | nil => simp [place]
  | cons y rest ih =>
    obtain ⟨hy, hrest⟩ := List.pairwise_cons.1 h
    rw [place]
    split
    next hlt =>
      refine List.pairwise_cons.2 ⟨fun z hz => ?_, h⟩
      rcases List.mem_cons.1 hz with rfl | hz
      · exact hlt
      · exact String.lt_trans hlt (hy z hz)
    next hlt =>
      split
      next heq => exact List.pairwise_cons.2 ⟨fun z hz => heq ▸ hy z hz, hrest⟩
      next hne =>
        refine List.pairwise_cons.2 ⟨fun z hz => ?_, ih hrest⟩
        rcases mem_of_mem_place hz with rfl | hz
        · exact lt_of_not hlt hne
        · exact hy z hz

def empty : Table α key := ⟨[], List.Pairwise.nil⟩

instance : Inhabited (Table α key) := ⟨empty⟩

instance [DecidableEq α] : DecidableEq (Table α key) := fun s t =>
  if h : s.entries = t.entries then
    isTrue (by cases s; cases t; cases h; rfl)
  else isFalse (fun heq => h (heq ▸ rfl))

def insert (table : Table α key) (x : α) : Table α key :=
  ⟨place key x table.entries, increasing_place x table.increasing⟩

def filter (table : Table α key) (keep : α → Bool) : Table α key :=
  ⟨table.entries.filter keep, table.increasing.filter keep⟩

def erase (table : Table α key) (k : String) : Table α key :=
  table.filter (fun x => key x != k)

def find? (table : Table α key) (k : String) : Option α :=
  table.entries.find? (fun x => key x == k)

def contains (table : Table α key) (k : String) : Bool :=
  (table.find? k).isSome

def keys (table : Table α key) : List String :=
  table.entries.map key

/-- Later entries of the list take the place of earlier ones with the same key. -/
def ofList (key : α → String) (entries : List α) : Table α key :=
  entries.foldl insert empty

theorem key_of_find? {table : Table α key} {k : String} {x : α}
    (h : table.find? k = some x) : key x = k := by
  simpa using List.find?_some h

theorem mem_of_find? {table : Table α key} {k : String} {x : α}
    (h : table.find? k = some x) : x ∈ table.entries :=
  List.mem_of_find?_eq_some h

private theorem find?_none_of_lt {entries : List α} {k : String}
    (h : ∀ z ∈ entries, k < key z) : entries.find? (fun x => key x == k) = none := by
  refine List.find?_eq_none.2 fun z hz heq => ?_
  have hk : key z = k := by simpa using heq
  exact String.lt_irrefl k (hk ▸ h z hz)

private theorem find?_place (x : α) {entries : List α}
    (h : entries.Pairwise (fun x y => key x < key y)) (k : String) :
    (place key x entries).find? (fun y => key y == k) =
      if key x = k then some x else entries.find? (fun y => key y == k) := by
  induction entries with
  | nil => by_cases hx : key x = k <;> simp [place, hx]
  | cons y rest ih =>
    obtain ⟨_, hrest⟩ := List.pairwise_cons.1 h
    rw [place]
    split
    · by_cases hx : key x = k <;> simp [List.find?_cons, hx]
    · split
      next heq => by_cases hx : key x = k <;> simp_all
      next hne =>
        by_cases hy : key y = k
        · have hx : ¬ key x = k := fun hx => hne (hx.trans hy.symm)
          simp [hy, hx]
        · simp [hy, ih hrest]

theorem find?_insert (table : Table α key) (x : α) (k : String) :
    (table.insert x).find? k = if key x = k then some x else table.find? k :=
  find?_place x table.increasing k

theorem find?_filter (table : Table α key) (keep : α → Bool) (k : String) :
    (table.filter keep).find? k = (table.find? k).filter keep := by
  obtain ⟨entries, h⟩ := table
  unfold filter find?
  dsimp only
  induction entries with
  | nil => rfl
  | cons y rest ih =>
    obtain ⟨hy, hrest⟩ := List.pairwise_cons.1 h
    by_cases hk : key y = k
    · have hnone : rest.find? (fun x => key x == k) = none :=
        find?_none_of_lt fun z hz => hk ▸ hy z hz
      cases hkeep : keep y
      · rw [List.filter_cons_of_neg (by simp [hkeep]), ih hrest, hnone]
        simp [hk, Option.filter, hkeep]
      · rw [List.filter_cons_of_pos (by simp [hkeep])]
        simp [hk, Option.filter, hkeep]
    · cases hkeep : keep y
      · rw [List.filter_cons_of_neg (by simp [hkeep]), ih hrest]
        simp [hk]
      · rw [List.filter_cons_of_pos (by simp [hkeep])]
        simpa [hk] using ih hrest

theorem find?_erase (table : Table α key) (k l : String) :
    (table.erase k).find? l = if k = l then none else table.find? l := by
  rw [erase, find?_filter]
  cases hfound : table.find? l with
  | none => simp
  | some x =>
    have hx : key x = l := key_of_find? hfound
    by_cases hk : k = l
    · simp [hx, hk]
    · have hne : ¬ l = k := fun h => hk h.symm
      simp [hx, hk, hne]

theorem mem_iff_find? {table : Table α key} {x : α} :
    x ∈ table.entries ↔ table.find? (key x) = some x := by
  refine ⟨fun hx => ?_, mem_of_find?⟩
  obtain ⟨entries, h⟩ := table
  unfold find?
  dsimp only at hx ⊢
  induction entries with
  | nil => simp at hx
  | cons y rest ih =>
    obtain ⟨hy, hrest⟩ := List.pairwise_cons.1 h
    rcases List.mem_cons.1 hx with rfl | hx
    · simp
    · have hne : ¬ key y = key x := fun heq => String.lt_irrefl _ (heq ▸ hy x hx)
      simpa [hne] using ih hrest hx

theorem mem_insert {table : Table α key} {x y : α} :
    y ∈ (table.insert x).entries ↔ y = x ∨ (y ∈ table.entries ∧ key x ≠ key y) := by
  rw [mem_iff_find?, find?_insert, mem_iff_find?]
  by_cases hk : key x = key y
  · simp [hk, eq_comm]
  · simp only [hk, ↓reduceIte, ne_eq, not_false_eq_true, and_true]
    exact ⟨Or.inr, fun h => h.resolve_left fun heq => hk (heq ▸ rfl)⟩

theorem mem_insert_self {table : Table α key} {x : α} : x ∈ (table.insert x).entries :=
  mem_insert.2 (Or.inl rfl)

theorem mem_erase {table : Table α key} {k : String} {y : α} :
    y ∈ (table.erase k).entries ↔ y ∈ table.entries ∧ k ≠ key y := by
  rw [mem_iff_find?, find?_erase, mem_iff_find?]
  by_cases hk : k = key y <;> simp [hk]

theorem contains_iff {table : Table α key} {k : String} :
    table.contains k = true ↔ ∃ x ∈ table.entries, key x = k := by
  unfold contains
  rw [Option.isSome_iff_exists]
  constructor
  · rintro ⟨x, hx⟩
    exact ⟨x, mem_of_find? hx, key_of_find? hx⟩
  · rintro ⟨x, hx, rfl⟩
    exact ⟨x, mem_iff_find?.1 hx⟩

theorem contains_of_mem {table : Table α key} {x : α} (hx : x ∈ table.entries) :
    table.contains (key x) = true :=
  contains_iff.2 ⟨x, hx, rfl⟩

/-- A key that is not there is nobody's. -/
theorem key_ne_of_contains_eq_false {table : Table α key} {k : String} {x : α}
    (hnew : table.contains k = false) (hx : x ∈ table.entries) : k ≠ key x := by
  rintro rfl
  rw [contains_of_mem hx] at hnew
  cases hnew

theorem eq_of_key_eq {table : Table α key} {x y : α} (hx : x ∈ table.entries)
    (hy : y ∈ table.entries) (hk : key x = key y) : x = y :=
  Option.some.inj ((mem_iff_find?.1 hx).symm.trans (hk ▸ mem_iff_find?.1 hy))

end Table
end ClusterWatch
