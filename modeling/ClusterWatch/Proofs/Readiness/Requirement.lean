import ClusterWatch.Proofs.Readiness.Progress

/-!
What a requirement says. A count asks something of each shard by itself, and what it leaves open
is settled by the index that the shard is part of. An index meets the count if all of its shards
do and all of their primaries are active, and a list is met if every index of it that there is
meets the count. So a list is met if and only if its parts are, and neither the order of the names
nor a name that is repeated or that no index goes by makes any difference.
-/
namespace ClusterWatch

/-- What a count asks of a shard, in an index that is itself set to wait for `own`. -/
inductive ShardCopies.Meets (shard : ShardCopies) : (own count : ShardCount) → Prop
  | all {own : ShardCount} : shard.active = shard.total → shard.Meets own .all
  | copies {own : ShardCount} {n : Nat} : n ≤ shard.active → shard.Meets own (.copies n)
  | ownAll : shard.active = shard.total → shard.Meets .all .indexDefault
  | ownCopies {n : Nat} : n ≤ shard.active → shard.Meets (.copies n) .indexDefault
  /-- An index that leaves the choice open as well waits for one copy. -/
  | ownOpen : 1 ≤ shard.active → shard.Meets .indexDefault .indexDefault

theorem ShardCopies.meets_all_iff {shard : ShardCopies} {own : ShardCount} :
    shard.Meets own .all ↔ shard.active = shard.total :=
  ⟨fun | .all hall => hall, .all⟩

theorem ShardCopies.meets_copies_iff {shard : ShardCopies} {own : ShardCount} {n : Nat} :
    shard.Meets own (.copies n) ↔ n ≤ shard.active :=
  ⟨fun | .copies hleast => hleast, .copies⟩

structure IndexRouting.Meets (index : IndexRouting) (count : ShardCount) : Prop where
  primaries : ∀ shard ∈ index.shards, shard.primaryActive = true
  copies : ∀ shard ∈ index.shards, shard.Meets index.waitFor count

namespace ShardCount

variable {count : ShardCount} {s : Snapshot} {index : IndexRouting} {shard : ShardCopies}
  {indices others : List String}

theorem isNone_iff : count.isNone = true ↔ count = .copies 0 := decide_eq_true_iff

theorem enoughCopies_requiredFor_iff :
    (count.requiredFor index).enoughCopies shard = true ↔ shard.Meets index.waitFor count := by
  obtain ⟨replicas, own, shards⟩ := index
  dsimp only
  cases count with
  | all => exact decide_eq_true_iff.trans ShardCopies.meets_all_iff.symm
  | copies n => exact decide_eq_true_iff.trans ShardCopies.meets_copies_iff.symm
  | indexDefault =>
    cases own with
    | all => exact decide_eq_true_iff.trans ⟨.ownAll, fun | .ownAll hall => hall⟩
    | copies n => exact decide_eq_true_iff.trans ⟨.ownCopies, fun | .ownCopies hleast => hleast⟩
    | indexDefault =>
      exact decide_eq_true_iff.trans ⟨.ownOpen, fun | .ownOpen hleast => hleast⟩

theorem enoughInIndex_iff_meets : count.enoughInIndex index = true ↔ index.Meets count := by
  rw [enoughInIndex_iff, IndexRouting.allPrimariesActive, List.all_eq_true]
  constructor
  · rintro ⟨hprimaries, hcopies⟩
    exact ⟨hprimaries, fun shard hshard => enoughCopies_requiredFor_iff.1 (hcopies shard hshard)⟩
  · intro h
    exact ⟨h.primaries,
      fun shard hshard => enoughCopies_requiredFor_iff.2 (h.copies shard hshard)⟩

theorem enoughActive_iff_meets : count.enoughActive s indices = true ↔
    count = .copies 0 ∨
      ∀ name ∈ indices, ∀ index, (name, index) ∈ s.routing.entries → index.Meets count := by
  rw [enoughActive_iff, isNone_iff]
  refine or_congr_right (forall₂_congr fun name _ => forall_congr' fun index => ?_)
  rw [Option.mem_def, Snapshot.index?_eq_some_iff, enoughInIndex_iff_meets]

theorem enoughActive_append : count.enoughActive s (indices ++ others) =
    (count.enoughActive s indices && count.enoughActive s others) := by
  rw [enoughActive, List.all_append, Bool.or_and_distrib_left]
  rfl

/-- Only which of the indices that there are is listed makes a difference. -/
theorem enoughActive_congr
    (hsame : ∀ entry ∈ s.routing.entries, entry.1 ∈ indices ↔ entry.1 ∈ others) :
    count.enoughActive s indices = count.enoughActive s others := by
  rw [Bool.eq_iff_iff, enoughActive_iff_meets, enoughActive_iff_meets]
  refine or_congr_right ⟨?_, ?_⟩
  · intro hmeets name hname index hentry
    exact hmeets name ((hsame _ hentry).2 hname) index hentry
  · intro hmeets name hname index hentry
    exact hmeets name ((hsame _ hentry).1 hname) index hentry

/-- A count is met in a list of indices if it asks for no copy or if every index of the list that
there is meets it. -/
theorem requirement_meaning :
    (∀ (count : ShardCount) (s : Snapshot) (indices : List String),
      count.enoughActive s indices = true ↔
        count = .copies 0 ∨
          ∀ name ∈ indices, ∀ index, (name, index) ∈ s.routing.entries → index.Meets count) ∧
    (∀ (count : ShardCount) (s : Snapshot) (indices others : List String),
      count.enoughActive s (indices ++ others) =
        (count.enoughActive s indices && count.enoughActive s others)) ∧
    ∀ (count : ShardCount) (s : Snapshot) (indices others : List String),
      (∀ entry ∈ s.routing.entries, entry.1 ∈ indices ↔ entry.1 ∈ others) →
        count.enoughActive s indices = count.enoughActive s others :=
  ⟨fun _ _ _ => enoughActive_iff_meets, fun _ _ _ _ => enoughActive_append,
    fun _ _ _ _ => enoughActive_congr⟩

/-- In another order, with a name twice and with one that no index goes by. -/
theorem requirement_meaning_rearranged :
    (∀ entry ∈ underWay.routing.entries,
      entry.1 ∈ ["films", "books", "films"] ↔ entry.1 ∈ ["books", "nowhere", "films"]) ∧
    ShardCount.all.enoughActive underWay ["films", "books", "films"] =
      ShardCount.all.enoughActive underWay ["books", "nowhere", "films"] := by
  have hsame : ∀ entry ∈ underWay.routing.entries,
      entry.1 ∈ ["films", "books", "films"] ↔ entry.1 ∈ ["books", "nowhere", "films"] := by decide
  exact ⟨hsame, requirement_meaning.2.2 _ underWay _ _ hsame⟩

end ShardCount
end ClusterWatch
