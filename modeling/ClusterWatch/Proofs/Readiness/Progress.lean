import Mathlib.Data.List.Forall2
import ClusterWatch.Readiness.Enough

/-!
Requirements that stay met. As a cluster gets on, copies of shards are started and indices are
deleted, and whatever was met before is met still. Of two numbers of copies the smaller one is met
where the larger one is, and all copies are as good as any number of them that there are.
-/
namespace ClusterWatch

namespace ShardCopies

/-- No more copies are active than there are. -/
def Counted (shard : ShardCopies) : Prop := shard.active ≤ shard.total

/-- Copies may have been started in between, and the primary stays active. -/
structure Advances (before after : ShardCopies) : Prop where
  total : after.total = before.total
  primary : before.primaryActive = true → after.primaryActive = true
  active : before.active ≤ after.active

instance (shard : ShardCopies) : Decidable shard.Counted :=
  inferInstanceAs (Decidable (_ ≤ _))

instance (before after : ShardCopies) : Decidable (before.Advances after) :=
  decidable_of_iff (after.total = before.total ∧
      (before.primaryActive = true → after.primaryActive = true) ∧ before.active ≤ after.active)
    ⟨fun ⟨total, primary, active⟩ => ⟨total, primary, active⟩,
      fun h => ⟨h.total, h.primary, h.active⟩⟩

end ShardCopies

namespace IndexRouting

/-- The same shards, in the same order, each at least as far as it was. -/
structure Advances (before after : IndexRouting) : Prop where
  waitFor : after.waitFor = before.waitFor
  shards : List.Forall₂ ShardCopies.Advances before.shards after.shards

instance (before after : IndexRouting) : Decidable (before.Advances after) :=
  decidable_of_iff (after.waitFor = before.waitFor ∧
      List.Forall₂ ShardCopies.Advances before.shards after.shards)
    ⟨fun ⟨waitFor, shards⟩ => ⟨waitFor, shards⟩, fun h => ⟨h.waitFor, h.shards⟩⟩

/-- Every shard was there before. -/
theorem Advances.exists_before {before after : IndexRouting} (h : before.Advances after)
    {shard : ShardCopies} (hshard : shard ∈ after.shards) :
    ∃ earlier ∈ before.shards, earlier.Advances shard := by
  obtain ⟨i, hi, rfl⟩ := List.mem_iff_getElem.1 hshard
  have hbefore : i < before.shards.length := h.shards.length_eq ▸ hi
  exact ⟨before.shards[i], List.getElem_mem hbefore, h.shards.get hbefore hi⟩

theorem Advances.allPrimariesActive {before after : IndexRouting} (h : before.Advances after)
    (hprimaries : before.allPrimariesActive = true) : after.allPrimariesActive = true := by
  refine List.all_eq_true.2 fun shard hshard => ?_
  obtain ⟨earlier, hearlier, hadvances⟩ := h.exists_before hshard
  exact hadvances.primary (List.all_eq_true.1 hprimaries earlier hearlier)

end IndexRouting

namespace Snapshot

theorem index?_eq_some_iff {s : Snapshot} {name : String} {index : IndexRouting} :
    s.index? name = some index ↔ (name, index) ∈ s.routing.entries := by
  constructor
  · intro h
    obtain ⟨⟨key, found⟩, hfound, rfl⟩ := Option.map_eq_some_iff.1 h
    obtain rfl : key = name := Table.key_of_find? hfound
    exact Table.mem_of_find? hfound
  · intro h
    exact congrArg (Option.map Prod.snd) (Table.mem_iff_find?.1 h)

/-- No shard of any index has more active copies than it has copies. -/
def Counted (s : Snapshot) : Prop :=
  ∀ entry ∈ s.routing.entries, ∀ shard ∈ entry.2.shards, shard.Counted

/-- Indices may have been deleted in between, and none has come or gone back. -/
def Advances (before after : Snapshot) : Prop :=
  ∀ entry ∈ after.routing.entries, ∃ index ∈ before.index? entry.1, index.Advances entry.2

instance (s : Snapshot) : Decidable s.Counted := inferInstanceAs (Decidable (∀ _ ∈ _, _))

instance (before after : Snapshot) : Decidable (before.Advances after) :=
  inferInstanceAs (Decidable (∀ _ ∈ _, _))

end Snapshot

namespace ShardCount

variable {count other : ShardCount} {s before after : Snapshot} {index later : IndexRouting}
  {indices : List String} {m n : Nat}

theorem enoughCopies_advances {shard next : ShardCopies} (h : shard.Advances next)
    (counted : next.Counted) (henough : count.enoughCopies shard = true) :
    count.enoughCopies next = true := by
  have htotal := h.total
  have hactive := h.active
  cases count with
  | all =>
    -- All were active, none can be added to them, and none has been lost.
    have hall : shard.active = shard.total := of_decide_eq_true henough
    have hmost : next.active ≤ next.total := counted
    exact decide_eq_true (by omega)
  | copies n =>
    have hleast : n ≤ shard.active := of_decide_eq_true henough
    exact decide_eq_true (Nat.le_trans hleast hactive)
  | indexDefault =>
    have hleast : 1 ≤ shard.active := of_decide_eq_true henough
    exact decide_eq_true (Nat.le_trans hleast hactive)

theorem requiredFor_congr (h : later.waitFor = index.waitFor) (count : ShardCount) :
    count.requiredFor later = count.requiredFor index := by
  unfold requiredFor
  rw [h]

theorem enoughInIndex_iff : count.enoughInIndex index = true ↔
    index.allPrimariesActive = true ∧
      ∀ shard ∈ index.shards, (count.requiredFor index).enoughCopies shard = true := by
  rw [enoughInIndex, Bool.and_eq_true, List.all_eq_true]

theorem enoughInIndex_advances (h : index.Advances later)
    (counted : ∀ shard ∈ later.shards, shard.Counted)
    (henough : count.enoughInIndex index = true) : count.enoughInIndex later = true := by
  obtain ⟨hprimaries, hcopies⟩ := enoughInIndex_iff.1 henough
  refine enoughInIndex_iff.2 ⟨h.allPrimariesActive hprimaries, fun shard hshard => ?_⟩
  obtain ⟨earlier, hearlier, hadvances⟩ := h.exists_before hshard
  rw [requiredFor_congr h.waitFor]
  exact enoughCopies_advances hadvances (counted shard hshard) (hcopies earlier hearlier)

/-- In one and the same index, what counts is what is required of each shard. -/
theorem enoughInIndex_imp
    (himp : ∀ shard ∈ index.shards, (count.requiredFor index).enoughCopies shard = true →
      (other.requiredFor index).enoughCopies shard = true)
    (henough : count.enoughInIndex index = true) : other.enoughInIndex index = true := by
  obtain ⟨hprimaries, hcopies⟩ := enoughInIndex_iff.1 henough
  exact enoughInIndex_iff.2
    ⟨hprimaries, fun shard hshard => himp shard hshard (hcopies shard hshard)⟩

theorem enoughActive_iff : count.enoughActive s indices = true ↔
    count.isNone = true ∨
      ∀ name ∈ indices, ∀ index ∈ s.index? name, count.enoughInIndex index = true := by
  simp only [enoughActive, Bool.or_eq_true, List.all_eq_true, Option.all_eq_true_iff_get,
    Option.mem_def]
  refine or_congr_right (forall₂_congr fun name _ => ?_)
  cases s.index? name <;> simp

/-- One requirement follows from another if it does so in every index that is listed. -/
theorem enoughActive_imp (hnone : count.isNone = true → other.isNone = true)
    (himp : ∀ name ∈ indices, ∀ later ∈ after.index? name, ∃ index ∈ before.index? name,
      count.enoughInIndex index = true → other.enoughInIndex later = true)
    (henough : count.enoughActive before indices = true) :
    other.enoughActive after indices = true := by
  refine enoughActive_iff.2 ((enoughActive_iff.1 henough).imp hnone ?_)
  intro hmet name hname later hlater
  obtain ⟨index, hindex, himp⟩ := himp name hname later hlater
  exact himp (hmet name hname index hindex)

theorem enoughActive_advances (counted : after.Counted) (h : before.Advances after)
    (henough : count.enoughActive before indices = true) :
    count.enoughActive after indices = true := by
  refine enoughActive_imp id (fun name _ later hlater => ?_) henough
  have hentry := Snapshot.index?_eq_some_iff.1 hlater
  obtain ⟨index, hindex, hadvances⟩ := h _ hentry
  exact ⟨index, hindex, enoughInIndex_advances hadvances (counted _ hentry)⟩

theorem enoughActive_fewer (hle : m ≤ n)
    (henough : (ShardCount.copies n).enoughActive s indices = true) :
    (ShardCount.copies m).enoughActive s indices = true := by
  refine enoughActive_imp (fun hnone => ?_) (fun name _ index hindex => ⟨index, hindex, ?_⟩) henough
  · obtain rfl : n = 0 := copies.inj (of_decide_eq_true hnone)
    obtain rfl := Nat.le_zero.1 hle
    exact hnone
  · refine enoughInIndex_imp fun shard _ hcopies => ?_
    have hleast : n ≤ shard.active := of_decide_eq_true hcopies
    exact decide_eq_true (Nat.le_trans hle hleast)

theorem enoughActive_of_all
    (hwithin : ∀ name ∈ indices, ∀ index ∈ s.index? name, ∀ shard ∈ index.shards, n ≤ shard.total)
    (henough : ShardCount.all.enoughActive s indices = true) :
    (ShardCount.copies n).enoughActive s indices = true := by
  refine enoughActive_imp (fun hnone => ?_) (fun name hname index hindex => ⟨index, hindex, ?_⟩)
    henough
  · cases of_decide_eq_true hnone
  · refine enoughInIndex_imp fun shard hshard hcopies => ?_
    have hall : shard.active = shard.total := of_decide_eq_true hcopies
    exact decide_eq_true (hall ▸ hwithin name hname index hindex shard hshard)

/-- What is met stays met as the cluster gets on, and with it whatever asks for less. -/
theorem enough_stays_enough :
    (∀ before after : Snapshot, after.Counted → before.Advances after →
      ∀ (count : ShardCount) (indices : List String),
        count.enoughActive before indices = true → count.enoughActive after indices = true) ∧
    ∀ (s : Snapshot) (indices : List String),
      (∀ m n, m ≤ n → (copies n).enoughActive s indices = true →
        (copies m).enoughActive s indices = true) ∧
      ∀ n, (∀ name ∈ indices, ∀ index ∈ s.index? name, ∀ shard ∈ index.shards, n ≤ shard.total) →
        ShardCount.all.enoughActive s indices = true →
          (copies n).enoughActive s indices = true :=
  ⟨fun _ _ counted advances _ _ => enoughActive_advances counted advances,
    fun _ _ => ⟨fun _ _ => enoughActive_fewer, fun _ => enoughActive_of_all⟩⟩

section Trial

/-- Two indices of which one asks for all copies and one leaves the choice open, and a third. -/
def underWay : Snapshot :=
  (((Snapshot.empty ⟨"trial"⟩).next.withIndex "books"
    ⟨2, .indexDefault, [⟨true, 2, 3⟩, ⟨true, 1, 3⟩]⟩).withIndex "films"
    ⟨1, .all, [⟨true, 2, 2⟩]⟩).withIndex "drafts" ⟨0, .copies 1, [⟨true, 1, 1⟩]⟩

/-- More copies of one index have been started, and another one has been deleted. -/
def furtherOn : Snapshot :=
  ((Snapshot.empty ⟨"trial"⟩).withVersion 5 |>.withIndex "books"
    ⟨2, .indexDefault, [⟨true, 3, 3⟩, ⟨true, 2, 3⟩]⟩).withIndex "films" ⟨1, .all, [⟨true, 2, 2⟩]⟩

theorem enough_stays_enough_further_on :
    furtherOn.Counted ∧ underWay.Advances furtherOn ∧
      indexDefault.enoughActive underWay ["drafts", "films", "books"] = true ∧
      indexDefault.enoughActive furtherOn ["drafts", "films", "books"] = true ∧
      ShardCount.all.enoughActive underWay ["films", "drafts", "nowhere"] = true ∧
      (copies 1).enoughActive underWay ["films", "drafts", "nowhere"] = true ∧
      (copies 0).enoughActive underWay ["films", "drafts", "nowhere"] = true := by
  have hcounted : furtherOn.Counted := by decide
  have hadvances : underWay.Advances furtherOn := by decide
  have hdefault : indexDefault.enoughActive underWay ["drafts", "films", "books"] = true := by
    decide
  have hall : ShardCount.all.enoughActive underWay ["films", "drafts", "nowhere"] = true := by
    decide
  have hone := (enough_stays_enough.2 underWay _).2 1 (by decide) hall
  exact ⟨hcounted, hadvances, hdefault,
    enough_stays_enough.1 underWay furtherOn hcounted hadvances _ _ hdefault, hall, hone,
    (enough_stays_enough.2 underWay _).1 0 1 (by decide) hone⟩

end Trial

end ShardCount
end ClusterWatch
