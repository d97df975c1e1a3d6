import ClusterWatch.Proofs.Readiness.Requirement

/-!
Counts that can be met at all. However the copies of an index are started and its setting is
changed, its shards keep their number and each of them its number of copies. So a count that asks
for more copies than a shard has is never met, and any other is met once all copies are started:
the check of a count against a number of replicas is exact.
-/
namespace ClusterWatch

namespace IndexRouting

/-- What an index that begins with so many unassigned shards can come to be. -/
inductive Attainable (shards replicas : Nat) : IndexRouting → Prop
  | unassigned : Attainable shards replicas (.unassigned shards replicas)
  | startAll {index : IndexRouting} (startedReplicas : Nat) :
      Attainable shards replicas index → Attainable shards replicas (index.startAll startedReplicas)
  | withWaitFor {index : IndexRouting} (count : ShardCount) :
      Attainable shards replicas index → Attainable shards replicas (index.withWaitFor count)

end IndexRouting

/-- A shard with so many replicas, of which any number may be active, but none without the
primary. -/
structure ShardCopies.Regular (replicas : Nat) (shard : ShardCopies) : Prop where
  total : shard.total = replicas + 1
  active : shard.active ≤ shard.total
  primary : shard.primaryActive = true ↔ 1 ≤ shard.active

structure IndexRouting.Regular (shards replicas : Nat) (index : IndexRouting) : Prop where
  length : index.shards.length = shards
  shard : ∀ shard ∈ index.shards, shard.Regular replicas
  setting : index.replicas = replicas

namespace ShardCopies

theorem regular_unassigned (replicas : Nat) : (unassigned replicas).Regular replicas where
  total := rfl
  active := Nat.zero_le _
  primary := by simp [unassigned]

theorem regular_started (replicas startedReplicas : Nat) :
    (started replicas startedReplicas).Regular replicas where
  total := rfl
  active := by
    have hmost := Nat.min_le_right startedReplicas replicas
    simp only [started]
    omega
  primary := by simp [started]

end ShardCopies

namespace IndexRouting

variable {shards replicas : Nat} {index : IndexRouting}

theorem regular_unassigned (shards replicas : Nat) :
    (unassigned shards replicas).Regular shards replicas where
  setting := rfl
  length := List.length_replicate
  shard := by
    intro shard hshard
    rw [List.eq_of_mem_replicate hshard]
    exact ShardCopies.regular_unassigned replicas

theorem Regular.startAll (h : index.Regular shards replicas) (startedReplicas : Nat) :
    (index.startAll startedReplicas).Regular shards replicas where
  setting := h.setting
  length := (List.length_map _).trans h.length
  shard := by
    intro shard hshard
    obtain ⟨_, -, rfl⟩ := List.mem_map.1 hshard
    rw [h.setting]
    exact ShardCopies.regular_started replicas startedReplicas

theorem Regular.withWaitFor (h : index.Regular shards replicas) (count : ShardCount) :
    (index.withWaitFor count).Regular shards replicas :=
  ⟨h.length, h.shard, h.setting⟩

theorem Attainable.regular (h : Attainable shards replicas index) :
    index.Regular shards replicas := by
  induction h with
  | unassigned => exact regular_unassigned shards replicas
  | startAll startedReplicas _ ih => exact ih.startAll startedReplicas
  | withWaitFor count _ ih => exact ih.withWaitFor count

/-- All copies that there are have been started. -/
theorem startAll_active (h : index.Regular shards replicas) :
    ∀ shard ∈ (index.startAll replicas).shards, shard = ⟨true, replicas + 1, replicas + 1⟩ := by
  intro shard hshard
  obtain ⟨_, -, rfl⟩ := List.mem_map.1 hshard
  rw [h.setting, ShardCopies.started, Nat.min_self, Nat.add_comm 1 replicas]

end IndexRouting

namespace ShardCount

variable {count : ShardCount} {shards replicas n : Nat} {index : IndexRouting}

theorem validate_copies_iff : (copies n).validate replicas = true ↔ n ≤ replicas + 1 :=
  decide_eq_true_iff

/-- In an index that has shards, no more copies are found active than a shard has. -/
theorem validate_of_meets (hshards : 1 ≤ shards) (h : index.Regular shards replicas)
    (hmeets : index.Meets count) : count.validate replicas = true := by
  cases count with
  | indexDefault => rfl
  | all => rfl
  | copies n =>
    have hsome : 0 < index.shards.length := by
      rw [h.length]
      exact hshards
    obtain ⟨shard, hshard⟩ := List.exists_mem_of_length_pos hsome
    have hregular := h.shard shard hshard
    have hmost : shard.active ≤ replicas + 1 := hregular.total ▸ hregular.active
    have hleast : n ≤ shard.active :=
      ShardCopies.meets_copies_iff.1 (hmeets.copies shard hshard)
    exact validate_copies_iff.2 (Nat.le_trans hleast hmost)

/-- Where all copies are active, every count is met that does not ask for more than those. -/
theorem meets_startAll (h : index.Regular shards replicas)
    (hown : index.waitFor.validate replicas = true) (hcount : count.validate replicas = true) :
    (index.startAll replicas).Meets count := by
  have hactive := IndexRouting.startAll_active h
  refine ⟨fun shard hshard => ?_, fun shard hshard => ?_⟩
  · rw [hactive shard hshard]
  · rw [hactive shard hshard]
    show ShardCopies.Meets _ index.waitFor count
    cases count with
    | all => exact .all rfl
    | copies n => exact .copies (validate_copies_iff.1 hcount)
    | indexDefault =>
      cases hsetting : index.waitFor with
      | all => exact .ownAll rfl
      | copies n => exact .ownCopies (validate_copies_iff.1 (hsetting ▸ hown))
      | indexDefault => exact .ownOpen (Nat.le_add_left 1 replicas)

/-- In a list of its own, an index that has just been put into the snapshot is all that counts. -/
theorem enoughActive_withIndex_iff (s : Snapshot) (name : String) :
    count.enoughActive (s.withIndex name index) [name] = true ↔
      count = .copies 0 ∨ index.Meets count := by
  rw [enoughActive_iff_meets, List.forall_mem_singleton]
  refine or_congr_right ⟨fun hmeets => hmeets index Table.mem_insert_self, ?_⟩
  intro hmeets other hother
  rcases Table.mem_insert.1 hother with heq | ⟨-, hne⟩
  · cases heq
    exact hmeets
  · exact absurd rfl hne

/-- Indices keep their shape, and the counts that pass the check are those that an index of that
shape, with a setting that passes it too, can come to meet. -/
theorem counts_attainable (shards replicas : Nat) (hshards : 1 ≤ shards) :
    (∀ index, IndexRouting.Attainable shards replicas index →
      index.shards.length = shards ∧
        ∀ shard ∈ index.shards, shard.active ≤ shard.total ∧ shard.total = replicas + 1 ∧
          (shard.primaryActive = true ↔ 1 ≤ shard.active)) ∧
    ∀ (count : ShardCount) (s : Snapshot) (name : String),
      count.validate replicas = true ↔
        ∃ index, IndexRouting.Attainable shards replicas index ∧
          index.waitFor.validate replicas = true ∧
            count.enoughActive (s.withIndex name index) [name] = true := by
  refine ⟨fun index hindex => ?_, fun count s name => ⟨fun hcount => ?_, ?_⟩⟩
  · have hregular := hindex.regular
    refine ⟨hregular.length, fun shard hshard => ?_⟩
    have h := hregular.shard shard hshard
    exact ⟨h.active, h.total, h.primary⟩
  · have hwait : (IndexRouting.unassigned shards replicas).waitFor.validate replicas = true :=
      validate_copies_iff.2 (Nat.le_add_left 1 replicas)
    have hmeets := meets_startAll (IndexRouting.regular_unassigned shards replicas) hwait hcount
    exact ⟨_, .startAll replicas .unassigned, hwait,
      (enoughActive_withIndex_iff s name).2 (.inr hmeets)⟩
  · rintro ⟨index, hindex, -, henough⟩
    rcases (enoughActive_withIndex_iff s name).1 henough with rfl | hmeets
    · exact validate_copies_iff.2 (Nat.zero_le _)
    · exact validate_of_meets hshards hindex.regular hmeets

/-- Three copies of each of two shards are as many as two replicas allow, and a fourth is not to be
had. -/
theorem counts_attainable_two_replicas :
    1 ≤ 2 ∧
      (∃ index, IndexRouting.Attainable 2 2 index ∧ index.waitFor.validate 2 = true ∧
        (copies 3).enoughActive ((Snapshot.empty ⟨"trial"⟩).withIndex "books" index) ["books"] =
          true) ∧
      ¬ ∃ index, IndexRouting.Attainable 2 2 index ∧ index.waitFor.validate 2 = true ∧
        (copies 4).enoughActive ((Snapshot.empty ⟨"trial"⟩).withIndex "books" index) ["books"] =
          true := by
  have hexact := (counts_attainable 2 2 (by decide)).2
  refine ⟨by decide, (hexact (copies 3) _ _).1 (by decide), fun hmet => ?_⟩
  exact absurd ((hexact (copies 4) _ _).2 hmet) (by decide)

end ShardCount
end ClusterWatch
