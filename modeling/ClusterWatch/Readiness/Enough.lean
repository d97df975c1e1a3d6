import ClusterWatch.Cluster.Snapshot

/-!
Whether enough copies of every shard of some indices are active. An index that is not in
the snapshot holds nobody up: it was deleted, and there is nothing left to wait for.
-/
namespace ClusterWatch.ShardCount

/-- The count in force for an index: its own setting where the choice is left to it. -/
def requiredFor (index : IndexRouting) : ShardCount → ShardCount
  | .indexDefault =>
      match index.waitFor with
      | .indexDefault => .copies 1
      | configured => configured
  | explicit => explicit

def enoughCopies (shard : ShardCopies) : ShardCount → Bool
  | .all => shard.active = shard.total
  | .copies n => n ≤ shard.active
  | .indexDefault => 1 ≤ shard.active

def enoughInIndex (count : ShardCount) (index : IndexRouting) : Bool :=
  index.allPrimariesActive &&
    index.shards.all (fun shard => (count.requiredFor index).enoughCopies shard)

def enoughActive (count : ShardCount) (s : Snapshot) (indices : List String) : Bool :=
  count.isNone || indices.all (fun name => (s.index? name).all count.enoughInIndex)

end ClusterWatch.ShardCount
