import ClusterWatch.Cluster.ShardCount

/-!
Where the shards of an index stand. Every shard has one primary copy and as many replicas
as the index is set to; a copy is active once it has been started.
-/
namespace ClusterWatch

structure ShardCopies where
  primaryActive : Bool
  /-- Started copies, the primary among them. -/
  active : Nat
  /-- All copies, started or not. -/
  total : Nat
deriving DecidableEq, Repr, Inhabited

namespace ShardCopies

def unassigned (replicas : Nat) : ShardCopies := ⟨false, 0, replicas + 1⟩

/-- No more replicas are started than there are. -/
def started (replicas startedReplicas : Nat) : ShardCopies :=
  ⟨true, 1 + min startedReplicas replicas, replicas + 1⟩

end ShardCopies

structure IndexRouting where
  replicas : Nat
  /-- What a count left to the index stands for. -/
  waitFor : ShardCount
  shards : List ShardCopies
deriving DecidableEq, Repr, Inhabited

namespace IndexRouting

def unassigned (shards replicas : Nat) : IndexRouting :=
  ⟨replicas, .copies 1, List.replicate shards (.unassigned replicas)⟩

def withWaitFor (index : IndexRouting) (count : ShardCount) : IndexRouting :=
  { index with waitFor := count }

def startAll (index : IndexRouting) (startedReplicas : Nat) : IndexRouting :=
  { index with shards := index.shards.map fun _ => .started index.replicas startedReplicas }

def allPrimariesActive (index : IndexRouting) : Bool :=
  index.shards.all ShardCopies.primaryActive

end IndexRouting
end ClusterWatch
