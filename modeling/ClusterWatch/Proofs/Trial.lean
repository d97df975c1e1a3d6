import ClusterWatch.Cluster.Snapshot

/-!
A cluster of two, and a third node that may join it, to try statements on.
-/
namespace ClusterWatch.Trial

def home : Node := ⟨⟨"home"⟩, "home", default⟩

def peer : Node := ⟨⟨"peer"⟩, "peer", default⟩

def other : Node := ⟨⟨"other"⟩, "other", default⟩

def alone : Snapshot := (Snapshot.empty ⟨"trial"⟩).withNode home

def together : Snapshot := alone.withNode peer

/-- Nobody is a member, and only the version tells such snapshots apart. -/
def version (n : Int) : Snapshot := { Snapshot.empty ⟨"trial"⟩ with version := n }

end ClusterWatch.Trial
