import ClusterWatch.Cluster.Supplier

/-!
Observers of the cluster state. An observer remembers the last snapshot it has seen, and
looks out for a later one that meets a condition. Of several snapshots in between it sees
the latest only. A snapshot that is there is seen before the supplier's closing is noticed,
and either of them before the time is up.
-/
namespace ClusterWatch

structure Observer where
  subscription : Subscription
  observed : Snapshot
deriving DecidableEq

inductive Sighting where
  | matched (s : Snapshot)
  | timedOut
  | closed
  /-- There is nothing to tell yet. -/
  | waiting
deriving DecidableEq

namespace Observer

def start (supplier : Supplier) : Observer :=
  ⟨supplier.catchUp supplier.subscribe, supplier.current⟩

private def unseen (supplier : Supplier) (expired : Bool) : Sighting :=
  if supplier.closed then .closed else if expired then .timedOut else .waiting

/-- One look, after which nothing that has been published is left unseen. -/
def look (o : Observer) (supplier : Supplier) (condition : Snapshot → Bool) (expired : Bool) :
    Sighting × Observer :=
  match supplier.poll o.subscription with
  | (.changed s, subscription) =>
      (if condition s then .matched s else unseen supplier expired, ⟨subscription, s⟩)
  | (_, subscription) => (unseen supplier expired, ⟨subscription, o.observed⟩)

end Observer

/-- Conditions on a snapshot that are looked out for. -/
inductive Condition where
  | any
  | never
  | versionAtLeast (n : Int)
  | versionIs (n : Int)
  | hasNode (id : NodeId)
  | lacksNode (id : NodeId)
  | coordinator (id : NodeId)
  | hasIndex (name : String)
  | primariesActive (name : String)
deriving DecidableEq, Repr

def Condition.holds : Condition → Snapshot → Bool
  | .any, _ => true
  | .never, _ => false
  | .versionAtLeast n, s => n ≤ s.version
  | .versionIs n, s => s.version = n
  | .hasNode id, s => s.hasNode id
  | .lacksNode id, s => !s.hasNode id
  | .coordinator id, s => s.coordinator = some id
  | .hasIndex name, s => (s.index? name).isSome
  | .primariesActive name, s => (s.index? name).any IndexRouting.allPrimariesActive

end ClusterWatch
