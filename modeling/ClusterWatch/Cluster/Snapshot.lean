import ClusterWatch.Cluster.Routing
import ClusterWatch.Membership.Node

/-!
One version of what a cluster looks like: its members, the member that coordinates it and
the routing of every index. Snapshots are values; the operations give changed copies.
-/
namespace ClusterWatch

abbrev RoutingTable := Table (String × IndexRouting) Prod.fst

structure Snapshot where
  version : Int
  cluster : ClusterName
  coordinator : Option NodeId
  nodes : Membership
  routing : RoutingTable
deriving DecidableEq, Inhabited

namespace Snapshot

/-- The version of a cluster of which nothing has been heard yet. -/
def unknownVersion : Int := -1

def empty (cluster : ClusterName) : Snapshot :=
  ⟨unknownVersion, cluster, none, .empty, .empty⟩

/-- The version after this one; the first version that is known is 1. -/
def next (s : Snapshot) : Snapshot := { s with version := max s.version 0 + 1 }

def withVersion (s : Snapshot) (version : Int) : Snapshot := { s with version }

def withNode (s : Snapshot) (node : Node) : Snapshot :=
  { s with nodes := s.nodes.insert node }

def withoutNode (s : Snapshot) (id : NodeId) : Snapshot :=
  { s with nodes := s.nodes.erase id.text }

def withCoordinator (s : Snapshot) (id : NodeId) : Snapshot :=
  { s with coordinator := some id }

def withIndex (s : Snapshot) (name : String) (index : IndexRouting) : Snapshot :=
  { s with routing := s.routing.insert (name, index) }

def hasNode (s : Snapshot) (id : NodeId) : Bool := s.nodes.contains id.text

def index? (s : Snapshot) (name : String) : Option IndexRouting :=
  (s.routing.find? name).map Prod.snd

/-- One edit of a snapshot on the way to its successor. -/
inductive Edit where
  | next
  | version (n : Int)
  | withNode (node : Node)
  | withoutNode (id : NodeId)
  | coordinator (id : NodeId)
  | withIndex (name : String) (index : IndexRouting)
deriving DecidableEq

def edit (s : Snapshot) : Edit → Snapshot
  | .next => s.next
  | .version n => s.withVersion n
  | .withNode node => s.withNode node
  | .withoutNode id => s.withoutNode id
  | .coordinator id => s.withCoordinator id
  | .withIndex name index => s.withIndex name index

def editAll (s : Snapshot) (edits : List Edit) : Snapshot := edits.foldl edit s

/-- A snapshot to come: one given in full, or the present one with edits. -/
inductive Draft where
  | given (s : Snapshot)
  | edited (edits : List Edit)
deriving DecidableEq

def Draft.over (current : Snapshot) : Draft → Snapshot
  | .given s => s
  | .edited edits => current.editAll edits

end Snapshot
end ClusterWatch
