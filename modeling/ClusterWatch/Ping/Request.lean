import ClusterWatch.Membership.Node

/-!
Pings. A ping says whom its sender means to reach and what cluster the sender belongs to;
its receiver acknowledges it, or refuses it because it is someone else or part of another
cluster. Senders that give no cluster, or an empty name, are let through.
-/
namespace ClusterWatch

structure PingRequest where
  target : NodeId
  cluster : Option ClusterName
  /-- The node that runs the probe. -/
  coordinator : NodeId
  version : Int
deriving DecidableEq, Repr, Inhabited

namespace PingRequest

/-- What a ping is called in a message. -/
def action : String := "internal:discovery/zen/fd/ping"

end PingRequest

inductive PingRefusal where
  | targetMismatch (target self : NodeId)
  | clusterMismatch (received self : ClusterName)
  | shuttingDown
deriving DecidableEq, Repr

namespace PingRefusal

def message : PingRefusal → String
  | .targetMismatch target self =>
      "Got pinged as node [" ++ target.text ++ "], but I am node [" ++ self.text ++ "]"
  | .clusterMismatch received self =>
      "Got pinged with cluster name [" ++ received.text ++ "], but I'm part of cluster [" ++
        self.text ++ "]"
  | .shuttingDown => "fault detection notifications rejected, local node is shutting down"

/-- Whether the ping reached the wrong receiver, rather than one that is going away. -/
def isProtocolMismatch : PingRefusal → Bool
  | .targetMismatch .. => true
  | .clusterMismatch .. => true
  | .shuttingDown => false

end PingRefusal

namespace PingRequest

/-- The target is checked before the cluster. -/
def refusal? (request : PingRequest) (self : NodeId) (cluster : ClusterName) :
    Option PingRefusal :=
  if request.target ≠ self then some (.targetMismatch request.target self)
  else match request.cluster with
    | none => none
    | some received =>
        if received.text = "" ∨ received = cluster then none
        else some (.clusterMismatch received cluster)

end PingRequest
end ClusterWatch
