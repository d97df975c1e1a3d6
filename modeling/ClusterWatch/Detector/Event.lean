import ClusterWatch.Transport.Link
import ClusterWatch.Listener.Bulletin

/-!
What happens at a detector, one event at a time. The list of events, each with its time, is
the detector's history; pings sent, reports made and news handed over are read off it.
-/
namespace ClusterWatch

inductive Event where
  /-- The membership to follow from here on. -/
  | reconciled (nodes : Membership)
  | stopped
  /-- The connection to the node is said to be lost, by someone directly or by the transport. -/
  | disconnected (node : Node)
  | installed (node : Node) (generation : Generation)
  | removed (node : Node) (generation : Generation) (cause : Removal)
  | pinged (node : Node) (generation : Generation) (request : PingRequest)
  | answered (id : NodeId) (generation : Generation) (outcome : Outcome)
  | abandoned (id : NodeId) (generation : Generation)
  /-- An attempt to connect begins, on account of the cycle that was lost. -/
  | connecting (node : Node) (lost : Generation)
  | connected (node : Node) (lost : Generation) (outcome : Outcome)
  /-- A failure is reported; the report is taken unless the bulletin has been shut. -/
  | reported (node : Node) (generation : Generation) (reason : FailureReason) (taken : Bool)
  /-- A piece of news is handed over to whoever is registered. -/
  | handed (notice : Notice)
  | told (listener : Listener) (notice : Notice)
deriving DecidableEq

/-- Events with their times, latest first. -/
abbrev History := List (Nat × Event)

namespace Event

/-- Whom the event sends a ping to. -/
def pingSentTo? : Event → Option NodeId
  | .pinged node _ _ => some node.id
  | _ => none

/-- Whose ping the event ends, by an answer or because nobody waits for one any more. -/
def pingEndedTo? : Event → Option NodeId
  | .answered id _ _ => some id
  | .abandoned id _ => some id
  | _ => none

end Event

namespace History

/-- Pings to one node: how many were sent, how many have ended, the most at any one time. -/
structure Tally where
  sent : Nat
  ended : Nat
  peak : Nat
deriving DecidableEq, Repr

namespace Tally

def inFlight (t : Tally) : Nat := t.sent - t.ended

def count (id : NodeId) (event : Event) (t : Tally) : Tally :=
  let sent := if event.pingSentTo? = some id then t.sent + 1 else t.sent
  let ended := if event.pingEndedTo? = some id then t.ended + 1 else t.ended
  ⟨sent, ended, max t.peak (sent - ended)⟩

end Tally

def tally (h : History) (id : NodeId) : Tally :=
  h.foldr (fun entry t => t.count id entry.2) ⟨0, 0, 0⟩

/-- The nodes that were ever pinged. -/
def pinged (h : History) : List NodeId :=
  (h.filterMap fun entry => entry.2.pingSentTo?).eraseDups

end History
end ClusterWatch
