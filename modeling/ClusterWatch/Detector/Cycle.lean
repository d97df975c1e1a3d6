import ClusterWatch.Duration
import ClusterWatch.Membership.Node

/-!
Probe cycles. Each node under watch has one entry, its cycle, and cycles are numbered in
the order in which they begin, so that what is left of an earlier cycle of a node is never
taken for the present one.
-/
namespace ClusterWatch

structure Generation where
  number : Nat
deriving DecidableEq, Repr, Inhabited

namespace Generation

def text (g : Generation) : String := "g" ++ toString g.number

def newerThan (g h : Generation) : Bool := h.number < g.number

end Generation

inductive Phase where
  /-- The first ping has not been sent. -/
  | idle
  | awaiting
  /-- The last ping was acknowledged; the cycle rests. -/
  | backoff
deriving DecidableEq, Repr, Inhabited

def Phase.text : Phase → String
  | .idle => "idle"
  | .awaiting => "awaiting"
  | .backoff => "backoff"

structure Cycle where
  node : Node
  generation : Generation
  /-- Failed attempts since the last acknowledged ping. -/
  failures : Nat
  phase : Phase
deriving DecidableEq, Repr, Inhabited

namespace Cycle

def begin (node : Node) (generation : Generation) : Cycle := ⟨node, generation, 0, .idle⟩

def key (c : Cycle) : String := c.node.id.text

end Cycle

/-- Why a cycle ended. -/
inductive Removal where
  | left
  | stopped
  | unresponsive
  | lostByPing
  | lostByEvent
deriving DecidableEq, Repr

/-- What a node is reported for. -/
inductive FailureReason where
  | unresponsive (attempts : Nat) (limit : Duration)
  | disconnected
  | unreachable
deriving DecidableEq, Repr

def FailureReason.text : FailureReason → String
  | .unresponsive attempts limit =>
      "failed to ping, tried [" ++ toString attempts ++ "] times, each with maximum [" ++
        limit.text ++ "] timeout"
  | .disconnected => "transport disconnected"
  | .unreachable => "transport disconnected (with verified connect)"

end ClusterWatch
