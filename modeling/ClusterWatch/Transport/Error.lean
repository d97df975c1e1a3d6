import ClusterWatch.Duration
import ClusterWatch.Ping.Request

/-!
Why a ping was not acknowledged. A lost connection is told apart from all other causes: it
does not count against the attempts that a node is allowed.
-/
namespace ClusterWatch

inductive TransportError where
  | connectFailed (node : NodeId) (reason : String)
  | timeout (node : NodeId) (limit : Duration)
  /-- The receiver refused the ping and said why. -/
  | remote (node : NodeId) (message : String)
  | io (detail : String)
  | serialization (detail : String)
  | closed
deriving DecidableEq, Repr

namespace TransportError

def message : TransportError → String
  | .connectFailed node reason => "[" ++ node.text ++ "] connect failed: " ++ reason
  | .timeout node limit =>
      "[" ++ node.text ++ "][" ++ PingRequest.action ++ "] request timed out after " ++
        limit.exactText
  | .remote node message => "[" ++ node.text ++ "] remote error: " ++ message
  | .io detail => "transport i/o error: " ++ detail
  | .serialization detail => "transport serialization error: " ++ detail
  | .closed => "transport closed"

def isDisconnect : TransportError → Bool
  | .connectFailed .. => true
  | _ => false

end TransportError
end ClusterWatch
