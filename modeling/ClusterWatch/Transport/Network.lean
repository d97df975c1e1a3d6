import ClusterWatch.Transport.Correspondence

/-!
Ends of sockets, and the datagrams between them. A datagram that is under way may be delivered at
any time, whatever was sent before it; it may be lost, and it may be doubled. Others may turn up
that no end has sent. An end that answers a datagram sends its reply to where the datagram came
from, though its socket may fail to take it.
-/
namespace ClusterWatch

structure Datagram where
  source : Net.SocketAddress
  target : Net.SocketAddress
  bytes : Wire.Bytes
deriving DecidableEq, Repr

/-- What goes back for a datagram that has come in, if anything does. -/
def Endpoint.reply? {σ : Type} (e : Endpoint)
    (handler : Option (PingRequest → Except PingRefusal σ)) (d : Datagram) : Option Datagram :=
  match (e.receive handler d.bytes d.source).2 with
  | .answered bytes _ => some ⟨d.target, d.source, bytes⟩
  | _ => none

structure Network where
  /-- Each end at its own address. -/
  ends : Net.SocketAddress → Correspondence
  underWay : List Datagram

namespace Network

inductive Action where
  | call (address : Net.SocketAddress) (node : NodeId) (target : Net.SocketAddress)
      (ping : PingRequest) (limit : Duration)
  | move (address : Net.SocketAddress) (number : Nat) (move : Call.Move)
  /-- A datagram gets to its target, and the socket there may take a reply. -/
  | deliver (d : Datagram) (handler : Option Correspondence.Handler) (taken : Bool)
  | double (d : Datagram)
  | lose (d : Datagram)
  | forge (d : Datagram)

def start : Network := ⟨fun _ => .start, []⟩

def put (n : Network) (address : Net.SocketAddress) (c : Correspondence) : Network :=
  { n with ends := fun other => if other = address then c else n.ends other }

def send (n : Network) (datagrams : List Datagram) : Network :=
  { n with underWay := n.underWay ++ datagrams }

def take (n : Network) (d : Datagram) : Network := { n with underWay := n.underWay.erase d }

/-- What a move of a call puts under way. -/
def outgoing (source : Net.SocketAddress) (call : Call) : Call.Move → List Datagram
  | .sent => [⟨source, call.address, call.bytes⟩]
  | _ => []

/-- The reply to a datagram, if there is one and the socket takes it. -/
def replies (n : Network) (d : Datagram) (handler : Option Correspondence.Handler)
    (taken : Bool) : List Datagram :=
  (((n.ends d.target).endpoint.reply? handler d).filter fun reply =>
    taken && Endpoint.sendable reply.bytes).toList

def deliver (n : Network) (d : Datagram) (handler : Option Correspondence.Handler)
    (taken : Bool) : Network :=
  ((n.take d).put d.target ((n.ends d.target).receive handler d.bytes d.source)).send
    (n.replies d handler taken)

def act (n : Network) : Action → Option Network
  | .call address node target ping limit =>
      some (n.put address ((n.ends address).call node target ping limit))
  | .move address number move =>
      ((n.ends address).find? number).bind fun call =>
        ((n.ends address).move call move).map fun next =>
          (n.put address next).send (outgoing address call move)
  | .deliver d handler taken => if d ∈ n.underWay then some (n.deliver d handler taken) else none
  | .double d => if d ∈ n.underWay then some (n.send [d]) else none
  | .lose d => if d ∈ n.underWay then some (n.take d) else none
  | .forge d => some (n.send [d])

def acts (n : Network) (actions : List Action) : Option Network := runs act n actions

end Network
end ClusterWatch
