import ClusterWatch.Transport.Flight
import ClusterWatch.Wire.Envelope

/-!
One end of a datagram socket. It numbers the pings that it sends and keeps a list of those
that are open, each with the node and the address that it went to. An answer closes a ping
only if it carries its number and comes from that address; every other answer is dropped.
Requests are answered to where they came from, and answers are never answered.
-/
namespace ClusterWatch

structure OpenPing where
  number : Nat
  node : NodeId
  address : Net.SocketAddress
deriving DecidableEq, Repr

structure Endpoint where
  /-- The number of the next ping. -/
  next : Nat
  opened : List OpenPing
deriving DecidableEq, Repr

/-- What is to be done about a datagram that has come in. -/
inductive Reception (σ : Type) where
  | dropped
  /-- The ping of this number has come out. -/
  | closed (number : Nat) (outcome : Outcome)
  /-- A datagram goes back; whoever accepted the ping has a new state. -/
  | answered (bytes : Wire.Bytes) (accepted : Option σ)

namespace Endpoint

def start : Endpoint := ⟨1, []⟩

/-- No larger datagram can be sent. -/
def maxDatagram : Nat := 65507

def request (number : Nat) (ping : PingRequest) : Wire.Envelope :=
  .request number PingRequest.action ping

/-- The number of the next ping is used up. -/
def count (e : Endpoint) : Endpoint := { e with next := e.next + 1 }

def enter (e : Endpoint) (ping : OpenPing) : Endpoint := { e with opened := e.opened ++ [ping] }

/-- A number is used up whether the datagram can be sent or not. -/
def send (e : Endpoint) (node : NodeId) (address : Net.SocketAddress) (ping : PingRequest) :
    Endpoint × Option Wire.Bytes :=
  let bytes := (request e.next ping).encode
  if maxDatagram < bytes.length then (e.count, none)
  else (e.count.enter ⟨e.next, node, address⟩, some bytes)

/-- The ping has come out, or nobody waits for it any more. -/
def forget (e : Endpoint) (number : Nat) : Endpoint :=
  { e with opened := e.opened.filter fun p => p.number ≠ number }

def close {σ : Type} (e : Endpoint) (number : Nat) (source : Net.SocketAddress)
    (outcome : NodeId → Outcome) : Endpoint × Reception σ :=
  match e.opened.find? fun p => p.number = number ∧ p.address = source with
  | some p => (e.forget number, .closed number (outcome p.node))
  | none => (e, .dropped)

/-- The answer to a request, and the state of whoever accepted it. -/
def respond {σ : Type} (handler : Option (PingRequest → Except PingRefusal σ)) (number : Nat)
    (action : String) (ping : PingRequest) : Wire.Envelope × Option σ :=
  if action ≠ PingRequest.action then
    (.error number ("no handler for action [" ++ action ++ "]"), none)
  else match handler with
    | none => (.error number ("no handler registered for [" ++ action ++ "]"), none)
    | some handle =>
        match handle ping with
        | .ok accepted => (.response number, some accepted)
        | .error refusal => (.error number refusal.message, none)

def receive {σ : Type} (e : Endpoint) (handler : Option (PingRequest → Except PingRefusal σ))
    (bytes : Wire.Bytes) (source : Net.SocketAddress) : Endpoint × Reception σ :=
  match Wire.Envelope.decode? bytes with
  | none => (e, .dropped)
  | some (.request number action ping) =>
      let (reply, accepted) := respond handler number action ping
      (e, .answered reply.encode accepted)
  | some (.response number) => e.close number source fun _ => .done
  | some (.error number message) =>
      e.close number source fun node => .failed (.remote node message)

/-- Whether a reply leaves the socket: one that is too large is lost. -/
def sendable (bytes : Wire.Bytes) : Bool := bytes.length ≤ maxDatagram

end Endpoint
end ClusterWatch
