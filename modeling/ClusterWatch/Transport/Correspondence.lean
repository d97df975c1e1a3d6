import ClusterWatch.Transport.Endpoint
import ClusterWatch.Runs

/-!
The calls that are made through one end of a socket. A call takes a number, enters itself among the
open pings and hands its datagram to the socket. Then it waits until its answer is in or its time is
up, unless whoever made it gives it up first. Any number of calls are under way at once, and what
happens to one of them may come between any two things that happen to another, as may datagrams
from anywhere.
-/
namespace ClusterWatch

inductive Call.Stage where
  /-- It has its number and nothing else. -/
  | numbered
  /-- Its datagram is with the socket. -/
  | sending
  | waiting
  | settled (outcome : Outcome)
  | abandoned
deriving DecidableEq

structure Call where
  number : Nat
  node : NodeId
  address : Net.SocketAddress
  ping : PingRequest
  limit : Duration
  stage : Call.Stage
  /-- What an answer has made of it, which it may not have looked at. -/
  answer : Option Outcome
deriving DecidableEq

/-- What a call does next, or what is done to it. -/
inductive Call.Move where
  | enter
  | sent
  /-- The socket does not take its datagram. -/
  | refuse (unreachable : Bool) (reason : String)
  | resume
  /-- Its time is up. -/
  | expire
  | abandon
deriving DecidableEq

namespace Call

/-- The datagram that it sends. -/
def bytes (call : Call) : Wire.Bytes := (Endpoint.request call.number call.ping).encode

/-- Whoever made it waits for it, or for the socket. -/
def underWay (call : Call) : Bool := call.stage = .sending ∨ call.stage = .waiting

def entry (call : Call) : OpenPing := ⟨call.number, call.node, call.address⟩

/-- What it counts as when the socket does not take its datagram. -/
def refusal (call : Call) (unreachable : Bool) (reason : String) : Outcome :=
  .failed (if unreachable then .connectFailed call.node reason else .io reason)

def timeout (call : Call) : Outcome := .failed (.timeout call.node call.limit)

end Call

structure Correspondence where
  endpoint : Endpoint
  /-- In the order in which they were made. -/
  calls : List Call
  /-- How calls have come out, each under its number, latest first. -/
  outcomes : List (Nat × Outcome)
deriving DecidableEq

namespace Correspondence

/-- What an end of a socket does with pings; what it makes of them is no matter here. -/
abbrev Handler : Type := PingRequest → Except PingRefusal Unit

inductive Action where
  | call (node : NodeId) (address : Net.SocketAddress) (ping : PingRequest) (limit : Duration)
  | move (number : Nat) (move : Call.Move)
  | receive (handler : Option Handler) (bytes : Wire.Bytes) (source : Net.SocketAddress)

def start : Correspondence := ⟨.start, [], []⟩

def find? (c : Correspondence) (number : Nat) : Option Call :=
  c.calls.find? fun call => call.number = number

def amend (c : Correspondence) (number : Nat) (change : Call → Call) : Correspondence :=
  { c with calls := c.calls.map fun call => if call.number = number then change call else call }

def forget (c : Correspondence) (number : Nat) : Correspondence :=
  { c with endpoint := c.endpoint.forget number }

def call (c : Correspondence) (node : NodeId) (address : Net.SocketAddress) (ping : PingRequest)
    (limit : Duration) : Correspondence :=
  { c with
    endpoint := c.endpoint.count
    calls := c.calls ++ [⟨c.endpoint.next, node, address, ping, limit, .numbered, none⟩] }

def enter (c : Correspondence) (call : Call) : Correspondence :=
  { c.amend call.number fun call => { call with stage := .sending } with
    endpoint := c.endpoint.enter call.entry }

def sent (c : Correspondence) (call : Call) : Correspondence :=
  c.amend call.number fun call => { call with stage := .waiting }

/-- The call comes out. It takes its entry with it, should it still be there. -/
def finish (c : Correspondence) (call : Call) (outcome : Outcome) : Correspondence :=
  let settled := (c.forget call.number).amend call.number fun call =>
    { call with stage := .settled outcome }
  { settled with outcomes := (call.number, outcome) :: c.outcomes }

def abandon (c : Correspondence) (call : Call) : Correspondence :=
  (c.forget call.number).amend call.number fun call => { call with stage := .abandoned }

/-- An answer is left for the call of a number. -/
def hand (c : Correspondence) (number : Nat) (outcome : Outcome) : Correspondence :=
  c.amend number fun call => { call with answer := some outcome }

/-- A call that is resumed without an answer has lost its entry to somebody else. -/
def resume (c : Correspondence) (call : Call) : Option Correspondence :=
  match call.answer with
  | some outcome => some (c.finish call outcome)
  | none =>
      if call.entry ∈ c.endpoint.opened then none else some (c.finish call (.failed .closed))

/-- What a move leads to; nothing if the call is not at the stage for it. A call whose answer is in
does not run out of time, and a datagram that is too large does not leave the socket. -/
def move (c : Correspondence) (call : Call) : Call.Move → Option Correspondence
  | .enter => if call.stage = .numbered then some (c.enter call) else none
  | .sent =>
      if call.stage = .sending ∧ Endpoint.sendable call.bytes then some (c.sent call) else none
  | .refuse unreachable reason =>
      if call.stage = .sending then some (c.finish call (call.refusal unreachable reason)) else none
  | .resume => if call.stage = .waiting then c.resume call else none
  | .expire =>
      if call.stage = .waiting ∧ call.answer = none then some (c.finish call call.timeout) else none
  | .abandon => if call.underWay then some (c.abandon call) else none

def receive (c : Correspondence) (handler : Option Handler) (bytes : Wire.Bytes)
    (source : Net.SocketAddress) : Correspondence :=
  let (endpoint, reception) := c.endpoint.receive handler bytes source
  let c := { c with endpoint }
  match reception with
  | .closed number outcome => c.hand number outcome
  | _ => c

def act (c : Correspondence) : Action → Option Correspondence
  | .call node address ping limit => some (c.call node address ping limit)
  | .move number move => (c.find? number).bind fun call => c.move call move
  | .receive handler bytes source => some (c.receive handler bytes source)

def acts (c : Correspondence) (actions : List Action) : Option Correspondence := runs act c actions

end Correspondence
end ClusterWatch
