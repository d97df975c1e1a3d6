import ClusterWatch.CommandLine
import ClusterWatch.Rehearsal.Detection
import ClusterWatch.Transport.Endpoint

/-!
A node at its socket: a detector among its neighbours, reached by datagrams. Pings that come
in are answered from what the detector says of them. Pings that the detector sends go out
as datagrams of the node's endpoint, each under a number that leads back to its cycle, so
that the answer reaches the worker that waits for it.
-/
namespace ClusterWatch

structure Responder where
  endpoint : Endpoint
  /-- The detector that answers pings; none has ever been registered if it is missing. -/
  session : Option DetectionRehearsal.Session
  /-- The cycles that wait for the open pings, by their numbers. -/
  callers : List (Nat × Generation)

namespace Responder

def start (session : Option DetectionRehearsal.Session) : Responder := ⟨.start, session, []⟩

/-- How pings are answered, if there is anyone to answer them. -/
def handler (r : Responder) : Option (PingRequest → Except PingRefusal Station) :=
  r.session.map fun session request => session.station.receivePing request

/-- The detector is acted on, and what that sets off is carried out. -/
def update (r : Responder) (change : Station → Station) : Responder :=
  { r with session := r.session.map fun session =>
      (session.put (change session.station)).carryOut }

/-- The ping of a number has come out. -/
def conclude (r : Responder) (number : Nat) (outcome : Outcome) : Responder :=
  match r.callers.lookup number with
  | some generation => r.update fun station => station.answer generation outcome
  | none => r

/-- A datagram comes in. What it sets off is carried out, and its replies go out. -/
def receive (r : Responder) (bytes : Wire.Bytes) (source : Net.SocketAddress) :
    List Wire.Bytes × Responder :=
  let (endpoint, reception) := r.endpoint.receive r.handler bytes source
  let r := { r with endpoint }
  match reception with
  | .dropped => ([], r)
  | .closed number outcome => ([], r.conclude number outcome)
  | .answered reply accepted =>
      (if Endpoint.sendable reply then [reply] else [],
        match accepted with
        | some station => r.update fun _ => station
        | none => r)

/-- The application lets go of the detector. -/
def release (r : Responder) : Responder := r.update fun station => { station with owned := false }

/-- A ping on its way out; it has no bytes if it is too large to be sent. -/
structure Outgoing where
  number : Nat
  node : Node
  bytes : Option Wire.Bytes

/-- What has happened that the outside is to see. -/
inductive Effect where
  | ping (outgoing : Outgoing)
  | log (line : String)

/-- Nobody waits for the open ping of the cycle any more. -/
private def forget (r : Responder) (generation : Generation) : Responder :=
  let (ended, callers) := r.callers.partition fun caller => caller.2 = generation
  { r with callers, endpoint := ended.foldl (fun e caller => e.forget caller.1) r.endpoint }

private def postEvent (r : Responder) : Event → Option Effect × Responder
  | .pinged node generation request =>
      let number := r.endpoint.next
      let (endpoint, bytes) := r.endpoint.send node.id node.address request
      (some (.ping ⟨number, node, bytes⟩),
        { r with endpoint, callers := r.callers ++ [(number, generation)] })
  | .answered _ generation _ => (none, r.forget generation)
  | .abandoned _ generation => (none, r.forget generation)
  | .told _ (.nodeFailed node reason) =>
      (some (.log ("Node " ++ node.text ++ " failed: " ++ reason.text)), r)
  | _ => (none, r)

private def postAll (r : Responder) : List Event → List Effect × Responder
  | [] => ([], r)
  | event :: rest =>
      let (effect, r) := r.postEvent event
      let (effects, r) := r.postAll rest
      (effect.toList ++ effects, r)

/-- What has come up since the last time, earliest first. The history up to here is let go,
so that a node may run for as long as it likes. -/
def post (r : Responder) : List Effect × Responder :=
  match r.session with
  | none => ([], r)
  | some session =>
      let detector := session.station.detector
      let session : DetectionRehearsal.Session := { session with
        station := { session.station with detector := { detector with history := [] } }
        reported := 0 }
      { r with session := some session }.postAll (detector.history.map Prod.snd).reverse

/-- A ping could not be sent. A node that cannot be reached is a lost connection. -/
def fail (r : Responder) (ping : Outgoing) (reachable : Bool) (detail : String) : Responder :=
  if reachable then r.conclude ping.number (.failed (.io detail))
  else (r.update fun station => station.disconnectEvent ping.node).conclude ping.number
    (.failed (.connectFailed ping.node.id detail))

/-- Time passes, up to the given time since the start. -/
def advanceTo (r : Responder) (time : Nat) : Responder :=
  { r with session := r.session.map fun session => session.advance (time - session.station.now) }

/-- The next time up to the given one at which something is due. -/
def nextWake? (r : Responder) (latest : Nat) : Option Nat :=
  r.session.bind fun session => session.nextWake? latest

/-- The disconnect events that the socket keeps for a follower. -/
def disconnectBacklog : Nat := 64

/-- A node that has just been started from its command line, with all pings unanswered. -/
def opening (line : CommandLine) (self : Node) (settings : NodeSettings) : Responder :=
  let station := Station.start self settings.clusterName settings.detection
    (line.snapshot self settings.clusterName) { Link.silent with backlog := disconnectBacklog }
  let session := (DetectionRehearsal.Session.start station).request (.addListener ⟨"log", false⟩)
  start (some (session.1.request .follow).1.carryOut)

/-- The cluster is closed, and the node watches nobody any more. -/
def shutDown (r : Responder) : Responder :=
  { r with session := r.session.map fun session =>
      ((session.request .closeSupplier).1.request .close).1.carryOut }

/-- How the node is doing, in lines for its log. -/
def stats (r : Responder) : List String :=
  let monitored := match r.session with
    | some session => session.station.detector.monitored.entries
    | none => []
  ("Fault detection stats: " ++ toString monitored.length ++ " monitored nodes, " ++
      toString r.endpoint.opened.length ++ " pings in flight") ::
    monitored.map fun c =>
      "  - " ++ c.node.text ++ " retries=" ++ toString c.failures ++ " phase=" ++ c.phase.text

/-- The line that a node begins its log with. -/
def greeting (selfText : String) (bind : Net.SocketAddress) : String :=
  "Node " ++ selfText ++ " listening on " ++ bind.text

/-- The line that a node ends its log with. -/
def farewell : String := "Shutting down"

end Responder
end ClusterWatch
