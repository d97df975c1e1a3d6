import ClusterWatch.Cluster.Supplier
import ClusterWatch.Detector.Basic

/-!
A detector among the things it works with: the supplier of snapshots, the link to the other
nodes, those who hold on to it, and the activities that run beside each other. An activity
runs from one point at which it waits to the next, so the state of the station between two
such stretches is all that another activity can meet.

Activities do not keep the detector alive, except workers from the time they ask for a gate
until the ping or reconnect that follows has come out, and whoever handles a disconnect.
Once its owner has let go of it and no such activity is left, the detector is gone for good.
-/
namespace ClusterWatch

/-- Someone who was told directly that the connection to a node was lost. -/
inductive HandlerStage where
  | fresh (node : Node)
  | connecting (node : Node) (lost : Generation) (flight : Flight)
deriving DecidableEq, Repr

structure DisconnectHandler where
  number : Nat
  stage : HandlerStage
deriving DecidableEq, Repr

inductive FeedStage where
  /-- Nobody follows the transport's disconnect events, or nobody does any more. -/
  | off
  | listening
  | connecting (node : Node) (lost : Generation) (flight : Flight)
deriving DecidableEq, Repr

/-- The follower of the transport's disconnect events, and those it has not taken up yet. -/
structure DisconnectFeed where
  events : List Node
  stage : FeedStage
deriving DecidableEq, Repr

namespace DisconnectFeed

/-- One more event. A follower that falls behind loses the oldest beyond those that are kept. -/
def offer (feed : DisconnectFeed) (kept : Nat) (node : Node) : DisconnectFeed :=
  let events := feed.events ++ [node]
  { feed with events := events.drop (events.length - kept) }

def subscribers (feed : DisconnectFeed) : Nat :=
  match feed.stage with
  | .off => 0
  | _ => 1

end DisconnectFeed

inductive FollowerStage where
  | fresh
  | watching
  | ended
deriving DecidableEq, Repr

/-- Brings the detector in line with every snapshot that is published. -/
structure Follower where
  subscription : Subscription
  stage : FollowerStage
deriving DecidableEq, Repr

structure Station where
  detector : Detector
  supplier : Supplier
  link : Link
  /-- Whether the application still holds the detector. -/
  owned : Bool
  feed : DisconnectFeed
  handlers : List DisconnectHandler
  handlersMade : Nat
  followers : List Follower
deriving DecidableEq

/-- What runs beside the application. -/
inductive Activity where
  | worker (generation : Generation)
  | handler (number : Nat)
  | feed
  | follower (index : Nat)
  | delivery
deriving DecidableEq, Repr

namespace Station

def start (self : Node) (cluster : ClusterName) (settings : DetectionSettings) (initial : Snapshot)
    (link : Link) : Station where
  detector := .start self cluster settings
  supplier := .start self initial
  link := link
  owned := true
  feed := ⟨[], if settings.followDisconnects then .listening else .off⟩
  handlers := []
  handlersMade := 0
  followers := []

def now (s : Station) : Nat := s.detector.now

/-- Whether the detector is still there. -/
def alive (s : Station) : Bool :=
  s.owned || s.detector.workers.any Worker.keepsDetector || !s.handlers.isEmpty ||
    match s.feed.stage with
    | .connecting .. => true
    | _ => false

/-- The connection to a node that was watched is lost: it is tried again or reported. -/
def afterDisconnect (s : Station) (node : Node) (lost : Generation) : Station × Option Flight :=
  if s.detector.settings.reconnect then
    let (reply, link) := s.link.takeConnect node.id
    ({ s with link, detector := s.detector.record (.connecting node lost) },
      some (.launch s.now reply none))
  else ({ s with detector := s.detector.report node lost .disconnected }, none)

/-- A disconnect that the transport tells of. Nothing happens if the node is not watched. -/
def loseConnection (s : Station) (node : Node) : Station × Option (Generation × Flight) :=
  match s.detector.cycle? node.id with
  | none => (s, none)
  | some c =>
      let (s, flight) :=
        { s with detector := s.detector.removeCycle .lostByEvent c }.afterDisconnect node
          c.generation
      (s, flight.map fun flight => (c.generation, flight))

def endReconnect (s : Station) (node : Node) (lost : Generation) (outcome : Outcome) : Station :=
  { s with detector := s.detector.endReconnect node lost outcome }

/-- The worker is gone, and its gate with it if nobody else needs it. -/
def endWorker (s : Station) (w : Worker) : Station :=
  let ended := { s with detector := s.detector.dropWorker w.generation }
  if ended.alive then { ended with detector := ended.detector.releaseGate w.node.id } else ended

def setStage (s : Station) (w : Worker) (stage : Stage) : Station :=
  { s with detector := s.detector.setStage w.generation stage }

def queueWorker (s : Station) (w : Worker) : Station :=
  let (gate, detector) := s.detector.gateFor w.node.id
  { s with detector }.setStage w (.queued gate)

/-- The worker takes the gate and sends a ping that tells the version known at this moment. -/
def sendPing (s : Station) (w : Worker) (c : Cycle) (gate : Nat) : Station :=
  let (reply, link) := s.link.takePing w.node.id
  let flight := Flight.launch s.now reply (some (s.detector.attemptLimit w.node))
  let request := s.detector.pingRequest w.node s.supplier.current.version
  { s with
    link
    detector := (s.detector.putCycle { c with phase := .awaiting }).record
      (.pinged w.node w.generation request) }.setStage w (.pinging gate flight)

def abandonPing (s : Station) (w : Worker) : Station :=
  { s with detector := s.detector.record (.abandoned w.node.id w.generation) }.endWorker w

/-- An acknowledged ping clears the count of failures, and the cycle rests. -/
def acknowledge (s : Station) (w : Worker) (c : Cycle) : Station :=
  let cleared :=
    { s with detector := s.detector.putCycle { c with failures := 0 } }.setStage w .ready
  if cleared.alive then
    { cleared with
      detector := cleared.detector.putCycle { c with failures := 0, phase := .backoff } }.setStage w
      (.resting (s.now + s.detector.settings.interval))
  else cleared.endWorker w

/-- A lost connection does not count as a failed attempt: the cycle ends at once. -/
def loseByPing (s : Station) (w : Worker) (c : Cycle) : Station :=
  match { s with detector := s.detector.removeCycle .lostByPing c }.afterDisconnect w.node
      w.generation with
  | (s, some flight) => s.setStage w (.connecting flight)
  | (s, none) => s.endWorker w

/-- The ping is sent again at once, until the last attempt that is allowed has failed. -/
def countFailure (s : Station) (w : Worker) (c : Cycle) : Station :=
  let attempts := s.detector.settings.retries
  if c.failures + 1 < attempts then
    { s with detector := s.detector.putCycle { c with failures := c.failures + 1 } }.setStage w .ready
  else
    { s with
      detector := (s.detector.removeCycle .unresponsive c).report w.node w.generation
        (.unresponsive attempts s.detector.settings.timeoutDuration) }.endWorker w

/-- The worker's ping has come out. A worker whose cycle is no longer current just ends. -/
def settlePing (s : Station) (w : Worker) (outcome : Outcome) : Station :=
  let s := { s with detector := s.detector.record (.answered w.node.id w.generation outcome) }
  match s.detector.currentCycle? w with
  | none => s.endWorker w
  | some c =>
      match outcome with
      | .done => s.acknowledge w c
      | .failed error => if error.isDisconnect then s.loseByPing w c else s.countFailure w c

/-- One stretch of a worker, if it can go on. Where its retirement and what it waits for have
both come, either may be noticed first: retirement if `heed` is set. -/
def runWorker (s : Station) (heed : Bool) (w : Worker) : Option Station :=
  match w.stage with
  | .ready => some (if s.alive then s.queueWorker w else s.endWorker w)
  | .queued gate =>
      if w.retired && (heed || s.detector.gateHeld gate) then some (s.endWorker w)
      else if s.detector.gateHeld gate then none
      else
        match s.detector.currentCycle? w with
        | none => some (s.endWorker w)
        | some c => some (s.sendPing w c gate)
  | .pinging _ flight =>
      if w.retired && heed then some (s.abandonPing w)
      else
        match flight.outcome? s.now with
        | some outcome => some (s.settlePing w outcome)
        | none => if w.retired then some (s.abandonPing w) else none
  | .resting wake =>
      if w.retired && (heed || s.now < wake) then some (s.endWorker w)
      else if s.now < wake then none
      else some (s.setStage w .ready)
  | .connecting flight =>
      (flight.outcome? s.now).map fun outcome =>
        (s.endReconnect w.node w.generation outcome).endWorker w

def endHandler (s : Station) (h : DisconnectHandler) : Station :=
  { s with handlers := s.handlers.filter fun other => other.number ≠ h.number }

def setHandler (s : Station) (h : DisconnectHandler) (stage : HandlerStage) : Station :=
  { s with handlers := s.handlers.map fun other =>
      if other.number = h.number then { other with stage } else other }

def runHandler (s : Station) (h : DisconnectHandler) : Option Station :=
  match h.stage with
  | .fresh node =>
      match s.loseConnection node with
      | (s, some (lost, flight)) => some (s.setHandler h (.connecting node lost flight))
      | (s, none) => some (s.endHandler h)
  | .connecting node lost flight =>
      (flight.outcome? s.now).map fun outcome => (s.endReconnect node lost outcome).endHandler h

/-- One event is dealt with to its end before the next one is taken up. -/
def runFeed (s : Station) : Option Station :=
  match s.feed.stage with
  | .off => none
  | .listening =>
      match s.feed.events with
      | [] => none
      | node :: rest =>
          if s.alive then
            match { s with feed := ⟨rest, .listening⟩ }.loseConnection node with
            | (s, some (lost, flight)) =>
                some { s with feed := ⟨rest, .connecting node lost flight⟩ }
            | (s, none) => some s
          else some { s with feed := ⟨[], .off⟩ }
  | .connecting node lost flight =>
      (flight.outcome? s.now).map fun outcome =>
        { s.endReconnect node lost outcome with feed := ⟨s.feed.events, .listening⟩ }

def setFollower (s : Station) (index : Nat) (follower : Follower) : Station :=
  { s with followers := s.followers.set index follower }

/-- Brings the detector in line, or ends the follower if there is no detector any more. -/
def followTo (s : Station) (index : Nat) (subscription : Subscription) (snapshot : Snapshot) :
    Station :=
  if s.alive then
    { s with detector := s.detector.reconcile snapshot }.setFollower index ⟨subscription, .watching⟩
  else s.setFollower index ⟨subscription, .ended⟩

def runFollower (s : Station) (index : Nat) (follower : Follower) : Option Station :=
  match follower.stage with
  | .fresh =>
      some (s.followTo index (s.supplier.catchUp follower.subscription) s.supplier.current)
  | .watching =>
      match s.supplier.poll follower.subscription with
      | (.changed snapshot, subscription) => some (s.followTo index subscription snapshot)
      | (.nothing, _) => none
      | (.closed, subscription) =>
          let stopped := if s.alive then { s with detector := s.detector.stop } else s
          some (stopped.setFollower index ⟨subscription, .ended⟩)
  | .ended => none

/-- One stretch of an activity; nothing if the activity has to wait or is over. -/
def run (s : Station) (heed : Bool) : Activity → Option Station
  | .worker generation =>
      (s.detector.workers.find? fun w => w.generation = generation).bind (s.runWorker heed)
  | .handler number => (s.handlers.find? fun h => h.number = number).bind s.runHandler
  | .feed => s.runFeed
  | .follower index => s.followers[index]?.bind (s.runFollower index)
  | .delivery => s.detector.deliver?.map fun detector => { s with detector }

/-- Everything that may be running, in the order in which it began. -/
def activities (s : Station) : List Activity :=
  s.detector.workers.map (.worker ·.generation) ++ s.handlers.map (.handler ·.number) ++
    [.feed] ++ (List.range s.followers.length).map .follower ++ [.delivery]

def runnable (s : Station) : List Activity :=
  s.activities.filter fun a => (s.run true a).isSome

/-- No activity can go on before time passes or someone outside acts. -/
def Quiet (s : Station) : Prop := ∀ heed a, s.run heed a = none

/-- The times at which a wait is over, past ones included. -/
def wakeTimes (s : Station) : List Nat :=
  s.detector.workers.flatMap Worker.wakeTimes ++
    s.handlers.flatMap (fun h =>
      match h.stage with
      | .connecting _ _ flight => flight.wakeTimes
      | .fresh _ => []) ++
    match s.feed.stage with
    | .connecting _ _ flight => flight.wakeTimes
    | _ => []

def elapse (s : Station) (time : Nat) : Station :=
  { s with detector := { s.detector with now := s.now + time } }

end Station
end ClusterWatch
