import ClusterWatch.Detector.Station
import ClusterWatch.Runs

/-!
Everything that can happen to a station, one action at a time: what the application asks of
the detector, what comes from the supplier, the transport and the other nodes, one stretch
of an activity, and the passing of time. A run is any list of actions that are possible one
after the other; nothing is assumed of their order, and activities may wait for as long as
the run likes.
-/
namespace ClusterWatch

inductive Action where
  | reconcile (snapshot : Snapshot)
  | stop
  | close
  /-- The application lets go of the detector. -/
  | release
  | follow
  | disconnect (node : Node)
  | addListener (listener : Listener)
  | removeListener (listener : Listener)
  | publish (snapshot : Snapshot)
  | closeSupplier
  | disconnectEvent (node : Node)
  | ping (request : PingRequest)
  | setScript (id : NodeId) (replies : List Reply)
  | setReply (id : NodeId) (reply : Reply)
  | setConnects (id : NodeId) (replies : List Reply)
  /-- What a worker has under way at the transport comes out now. -/
  | answer (generation : Generation) (outcome : Outcome)
  | run (heed : Bool) (activity : Activity)
  | elapse (time : Nat)
deriving DecidableEq

namespace Station

def follow (s : Station) : Station :=
  { s with followers := s.followers ++ [⟨s.supplier.subscribe, .fresh⟩] }

def disconnect (s : Station) (node : Node) : Station :=
  { s with
    detector := s.detector.record (.disconnected node)
    handlers := s.handlers ++ [⟨s.handlersMade, .fresh node⟩]
    handlersMade := s.handlersMade + 1 }

/-- The transport tells of a disconnect whoever follows its events. -/
def disconnectEvent (s : Station) (node : Node) : Station :=
  match s.feed.stage with
  | .off => s
  | _ =>
      { s with
        detector := s.detector.record (.disconnected node)
        feed := s.feed.offer s.link.backlog node }

def publish (s : Station) (snapshot : Snapshot) : Except PublishError Station :=
  (s.supplier.publish snapshot).map fun supplier => { s with supplier }

/-- A ping that comes in through the transport finds nobody once the detector is gone. -/
def receivePing (s : Station) (request : PingRequest) : Except PingRefusal Station :=
  if s.alive then (s.detector.receivePing request).map fun detector => { s with detector }
  else .error .shuttingDown

def removeListener? (s : Station) (listener : Listener) : Option Station :=
  (s.detector.registry.remove? listener).map fun registry =>
    { s with detector := { s.detector with registry } }

def landFlight (now : Nat) (outcome : Outcome) (w : Worker) : Worker :=
  match w.stage with
  | .pinging gate flight => { w with stage := .pinging gate (flight.land now outcome) }
  | .connecting flight => { w with stage := .connecting (flight.land now outcome) }
  | _ => w

def answer (s : Station) (generation : Generation) (outcome : Outcome) : Station :=
  { s with detector := s.detector.updateWorker generation (landFlight s.now outcome) }

/-- What an action leads to; nothing if it is not possible now. Only who holds the detector can
ask anything of it. A refused request leaves the station as it was. -/
def act (s : Station) : Action → Option Station
  | .reconcile snapshot =>
      if s.owned then some { s with detector := s.detector.reconcile snapshot } else none
  | .stop => if s.owned then some { s with detector := s.detector.stop } else none
  | .close => if s.owned then some { s with detector := s.detector.close } else none
  | .release => some { s with owned := false }
  | .follow => if s.owned then some s.follow else none
  | .disconnect node => if s.owned then some (s.disconnect node) else none
  | .addListener listener =>
      if s.owned then
        some { s with detector :=
          { s.detector with registry := s.detector.registry.add listener } }
      else none
  | .removeListener listener =>
      if s.owned then some ((s.removeListener? listener).getD s) else none
  | .publish snapshot =>
      match s.publish snapshot with
      | .ok next => some next
      | .error _ => some s
  | .closeSupplier => some { s with supplier := s.supplier.close }
  | .disconnectEvent node => some (s.disconnectEvent node)
  | .ping request =>
      match s.receivePing request with
      | .ok next => some next
      | .error _ => some s
  | .setScript id replies => some { s with link := s.link.setScript id replies }
  | .setReply id reply => some { s with link := s.link.setReply id reply }
  | .setConnects id replies => some { s with link := s.link.setConnects id replies }
  | .answer generation outcome => some (s.answer generation outcome)
  | .run heed activity => s.run heed activity
  | .elapse time => some (s.elapse time)

/-- The station after a list of actions, if each is possible when its turn comes. -/
def acts (s : Station) (actions : List Action) : Option Station := runs act s actions

end Station
end ClusterWatch
