import ClusterWatch.Detector.Action

/-!
Rehearsals of a detector on a clock that only moves when it is told to. Whatever becomes
able to go on joins the end of a queue, and the first in the queue goes on until it has to
wait again; once the queue is empty, the state is the one reported. To let time pass, the
clock is moved from one time at which a wait is over to the next, and everything that is
due is carried out there.

A rehearsal consists of actions only: it is one of the runs of the station, and it is
deterministic. Activities that set each other off for ever at one instant would keep it
from ending, so it gives up after a very large number of stretches.
-/
namespace ClusterWatch.DetectionRehearsal

structure Session where
  station : Station
  /-- Activities that can go on, in the order in which they became able to. -/
  queue : List Activity
  /-- How much of the history has been reported. -/
  reported : Nat

namespace Session

def start (station : Station) : Session := ⟨station, [], 0⟩

/-- Activities that have become able to go on join the queue. -/
def enqueue (session : Session) : Session :=
  { session with queue := session.queue ++
      session.station.runnable.filter fun a => !session.queue.contains a }

/-- The station has been acted on from outside. -/
def put (session : Session) (station : Station) : Session :=
  { session with station }.enqueue

/-- One stretch of the first activity in the queue, which stays there if it can go on. -/
def stretch (session : Session) : Session :=
  match session.queue with
  | [] => session
  | first :: rest =>
      match session.station.run true first with
      | none => { session with queue := rest }
      | some station =>
          let stays := if (station.run true first).isSome then first :: rest else rest
          { session with station, queue := stays }.enqueue

/-- Carries out all work that is due now. -/
def settle : (fuel : Nat) → Session → Session
  | 0, session => session
  | fuel + 1, session =>
      match session.queue with
      | [] => session
      | _ :: _ => settle fuel session.stretch

/-- The next time up to the given one at which a wait is over. -/
def nextWake? (session : Session) (target : Nat) : Option Nat :=
  (session.station.wakeTimes.filter fun t => session.station.now < t ∧ t ≤ target).min?

def moveTo (session : Session) (time : Nat) : Session :=
  session.put (session.station.elapse (time - session.station.now))

/-- From wake time to wake time, everything due being carried out at each, up to the target. -/
def advanceTo (patience : Nat) (target : Nat) : (fuel : Nat) → Session → Session
  | 0, session => session
  | fuel + 1, session =>
      match session.nextWake? target with
      | none => session.moveTo target
      | some time => advanceTo patience target fuel ((session.moveTo time).settle patience)

end Session

/-- More stretches than any rehearsal that ends can take. -/
def patience : Nat := 1000000000000000

namespace Session

def carryOut (session : Session) : Session := session.settle patience

def advance (session : Session) (time : Nat) : Session :=
  (advanceTo patience (session.station.now + time) patience session.carryOut).carryOut

end Session

/-- What is asked of the station in one step of a rehearsal. -/
inductive Request where
  | advance (time : Nat)
  | reconcile (draft : Snapshot.Draft)
  | publish (draft : Snapshot.Draft)
  | closeSupplier
  | follow
  | stop
  | close
  | release
  | disconnect (node : Node)
  | disconnectEvent (node : Node)
  | ping (request : PingRequest)
  | inbound (request : PingRequest)
  | setScript (id : NodeId) (replies : List Reply)
  | setReply (id : NodeId) (reply : Reply)
  | setConnects (id : NodeId) (replies : List Reply)
  | addListener (listener : Listener)
  | removeListener (listener : Listener)
  | query (id : NodeId)

/-- What the one who asks is told at once. -/
inductive Answer where
  | nothing
  /-- The one who asks no longer holds the detector. -/
  | released
  | monitored (cycles : List Cycle)
  | published (result : Except PublishError Unit)
  | subscribers (count : Nat)
  | pinged (result : Except PingRefusal Unit)
  | removed (found : Bool)
  | watch (self : Node) (cycle : Option Cycle)

namespace Session

private def asked (session : Session) (action : Action) (answer : Station → Answer) :
    Session × Answer :=
  match session.station.act action with
  | some station => (session.put station, answer station)
  | none => (session, .released)

private def askedQuietly (session : Session) (action : Action) : Session × Answer :=
  session.asked action fun _ => .nothing

def request (session : Session) : Request → Session × Answer
  | .advance time => (session.advance time, .nothing)
  | .reconcile draft =>
      session.asked (.reconcile (draft.over session.station.supplier.current)) fun s =>
        .monitored s.detector.monitored.entries
  | .publish draft =>
      let snapshot := draft.over session.station.supplier.current
      session.asked (.publish snapshot) fun _ =>
        .published ((session.station.publish snapshot).map fun _ => ())
  | .closeSupplier => session.askedQuietly .closeSupplier
  | .follow => session.askedQuietly .follow
  | .stop => session.askedQuietly .stop
  | .close => session.askedQuietly .close
  | .release => session.askedQuietly .release
  | .disconnect node => session.askedQuietly (.disconnect node)
  | .disconnectEvent node =>
      session.asked (.disconnectEvent node) fun s => .subscribers s.feed.subscribers
  | .ping request =>
      if session.station.owned then
        session.asked (.ping request) fun _ =>
          .pinged ((session.station.receivePing request).map fun _ => ())
      else (session, .released)
  | .inbound request =>
      session.asked (.ping request) fun _ =>
        .pinged ((session.station.receivePing request).map fun _ => ())
  | .setScript id replies => session.askedQuietly (.setScript id replies)
  | .setReply id reply => session.askedQuietly (.setReply id reply)
  | .setConnects id replies => session.askedQuietly (.setConnects id replies)
  | .addListener listener => session.askedQuietly (.addListener listener)
  | .removeListener listener =>
      session.asked (.removeListener listener) fun _ =>
        .removed (session.station.removeListener? listener).isSome
  | .query id =>
      if session.station.owned then
        (session, .watch session.station.detector.self (session.station.detector.cycle? id))
      else (session, .released)

/-- What a step brought about. Lists that are in order of time and node are sorted so; the
rest is in the order in which it happened. -/
structure Report where
  now : Nat
  answer : Answer
  /-- Nothing once the detector is gone. -/
  monitored : Option (List Cycle)
  pings : List (Nat × NodeId × Int)
  connects : List (Nat × NodeId)
  failures : List (Nat × NodeId × String × FailureReason)
  received : List (Nat × String × PingRequest)
  followersDone : List Bool

private def before (x y : Nat × String) : Bool :=
  x.1 < y.1 || (x.1 == y.1 && !(y.2 < x.2))

private def byTimeAndId {α : Type} (place : α → Nat × String) (entries : List α) : List α :=
  entries.mergeSort fun x y => before (place x) (place y)

private def pingEntry? : Nat × Event → Option (Nat × NodeId × Int)
  | (t, .pinged node _ request) => some (t, node.id, request.version)
  | _ => none

private def connectEntry? : Nat × Event → Option (Nat × NodeId)
  | (t, .connecting node _) => some (t, node.id)
  | _ => none

private def failureEntry? : Nat × Event → Option (Nat × NodeId × String × FailureReason)
  | (t, .told listener (.nodeFailed node reason)) =>
      if listener.panics then none else some (t, node.id, listener.name, reason)
  | _ => none

private def receivedEntry? : Nat × Event → Option (Nat × String × PingRequest)
  | (t, .told listener (.pingReceived request)) =>
      if listener.panics then none else some (t, listener.name, request)
  | _ => none

def report (session : Session) (answer : Answer) : Report × Session :=
  let history := session.station.detector.history
  let news := (history.take (history.length - session.reported)).reverse
  let report : Report := {
    now := session.station.now
    answer := answer
    monitored :=
      if session.station.alive then some session.station.detector.monitored.entries else none
    pings := byTimeAndId (fun e => (e.1, e.2.1.text)) (news.filterMap pingEntry?)
    connects := byTimeAndId (fun e => (e.1, e.2.text)) (news.filterMap connectEntry?)
    failures := byTimeAndId (fun e => (e.1, e.2.1.text)) (news.filterMap failureEntry?)
    received := news.filterMap receivedEntry?
    followersDone := session.station.followers.map fun f => f.stage == .ended }
  (report, { session with reported := history.length })

/-- One step. A step that is held is reported at once, and what it sets off is left waiting. -/
def step (session : Session) (hold : Bool) (request : Request) : Report × Session :=
  let (session, answer) := session.request request
  (if hold then session else session.carryOut).report answer

def run (session : Session) : List (Bool × Request) → List Report × Session
  | [] => ([], session)
  | (hold, request) :: rest =>
      let (report, session) := session.step hold request
      let (reports, session) := session.run rest
      (report :: reports, session)

end Session

end ClusterWatch.DetectionRehearsal
