import ClusterWatch.Readiness.WaitingRoom

/-!
Rehearsals of a waiting room on a clock that only moves when it is told to. Between two
steps everything that has something to do does it: waits asked for in the background begin,
every wait looks once, and lookouts go through their calls until one has to wait. None of
these sets off another, so one round of them leaves the room quiet.
-/
namespace ClusterWatch.ReadinessRehearsal

structure Session where
  room : WaitingRoom
  subscriptions : Table (String × Subscription) Prod.fst
  /-- How many resolutions have been reported. -/
  reported : Nat

namespace Session

def start (room : WaitingRoom) : Session := ⟨room, .empty, 0⟩

private def attempt (room : WaitingRoom) (a : WaitingRoom.Activity) : WaitingRoom :=
  (room.run false a).getD room

private def attemptTimes (a : WaitingRoom.Activity) : Nat → WaitingRoom → WaitingRoom
  | 0, room => room
  | n + 1, room => attemptTimes a n (attempt room a)

/-- Carries out all work that is due now. -/
def settleRoom (room : WaitingRoom) : WaitingRoom :=
  let begun := attemptTimes .begin room.orders.length room
  let waited := (begun.waits.map Wait.number).foldl
    (fun r n => attempt (attempt r (.wait n)) (.callback n)) begun
  (waited.lookouts.map fun l => l.calls.length).zipIdx.foldl
    (fun r (calls, i) => attemptTimes (.lookout i) (calls + 1) r) waited

def settle (session : Session) : Session := { session with room := settleRoom session.room }

/-- The times at which a wait or a call is given up. -/
def deadlines (room : WaitingRoom) : List Nat :=
  room.waits.filterMap Wait.deadline ++ room.lookouts.filterMap fun l => l.deadline.join

/-- From deadline to deadline up to the target. At each of them a wait or a call ends. -/
def advanceRoom (target : Nat) : (fuel : Nat) → WaitingRoom → WaitingRoom
  | 0, room => settleRoom (room.elapse (target - room.now))
  | fuel + 1, room =>
      match ((deadlines room).filter fun t => room.now < t ∧ t ≤ target).min? with
      | none => settleRoom (room.elapse (target - room.now))
      | some t => advanceRoom target fuel (settleRoom (room.elapse (t - room.now)))

/-- How many waits and calls are there to end. -/
def openEnded (room : WaitingRoom) : Nat :=
  room.waits.length + (room.lookouts.flatMap fun l => l.calls).length

def advance (session : Session) (time : Nat) : Session :=
  let settled := session.settle
  { settled with
    room := advanceRoom (settled.room.now + time) (openEnded settled.room) settled.room }

end Session

inductive Request where
  | advance (time : Nat)
  | publish (draft : Snapshot.Draft)
  | close
  | current
  | localNode
  | cancel (task reason : String)
  | wait (order : WaitOrder) (task : Option String)
  | waitLater (order : WaitOrder)
  | watchFrom (name : String)
  | call (name : String) (call : LookoutCall)
  | subscribe (name : String)
  | poll (name : String)

inductive Answer where
  | nothing
  | published (result : Except PublishError Unit)
  | snapshot (s : Snapshot)
  | node (n : Node)
  | cancelled (won : Bool) (task : CancellableTask)
  /-- Waits in the background, and how many came out on the spot. -/
  | asked (pending resolved : Nat)
  | version (n : Int)
  | news (news : News)

namespace Session

private def put (session : Session) (room : WaitingRoom) : Session := { session with room }

private def asked (session : Session) (room : WaitingRoom) : Session × Answer :=
  (session.put room, .asked room.pending (room.resolutions.length - session.reported))

def request (session : Session) : Request → Session × Answer
  | .advance time => (session.advance time, .nothing)
  | .publish draft =>
      match session.room.publish (draft.over session.room.supplier.current) with
      | .ok room => (session.put room, .published (.ok ()))
      | .error e => (session, .published (.error e))
  | .close => (session.put session.room.close, .nothing)
  | .current => (session, .snapshot session.room.supplier.current)
  | .localNode => (session, .node session.room.supplier.localNode)
  | .cancel task reason =>
      let (won, room) := session.room.cancel task reason
      match room.task? task with
      | some task => (session.put room, .cancelled won task)
      | none => (session, .nothing)
  | .wait order task => session.asked (session.room.wait order task false)
  | .waitLater order => session.asked (session.room.waitLater order)
  | .watchFrom name =>
      (session.put (session.room.watchFrom name), .version session.room.supplier.current.version)
  | .call name call => (session.put (session.room.call name call), .nothing)
  | .subscribe name =>
      ({ session with subscriptions :=
          session.subscriptions.insert (name, session.room.supplier.subscribe) },
        .version session.room.supplier.current.version)
  | .poll name =>
      match session.subscriptions.find? name with
      | none => (session, .nothing)
      | some (_, subscription) =>
          let (news, subscription) := session.room.supplier.poll subscription
          ({ session with subscriptions := session.subscriptions.insert (name, subscription) },
            .news news)

structure Report where
  now : Nat
  answer : Answer
  version : Int
  closed : Bool
  pending : Nat
  /-- What came to an end since the last report, in order of time and name. -/
  resolved : List (Nat × String × Resolution)

private def before (x y : Nat × String × Resolution) : Bool :=
  x.1 < y.1 || (x.1 == y.1 && !(y.2.1 < x.2.1))

def report (session : Session) (answer : Answer) : Report × Session :=
  let resolutions := session.room.resolutions
  let news := (resolutions.take (resolutions.length - session.reported)).reverse
  let report : Report := {
    now := session.room.now
    answer := answer
    version := session.room.supplier.current.version
    closed := session.room.supplier.closed
    pending := session.room.pending
    resolved := news.mergeSort before }
  (report, { session with reported := resolutions.length })

/-- One step. A step that is held is reported at once, and what it sets off is left waiting. -/
def step (session : Session) (hold : Bool) (request : Request) : Report × Session :=
  let (session, answer) := session.request request
  (if hold then session else session.settle).report answer

end Session
end ClusterWatch.ReadinessRehearsal
