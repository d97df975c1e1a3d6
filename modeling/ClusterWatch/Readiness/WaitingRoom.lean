import ClusterWatch.Cluster.Observer
import ClusterWatch.Readiness.Enough
import ClusterWatch.Task.Cancellation

/-!
Waits for active shards. A wait that is met when it is asked for, or whose task has been
cancelled by then, is over at once. Any other goes to the background with an observer that
stands where the supplier stood at that moment, so no later snapshot escapes it, and is
over as soon as a snapshot meets it, the supplier closes, its task is cancelled or its time
is up. The room counts the waits in the background and keeps the list of what is over. A wait first
leaves the count, and then its callback runs.

Besides waits the room holds lookouts: observers whose calls are dealt with one after the
other, the time of a call running from its turn.

A clock can tell instants only up to some horizon. Whoever has to be given up later than that is lost
when its time is worked out: a wait leaves the count without a callback, and a lookout is gone.
-/
namespace ClusterWatch

inductive ReadinessError where
  | nodeClosed (node : Node)
  | cancelled (reason : String)
deriving DecidableEq, Repr

def ReadinessError.message : ReadinessError → String
  | .nodeClosed node => "node closed " ++ node.text
  | .cancelled reason => "waiting for active shards cancelled [" ++ reason ++ "]"

/-- How a wait came out. -/
inductive WaitResult where
  | active
  | timedOut
  | failed (error : ReadinessError)
deriving DecidableEq, Repr

/-- What is asked for: active copies of the shards of some indices, within a time. -/
structure WaitOrder where
  name : String
  indices : List String
  count : ShardCount
  /-- In milliseconds; the default applies if none is given. -/
  timeout : Option Nat
deriving DecidableEq, Repr

def WaitOrder.metBy (order : WaitOrder) (s : Snapshot) : Bool :=
  order.count.enoughActive s order.indices

structure Wait where
  number : Nat
  order : WaitOrder
  timeout : Nat
  /-- Set when the wait runs for the first time. -/
  deadline : Option Nat
  observer : Observer
  task : Option String
  /-- Whether there are no callbacks, and whoever asked waits for the result. -/
  awaited : Bool
deriving DecidableEq

/-- What whoever asked for a wait has yet to be told. -/
structure Callback where
  number : Nat
  name : String
  result : WaitResult
deriving DecidableEq, Repr

structure LookoutCall where
  condition : Snapshot → Bool
  timeout : Option Nat

structure Lookout where
  name : String
  observer : Observer
  /-- The first of them has its turn. -/
  calls : List LookoutCall
  /-- Whether the first call has begun, and when it is given up if ever. -/
  deadline : Option (Option Nat)

inductive Resolution where
  | wait (result : WaitResult)
  | lookout (sighting : Sighting) (observed : Int)
deriving DecidableEq

structure WaitingRoom where
  now : Nat
  /-- The last instant that the clock can tell. -/
  horizon : Nat
  supplier : Supplier
  defaultTimeout : Nat
  tasks : Table (String × CancellableTask) Prod.fst
  /-- Waits that are asked for in the background and have not begun. -/
  orders : List WaitOrder
  waits : List Wait
  waitsMade : Nat
  /-- How many waits are counted as in the background. -/
  pending : Nat
  /-- Those of waits that have come out and are no longer counted. -/
  callbacks : List Callback
  /-- Waits that were to be given up beyond the horizon, and of which nobody hears again. -/
  lost : List Wait
  lookouts : List Lookout
  /-- What is over, with its time and name, latest first. -/
  resolutions : List (Nat × String × Resolution)

namespace WaitingRoom

def startWithin (horizon : Nat) (supplier : Supplier) (defaultTimeout : Nat)
    (tasks : Table (String × CancellableTask) Prod.fst) : WaitingRoom :=
  ⟨0, horizon, supplier, defaultTimeout, tasks, [], [], 0, 0, [], [], [], []⟩

/-- In milliseconds, for a clock that counts seconds in 63 bits. -/
def lastInstant : Nat := Nat.pow 2 63 * 1000 - 1

def start : Supplier → Nat → Table (String × CancellableTask) Prod.fst → WaitingRoom :=
  startWithin lastInstant

def task? (room : WaitingRoom) (name : String) : Option CancellableTask :=
  (room.tasks.find? name).map Prod.snd

/-- The reason for which the task of a wait was cancelled, if it was. -/
def cancellation? (room : WaitingRoom) (task : Option String) : Option String :=
  task.bind fun name => (room.task? name).bind CancellableTask.reason

def resolve (room : WaitingRoom) (name : String) (resolution : Resolution) : WaitingRoom :=
  { room with resolutions := (room.now, name, resolution) :: room.resolutions }

/-- A wait is asked for. A requirement that is met counts for more than a cancelled task. -/
def wait (room : WaitingRoom) (order : WaitOrder) (task : Option String) (awaited : Bool) :
    WaitingRoom :=
  let observer := Observer.start room.supplier
  if order.count.isNone || order.metBy observer.observed then
    room.resolve order.name (.wait .active)
  else match room.cancellation? task with
    | some reason => room.resolve order.name (.wait (.failed (.cancelled reason)))
    | none =>
        { room with
          waits := room.waits ++ [⟨room.waitsMade, order,
            order.timeout.getD room.defaultTimeout, none, observer, task, awaited⟩]
          waitsMade := room.waitsMade + 1
          pending := room.pending + 1 }

/-- A wait is asked for in the background; it begins when its turn comes, and its result is waited
for. -/
def waitLater (room : WaitingRoom) (order : WaitOrder) : WaitingRoom :=
  { room with orders := room.orders ++ [order] }

def beginNext? (room : WaitingRoom) : Option WaitingRoom :=
  match room.orders with
  | [] => none
  | order :: rest => some ({ room with orders := rest }.wait order none true)

/-- The wait is no longer one of those that are counted. -/
def leave (room : WaitingRoom) (w : Wait) : WaitingRoom :=
  { room with
    waits := room.waits.filter fun other => other.number ≠ w.number
    pending := room.pending - 1 }

/-- The wait leaves the count, and then it is for its callback to run. -/
def finish (room : WaitingRoom) (w : Wait) (result : WaitResult) : WaitingRoom :=
  { room.leave w with callbacks := room.callbacks ++ [⟨w.number, w.order.name, result⟩] }

/-- There is no instant at which to give up the wait, so nothing comes of it. Its callbacks never
run; whoever waits for the result takes it that the node has closed. -/
def lose (room : WaitingRoom) (w : Wait) : WaitingRoom :=
  if w.awaited then room.finish w (.failed (.nodeClosed room.supplier.localNode))
  else { room.leave w with lost := room.lost ++ [w] }

/-- A callback runs. -/
def tell (room : WaitingRoom) (c : Callback) : WaitingRoom :=
  { room with callbacks := room.callbacks.filter fun other => other.number ≠ c.number }.resolve
    c.name (.wait c.result)

def callback? (room : WaitingRoom) (number : Nat) : Option WaitingRoom :=
  (room.callbacks.find? fun c => c.number = number).map room.tell

def setWait (room : WaitingRoom) (w : Wait) : WaitingRoom :=
  { room with waits := room.waits.map fun other => if other.number = w.number then w else other }

/-- One stretch of a wait, if there is anything for it to do. Where its task has been cancelled
and something else has come too, either may be noticed first: the task if `heed` is set. -/
def runWait (room : WaitingRoom) (heed : Bool) (w : Wait) : Option WaitingRoom :=
  let deadline := w.deadline.getD (room.now + w.timeout)
  let cancelled? := room.cancellation? w.task
  let (sighting, observer) :=
    w.observer.look room.supplier w.order.metBy (decide (deadline ≤ room.now))
  match cancelled?.filter (fun _ => heed) with
  | some reason => some (room.finish w (.failed (.cancelled reason)))
  | none =>
      if room.horizon < deadline then some (room.lose { w with deadline := some deadline })
      else match sighting with
        | .matched _ => some (room.finish w .active)
        | .closed => some (room.finish w (.failed (.nodeClosed room.supplier.localNode)))
        | .timedOut => some (room.finish w .timedOut)
        | .waiting =>
            match cancelled? with
            | some reason => some (room.finish w (.failed (.cancelled reason)))
            | none =>
                if w.deadline = some deadline ∧ observer = w.observer then none
                else some (room.setWait { w with deadline := some deadline, observer })

def watchFrom (room : WaitingRoom) (name : String) : WaitingRoom :=
  { room with lookouts := room.lookouts ++ [⟨name, .start room.supplier, [], none⟩] }

/-- The latest lookout of a name is the one that is meant. -/
def lookoutIndex? (room : WaitingRoom) (name : String) : Option Nat :=
  (List.range room.lookouts.length).reverse.find? fun i =>
    (room.lookouts[i]?.map Lookout.name) == some name

def call (room : WaitingRoom) (name : String) (call : LookoutCall) : WaitingRoom :=
  match room.lookoutIndex? name with
  | none => room
  | some i =>
      { room with lookouts := room.lookouts.modify i fun l => { l with calls := l.calls ++ [call] } }

/-- One look for the first call of a lookout. -/
def runLookout (room : WaitingRoom) (index : Nat) (l : Lookout) : Option WaitingRoom :=
  match l.calls with
  | [] => none
  | call :: rest =>
      let deadline := l.deadline.getD (call.timeout.map (room.now + ·))
      let (sighting, observer) :=
        l.observer.look room.supplier call.condition (deadline.any (decide <| · ≤ room.now))
      let put (l : Lookout) : WaitingRoom := { room with lookouts := room.lookouts.set index l }
      if deadline.any (decide <| room.horizon < ·) then
        some { room with lookouts := room.lookouts.eraseIdx index }
      else match sighting with
        | .waiting =>
            if l.deadline = some deadline ∧ observer = l.observer then none
            else some (put { l with deadline := some deadline, observer })
        | ended =>
            some ((put { l with calls := rest, deadline := none, observer }).resolve l.name
              (.lookout ended observer.observed.version))

/-- What goes on in the background of the room. -/
inductive Activity where
  | begin
  | wait (number : Nat)
  | callback (number : Nat)
  | lookout (index : Nat)
deriving DecidableEq, Repr

/-- One stretch of an activity; nothing if there is nothing for it to do now. -/
def run (room : WaitingRoom) (heed : Bool) : Activity → Option WaitingRoom
  | .begin => room.beginNext?
  | .wait number => (room.waits.find? fun w => w.number = number).bind (room.runWait heed)
  | .callback number => room.callback? number
  | .lookout index => room.lookouts[index]?.bind (room.runLookout index)

/-- Nothing is left to do before time passes or something is published, closed or cancelled. -/
def Quiet (room : WaitingRoom) : Prop := ∀ heed a, room.run heed a = none

def publish (room : WaitingRoom) (s : Snapshot) : Except PublishError WaitingRoom :=
  (room.supplier.publish s).map fun supplier => { room with supplier }

def close (room : WaitingRoom) : WaitingRoom := { room with supplier := room.supplier.close }

/-- Cancels the task of a name and tells whether it was this call that did so. -/
def cancel (room : WaitingRoom) (name reason : String) : Bool × WaitingRoom :=
  match room.task? name with
  | none => (false, room)
  | some task =>
      let (won, task) := task.cancel reason
      (won, { room with tasks := room.tasks.insert (name, task) })

def elapse (room : WaitingRoom) (time : Nat) : WaitingRoom := { room with now := room.now + time }

end WaitingRoom
end ClusterWatch
