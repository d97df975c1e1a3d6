import ClusterWatch.Readiness.WaitingRoom
import ClusterWatch.Runs

/-!
Everything that can happen in a waiting room, one action at a time: waits and lookouts are asked
for, the supplier publishes or closes, tasks are cancelled, something in the background goes on for
a stretch, and time passes. A run is any list of actions that are possible one after the other;
nothing is assumed of their order.
-/
namespace ClusterWatch.WaitingRoom

inductive Action where
  | wait (order : WaitOrder) (task : Option String)
  | waitLater (order : WaitOrder)
  | watchFrom (name : String)
  | call (name : String) (call : LookoutCall)
  | publish (s : Snapshot)
  | close
  | cancel (name reason : String)
  | run (heed : Bool) (activity : Activity)
  | elapse (time : Nat)

namespace Action

/-- Whose wait is asked for. -/
def asks? : Action → Option String
  | .wait order _ => some order.name
  | .waitLater order => some order.name
  | _ => none

/-- The task whose cancellation ends the wait that is asked for. -/
def task? : Action → Option String
  | .wait _ task => task
  | _ => none

def elapses? : Action → Option Nat
  | .elapse time => some time
  | _ => none

/-- Whether the action comes from outside and not from the background of the room. -/
def outside : Action → Bool
  | .run .. => false
  | _ => true

end Action

/-- What an action leads to; nothing if it is not possible now. A publication that is refused leaves
the room as it was. -/
def act (room : WaitingRoom) : Action → Option WaitingRoom
  | .wait order task => some (room.wait order task false)
  | .waitLater order => some (room.waitLater order)
  | .watchFrom name => some (room.watchFrom name)
  | .call name call => some (room.call name call)
  | .publish s =>
      match room.publish s with
      | .ok next => some next
      | .error _ => some room
  | .close => some room.close
  | .cancel name reason => some (room.cancel name reason).2
  | .run heed activity => room.run heed activity
  | .elapse time => some (room.elapse time)

/-- The room after a list of actions, if each is possible when its turn comes. -/
def acts (room : WaitingRoom) (actions : List Action) : Option WaitingRoom := runs act room actions

end ClusterWatch.WaitingRoom
