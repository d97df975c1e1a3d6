import ClusterWatch.Cluster.Supplier
import ClusterWatch.Runs

/-!
A supplier and its subscribers. Snapshots are published, the supplier closes, subscribers come and
ask for news, in any order and as often as they like. What has come of it is kept, latest first, so
that all a subscriber was ever told can be read off it.
-/
namespace ClusterWatch

inductive Circulation.Event where
  | accepted (s : Snapshot)
  | closed
  /-- Someone has come, and sees a snapshot as the current one. -/
  | subscribed (subscriber : Nat) (current : Snapshot)
  | told (subscriber : Nat) (news : News)
deriving DecidableEq

structure Circulation where
  supplier : Supplier
  /-- In the order in which subscribers came; they go by their places in it. -/
  subscriptions : List Subscription
  past : List Circulation.Event
deriving DecidableEq

namespace Circulation

inductive Action where
  | publish (s : Snapshot)
  | close
  | subscribe
  | poll (subscriber : Nat)
deriving DecidableEq

def start (localNode : Node) (initial : Snapshot) : Circulation :=
  ⟨.start localNode initial, [], []⟩

/-- A publication that is refused leaves no trace. -/
def publish (c : Circulation) (s : Snapshot) : Circulation :=
  match c.supplier.publish s with
  | .ok supplier => { c with supplier, past := .accepted s :: c.past }
  | .error _ => c

def close (c : Circulation) : Circulation :=
  { c with supplier := c.supplier.close, past := .closed :: c.past }

def subscribe (c : Circulation) : Circulation :=
  { c with
    subscriptions := c.subscriptions ++ [c.supplier.subscribe]
    past := .subscribed c.subscriptions.length c.supplier.current :: c.past }

def tell (c : Circulation) (subscriber : Nat) (subscription : Subscription) : Circulation :=
  let (news, subscription) := c.supplier.poll subscription
  { c with
    subscriptions := c.subscriptions.set subscriber subscription
    past := .told subscriber news :: c.past }

/-- What an action leads to; nothing if it is the poll of someone who has not subscribed. -/
def act (c : Circulation) : Action → Option Circulation
  | .publish s => some (c.publish s)
  | .close => some c.close
  | .subscribe => some c.subscribe
  | .poll subscriber => c.subscriptions[subscriber]?.map (c.tell subscriber)

def acts (c : Circulation) (actions : List Action) : Option Circulation := runs act c actions

end Circulation
end ClusterWatch
