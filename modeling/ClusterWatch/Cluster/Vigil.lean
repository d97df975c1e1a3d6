import ClusterWatch.Cluster.Observer
import ClusterWatch.Runs

/-!
An observer at work. It waits for one change after another, each time with a condition and, if there
is one, within a time, while snapshots are published, the supplier closes and the clock moves on. A
wait goes on by glances, and between any two of them all the rest may happen. At a glance it is
shown one change, and only if there is none does it notice that the supplier has closed; its time
is looked at last. Whoever waits may also leave off. What has come of it is kept.
-/
namespace ClusterWatch

structure Vigil.Wait where
  condition : Snapshot → Bool
  deadline : Option Nat

inductive Vigil.Event where
  | accepted (s : Snapshot)
  | closed
  | began (time : Nat) (condition : Snapshot → Bool) (timeout : Option Nat)
  /-- The observer is shown a change. -/
  | saw (s : Snapshot)
  | ended (time : Nat) (sighting : Sighting)
  | leftOff

structure Vigil where
  supplier : Supplier
  observer : Observer
  now : Nat
  /-- One wait at a time. -/
  wait : Option Vigil.Wait
  /-- Latest first. -/
  past : List Vigil.Event

namespace Vigil

inductive Action where
  | publish (s : Snapshot)
  | close
  | elapse (time : Nat)
  | begin (condition : Snapshot → Bool) (timeout : Option Nat)
  | glance
  | leaveOff

/-- The observer comes to a supplier whatever has been published there before. -/
def start (supplier : Supplier) : Vigil := ⟨supplier, .start supplier, 0, none, []⟩

/-- A publication that is refused leaves no trace. -/
def publish (v : Vigil) (s : Snapshot) : Vigil :=
  match v.supplier.publish s with
  | .ok supplier => { v with supplier, past := .accepted s :: v.past }
  | .error _ => v

def close (v : Vigil) : Vigil :=
  { v with supplier := v.supplier.close, past := .closed :: v.past }

def begin (v : Vigil) (condition : Snapshot → Bool) (timeout : Option Nat) : Vigil :=
  { v with
    wait := some ⟨condition, timeout.map (v.now + ·)⟩
    past := .began v.now condition timeout :: v.past }

def conclude (v : Vigil) (sighting : Sighting) : Vigil :=
  { v with wait := none, past := .ended v.now sighting :: v.past }

/-- One glance; nothing if there is nothing to see and time is left. -/
def glance (v : Vigil) (w : Wait) : Option Vigil :=
  match v.supplier.poll v.observer.subscription with
  | (.changed s, subscription) =>
      let shown := { v with observer := ⟨subscription, s⟩, past := .saw s :: v.past }
      some (if w.condition s then shown.conclude (.matched s) else shown)
  | (.closed, _) => some (v.conclude .closed)
  | (.nothing, _) =>
      if w.deadline.any (decide <| · ≤ v.now) then some (v.conclude .timedOut) else none

/-- What an action leads to; nothing if it is not possible now. -/
def act (v : Vigil) : Action → Option Vigil
  | .publish s => some (v.publish s)
  | .close => some v.close
  | .elapse time => some { v with now := v.now + time }
  | .begin condition timeout =>
      if v.wait.isNone then some (v.begin condition timeout) else none
  | .glance => v.wait.bind v.glance
  | .leaveOff => v.wait.map fun _ => { v with wait := none, past := .leftOff :: v.past }

def acts (v : Vigil) (actions : List Action) : Option Vigil := runs act v actions

end Vigil
end ClusterWatch
