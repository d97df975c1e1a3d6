import ClusterWatch.Task.Basic

/-!
Tasks that can be cancelled, once and for good. The first reason given is the one that
holds; the hook of the task is called for that cancellation and never again. Cancelling
stops nothing by itself: work asks at points where it is safe to stop, or waits to be woken.

A waiter first puts itself down to be woken and only then looks whether the task has been
cancelled already, so a cancellation that comes in between wakes it all the same.
-/
namespace ClusterWatch

inductive WaiterStage where
  | fresh
  /-- Put down to be woken; it has not looked yet. -/
  | registered
  | waiting
  | done
deriving DecidableEq, Repr

structure Waiter where
  name : String
  stage : WaiterStage
  /-- It has been woken, and has not run since. -/
  signalled : Bool
deriving DecidableEq, Repr

structure CancellableTask where
  task : Task
  /-- Whether the task is to be cancelled when the node that asked for it leaves. -/
  onParentLeaving : Bool
  /-- Whether the tasks it has spawned are to be cancelled with it. -/
  withChildren : Bool
  reason : Option String
  hookCalls : Nat
  waiters : List Waiter
deriving DecidableEq

/-- What work that asks is told once its task has been cancelled. -/
structure TaskCancelled where
  reason : String
deriving DecidableEq, Repr

def TaskCancelled.message (e : TaskCancelled) : String := "task cancelled [" ++ e.reason ++ "]"

namespace CancellableTask

def start (task : Task) (onParentLeaving withChildren : Bool) : CancellableTask :=
  ⟨task, onParentLeaving, withChildren, none, 0, []⟩

def isCancelled (t : CancellableTask) : Bool := t.reason.isSome

def ensureRunning (t : CancellableTask) : Except TaskCancelled Unit :=
  match t.reason with
  | some reason => .error ⟨reason⟩
  | none => .ok ()

/-- The reason is set unless there is one. -/
def claim (t : CancellableTask) (reason : String) : Bool × CancellableTask :=
  match t.reason with
  | some _ => (false, t)
  | none => (true, { t with reason := some reason })

def signal (w : Waiter) : Waiter :=
  match w.stage with
  | .registered => { w with signalled := true }
  | .waiting => { w with signalled := true }
  | _ => w

/-- Wakes those who are down to be woken now. -/
def notify (t : CancellableTask) : CancellableTask := { t with waiters := t.waiters.map signal }

def callHook (t : CancellableTask) : CancellableTask := { t with hookCalls := t.hookCalls + 1 }

/-- Tells whether it was this call that cancelled the task. -/
def cancel (t : CancellableTask) (reason : String) : Bool × CancellableTask :=
  match t.claim reason with
  | (true, claimed) => (true, claimed.notify.callHook)
  | (false, t) => (false, t)

def await (t : CancellableTask) (name : String) : CancellableTask :=
  { t with waiters := t.waiters ++ [⟨name, .fresh, false⟩] }

/-- The waiter puts itself down to be woken. -/
def register (w : Waiter) : Waiter := { w with stage := .registered }

/-- The waiter looks whether the task has been cancelled already. -/
def look (t : CancellableTask) (w : Waiter) : Waiter :=
  { w with stage := if t.isCancelled then .done else .waiting }

/-- One run of a waiter, up to where it waits or is done. -/
def resume (t : CancellableTask) (w : Waiter) : Waiter :=
  match w.stage with
  | .fresh => t.look (register w)
  | .registered => t.look w
  | .waiting => if w.signalled then { w with stage := .done } else w
  | .done => w

def resumeAll (t : CancellableTask) : CancellableTask :=
  { t with waiters := t.waiters.map t.resume }

/-- Those whose wait is over. -/
def done (t : CancellableTask) : List Waiter := t.waiters.filter fun w => w.stage = .done

def inspect (t : CancellableTask) : String := t.task.inspectWith t.reason

end CancellableTask
end ClusterWatch
