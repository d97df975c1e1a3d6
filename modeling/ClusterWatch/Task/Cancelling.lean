import ClusterWatch.Task.Cancellation
import ClusterWatch.Runs

/-!
A task among those who cancel it, ask about it and wait for it. A call that cancels the task sets
the reason unless there is one, then wakes whoever is down to be woken, and then calls the hook. A
wait that is run for the first time is put down to be woken and only then looks. Anything that
others do may come between any two of these steps.
-/
namespace ClusterWatch

inductive CancelCall.Stage where
  | fresh
  /-- The reason is its own; nobody has been woken yet. -/
  | claimed
  | notified
  /-- It has told whether it was the one that cancelled the task. -/
  | returned (won : Bool)
deriving DecidableEq, Repr

structure CancelCall where
  reason : String
  stage : CancelCall.Stage
deriving DecidableEq, Repr

inductive CancelEvent where
  | claimed (call : Nat) (reason : String)
  | returned (call : Nat) (won : Bool)
  /-- What somebody is told who asks. -/
  | read (cancelled : Bool) (reason : Option String) (running : Except TaskCancelled Unit)
  /-- A wait is over, and the reason is read. -/
  | finished (waiter : Nat) (reason : Option String)

structure Cancelling where
  task : CancellableTask
  calls : List CancelCall
  /-- Latest first. -/
  past : List CancelEvent

namespace Cancelling

inductive Action where
  | cancel (reason : String)
  | proceed (call : Nat)
  | read
  | await (name : String)
  | run (waiter : Nat)
deriving DecidableEq, Repr

def start (task : Task) (onParentLeaving withChildren : Bool) : Cancelling :=
  ⟨.start task onParentLeaving withChildren, [], []⟩

def record (c : Cancelling) (event : CancelEvent) : Cancelling :=
  { c with past := event :: c.past }

def setCall (c : Cancelling) (index : Nat) (call : CancelCall) : Cancelling :=
  { c with calls := c.calls.set index call }

def setWaiter (c : Cancelling) (index : Nat) (w : Waiter) : Cancelling :=
  { c with task := { c.task with waiters := c.task.waiters.set index w } }

/-- The next step of a call that has not returned. -/
def proceed (c : Cancelling) (index : Nat) (call : CancelCall) : Option Cancelling :=
  match call.stage with
  | .fresh =>
      match c.task.claim call.reason with
      | (true, task) =>
          some (({ c with task }.setCall index { call with stage := .claimed }).record
            (.claimed index call.reason))
      | (false, task) =>
          some (({ c with task }.setCall index { call with stage := .returned false }).record
            (.returned index false))
  | .claimed =>
      some ({ c with task := c.task.notify }.setCall index { call with stage := .notified })
  | .notified =>
      some (({ c with task := c.task.callHook }.setCall index
        { call with stage := .returned true }).record (.returned index true))
  | .returned _ => none

/-- A wait that has not been run yet gets no further than to be put down. -/
def advance (task : CancellableTask) (w : Waiter) : Waiter :=
  match w.stage with
  | .fresh => CancellableTask.register w
  | _ => task.resume w

/-- The wait is run, unless it is over. -/
def run (c : Cancelling) (index : Nat) (w : Waiter) : Option Cancelling :=
  if w.stage = .done then none
  else
    let ran := advance c.task w
    some (if ran.stage = .done then (c.setWaiter index ran).record (.finished index c.task.reason)
      else c.setWaiter index ran)

/-- What an action leads to; nothing if there is no such call or wait, or if it is over. -/
def act (c : Cancelling) : Action → Option Cancelling
  | .cancel reason => some { c with calls := c.calls ++ [⟨reason, .fresh⟩] }
  | .proceed index => c.calls[index]?.bind fun call => c.proceed index call
  | .read =>
      some (c.record (.read c.task.isCancelled c.task.reason c.task.ensureRunning))
  | .await name => some { c with task := c.task.await name }
  | .run index => c.task.waiters[index]?.bind fun w => c.run index w

def acts (c : Cancelling) (actions : List Action) : Option Cancelling := runs act c actions

end Cancelling
end ClusterWatch
