import Mathlib.Data.List.Basic
import ClusterWatch.Cluster.Supplier
import ClusterWatch.Runs

/-!
Calls that publish snapshots or close the supplier, many of them at a time. A call waits until
nobody is inside and goes in; there a publication looks at the current version and is weighed
against it, and what becomes of the call is settled before it leaves. Who reads the current snapshot
or asks for news waits for nobody, so that either may happen between any two of these steps.
-/
namespace ClusterWatch

inductive Issuance.Request where
  | publish (s : Snapshot)
  | close
deriving DecidableEq

abbrev Issuance.Answer := Except PublishError Unit

/-- A call, by how far it has come. -/
inductive Issuance.Call where
  | waiting (request : Issuance.Request)
  | entered (request : Issuance.Request)
  /-- The current version has been read, and has still to be compared with the one on offer. -/
  | looked (s : Snapshot) (current : Int)
  | settled (request : Issuance.Request) (answer : Issuance.Answer)
  | returned (request : Issuance.Request) (answer : Issuance.Answer)
deriving DecidableEq

/-- What has been settled on a call, which goes by its number. -/
structure Issuance.Decision where
  call : Nat
  request : Issuance.Request
  answer : Issuance.Answer
deriving DecidableEq

structure Issuance where
  supplier : Supplier
  calls : List Issuance.Call
  /-- The call that is inside. -/
  inside : Option Nat
  /-- Latest first. -/
  past : List Issuance.Decision
deriving DecidableEq

namespace Issuance

inductive Action where
  | call (request : Request)
  | proceed (call : Nat)
deriving DecidableEq

def start (localNode : Node) (initial : Snapshot) : Issuance :=
  ⟨.start localNode initial, [], none, []⟩

def setCall (i : Issuance) (n : Nat) (call : Call) : Issuance :=
  { i with calls := i.calls.set n call }

def settle (i : Issuance) (n : Nat) (request : Request) (answer : Answer) (supplier : Supplier) :
    Issuance :=
  { i.setCall n (.settled request answer) with
    supplier
    past := ⟨n, request, answer⟩ :: i.past }

/-- The next step of a call, if it has not returned and does not have to wait. -/
def proceed (i : Issuance) (n : Nat) : Call → Option Issuance
  | .waiting request =>
      if i.inside = none then some { i.setCall n (.entered request) with inside := some n }
      else none
  | .entered .close => some (i.settle n .close (.ok ()) i.supplier.close)
  | .entered (.publish s) =>
      some (if i.supplier.closed then i.settle n (.publish s) (.error .closed) i.supplier
        else i.setCall n (.looked s i.supplier.current.version))
  | .looked s current =>
      some (if s.version ≤ current then
          i.settle n (.publish s) (.error (.stale current s.version)) i.supplier
        else i.settle n (.publish s) (.ok ())
          { i.supplier with current := s, accepted := i.supplier.accepted + 1 })
  | .settled request answer =>
      some { i.setCall n (.returned request answer) with inside := none }
  | .returned _ _ => none

/-- What an action leads to; nothing if there is no such call, or if it cannot go on now. -/
def act (i : Issuance) : Action → Option Issuance
  | .call request => some { i with calls := i.calls ++ [.waiting request] }
  | .proceed n => i.calls[n]?.bind (i.proceed n)

def acts (i : Issuance) (actions : List Action) : Option Issuance := runs act i actions

end Issuance
end ClusterWatch
