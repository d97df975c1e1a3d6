import Mathlib.Logic.Function.Basic
import ClusterWatch.Cluster.Supplier
import ClusterWatch.Runs

/-!
Clients that change the state of a cluster. Each of them reads the current snapshot, edits its copy
and publishes the outcome, while others do the same; nothing is assumed of the order in which they
take their steps. A publication is one step, and so is its refusal.
-/
namespace ClusterWatch

/-- The edit sets the version to a number of its own. -/
def Snapshot.Edit.setsVersion : Snapshot.Edit → Bool
  | .version _ => true
  | _ => false

/-- What a client has read, and the edits it has made to its copy. -/
structure Revision where
  base : Snapshot
  edits : List Snapshot.Edit
deriving DecidableEq

namespace Revision

def snapshot (r : Revision) : Snapshot := r.base.editAll r.edits

/-- The version is moved on once, and is not set otherwise. -/
def isProper (r : Revision) : Bool :=
  r.edits.count .next = 1 && r.edits.all fun edit => !edit.setsVersion

end Revision

/-- A supplier and the clients that are at work, by their numbers. -/
structure Editing where
  supplier : Supplier
  revisions : Nat → Option Revision

namespace Editing

inductive Action where
  | read (client : Nat)
  | edit (client : Nat) (edit : Snapshot.Edit)
  /-- Whatever comes of it, the client is done with what it has read. -/
  | publish (client : Nat)
  | close
deriving DecidableEq

def start (localNode : Node) (initial : Snapshot) : Editing :=
  ⟨.start localNode initial, fun _ => none⟩

/-- What a client publishes, if it has anything proper to publish. -/
def offer? (e : Editing) (client : Nat) : Option Revision :=
  (e.revisions client).filter Revision.isProper

def publish (e : Editing) (client : Nat) (r : Revision) : Editing where
  supplier :=
    match e.supplier.publish r.snapshot with
    | .ok next => next
    | .error _ => e.supplier
  revisions := Function.update e.revisions client none

/-- What an action leads to; nothing if it is not possible now. -/
def act (e : Editing) : Action → Option Editing
  | .read client =>
      some { e with
        revisions := Function.update e.revisions client (some ⟨e.supplier.current, []⟩) }
  | .edit client edit =>
      (e.revisions client).map fun r =>
        { e with
          revisions := Function.update e.revisions client
            (some { r with edits := r.edits ++ [edit] }) }
  | .publish client => (e.offer? client).map (e.publish client)
  | .close => some { e with supplier := e.supplier.close }

def acts (e : Editing) (actions : List Action) : Option Editing := runs act e actions

/-- The revision that an action publishes and that is accepted, if there is one. -/
def acceptance? (e : Editing) : Action → Option Revision
  | .publish client =>
      (e.offer? client).filter fun r =>
        match e.supplier.publish r.snapshot with
        | .ok _ => true
        | .error _ => false
  | _ => none

/-- The revisions that are accepted on a run, in order. -/
def acceptances (e : Editing) : List Action → List Revision
  | [] => []
  | action :: rest =>
      (e.acceptance? action).toList ++ (e.act action).elim [] fun next => next.acceptances rest

end Editing
end ClusterWatch
