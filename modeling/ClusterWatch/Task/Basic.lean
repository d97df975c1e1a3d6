import ClusterWatch.Task.Id
import ClusterWatch.Text.Quoted

/-!
Units of work registered on a node: what they do, for whom, and since when. Times are in
nanoseconds since the epoch. A task inspects as its record with every field by name.
-/
namespace ClusterWatch

structure Task where
  number : Int
  kind : String
  action : String
  description : String
  parent : TaskId
  headers : Table (String × String) Prod.fst
  start : Nat
deriving DecidableEq

namespace Task

/-- A header that is given again takes its new value. -/
def withHeader (t : Task) (name value : String) : Task :=
  { t with headers := t.headers.insert (name, value) }

def id (t : Task) (node : NodeId) : TaskId := .of node t.number

/-- No time at all for a task that starts in the future. -/
def runningTime (t : Task) (now : Nat) : Nat := now - t.start

private def record (name : String) (fields : List (String × String)) : String :=
  name ++ " \x7b " ++
    String.intercalate ", " (fields.map fun (field, value) => field ++ ": " ++ value) ++ " \x7d"

private def inspectHeaders (headers : Table (String × String) Prod.fst) : String :=
  "\x7b" ++ String.intercalate ", " (headers.entries.map fun (name, value) =>
    Text.quoted name ++ ": " ++ Text.quoted value) ++ "\x7d"

private def inspectTime (nanos : Nat) : String :=
  record "SystemTime" [("tv_sec", toString (nanos / 1000000000)),
    ("tv_nsec", toString (nanos % 1000000000))]

def inspect (t : Task) : String :=
  record "Task" [
    ("id", toString t.number),
    ("task_type", Text.quoted t.kind),
    ("action", Text.quoted t.action),
    ("description", Text.quoted t.description),
    ("parent_task_id",
      record "TaskId" [("node_id", Text.quoted t.parent.node), ("id", toString t.parent.number)]),
    ("headers", inspectHeaders t.headers),
    ("start_time", inspectTime t.start)]

/-- A task together with the reason for which it was cancelled, if it was. -/
def inspectWith (t : Task) (reason : Option String) : String :=
  let reasonText := match reason with
    | some reason => "Some(" ++ Text.quoted reason ++ ")"
    | none => "None"
  record "CancellableTask" [("task", t.inspect), ("reason", reasonText)]

end Task
end ClusterWatch
