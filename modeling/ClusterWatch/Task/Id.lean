import ClusterWatch.Membership.Node
import ClusterWatch.Text.Decimal

/-!
Ids of tasks: the node that started a task and a number on that node, written with a colon
between them. A number of -1 marks the lack of a task, written as one word. Node ids may
hold colons, so text is cut at its last one.
-/
namespace ClusterWatch

structure TaskId where
  node : String
  number : Int
deriving DecidableEq, Repr, Inhabited

namespace TaskId

/-- The parent of a task that has none. -/
def unset : TaskId := ⟨"", -1⟩

def of (node : NodeId) (number : Int) : TaskId := ⟨node.text, number⟩

def isSet (t : TaskId) : Bool := t.number != -1

def text (t : TaskId) : String :=
  if t.isSet then t.node ++ ":" ++ toString t.number else "unset"

instance : ToString TaskId := ⟨text⟩

structure Malformed where
  given : String
deriving DecidableEq, Repr

def Malformed.message (e : Malformed) : String :=
  "malformed task id [" ++ e.given ++ "], expected `node:id`"

/-- The parts before and after the last occurrence of a character. -/
def splitAtLast (mark : Char) : List Char → Option (List Char × List Char)
  | [] => none
  | c :: rest =>
      match splitAtLast mark rest with
      | some (front, back) => some (c :: front, back)
      | none => if c = mark then some ([], rest) else none

def parse (given : String) : Except Malformed TaskId :=
  if given = "unset" then .ok unset
  else match splitAtLast ':' given.toList with
    | some (c :: front, back) =>
        match Text.signed? Text.signedBound64 back with
        | some number => .ok ⟨String.ofList (c :: front), number⟩
        | none => .error ⟨given⟩
    | _ => .error ⟨given⟩

end TaskId
end ClusterWatch
