import ClusterWatch.Detector.Cycle
import ClusterWatch.Listener.Registry
import ClusterWatch.Ping.Request

/-!
News on its way to the listeners. News is handed over one piece at a time, in the order in
which it was submitted, to those registered at the moment of handing over. A bulletin that
has been shut takes no more news, and what it already holds is still handed over.
-/
namespace ClusterWatch

inductive Notice where
  | nodeFailed (node : Node) (reason : FailureReason)
  | pingReceived (request : PingRequest)
deriving DecidableEq, Repr

structure Bulletin where
  waiting : List Notice
  shut : Bool
deriving DecidableEq, Repr, Inhabited

namespace Bulletin

def empty : Bulletin := ⟨[], false⟩

def submit? (b : Bulletin) (notice : Notice) : Option Bulletin :=
  if b.shut then none else some { b with waiting := b.waiting ++ [notice] }

def shutdown (b : Bulletin) : Bulletin := { b with shut := true }

def next? (b : Bulletin) : Option (Notice × Bulletin) :=
  match b.waiting with
  | [] => none
  | notice :: rest => some (notice, { b with waiting := rest })

end Bulletin

/-- Who is told what, in what order: everyone once per registration, earliest first. -/
def Registry.told (registry : Registry) (notice : Notice) : List (Listener × Notice) :=
  registry.listeners.map (fun listener => (listener, notice))

end ClusterWatch
