import ClusterWatch.Cluster.Snapshot
import ClusterWatch.Detector.Event
import ClusterWatch.Settings.Basic

/-!
The detector: the nodes under watch and the workers that drive their cycles. A node is put
under watch at most once; its entry carries the generation of the cycle that drives it.
Taking an entry away retires the worker of that cycle, which stops at its next step.

Workers ping a node only while they hold its gate, so that a worker of an earlier cycle
and one of the present cycle are never both at it. Gates are made when first asked for and
thrown away when the last worker that holds or awaits them has ended.
-/
namespace ClusterWatch

/-- Where a worker stands. -/
inductive Stage where
  /-- It is about to ask for the gate. -/
  | ready
  | queued (gate : Nat)
  | pinging (gate : Nat) (flight : Flight)
  /-- It rests after an acknowledged ping, up to the time given. -/
  | resting (wake : Nat)
  /-- Its cycle was lost with the connection, and a reconnect is under way. -/
  | connecting (flight : Flight)
deriving DecidableEq, Repr

structure Worker where
  node : Node
  generation : Generation
  /-- The cycle has been taken from under it, and it has been told so. -/
  retired : Bool
  stage : Stage
deriving DecidableEq, Repr

namespace Worker

/-- The gate it holds or waits at. -/
def gate? (w : Worker) : Option Nat :=
  match w.stage with
  | .queued gate => some gate
  | .pinging gate _ => some gate
  | _ => none

/-- The gate it holds. -/
def held? (w : Worker) : Option Nat :=
  match w.stage with
  | .pinging gate _ => some gate
  | _ => none

/-- Whether the detector has to live on for it. -/
def keepsDetector (w : Worker) : Bool :=
  match w.stage with
  | .queued _ => true
  | .pinging _ _ => true
  | .connecting _ => true
  | _ => false

def wakeTimes (w : Worker) : List Nat :=
  match w.stage with
  | .pinging _ flight => flight.wakeTimes
  | .resting wake => [wake]
  | .connecting flight => flight.wakeTimes
  | _ => []

end Worker

structure Detector where
  self : Node
  cluster : ClusterName
  settings : DetectionSettings
  now : Nat
  monitored : Table Cycle Cycle.key
  /-- The last generation that was given out. -/
  issued : Nat
  workers : List Worker
  gates : Table (String × Nat) Prod.fst
  gatesMade : Nat
  registry : Registry
  bulletin : Bulletin
  history : History
deriving DecidableEq

namespace Detector

def start (self : Node) (cluster : ClusterName) (settings : DetectionSettings) : Detector :=
  ⟨self, cluster, settings, 0, .empty, 0, [], .empty, 0, .empty, .empty, []⟩

def record (d : Detector) (event : Event) : Detector :=
  { d with history := (d.now, event) :: d.history }

def updateWorker (d : Detector) (generation : Generation) (change : Worker → Worker) : Detector :=
  { d with workers := d.workers.map fun w => if w.generation = generation then change w else w }

def setStage (d : Detector) (generation : Generation) (stage : Stage) : Detector :=
  d.updateWorker generation fun w => { w with stage }

def dropWorker (d : Detector) (generation : Generation) : Detector :=
  { d with workers := d.workers.filter fun w => w.generation ≠ generation }

def cycle? (d : Detector) (id : NodeId) : Option Cycle := d.monitored.find? id.text

/-- The entry of the worker's node, if it is still the one that the worker drives. -/
def currentCycle? (d : Detector) (w : Worker) : Option Cycle :=
  (d.cycle? w.node.id).filter (fun c => c.generation = w.generation)

def putCycle (d : Detector) (c : Cycle) : Detector :=
  { d with monitored := d.monitored.insert c }

def removeCycle (d : Detector) (cause : Removal) (c : Cycle) : Detector :=
  ({ d with monitored := d.monitored.erase c.key }.updateWorker c.generation
    fun w => { w with retired := true }).record (.removed c.node c.generation cause)

/-- A new cycle and its worker, unless the node is under watch already. -/
def install (d : Detector) (node : Node) : Detector :=
  if d.monitored.contains node.key then d
  else
    let generation : Generation := ⟨d.issued + 1⟩
    let begun : Detector := { d with
      issued := d.issued + 1
      monitored := d.monitored.insert (Cycle.begin node generation)
      workers := d.workers ++ [⟨node, generation, false, .ready⟩] }
    begun.record (.installed node generation)

/-- Nodes that have left are dropped, then nodes that are new are taken on, in order of their
ids; the detector's own node is never watched. Cycles of nodes that stay are not touched. -/
def reconcile (d : Detector) (s : Snapshot) : Detector :=
  let left := d.monitored.entries.filter fun c => !s.hasNode c.node.id
  let others := s.nodes.entries.filter fun n => n.id ≠ d.self.id
  others.foldl install (left.foldl (removeCycle · .left) (d.record (.reconciled s.nodes)))

def stop (d : Detector) : Detector :=
  d.monitored.entries.foldl (removeCycle · .stopped) (d.record .stopped)

/-- Nothing is watched from here on, and no further news is taken. -/
def close (d : Detector) : Detector :=
  let stopped := d.stop
  { stopped with bulletin := stopped.bulletin.shutdown }

def report (d : Detector) (node : Node) (generation : Generation) (reason : FailureReason) :
    Detector :=
  match d.bulletin.submit? (.nodeFailed node reason) with
  | some bulletin => { d with bulletin }.record (.reported node generation reason true)
  | none => d.record (.reported node generation reason false)

/-- A ping from another node; an acknowledged one is news unless the bulletin has been shut. -/
def receivePing (d : Detector) (request : PingRequest) : Except PingRefusal Detector :=
  match request.refusal? d.self.id d.cluster with
  | some refusal => .error refusal
  | none =>
      match d.bulletin.submit? (.pingReceived request) with
      | some bulletin => .ok { d with bulletin }
      | none => .ok d

/-- The oldest piece of news is handed over to everyone who is registered now. -/
def deliver? (d : Detector) : Option Detector :=
  d.bulletin.next?.map fun (notice, bulletin) =>
    (d.registry.told notice).foldl (fun d (listener, notice) => d.record (.told listener notice))
      ({ d with bulletin }.record (.handed notice))

/-- The gate of a node, made now if there is none. -/
def gateFor (d : Detector) (id : NodeId) : Nat × Detector :=
  match d.gates.find? id.text with
  | some (_, gate) => (gate, d)
  | none =>
      (d.gatesMade,
        { d with gates := d.gates.insert (id.text, d.gatesMade), gatesMade := d.gatesMade + 1 })

def gateHeld (d : Detector) (gate : Nat) : Bool :=
  d.workers.any fun w => w.held? == some gate

/-- Throws the node's gate away unless a worker holds it or waits at it. -/
def releaseGate (d : Detector) (id : NodeId) : Detector :=
  match d.gates.find? id.text with
  | some (_, gate) =>
      if d.workers.any fun w => w.gate? == some gate then d
      else { d with gates := d.gates.erase id.text }
  | none => d

def pingRequest (d : Detector) (node : Node) (version : Int) : PingRequest :=
  ⟨node.id, some d.cluster, d.self.id, version⟩

/-- What an attempt counts as when its time is up. -/
def attemptLimit (d : Detector) (node : Node) : Nat × Outcome :=
  (d.now + d.settings.timeout, .failed (.timeout node.id d.settings.timeoutDuration))

/-- The reconnect has come out: the node is watched again or reported. -/
def endReconnect (d : Detector) (node : Node) (lost : Generation) (outcome : Outcome) : Detector :=
  let d := d.record (.connected node lost outcome)
  match outcome with
  | .done => d.install node
  | .failed _ => d.report node lost .unreachable

end Detector
end ClusterWatch
