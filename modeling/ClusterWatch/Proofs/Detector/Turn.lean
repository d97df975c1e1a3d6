import ClusterWatch.Detector.Action
import ClusterWatch.Proofs.Detector.Past

/-!
All that one stretch or one request can do to a detector. A turn is the whole effect between
two moments at which another activity may meet the detector, together with what had to hold
for it; whatever every turn keeps holds in every state that a station can come to. What else
there is at a station matters here only for whether the detector lives on and for whether
reconnects are tried at all.
-/
namespace ClusterWatch

/-- Whether the worker has something under way at the transport. -/
def Worker.engaged (w : Worker) : Bool :=
  match w.stage with
  | .pinging .. => true
  | .connecting _ => true
  | _ => false

namespace Detector

/-- The worker is gone; a detector that is still there lets go of its gate as well. -/
def leave (d : Detector) (alive : Bool) (w : Worker) : Detector :=
  if alive then (d.dropWorker w.generation).releaseGate w.node.id
  else d.dropWorker w.generation

/-- The cycle is lost with the connection: a reconnect begins or the node is reported. -/
def lose (d : Detector) (cause : Removal) (c : Cycle) (node : Node) (lost : Generation) :
    Detector :=
  if d.settings.reconnect then (d.removeCycle cause c).record (.connecting node lost)
  else (d.removeCycle cause c).report node lost .disconnected

/-- A reconnect to the node has been asked for by the settings and has begun. -/
structure Reconnects (d : Detector) (node : Node) (lost : Generation) : Prop where
  allowed : d.settings.reconnect = true
  begun : .connecting node lost ∈ d.past

theorem report_eq (d : Detector) (node : Node) (g : Generation) (reason : FailureReason) :
    d.report node g reason =
      { d with bulletin := (d.bulletin.submit? (.nodeFailed node reason)).getD d.bulletin }.record
        (.reported node g reason (!d.bulletin.shut)) := by
  unfold report Bulletin.submit?
  cases hshut : d.bulletin.shut <;> rfl

theorem lose_keep {P : Detector → Prop} {d : Detector} {cause : Removal} {c : Cycle}
    {node : Node} {lost : Generation}
    (hconnecting : P ((d.removeCycle cause c).record (.connecting node lost)))
    (hreported : P ((d.removeCycle cause c).report node lost .disconnected)) :
    P (d.lose cause c node lost) := by
  unfold lose
  split
  · exact hconnecting
  · exact hreported

theorem endReconnect_keep {P : Detector → Prop} {d : Detector} {node : Node} {lost : Generation}
    {outcome : Outcome} (hinstalled : P ((d.record (.connected node lost .done)).install node))
    (hreported : ∀ error,
      P ((d.record (.connected node lost (.failed error))).report node lost .unreachable)) :
    P (d.endReconnect node lost outcome) := by
  cases outcome with
  | done => exact hinstalled
  | failed error => exact hreported error

theorem lose_settings (d : Detector) (cause : Removal) (c : Cycle) (node : Node)
    (lost : Generation) : (d.lose cause c node lost).settings = d.settings := by
  apply lose_keep (P := fun e => e.settings = d.settings)
  · rfl
  · rw [report_eq]
    rfl

theorem lose_reconnects {d : Detector} {cause : Removal} {c : Cycle} {node : Node}
    {lost : Generation} (h : d.settings.reconnect = true) :
    (d.lose cause c node lost).Reconnects node lost := by
  refine ⟨(lose_settings d cause c node lost).symm ▸ h, ?_⟩
  unfold lose
  rw [if_pos h]
  exact List.mem_cons_self

theorem gateFor_eq (d : Detector) (id : NodeId) :
    ∃ gates made, (d.gateFor id).2 = { d with gates, gatesMade := made } := by
  unfold gateFor
  split
  · exact ⟨d.gates, d.gatesMade, rfl⟩
  · exact ⟨_, _, rfl⟩

theorem releaseGate_eq (d : Detector) (id : NodeId) :
    ∃ gates, d.releaseGate id = { d with gates } := by
  unfold releaseGate
  split
  · split
    · exact ⟨d.gates, rfl⟩
    · exact ⟨_, rfl⟩
  · exact ⟨d.gates, rfl⟩

theorem leave_eq (d : Detector) (alive : Bool) (w : Worker) :
    ∃ gates, d.leave alive w = { d.dropWorker w.generation with gates } := by
  unfold leave
  split
  · exact releaseGate_eq _ _
  · exact ⟨d.gates, rfl⟩

theorem cycle?_eq_some {d : Detector} {id : NodeId} {c : Cycle} (h : d.cycle? id = some c) :
    c ∈ d.monitored.entries ∧ c.node.id = id := by
  have hkey : c.key = id.text := Table.key_of_find? h
  exact ⟨Table.mem_of_find? h, congrArg NodeId.mk hkey⟩

theorem currentCycle?_eq_some {d : Detector} {w : Worker} {c : Cycle}
    (h : d.currentCycle? w = some c) :
    c ∈ d.monitored.entries ∧ c.node.id = w.node.id ∧ c.generation = w.generation := by
  obtain ⟨hfound, hgen⟩ := Option.filter_eq_some_iff.1 h
  obtain ⟨hc, hid⟩ := cycle?_eq_some hfound
  exact ⟨hc, hid, by simpa using hgen⟩

theorem currentCycle?_eq_none {d : Detector} {w : Worker} (h : d.currentCycle? w = none) :
    ∀ c ∈ d.monitored.entries, c.node.id = w.node.id → c.generation ≠ w.generation := by
  intro c hc hid hgen
  have hfound : d.cycle? w.node.id = some c := hid ▸ Table.mem_iff_find?.1 hc
  simp [currentCycle?, hfound, hgen] at h

theorem install_eq (d : Detector) (node : Node) :
    (d.monitored.contains node.key = true ∧ d.install node = d) ∨
    (d.monitored.contains node.key = false ∧
      d.install node = ({ d with
        issued := d.issued + 1
        monitored := d.monitored.insert (Cycle.begin node ⟨d.issued + 1⟩)
        workers := d.workers ++ [⟨node, ⟨d.issued + 1⟩, false, .ready⟩] } : Detector).record
          (.installed node ⟨d.issued + 1⟩)) := by
  unfold install
  cases hc : d.monitored.contains node.key with
  | true => exact Or.inl ⟨rfl, rfl⟩
  | false => exact Or.inr ⟨rfl, rfl⟩

/-- Dropping entries one after another, each of them is still there when its turn comes. -/
theorem foldl_removeCycle_keep {P : Detector → Prop} {cause : Removal}
    (drop : ∀ e c, P e → c ∈ e.monitored.entries → P (e.removeCycle cause c))
    (cycles : List Cycle) (d : Detector) (hkeys : cycles.Pairwise fun b c => b.key < c.key)
    (hmem : ∀ c ∈ cycles, c ∈ d.monitored.entries) (h : P d) :
    P (cycles.foldl (removeCycle · cause) d) := by
  induction cycles generalizing d with
  | nil => exact h
  | cons c rest ih =>
    obtain ⟨hfirst, hrest⟩ := List.pairwise_cons.1 hkeys
    have hdropped : P (d.removeCycle cause c) := drop d c h (hmem c List.mem_cons_self)
    refine ih (d.removeCycle cause c) hrest (fun b hb => ?_) hdropped
    refine Table.mem_erase.2 ⟨hmem b (List.mem_cons_of_mem _ hb), fun heq => ?_⟩
    exact String.lt_irrefl _ (heq ▸ hfirst b hb)

theorem stop_keep {P : Detector → Prop} {d : Detector} (h : P (d.record .stopped))
    (drop : ∀ e c, P e → c ∈ e.monitored.entries → P (e.removeCycle .stopped c)) : P d.stop :=
  foldl_removeCycle_keep drop _ _ d.monitored.increasing (fun _ hc => hc) h

theorem reconcile_keep {P : Detector → Prop} {d : Detector} {s : Snapshot}
    (h : P (d.record (.reconciled s.nodes)))
    (drop : ∀ e c, P e → c ∈ e.monitored.entries → P (e.removeCycle .left c))
    (add : ∀ e node, P e → node ∈ s.nodes.entries → node.id ≠ d.self.id → P (e.install node)) :
    P (d.reconcile s) := by
  refine List.foldlRecOn _ _ ?_ fun e he node hnode => ?_
  · exact foldl_removeCycle_keep drop _ _ (d.monitored.increasing.filter _)
      (fun _ hc => (List.mem_filter.1 hc).1) h
  · obtain ⟨hmem, hother⟩ := List.mem_filter.1 hnode
    exact add e node he hmem (by simpa using hother)

/-- A reconnect that is awaited by somebody other than a worker. -/
structure Errand where
  node : Node
  lost : Generation
deriving DecidableEq

/-- What a turn is to those on errands. -/
inductive Aside where
  | nothing
  | setsOut (errand : Errand)
  | returns (errand : Errand)

/-- How the errands under way change; in which order they are listed does not matter. -/
def Aside.Moves : Aside → List Errand → List Errand → Prop
  | .nothing, before, after => after.Perm before
  | .setsOut errand, before, after => after.Perm (errand :: before)
  | .returns errand, before, after => before.Perm (errand :: after)

/-- What can happen to a detector from one moment at which others may meet it to the next. Where
it lives on, a worker leaves only if it has been told to or finds that its cycle is over. -/
inductive Turn (lives : Bool) (d : Detector) : Aside → Detector → Prop
  | pass (now : Nat) (registry : Registry) (bulletin : Bulletin) :
      Turn lives d .nothing { d with now, registry, bulletin }
  | tell (listener : Listener) (notice : Notice) :
      Turn lives d .nothing (d.record (.told listener notice))
  | hand (notice : Notice) : Turn lives d .nothing (d.record (.handed notice))
  | hear (node : Node) : Turn lives d .nothing (d.record (.disconnected node))
  | reconcile (snapshot : Snapshot) : Turn lives d .nothing (d.reconcile snapshot)
  | stop : Turn lives d .nothing d.stop
  | land (g : Generation) (now : Nat) (outcome : Outcome) :
      Turn lives d .nothing (d.updateWorker g (Station.landFlight now outcome))
  | queue {w : Worker} (member : w ∈ d.workers) (stage : w.stage = .ready) :
      Turn lives d .nothing
        ((d.gateFor w.node.id).2.setStage w.generation (.queued (d.gateFor w.node.id).1))
  | depart {w : Worker} {alive : Bool} (member : w ∈ d.workers) (idle : w.engaged = false)
      (reason : lives = false ∨ w.retired = true ∨ d.currentCycle? w = none)
      (kept : lives = true → alive = true) : Turn lives d .nothing (d.leave alive w)
  | wake {w : Worker} {time : Nat} (member : w ∈ d.workers) (stage : w.stage = .resting time)
      (due : time ≤ d.now) : Turn lives d .nothing (d.setStage w.generation .ready)
  | send {w : Worker} {c : Cycle} {gate : Nat} (version : Int) (reply : Reply)
      (member : w ∈ d.workers) (stage : w.stage = .queued gate)
      (free : d.gateHeld gate = false) (current : d.currentCycle? w = some c) :
      Turn lives d .nothing
        (((d.putCycle { c with phase := .awaiting }).record
          (.pinged w.node w.generation (d.pingRequest w.node version))).setStage w.generation
            (.pinging gate (.launch d.now reply (some (d.attemptLimit w.node)))))
  | abandon {w : Worker} {gate : Nat} {flight : Flight} {alive : Bool} (member : w ∈ d.workers)
      (stage : w.stage = .pinging gate flight) (retired : w.retired = true)
      (kept : lives = true → alive = true) :
      Turn lives d .nothing ((d.record (.abandoned w.node.id w.generation)).leave alive w)
  | outlive {w : Worker} {gate : Nat} {flight : Flight} {outcome : Outcome} {alive : Bool}
      (member : w ∈ d.workers) (stage : w.stage = .pinging gate flight)
      (due : flight.outcome? d.now = some outcome) (superseded : d.currentCycle? w = none)
      (kept : lives = true → alive = true) :
      Turn lives d .nothing ((d.record (.answered w.node.id w.generation outcome)).leave alive w)
  | rest {w : Worker} {c : Cycle} {gate : Nat} {flight : Flight} (member : w ∈ d.workers)
      (stage : w.stage = .pinging gate flight) (due : flight.outcome? d.now = some .done)
      (current : d.currentCycle? w = some c) :
      Turn lives d .nothing
        (((((d.record (.answered w.node.id w.generation .done)).putCycle
          { c with failures := 0 }).setStage w.generation .ready).putCycle
            { c with failures := 0, phase := .backoff }).setStage w.generation
              (.resting (d.now + d.settings.interval)))
  | finish {w : Worker} {c : Cycle} {gate : Nat} {flight : Flight} {alive : Bool}
      (member : w ∈ d.workers) (stage : w.stage = .pinging gate flight)
      (due : flight.outcome? d.now = some .done) (current : d.currentCycle? w = some c)
      (orphaned : lives = false) :
      Turn lives d .nothing
        ((((d.record (.answered w.node.id w.generation .done)).putCycle
          { c with failures := 0 }).setStage w.generation .ready).leave alive w)
  | retry {w : Worker} {c : Cycle} {gate : Nat} {flight : Flight} {error : TransportError}
      (member : w ∈ d.workers) (stage : w.stage = .pinging gate flight)
      (due : flight.outcome? d.now = some (.failed error))
      (current : d.currentCycle? w = some c) (counted : error.isDisconnect = false)
      (left : c.failures + 1 < d.settings.retries) :
      Turn lives d .nothing
        (((d.record (.answered w.node.id w.generation (.failed error))).putCycle
          { c with failures := c.failures + 1 }).setStage w.generation .ready)
  | exhaust {w : Worker} {c : Cycle} {gate : Nat} {flight : Flight} {error : TransportError}
      {alive : Bool} (member : w ∈ d.workers) (stage : w.stage = .pinging gate flight)
      (due : flight.outcome? d.now = some (.failed error))
      (current : d.currentCycle? w = some c) (counted : error.isDisconnect = false)
      (spent : d.settings.retries ≤ c.failures + 1) (kept : lives = true → alive = true) :
      Turn lives d .nothing
        ((((d.record (.answered w.node.id w.generation (.failed error))).removeCycle
          .unresponsive c).report w.node w.generation
            (.unresponsive d.settings.retries d.settings.timeoutDuration)).leave alive w)
  | breakOff {w : Worker} {c : Cycle} {gate : Nat} {flight next : Flight}
      {error : TransportError} (member : w ∈ d.workers)
      (stage : w.stage = .pinging gate flight)
      (due : flight.outcome? d.now = some (.failed error))
      (current : d.currentCycle? w = some c) (lost : error.isDisconnect = true)
      (allowed : d.settings.reconnect = true) :
      Turn lives d .nothing
        (((d.record (.answered w.node.id w.generation (.failed error))).lose .lostByPing c
          w.node w.generation).setStage w.generation (.connecting next))
  | giveUp {w : Worker} {c : Cycle} {gate : Nat} {flight : Flight} {error : TransportError}
      {alive : Bool} (member : w ∈ d.workers) (stage : w.stage = .pinging gate flight)
      (due : flight.outcome? d.now = some (.failed error))
      (current : d.currentCycle? w = some c) (lost : error.isDisconnect = true)
      (refused : d.settings.reconnect = false) (kept : lives = true → alive = true) :
      Turn lives d .nothing
        (((d.record (.answered w.node.id w.generation (.failed error))).lose .lostByPing c
          w.node w.generation).leave alive w)
  | disconnect {c : Cycle} (node : Node) (found : d.cycle? node.id = some c) :
      Turn lives d (if d.settings.reconnect then .setsOut ⟨node, c.generation⟩ else .nothing)
        (d.lose .lostByEvent c node c.generation)
  | reconnect {node : Node} {lost : Generation} (outcome : Outcome)
      (begun : d.Reconnects node lost) :
      Turn lives d (.returns ⟨node, lost⟩) (d.endReconnect node lost outcome)
  | workerReconnect {w : Worker} {flight : Flight} {outcome : Outcome} {alive : Bool}
      (member : w ∈ d.workers) (stage : w.stage = .connecting flight)
      (due : flight.outcome? d.now = some outcome) (allowed : d.settings.reconnect = true)
      (kept : lives = true → alive = true) :
      Turn lives d .nothing ((d.endReconnect w.node w.generation outcome).leave alive w)

/-- Any number of turns, together with what becomes of the errands. -/
inductive Turns (lives : Bool) : Detector → List Errand → Detector → List Errand → Prop
  | none (d : Detector) (errands : List Errand) : Turns lives d errands d errands
  | next {aside : Aside} {d e f : Detector} {before between after : List Errand}
      (first : Turn lives d aside e) (moves : aside.Moves before between)
      (rest : Turns lives e between f after) : Turns lives d before f after

section Turns

variable {lives : Bool} {aside : Aside} {d e f : Detector} {before between after : List Errand}

theorem Turn.turns (h : Turn lives d aside e) (moves : aside.Moves before after) :
    Turns lives d before e after :=
  .next h moves (.none e after)

theorem Turns.trans (h : Turns lives d before e between) (rest : Turns lives e between f after) :
    Turns lives d before f after := by
  induction h with
  | none => exact rest
  | next first moves _ ih => exact .next first moves (ih rest)

/-- What every turn keeps, of the detector and of the errands, any number of turns keeps. -/
theorem Turns.keepBoth {P : Detector → List Errand → Prop} (h : Turns lives d before e after)
    (start : P d before)
    (turn : ∀ {aside d e before after}, P d before → Turn lives d aside e →
      aside.Moves before after → P e after) : P e after := by
  induction h with
  | none => exact start
  | next first moves _ ih => exact ih (turn start first moves)

end Turns

/-- Who the detector is and what it is set to never change, and the past stays as it was. -/
structure Continues (d e : Detector) : Prop where
  self : e.self = d.self
  settings : e.settings = d.settings
  past : d.past <:+ e.past

namespace Continues

variable {d e : Detector}

theorem refl (d : Detector) : d.Continues d := ⟨.refl _, .refl _, List.suffix_rfl⟩

theorem trans {f : Detector} (h : d.Continues e) (rest : e.Continues f) : d.Continues f :=
  ⟨rest.self.trans h.self, rest.settings.trans h.settings, h.past.trans rest.past⟩

theorem record (h : d.Continues e) {event : Event} : d.Continues (e.record event) :=
  ⟨h.self, h.settings, h.past.trans (List.suffix_cons _ _)⟩

theorem removeCycle (h : d.Continues e) {cause : Removal} {c : Cycle} :
    d.Continues (e.removeCycle cause c) :=
  ⟨h.self, h.settings, h.past.trans (List.suffix_cons _ _)⟩

theorem report (h : d.Continues e) {node : Node} {g : Generation} {reason : FailureReason} :
    d.Continues (e.report node g reason) := by
  rw [report_eq]
  exact ⟨h.self, h.settings, h.past.trans (List.suffix_cons _ _)⟩

theorem leave (h : d.Continues e) {alive : Bool} {w : Worker} : d.Continues (e.leave alive w) := by
  obtain ⟨gates, heq⟩ := e.leave_eq alive w
  rw [heq]
  exact ⟨h.self, h.settings, h.past⟩

theorem install (h : d.Continues e) {node : Node} : d.Continues (e.install node) := by
  rcases e.install_eq node with ⟨-, heq⟩ | ⟨-, heq⟩
  · rw [heq]
    exact h
  · rw [heq]
    exact ⟨h.self, h.settings, h.past.trans (List.suffix_cons _ _)⟩

theorem lose (h : d.Continues e) {cause : Removal} {c : Cycle} {node : Node}
    {lost : Generation} : d.Continues (e.lose cause c node lost) :=
  lose_keep h.removeCycle.record h.removeCycle.report

theorem endReconnect (h : d.Continues e) {node : Node} {lost : Generation} {outcome : Outcome} :
    d.Continues (e.endReconnect node lost outcome) :=
  endReconnect_keep h.record.install fun _ => h.record.report

theorem reconnects (h : d.Continues e) {node : Node} {lost : Generation}
    (begun : d.Reconnects node lost) : e.Reconnects node lost :=
  ⟨h.settings ▸ begun.allowed, h.past.mem begun.begun⟩

end Continues

theorem Turn.continues {lives : Bool} {aside : Aside} {d e : Detector}
    (turn : Turn lives d aside e) : d.Continues e := by
  have hd := Continues.refl d
  cases turn with
  | pass => exact ⟨hd.self, hd.settings, hd.past⟩
  | tell | hand | hear => exact hd.record
  | reconcile snapshot =>
    exact reconcile_keep (P := d.Continues) hd.record (fun _ _ he _ => he.removeCycle)
      fun _ _ he _ _ => he.install
  | stop => exact stop_keep (P := d.Continues) hd.record fun _ _ he _ => he.removeCycle
  | @queue w member stage =>
    obtain ⟨gates, made, heq⟩ := d.gateFor_eq w.node.id
    rw [heq]
    exact ⟨hd.self, hd.settings, hd.past⟩
  | land | wake => exact ⟨hd.self, hd.settings, hd.past⟩
  | send | rest | retry => exact ⟨hd.self, hd.settings, List.suffix_cons _ _⟩
  | depart => exact hd.leave
  | abandon | outlive => exact hd.record.leave
  | @finish w c gate flight alive =>
    refine Continues.leave (e := (Detector.putCycle _ _).setStage w.generation .ready) ?_
    exact ⟨hd.self, hd.settings, List.suffix_cons _ _⟩
  | exhaust => exact hd.record.removeCycle.report.leave
  | @breakOff w c gate flight next error =>
    exact (hd.record.lose : d.Continues ((d.record _).lose _ c w.node w.generation)).trans
      ⟨.refl _, .refl _, List.suffix_rfl⟩
  | giveUp => exact hd.record.lose.leave
  | disconnect => exact hd.lose
  | reconnect => exact hd.endReconnect
  | workerReconnect => exact hd.endReconnect.leave

end Detector
end ClusterWatch
