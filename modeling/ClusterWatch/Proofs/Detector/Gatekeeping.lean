import ClusterWatch.Proofs.Detector.Gates
import ClusterWatch.Proofs.Detector.Listening

/-!
What becomes of gates. A gate is made when a worker asks for the gate of its node and there is none,
and it is thrown away by a worker that ends and finds nobody at it. So whoever is at a gate is at the
one that is kept for the node, and whoever a gate is kept for still has a worker, the last of which
takes the gate along. Where nothing can go on, workers are left only of nodes that are under watch or
that are being reconnected.
-/
namespace ClusterWatch

open Detector Past

namespace Detector

/-- A gate is kept only for nodes that have a worker. -/
def Manned (d : Detector) : Prop :=
  ∀ entry ∈ d.gates.entries, ∃ w ∈ d.workers, w.node.key = entry.1

/-- What is left when the gate of a node is released: all others, and this one if it is in use. -/
theorem mem_releaseGate {d : Detector} {id : NodeId} {entry : String × Nat} :
    entry ∈ (d.releaseGate id).gates.entries ↔
      entry ∈ d.gates.entries ∧
        (id.text = entry.1 → ∃ w ∈ d.workers, w.gate? = some entry.2) := by
  unfold releaseGate
  split
  next key gate hfound =>
    have hkey : key = id.text := Table.key_of_find? hfound
    have hsame (hentry : entry ∈ d.gates.entries) (hid : id.text = entry.1) :
        entry = (key, gate) :=
      Table.eq_of_key_eq hentry (Table.mem_of_find? hfound) (hid.symm.trans hkey.symm)
    split
    next hused =>
      obtain ⟨w, hw, hgate⟩ := List.any_eq_true.1 hused
      refine (and_iff_left_of_imp fun hentry hid => ⟨w, hw, ?_⟩).symm
      rw [hsame hentry hid]
      simpa using hgate
    next hunused =>
      rw [Table.mem_erase]
      refine and_congr_right fun hentry => ⟨fun hne heq => absurd heq hne, fun huser heq => ?_⟩
      obtain ⟨w, hw, hgate⟩ := huser heq
      rw [hsame hentry heq] at hgate
      exact hunused (List.any_eq_true.2 ⟨w, hw, by simp [hgate]⟩)
  next hnone =>
    refine (and_iff_left_of_imp fun hentry heq => ?_).symm
    rw [heq, Table.mem_iff_find?.1 hentry] at hnone
    cases hnone

namespace Manned

variable {d e : Detector}

/-- The gates are the same, and nobody has lost their last worker. -/
theorem keep (h : d.Manned) (hgates : e.gates = d.gates)
    (hworkers : ∀ w ∈ d.workers, ∃ v ∈ e.workers, v.node = w.node) : e.Manned := by
  intro entry hentry
  obtain ⟨w, hw, hkey⟩ := h entry (hgates ▸ hentry)
  obtain ⟨v, hv, hnode⟩ := hworkers w hw
  exact ⟨v, hv, hnode ▸ hkey⟩

theorem record (h : d.Manned) {event : Event} : (d.record event).Manned := h

theorem putCycle (h : d.Manned) {c : Cycle} : (d.putCycle c).Manned := h

theorem updateWorker (h : d.Manned) {g : Generation} {change : Worker → Worker}
    (hnode : ∀ w, (change w).node = w.node) : (d.updateWorker g change).Manned := by
  refine h.keep rfl fun w hw => ⟨_, List.mem_map_of_mem hw, ?_⟩
  split
  · exact hnode w
  · rfl

theorem setStage (h : d.Manned) {g : Generation} {stage : Stage} : (d.setStage g stage).Manned :=
  h.updateWorker fun _ => rfl

theorem removeCycle (h : d.Manned) {cause : Removal} {c : Cycle} :
    (d.removeCycle cause c).Manned :=
  updateWorker (d := { d with monitored := d.monitored.erase c.key }) h fun _ => rfl

theorem report (h : d.Manned) {node : Node} {g : Generation} {reason : FailureReason} :
    (d.report node g reason).Manned := by
  rw [report_eq]
  exact h

theorem install (h : d.Manned) {node : Node} : (d.install node).Manned := by
  rcases d.install_eq node with ⟨-, heq⟩ | ⟨-, heq⟩
  · rw [heq]
    exact h
  · rw [heq]
    exact h.keep rfl fun w hw => ⟨w, List.mem_append_left _ hw, rfl⟩

theorem lose (h : d.Manned) {cause : Removal} {c : Cycle} {node : Node} {lost : Generation} :
    (d.lose cause c node lost).Manned :=
  lose_keep h.removeCycle.record h.removeCycle.report

theorem endReconnect (h : d.Manned) {node : Node} {lost : Generation} {outcome : Outcome} :
    (d.endReconnect node lost outcome).Manned :=
  endReconnect_keep h.record.install fun _ => h.record.report

/-- Whoever asks for a gate has a worker. -/
theorem gateFor (h : d.Manned) {w : Worker} (hw : w ∈ d.workers) :
    (d.gateFor w.node.id).2.Manned := by
  unfold Detector.gateFor
  split
  · exact h
  · intro entry hentry
    rcases Table.mem_insert.1 hentry with rfl | ⟨hentry, -⟩
    · exact ⟨w, hw, rfl⟩
    · exact h entry hentry

/-- The last worker of a node takes the gate along: if the gate is left, then somebody is at it, who
can only be another worker of the node. -/
theorem leave (h : d.Manned) (hd : d.Enrolled) {w : Worker}
    (hbegun : .installed w.node w.generation ∈ d.past) (hgated : (d.leave true w).Gated)
    (hapart : (d.leave true w).GatesApart) : (d.leave true w).Manned := by
  intro entry hentry
  obtain ⟨hkept, hused⟩ := mem_releaseGate.1 hentry
  have hworkers : (d.leave true w).workers = (d.dropWorker w.generation).workers := by
    obtain ⟨gates, heq⟩ := d.leave_eq true w
    rw [heq]
  rw [hworkers]
  by_cases hown : w.node.id.text = entry.1
  · obtain ⟨v, hv, hgate⟩ := hused hown
    have hmine := hgated v (hworkers ▸ hv) entry.2 hgate
    have hsame := hapart.distinct _ (Table.mem_of_find? hmine) entry hentry rfl
    exact ⟨v, hv, congrArg Prod.fst hsame⟩
  · obtain ⟨v, hv, hkey⟩ := h entry hkept
    refine ⟨v, List.mem_filter.2 ⟨hv, ?_⟩, hkey⟩
    suffices hother : v.generation ≠ w.generation by simpa using hother
    intro hg
    have hnode : v.node = w.node := hd.unique (hd.worker v hv) (hg ▸ hbegun)
    exact hown (hnode ▸ hkey)

end Manned

theorem start_manned (self : Node) (cluster : ClusterName) (settings : DetectionSettings) :
    (start self cluster settings).Manned := by
  intro entry hentry
  simp [start, Table.empty] at hentry

theorem Turn.manned {aside : Aside} {d e : Detector} (turn : Turn true d aside e)
    (hd : d.Enrolled) (hgated : d.Gated) (hapart : d.GatesApart) (h : d.Manned) : e.Manned := by
  have hentry {w : Worker} {c : Cycle} (current : d.currentCycle? w = some c) :
      c ∈ d.monitored.entries := (currentCycle?_eq_some current).1
  have hanswered (w : Worker) (outcome : Outcome) :
      (d.record (.answered w.node.id w.generation outcome)).Enrolled := hd.record rfl
  -- Who is at which gate is asked after the worker has left, and so of the whole turn.
  have hleave {f : Detector} {w : Worker} {alive : Bool} (hf : f.Manned) (hfd : f.Enrolled)
      (member : w ∈ d.workers) (kept : true = true → alive = true) (he : e = f.leave alive w) :
      e.Manned := by
    obtain rfl := kept rfl
    have hbegun : .installed w.node w.generation ∈ e.past :=
      turn.continues.past.mem (hd.worker w member)
    subst he
    rw [leave_past] at hbegun
    exact hf.leave hfd hbegun (turn.gated hd hgated) (turn.gatesApart hapart)
  cases turn with
  | pass | tell | hand | hear => exact h
  | reconcile snapshot =>
    exact reconcile_keep (P := Manned) h.record (fun _ _ he _ => he.removeCycle)
      fun _ _ he _ _ => he.install
  | stop => exact stop_keep (P := Manned) h.record fun _ _ he _ => he.removeCycle
  | land g now outcome =>
    refine h.updateWorker fun w => ?_
    unfold Station.landFlight
    split <;> rfl
  | queue member => exact (h.gateFor member).setStage
  | wake => exact h.setStage
  | send => exact h.putCycle.record.setStage
  | depart member idle reason kept => exact hleave h hd member kept rfl
  | abandon member stage retired kept => exact hleave h.record (hd.record rfl) member kept rfl
  | outlive member stage due superseded kept =>
    exact hleave h.record (hanswered _ _) member kept rfl
  | rest => exact h.record.putCycle.setStage.putCycle.setStage
  | finish member stage due current orphaned => exact absurd orphaned (by decide)
  | retry => exact h.record.putCycle.setStage
  | exhaust member stage due current counted spent kept =>
    exact hleave h.record.removeCycle.report
      ((hanswered _ _).removeCycle (hentry current)).report member kept rfl
  | breakOff => exact h.record.lose.setStage
  | giveUp member stage due current lost refused kept =>
    exact hleave h.record.lose ((hanswered _ _).lose (hentry current)) member kept rfl
  | disconnect => exact h.lose
  | reconnect => exact h.endReconnect
  | workerReconnect member stage due allowed kept =>
    exact hleave h.endReconnect hd.endReconnect member kept rfl

end Detector

namespace Station

variable {s : Station}

/-- The gates that there are. They go with the detector. -/
def gates (s : Station) : Table (String × Nat) Prod.fst :=
  if s.alive then s.detector.gates else .empty

theorem gates_of_alive (alive : s.alive = true) : s.gates = s.detector.gates := if_pos alive

theorem mem_gates {entry : String × Nat} :
    entry ∈ s.gates.entries ↔ s.alive = true ∧ entry ∈ s.detector.gates.entries := by
  unfold gates
  split
  next alive => simp [alive]
  next gone => simp [gone, Table.empty]

/-- Whoever is at a gate keeps the detector. -/
theorem alive_of_gate {w : Worker} (hw : w ∈ s.detector.workers) {gate : Nat}
    (hgate : w.gate? = some gate) : s.alive = true := by
  by_contra gone
  have hkeeps := (gone_iff.2 (eq_false_of_ne_true gone)).workers w hw
  cases hstage : w.stage <;> simp [Worker.gate?, Worker.keepsDetector, hstage] at hgate hkeeps

theorem Reachable.manned (h : s.Reachable) (alive : s.alive = true) : s.detector.Manned :=
  (h.keepAlive (P := fun d => d.Enrolled ∧ d.Gated ∧ d.GatesApart ∧ d.Manned)
    (fun self cluster settings => ⟨start_enrolled self cluster settings,
      start_gated self cluster settings, start_gatesApart self cluster settings,
      start_manned self cluster settings⟩)
    (fun ⟨hd, hgated, hapart, h⟩ turn => ⟨turn.enrolled hd, turn.gated hd hgated,
      turn.gatesApart hapart, turn.manned hd hgated hapart h⟩) alive).2.2.2

/-- Where nothing can go on, a worker is left only of a node that is under watch or that the worker
itself is trying to reconnect. -/
theorem Reachable.watched_or_connects (h : s.Reachable) (alive : s.alive = true) (quiet : s.Quiet)
    {w : Worker} (hw : w ∈ s.detector.workers) :
    (∃ c ∈ s.detector.monitored.entries, c.node = w.node) ∨ w.stage.connects = true := by
  have hd := h.attended alive
  by_cases hretired : w.retired = true
  · exact .inr (connects_of_quiet hd.enrolled quiet hw hretired)
  · obtain ⟨c, hc, -, hnode⟩ := hd.registered hw hretired
    exact .inl ⟨c, hc, hnode⟩

/-- Where nothing can go on, so is whoever a gate is kept for. -/
theorem Reachable.watched_or_underway (h : s.Reachable) (quiet : s.Quiet) {entry : String × Nat}
    (hentry : entry ∈ s.gates.entries) :
    (∃ c ∈ s.detector.monitored.entries, c.key = entry.1) ∨
      ∃ errand ∈ s.detector.underway, errand.node.key = entry.1 := by
  obtain ⟨alive, hkept⟩ := mem_gates.1 hentry
  obtain ⟨w, hw, hkey⟩ := h.manned alive entry hkept
  rcases h.watched_or_connects alive quiet hw with ⟨c, hc, hnode⟩ | hconnects
  · exact .inl ⟨c, hc, (congrArg Node.key hnode).trans hkey⟩
  · exact .inr ⟨_, List.mem_filterMap.2 ⟨w, hw, Worker.errand?_of_connects hconnects⟩, hkey⟩

/-- How gates go with the workers. -/
structure GatesKept (s : Station) : Prop where
  /-- Whoever holds or awaits a gate is at the one that is kept for their node, -/
  own : ∀ w ∈ s.detector.workers, ∀ gate, w.gate? = some gate →
    s.gates.find? w.node.id.text = some (w.node.id.text, gate)
  /-- and nobody of another node is there. -/
  apart : ∀ v ∈ s.detector.workers, ∀ w ∈ s.detector.workers, ∀ gate,
    v.gate? = some gate → w.gate? = some gate → v.node.id = w.node.id
  used : ∀ entry ∈ s.gates.entries, ∃ w ∈ s.detector.workers, w.node.key = entry.1
  settled : s.Quiet → ∀ entry ∈ s.gates.entries,
    (∃ c ∈ s.detector.monitored.entries, c.key = entry.1) ∨
      ∃ errand ∈ s.detector.underway, errand.node.key = entry.1
  /-- Every node that was under watch has left or failed, whatever the cause that is given. -/
  cleared : s.Quiet →
    (∀ node g, .installed node g ∈ s.past → ∃ cause, .removed node g cause ∈ s.past) →
    s.attempts = [] → s.gates.entries = []

/-- Whoever is at a gate is at the one that is kept for their node, and gates are kept only for nodes
that still have a worker, so that none is left when all cycles have ended. -/
theorem Reachable.gates_kept (h : s.Reachable) : s.GatesKept := by
  constructor
  case own =>
    intro w hw gate hgate
    rw [gates_of_alive (alive_of_gate hw hgate)]
    exact h.gated w hw gate hgate
  case apart =>
    intro v hv w hw gate hvgate hwgate
    have hvkept := Table.mem_of_find? (h.gated v hv gate hvgate)
    have hwkept := Table.mem_of_find? (h.gated w hw gate hwgate)
    have hsame := h.gatesApart.distinct _ hvkept _ hwkept rfl
    exact congrArg NodeId.mk (congrArg Prod.fst hsame)
  case used =>
    intro entry hentry
    obtain ⟨alive, hkept⟩ := mem_gates.1 hentry
    exact h.manned alive entry hkept
  case settled => exact fun quiet entry hentry => h.watched_or_underway quiet hentry
  case cleared =>
    intro quiet ended nothing
    refine List.eq_nil_iff_forall_not_mem.2 fun entry hentry => ?_
    rcases h.watched_or_underway quiet hentry with ⟨c, hc, -⟩ | ⟨errand, hunderway, -⟩
    · rw [h.enrolled.entries_eq_nil_iff.2 ended] at hc
      cases hc
    · have hattempt : errand ∈ s.attempts := List.mem_append_left _ hunderway
      rw [nothing] at hattempt
      cases hattempt

/-- The peer has left, come back and left again while it was pinged, so that its next worker was
waiting behind the first; the other member has been lost, and the reconnect to it has failed. -/
def allGone : Station :=
  Trial.after reconnecting
    (Link.silent.setConnects Trial.other.id
      [.after 0 (.failed (.connectFailed Trial.other.id "refused"))]) [
      .reconcile (Trial.together.withNode Trial.other),
      .run true (.worker ⟨1⟩), .run true (.worker ⟨1⟩), .run true (.worker ⟨2⟩),
      .run true (.worker ⟨2⟩), .reconcile (Trial.alone.withNode Trial.other),
      .reconcile (Trial.together.withNode Trial.other), .run true (.worker ⟨3⟩),
      .reconcile (Trial.alone.withNode Trial.other), .run true (.worker ⟨2⟩),
      .run true (.worker ⟨3⟩),
      .answer ⟨1⟩ (.failed (.connectFailed Trial.other.id "reset")), .run true (.worker ⟨1⟩),
      .run true (.worker ⟨1⟩), .run true .delivery] (by decide)

theorem gates_kept_all_gone :
    allGone.alive = true ∧ allGone.Quiet ∧ allGone.detector.gatesMade = 2 ∧
      (∀ node g, .installed node g ∈ allGone.past →
        ∃ cause, .removed node g cause ∈ allGone.past) ∧
      allGone.attempts = [] ∧ allGone.GatesKept := by
  have hreachable : allGone.Reachable := Trial.reachable (by decide)
  exact ⟨by decide, quiet_iff.2 (by decide), by decide,
    hreachable.enrolled.entries_eq_nil_iff.1 (by decide), by decide,
    Reachable.gates_kept hreachable⟩

end Station
end ClusterWatch
