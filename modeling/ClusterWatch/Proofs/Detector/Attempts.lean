import ClusterWatch.Proofs.Detector.Enrolment

/-!
Attempts to connect that are under way. A worker whose cycle was lost with the connection
awaits one, and so does everyone who was told of a loss by somebody else; for the detector
it is all the same who waits. The lemmas say what becomes of the workers' attempts when the
detector changes: nothing, unless a worker takes up an attempt or is gone with its own.
-/
namespace ClusterWatch

open Detector

/-- The attempt that the worker awaits. -/
def Worker.errand? (w : Worker) : Option Errand :=
  if w.stage.connects then some ⟨w.node, w.generation⟩ else none

theorem Worker.errand?_of_connects {w : Worker} (h : w.stage.connects = true) :
    w.errand? = some ⟨w.node, w.generation⟩ := if_pos h

theorem Worker.errand?_eq_none {w : Worker} (h : w.stage.connects = false) : w.errand? = none := by
  simp [errand?, h]

theorem Detector.Aside.Moves.beside {aside : Aside} {before after left right : List Errand}
    (moves : aside.Moves before after) (h : right.Perm left) :
    aside.Moves (left ++ before) (right ++ after) := by
  cases aside with
  | nothing => exact h.append moves
  | setsOut errand => exact (h.append moves).trans List.perm_middle
  | returns errand => exact (h.symm.append moves).trans List.perm_middle

namespace Detector

/-- The attempts that workers await. -/
def underway (d : Detector) : List Errand := d.workers.filterMap Worker.errand?

/-- All attempts under way, given those that others await. -/
def attempts (d : Detector) (errands : List Errand) : List Errand := d.underway ++ errands

section Underway

variable {d : Detector} {w : Worker}

theorem underway_updateWorker {g : Generation} {change : Worker → Worker}
    (hchange : ∀ v, (change v).errand? = v.errand?) :
    (d.updateWorker g change).underway = d.underway := by
  unfold underway updateWorker
  rw [List.filterMap_map]
  refine List.filterMap_congr fun v _ => ?_
  rw [Function.comp_apply]
  split
  · exact hchange v
  · rfl

theorem underway_removeCycle (cause : Removal) (c : Cycle) :
    (d.removeCycle cause c).underway = d.underway :=
  underway_updateWorker (d := { d with monitored := d.monitored.erase c.key }) fun _ => rfl

theorem underway_report (node : Node) (g : Generation) (reason : FailureReason) :
    (d.report node g reason).underway = d.underway := by
  rw [report_eq]
  rfl

theorem underway_install (node : Node) : (d.install node).underway = d.underway := by
  rcases d.install_eq node with ⟨-, heq⟩ | ⟨-, heq⟩
  · rw [heq]
  · rw [heq]
    show List.filterMap _ (_ ++ _) = _
    rw [List.filterMap_append]
    exact List.append_nil _

theorem underway_lose (cause : Removal) (c : Cycle) (node : Node) (lost : Generation) :
    (d.lose cause c node lost).underway = d.underway := by
  apply lose_keep (P := fun e => e.underway = d.underway)
  · exact underway_removeCycle cause c
  · exact (underway_report _ _ _).trans (underway_removeCycle cause c)

theorem underway_endReconnect (node : Node) (lost : Generation) (outcome : Outcome) :
    (d.endReconnect node lost outcome).underway = d.underway :=
  endReconnect_keep (P := fun e => e.underway = d.underway) (underway_install node)
    fun _ => underway_report _ _ _

theorem underway_reconcile (s : Snapshot) : (d.reconcile s).underway = d.underway :=
  reconcile_keep (P := fun e => e.underway = d.underway) rfl
    (fun _ _ he _ => (underway_removeCycle _ _).trans he)
    fun _ _ he _ _ => (underway_install _).trans he

theorem underway_stop : d.stop.underway = d.underway :=
  stop_keep (P := fun e => e.underway = d.underway) rfl
    fun _ _ he _ => (underway_removeCycle _ _).trans he

/-- The worker awaits nothing, and goes on to something that may be an attempt. -/
theorem underway_setStage (hd : d.Enrolled) (hw : w ∈ d.workers) (idle : w.errand? = none)
    (stage : Stage) :
    (d.setStage w.generation stage).underway.Perm
      ((Worker.errand? { w with stage }).toList ++ d.underway) :=
  filterMap_perm_change hw hd.distinct idle fun v => { v with stage }

theorem mem_setStage (hw : w ∈ d.workers) (stage : Stage) :
    { w with stage } ∈ (d.setStage w.generation stage).workers :=
  List.mem_map.2 ⟨w, hw, if_pos rfl⟩

theorem underway_rest (hd : d.Enrolled) (hw : w ∈ d.workers) (idle : w.errand? = none)
    {stage : Stage} (hstage : stage.connects = false) :
    (d.setStage w.generation stage).underway.Perm d.underway := by
  have hperm := underway_setStage hd hw idle stage
  rwa [Worker.errand?_eq_none (w := { w with stage }) hstage] at hperm

theorem underway_leave (hd : d.Enrolled) (hw : w ∈ d.workers) (alive : Bool) :
    d.underway.Perm (w.errand?.toList ++ (d.leave alive w).underway) := by
  obtain ⟨gates, heq⟩ := d.leave_eq alive w
  rw [heq]
  exact filterMap_perm_others hw hd.distinct

theorem underway_depart (hd : d.Enrolled) (hw : w ∈ d.workers) (idle : w.errand? = none)
    (alive : Bool) : (d.leave alive w).underway.Perm d.underway := by
  have hperm := underway_leave hd hw alive
  rw [idle] at hperm
  exact hperm.symm

/-- A worker whose cycle is taken from under it is still there, and has been told. -/
theorem mem_removeCycle (hw : w ∈ d.workers) {c : Cycle} (hg : c.generation = w.generation)
    (cause : Removal) : { w with retired := true } ∈ (d.removeCycle cause c).workers :=
  List.mem_map.2 ⟨w, hw, if_pos hg.symm⟩

theorem mem_report (hw : w ∈ d.workers) (node : Node) (g : Generation) (reason : FailureReason) :
    w ∈ (d.report node g reason).workers := by
  rw [report_eq]
  exact hw

theorem mem_lose (hw : w ∈ d.workers) {c : Cycle} (hg : c.generation = w.generation)
    (cause : Removal) (node : Node) (lost : Generation) :
    { w with retired := true } ∈ (d.lose cause c node lost).workers :=
  lose_keep (P := fun e => { w with retired := true } ∈ e.workers) (mem_removeCycle hw hg cause)
    (mem_report (mem_removeCycle hw hg cause) _ _ _)

theorem mem_endReconnect (hw : w ∈ d.workers) (node : Node) (lost : Generation)
    (outcome : Outcome) : w ∈ (d.endReconnect node lost outcome).workers := by
  refine endReconnect_keep (P := fun e => w ∈ e.workers) ?_ fun _ =>
    mem_report (d := d.record _) hw _ _ _
  rcases (d.record (.connected node lost .done)).install_eq node with ⟨-, heq⟩ | ⟨-, heq⟩
  · rw [heq]
    exact hw
  · rw [heq]
    exact List.mem_append_left _ hw

end Underway

end Detector

namespace Station

/-- All attempts to connect that are under way. -/
def attempts (s : Station) : List Errand := s.detector.attempts s.errands

end Station

end ClusterWatch
