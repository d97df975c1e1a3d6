import ClusterWatch.Proofs.Detector.Fate
import ClusterWatch.Proofs.Detector.Following
import ClusterWatch.Proofs.Detector.Lifetime

/-!
Who drives the nodes under watch. As long as the detector is there, an entry and its worker come
and go together: a worker is told to stop when its entry is taken away, and never otherwise, and
it leaves only once it has been told or finds no entry of its own. So an entry has exactly one
worker, which goes on, and all other workers are on their way out or in the reconnect that their
own ping has called for.
-/
namespace ClusterWatch

open Detector Past

/-- No entry is of this generation. -/
def Unregistered (monitored : Table Cycle Cycle.key) (g : Generation) : Prop :=
  ∀ c ∈ monitored.entries, c.generation ≠ g

/-- How workers and entries go together. -/
structure Attendance (workers : List Worker) (monitored : Table Cycle Cycle.key) (past : Past) :
    Prop where
  told : ∀ w ∈ workers, w.retired = true ↔ Unregistered monitored w.generation
  away : ∀ w ∈ workers, w.stage.connects = true →
    w.retired = true ∧ ∃ node, .removed node w.generation .lostByPing ∈ past
  driven : ∀ c ∈ monitored.entries, ∃ w ∈ workers, w.generation = c.generation

namespace Attendance

variable {workers : List Worker} {monitored : Table Cycle Cycle.key} {past : Past} {issued : Nat}

theorem note (h : Attendance workers monitored past) (e : Event) :
    Attendance workers monitored (e :: past) where
  told := h.told
  away w hw hstage := by
    obtain ⟨hretired, node, hremoved⟩ := h.away w hw hstage
    exact ⟨hretired, node, List.mem_cons_of_mem _ hremoved⟩
  driven := h.driven

/-- Workers may move on, but not set out to connect. -/
theorem mapWorkers (h : Attendance workers monitored past) {change : Worker → Worker}
    (hsame : ∀ w, (change w).generation = w.generation ∧ (change w).retired = w.retired)
    (hstage : ∀ w ∈ workers, (change w).stage.connects = true → w.stage.connects = true ∨
      (w.retired = true ∧ ∃ node, .removed node w.generation .lostByPing ∈ past)) :
    Attendance (workers.map change) monitored past where
  told w hw := by
    obtain ⟨v, hv, rfl⟩ := List.mem_map.1 hw
    rw [(hsame v).1, (hsame v).2]
    exact h.told v hv
  away w hw hconnects := by
    obtain ⟨v, hv, rfl⟩ := List.mem_map.1 hw
    rw [(hsame v).1, (hsame v).2]
    rcases hstage v hv hconnects with hbefore | hlost
    · exact h.away v hv hbefore
    · exact hlost
  driven c hc := by
    obtain ⟨w, hw, hg⟩ := h.driven c hc
    exact ⟨change w, List.mem_map_of_mem hw, (hsame w).1.trans hg⟩

/-- Whoever has no entry may leave. -/
theorem dropWorker (h : Attendance workers monitored past) {g : Generation}
    (hleaves : Unregistered monitored g) :
    Attendance (workers.filter fun w => w.generation ≠ g) monitored past where
  told w hw := h.told w (List.mem_filter.1 hw).1
  away w hw := h.away w (List.mem_filter.1 hw).1
  driven c hc := by
    obtain ⟨w, hw, hg⟩ := h.driven c hc
    have hstays : w.generation ≠ g := hg ▸ hleaves c hc
    exact ⟨w, List.mem_filter.2 ⟨hw, by simpa using hstays⟩, hg⟩

/-- An entry may change all but its node and its generation. -/
theorem putCycle (h : Attendance workers monitored past) {b c : Cycle}
    (hb : b ∈ monitored.entries) (hnode : c.node = b.node) (hg : c.generation = b.generation) :
    Attendance workers (monitored.insert c) past := by
  have hgenerations (k : Generation) :
      Unregistered (monitored.insert c) k ↔ Unregistered monitored k := by
    constructor
    · intro hnone x hx
      by_cases hkey : c.key = x.key
      · have hxb : x = b := Table.eq_of_key_eq hx hb (hkey.symm.trans (congrArg Node.key hnode))
        rw [hxb, ← hg]
        exact hnone c Table.mem_insert_self
      · exact hnone x (Table.mem_insert.2 (Or.inr ⟨hx, hkey⟩))
    · intro hnone x hx
      rcases Table.mem_insert.1 hx with rfl | hx
      · rw [hg]
        exact hnone b hb
      · exact hnone x hx.1
  refine ⟨fun w hw => (h.told w hw).trans (hgenerations w.generation).symm, h.away, fun x hx => ?_⟩
  rcases Table.mem_insert.1 hx with rfl | hx
  · rw [hg]
    exact h.driven b hb
  · exact h.driven x hx.1

/-- The entry and its worker's mandate are taken away together. -/
theorem removeEntry (h : Attendance workers monitored past)
    (hd : Enrolment workers monitored past issued) {c : Cycle} (hc : c ∈ monitored.entries) :
    Attendance (workers.map fun w => if w.generation = c.generation then { w with retired := true }
      else w) (monitored.erase c.key) past := by
  have hothers {x : Cycle} (hx : x ∈ monitored.entries) :
      x ∈ (monitored.erase c.key).entries ↔ x.generation ≠ c.generation := by
    rw [Table.mem_erase]
    constructor
    · rintro ⟨-, hkey⟩ hg
      exact hkey (congrArg Cycle.key (hd.entry_unique hc hx hg.symm))
    · intro hg
      exact ⟨hx, fun hkey => hg (congrArg Cycle.generation (Table.eq_of_key_eq hx hc hkey.symm))⟩
  constructor
  case told =>
    intro w hw
    obtain ⟨v, hv, rfl⟩ := List.mem_map.1 hw
    by_cases hg : v.generation = c.generation
    · rw [if_pos hg]
      refine iff_of_true rfl fun x hx heq => ?_
      exact (hothers (Table.mem_erase.1 hx).1).1 hx (heq.trans hg)
    · rw [if_neg hg]
      refine (h.told v hv).trans ⟨fun hnone x hx => hnone x (Table.mem_erase.1 hx).1, ?_⟩
      intro hnone x hx heq
      exact hnone x ((hothers hx).2 fun hxc => hg (heq.symm.trans hxc)) heq
  case away =>
    intro w hw hconnects
    obtain ⟨v, hv, rfl⟩ := List.mem_map.1 hw
    by_cases hg : v.generation = c.generation
    · rw [if_pos hg] at hconnects ⊢
      exact ⟨rfl, (h.away v hv hconnects).2⟩
    · rw [if_neg hg] at hconnects ⊢
      exact h.away v hv hconnects
  case driven =>
    intro x hx
    obtain ⟨w, hw, hg⟩ := h.driven x (Table.mem_erase.1 hx).1
    refine ⟨_, List.mem_map_of_mem hw, ?_⟩
    split
    · exact hg
    · exact hg

/-- A new entry has a new worker. -/
theorem install (h : Attendance workers monitored past)
    (hd : Enrolment workers monitored past issued) {node : Node}
    (hnew : monitored.contains node.key = false) :
    Attendance (workers ++ [⟨node, ⟨issued + 1⟩, false, .ready⟩])
      (monitored.insert (Cycle.begin node ⟨issued + 1⟩)) past := by
  have hold : ∀ {n g}, .installed n g ∈ past → g ≠ ⟨issued + 1⟩ := by
    rintro n g hg rfl
    have hle : issued + 1 ≤ issued := hd.begun hg
    omega
  have hkept {x : Cycle} (hx : x ∈ monitored.entries) :
      x ∈ (monitored.insert (Cycle.begin node ⟨issued + 1⟩)).entries :=
    Table.mem_insert.2 (Or.inr ⟨hx, Table.key_ne_of_contains_eq_false hnew hx⟩)
  constructor
  case told =>
    intro w hw
    rcases List.mem_append.1 hw with hw | hw
    · have hw' : w.generation ≠ ⟨issued + 1⟩ := hold (hd.worker w hw)
      refine (h.told w hw).trans ⟨fun hnone x hx => ?_, fun hnone x hx => hnone x (hkept hx)⟩
      rcases Table.mem_insert.1 hx with rfl | hx
      · exact hw'.symm
      · exact hnone x hx.1
    · obtain rfl := List.mem_singleton.1 hw
      exact iff_of_false Bool.false_ne_true fun hnone => hnone _ Table.mem_insert_self rfl
  case away =>
    intro w hw hconnects
    rcases List.mem_append.1 hw with hw | hw
    · exact h.away w hw hconnects
    · obtain rfl := List.mem_singleton.1 hw
      simp [Stage.connects] at hconnects
  case driven =>
    intro x hx
    rcases Table.mem_insert.1 hx with rfl | hx
    · exact ⟨_, List.mem_append_right _ List.mem_cons_self, rfl⟩
    · obtain ⟨w, hw, hg⟩ := h.driven x hx.1
      exact ⟨w, List.mem_append_left _ hw, hg⟩

end Attendance

namespace Detector

theorem lose_monitored (d : Detector) (cause : Removal) (c : Cycle) (node : Node)
    (lost : Generation) :
    (d.lose cause c node lost).monitored = (d.removeCycle cause c).monitored := by
  apply lose_keep (P := fun e => e.monitored = (d.removeCycle cause c).monitored)
  · rfl
  · rw [report_eq]
    rfl

theorem removed_mem_lose (d : Detector) (cause : Removal) (c : Cycle) (node : Node)
    (lost : Generation) : .removed c.node c.generation cause ∈ (d.lose cause c node lost).past := by
  obtain ⟨event, -, hpast⟩ := d.lose_past cause c node lost
  rw [hpast]
  exact List.mem_cons_of_mem _ List.mem_cons_self

/-- Entries and workers are in step. -/
structure Attended (d : Detector) : Prop where
  enrolled : d.Enrolled
  attendance : Attendance d.workers d.monitored d.past

namespace Attended

variable {d : Detector}

theorem record (h : d.Attended) {e : Event} (he : e.delimits = false) : (d.record e).Attended :=
  ⟨h.enrolled.record he, h.attendance.note e⟩

theorem updateWorker (h : d.Attended) {g : Generation} {change : Worker → Worker}
    (hsame : ∀ w, (change w).node = w.node ∧ (change w).generation = w.generation ∧
      (change w).retired = w.retired)
    (hstage : ∀ w ∈ d.workers, w.generation = g → (change w).stage.connects = true →
      w.stage.connects = true ∨
        (w.retired = true ∧ ∃ node, .removed node w.generation .lostByPing ∈ d.past)) :
    (d.updateWorker g change).Attended := by
  refine ⟨h.enrolled.updateWorker fun w => ⟨(hsame w).1, (hsame w).2.1⟩,
    h.attendance.mapWorkers (fun w => ?_) fun w hw hconnects => ?_⟩
  · split
    · exact (hsame w).2
    · exact ⟨rfl, rfl⟩
  · split at hconnects
    next hg => exact hstage w hw hg hconnects
    next => exact Or.inl hconnects

theorem setStage (h : d.Attended) {g : Generation} {stage : Stage}
    (hstage : stage.connects = false) : (d.setStage g stage).Attended := by
  refine h.updateWorker (fun _ => ⟨rfl, rfl, rfl⟩) fun w _ _ hconnects => ?_
  exact absurd (hconnects.symm.trans hstage) (by decide)

theorem leave (h : d.Attended) {alive : Bool} {w : Worker}
    (hleaves : Unregistered d.monitored w.generation) : (d.leave alive w).Attended := by
  refine ⟨h.enrolled.leave, ?_⟩
  obtain ⟨gates, heq⟩ := d.leave_eq alive w
  rw [heq]
  exact h.attendance.dropWorker hleaves

theorem putCycle (h : d.Attended) {c : Cycle} {failures : Nat} {phase : Phase}
    (hc : c ∈ d.monitored.entries) : (d.putCycle { c with failures, phase }).Attended :=
  ⟨h.enrolled.putCycle hc, h.attendance.putCycle hc rfl rfl⟩

theorem removeCycle (h : d.Attended) {cause : Removal} {c : Cycle}
    (hc : c ∈ d.monitored.entries) : (d.removeCycle cause c).Attended :=
  ⟨h.enrolled.removeCycle hc, (h.attendance.removeEntry h.enrolled hc).note _⟩

theorem report (h : d.Attended) {node : Node} {g : Generation} {reason : FailureReason} :
    (d.report node g reason).Attended := by
  refine ⟨h.enrolled.report, ?_⟩
  rw [report_eq]
  exact h.attendance.note _

theorem install (h : d.Attended) {node : Node} : (d.install node).Attended := by
  refine ⟨h.enrolled.install, ?_⟩
  rcases d.install_eq node with ⟨-, heq⟩ | ⟨hnew, heq⟩
  · rw [heq]
    exact h.attendance
  · rw [heq]
    exact (h.attendance.install h.enrolled hnew).note _

theorem lose (h : d.Attended) {cause : Removal} {c : Cycle} {node : Node} {lost : Generation}
    (hc : c ∈ d.monitored.entries) : (d.lose cause c node lost).Attended :=
  lose_keep ((h.removeCycle hc).record rfl) (h.removeCycle hc).report

theorem endReconnect (h : d.Attended) {node : Node} {lost : Generation} {outcome : Outcome} :
    (d.endReconnect node lost outcome).Attended := by
  have hrecorded (outcome : Outcome) : (d.record (.connected node lost outcome)).Attended :=
    h.record rfl
  exact endReconnect_keep (hrecorded _).install fun _ => (hrecorded _).report

/-- A worker that finds no entry of its own has none. -/
theorem unregistered (h : d.Attended) {w : Worker} (hw : w ∈ d.workers)
    (superseded : d.currentCycle? w = none) : Unregistered d.monitored w.generation := by
  intro c hc hg
  have hnode : c.node = w.node := h.enrolled.entry_node hw hc hg
  exact currentCycle?_eq_none superseded c hc (congrArg Node.id hnode) hg

/-- A worker that has not been told to stop has one. -/
theorem registered (h : d.Attended) {w : Worker} (hw : w ∈ d.workers)
    (unretired : ¬ w.retired = true) :
    ∃ c ∈ d.monitored.entries, c.generation = w.generation ∧ c.node = w.node := by
  have hregistered := mt (h.attendance.told w hw).2 unretired
  obtain ⟨c, hc, hg⟩ : ∃ c ∈ d.monitored.entries, c.generation = w.generation := by
    simpa [Unregistered] using hregistered
  exact ⟨c, hc, hg, h.enrolled.entry_node hw hc hg⟩

/-- Nothing is left of the entry that is taken away. -/
theorem unregistered_removeCycle (h : d.Attended) (cause : Removal) {c : Cycle}
    (hc : c ∈ d.monitored.entries) :
    Unregistered (d.removeCycle cause c).monitored c.generation := by
  intro x hx hg
  obtain ⟨hx, hkey⟩ := Table.mem_erase.1 hx
  exact hkey (congrArg Cycle.key (h.enrolled.entry_unique hc hx hg.symm))

end Attended

theorem start_attended (self : Node) (cluster : ClusterName) (settings : DetectionSettings) :
    (start self cluster settings).Attended := by
  refine ⟨start_enrolled self cluster settings, ?_⟩
  constructor <;> simp [start, Table.empty]

theorem Turn.attended {aside : Aside} {d e : Detector} (turn : Turn true d aside e)
    (h : d.Attended) : e.Attended := by
  have hanswered (w : Worker) (outcome : Outcome) :
      (d.record (.answered w.node.id w.generation outcome)).Attended := h.record rfl
  have hentry {w : Worker} {c : Cycle} (current : d.currentCycle? w = some c) :
      c ∈ d.monitored.entries := (currentCycle?_eq_some current).1
  have hretired {w : Worker} (hw : w ∈ d.workers) (retired : w.retired = true) :
      Unregistered d.monitored w.generation := (h.attendance.told w hw).1 retired
  cases turn with
  | pass => exact ⟨h.enrolled, h.attendance⟩
  | tell | hand | hear => exact h.record rfl
  | reconcile snapshot =>
    exact reconcile_keep (P := Attended) (h.record rfl) (fun _ _ he hc => he.removeCycle hc)
      fun _ _ he _ _ => he.install
  | stop => exact stop_keep (P := Attended) (h.record rfl) fun _ _ he hc => he.removeCycle hc
  | land g now outcome =>
    refine h.updateWorker (fun w => ?_) fun w _ _ hconnects => Or.inl ?_
    · unfold Station.landFlight
      split <;> exact ⟨rfl, rfl, rfl⟩
    · unfold Station.landFlight at hconnects
      cases stage : w.stage <;> simp_all [Stage.connects]
  | @queue w member stage =>
    obtain ⟨gates, made, heq⟩ := d.gateFor_eq w.node.id
    rw [heq]
    exact Attended.setStage (d := { d with gates, gatesMade := made })
      ⟨h.enrolled, h.attendance⟩ rfl
  | depart member idle reason kept =>
    rcases reason with hdead | retired | superseded
    · exact absurd hdead (by decide)
    · exact h.leave (hretired member retired)
    · exact h.leave (h.unregistered member superseded)
  | wake => exact h.setStage rfl
  | send version reply member stage free current =>
    exact ((h.putCycle (hentry current)).record rfl).setStage rfl
  | abandon member stage retired kept => exact (h.record rfl).leave (hretired member retired)
  | outlive member stage due superseded kept =>
    exact (hanswered _ _).leave (h.unregistered member superseded)
  | @rest w c gate flight member stage due current =>
    have hcleared : (((d.record (.answered w.node.id w.generation .done)).putCycle
        { c with failures := 0 }).setStage w.generation .ready).Attended :=
      ((hanswered w .done).putCycle (hentry current)).setStage rfl
    exact (hcleared.putCycle Table.mem_insert_self).setStage rfl
  | finish member stage due current orphaned => exact absurd orphaned (by decide)
  | retry member stage due current => exact ((hanswered _ _).putCycle (hentry current)).setStage rfl
  | @exhaust w c gate flight error alive member stage due current =>
    obtain ⟨hc, -, hg⟩ := currentCycle?_eq_some current
    have hnone := (hanswered w (.failed error)).unregistered_removeCycle .unresponsive hc
    refine ((hanswered w (.failed error)).removeCycle hc).report.leave ?_
    rw [report_eq]
    exact hg ▸ hnone
  | @breakOff w c gate flight next error member stage due current =>
    obtain ⟨hc, -, hg⟩ := currentCycle?_eq_some current
    have hnone := (hanswered w (.failed error)).unregistered_removeCycle .lostByPing hc
    have hlost : ((d.record (.answered w.node.id w.generation (.failed error))).lose .lostByPing c
        w.node w.generation).Attended := (hanswered w (.failed error)).lose hc
    refine hlost.updateWorker (fun _ => ⟨rfl, rfl, rfl⟩) fun v hv hvg _ => Or.inr ⟨?_, c.node, ?_⟩
    · refine (hlost.attendance.told v hv).2 ?_
      rw [lose_monitored, hvg, ← hg]
      exact hnone
    · rw [hvg, ← hg]
      exact removed_mem_lose _ _ _ _ _
  | @giveUp w c gate flight error alive member stage due current =>
    obtain ⟨hc, -, hg⟩ := currentCycle?_eq_some current
    have hnone := (hanswered w (.failed error)).unregistered_removeCycle .lostByPing hc
    refine ((hanswered w (.failed error)).lose hc).leave ?_
    rw [lose_monitored]
    exact hg ▸ hnone
  | disconnect node found => exact h.lose (cycle?_eq_some found).1
  | reconnect => exact h.endReconnect
  | @workerReconnect w flight outcome alive member stage due allowed kept =>
    have hretired := (h.attendance.away w member (by simp [stage, Stage.connects])).1
    have hreconnected : (d.endReconnect w.node w.generation outcome).Attended := h.endReconnect
    have hmember := mem_endReconnect member w.node w.generation outcome
    exact hreconnected.leave ((hreconnected.attendance.told w hmember).1 hretired)

end Detector

namespace Station

/-- The nodes under watch are driven. -/
structure NodesDriven (s : Station) : Prop where
  /-- An entry has one worker, which has not been told to stop. -/
  one : ∀ c ∈ s.detector.monitored.entries, ∃ w,
    s.detector.workers.filter (fun v => v.generation = c.generation) = [w] ∧ w.node = c.node ∧
      w.retired = false ∧ w.stage.connects = false
  /-- Any other worker has been told, and if it awaits an attempt to connect, its own ping has
  found the connection lost and nothing but the beginning of that attempt has come of it yet. -/
  others : ∀ w ∈ s.detector.workers, Unregistered s.detector.monitored w.generation →
    w.retired = true ∧ (w.stage.connects = true → s.past.fate w.generation =
      [.connecting w.node w.generation, .removed w.node w.generation .lostByPing])

theorem Reachable.attended {s : Station} (h : s.Reachable) (alive : s.alive = true) :
    s.detector.Attended :=
  h.keepAlive start_attended (fun hd turn => turn.attended hd) alive

/-- As long as the detector is there, every node under watch has exactly one worker of its cycle,
which goes on; and every other worker has been told to stop. -/
theorem Reachable.nodes_driven {s : Station} (h : s.Reachable) (alive : s.alive = true) :
    s.NodesDriven := by
  obtain ⟨hd, hattendance⟩ := h.attended alive
  constructor
  case one =>
    intro c hc
    obtain ⟨w, hw, hg⟩ := hattendance.driven c hc
    have hnode : c.node = w.node := hd.entry_node hw hc hg.symm
    have hretired : w.retired = false := by
      cases hw' : w.retired with
      | false => rfl
      | true => exact absurd hg.symm ((hattendance.told w hw).1 hw' c hc)
    refine ⟨w, ?_, hnode.symm, hretired, ?_⟩
    · have hothers := (perm_cons_others hw hd.distinct).filter fun v => v.generation = c.generation
      rw [List.filter_cons_of_pos (by simpa using hg), List.filter_filter] at hothers
      have hnobody : s.detector.workers.filter (fun v => decide (v.generation = c.generation) &&
          decide (v.generation ≠ w.generation)) = [] := by
        refine List.filter_eq_nil_iff.2 fun v _ => ?_
        simp [hg]
      rw [hnobody] at hothers
      exact List.perm_singleton.1 hothers
    · cases hstage : w.stage.connects with
      | false => rfl
      | true => exact absurd (hretired.symm.trans (hattendance.away w hw hstage).1) (by decide)
  case others =>
    intro w hw hnone
    refine ⟨(hattendance.told w hw).2 hnone, fun hconnects => ?_⟩
    obtain ⟨-, node, hremoved⟩ := hattendance.away w hw hconnects
    have hnode : node = w.node := hd.unique (hd.ended hremoved) (hd.worker w hw)
    have hunderway : ⟨w.node, w.generation⟩ ∈ s.attempts := List.mem_append_left _
      (List.mem_filterMap.2 ⟨w, hw, Worker.errand?_of_connects hconnects⟩)
    obtain ⟨dropped, cause, -, -, hfate⟩ := h.fated.1.awaited hunderway
    have hmem : Event.removed w.node w.generation .lostByPing ∈ s.past.fate w.generation :=
      List.mem_filter.2 ⟨hnode ▸ hremoved, by simp [Event.fated?]⟩
    rw [hfate] at hmem ⊢
    obtain ⟨rfl, -, rfl⟩ : w.node = dropped ∧ True ∧ Removal.lostByPing = cause := by
      simpa using hmem
    rfl

/-- The connection to the peer has been lost, a snapshot with the peer has come while the reconnect
is under way, and then the application has let go of the detector. -/
def releasedInBetween : Station :=
  Trial.after reconnecting flaky [
    .reconcile Trial.together, .run true (.worker ⟨1⟩), .run true (.worker ⟨1⟩),
    .run true (.worker ⟨1⟩), .reconcile Trial.together, .release] (by decide)

theorem nodes_driven_released_in_between :
    releasedInBetween.owned = false ∧ releasedInBetween.alive = true ∧
      releasedInBetween.detector.workers.map (fun w => (w.generation, w.stage.connects)) =
        [(⟨1⟩, true), (⟨2⟩, false)] ∧
      releasedInBetween.detector.monitored.entries.map Cycle.generation = [⟨2⟩] ∧
      releasedInBetween.NodesDriven :=
  ⟨by decide, by decide, by decide, by decide,
    Reachable.nodes_driven (Trial.reachable (by decide)) (by decide)⟩

end Station

end ClusterWatch
