import ClusterWatch.Proofs.Detector.Projection

/-!
Each node has a gate of its own. Numbers of gates are never given out twice, so whoever finds a
gate held finds it held by somebody who pings the same node: to a worker that waits at the gate
of its node, other nodes are not in the way.
-/
namespace ClusterWatch

/-- A gate belongs to one node, and the next number is a new one. -/
structure GatesApart (gates : Table (String × Nat) Prod.fst) (made : Nat) : Prop where
  made : ∀ entry ∈ gates.entries, entry.2 < made
  distinct : ∀ a ∈ gates.entries, ∀ b ∈ gates.entries, a.2 = b.2 → a = b

namespace GatesApart

variable {gates : Table (String × Nat) Prod.fst} {made : Nat}

theorem insert (h : GatesApart gates made) (key : String) :
    GatesApart (gates.insert (key, made)) (made + 1) where
  made entry hentry := by
    rcases Table.mem_insert.1 hentry with rfl | hentry
    · exact Nat.lt_succ_self made
    · exact Nat.lt_succ_of_lt (h.made entry hentry.1)
  distinct a ha b hb hab := by
    rcases Table.mem_insert.1 ha with rfl | ha <;> rcases Table.mem_insert.1 hb with rfl | hb
    · rfl
    · exact absurd hab (Nat.ne_of_gt (h.made b hb.1))
    · exact absurd hab (Nat.ne_of_lt (h.made a ha.1))
    · exact h.distinct a ha.1 b hb.1 hab

theorem erase (h : GatesApart gates made) (key : String) : GatesApart (gates.erase key) made where
  made entry hentry := h.made entry (Table.mem_erase.1 hentry).1
  distinct a ha b hb := h.distinct a (Table.mem_erase.1 ha).1 b (Table.mem_erase.1 hb).1

end GatesApart

namespace Detector

def GatesApart (d : Detector) : Prop := ClusterWatch.GatesApart d.gates d.gatesMade

namespace GatesApart

variable {d : Detector}

theorem record (h : d.GatesApart) {e : Event} : (d.record e).GatesApart := h

theorem putCycle (h : d.GatesApart) {c : Cycle} : (d.putCycle c).GatesApart := h

theorem setStage (h : d.GatesApart) {g : Generation} {stage : Stage} :
    (d.setStage g stage).GatesApart := h

theorem removeCycle (h : d.GatesApart) {cause : Removal} {c : Cycle} :
    (d.removeCycle cause c).GatesApart := h

theorem report (h : d.GatesApart) {node : Node} {g : Generation} {reason : FailureReason} :
    (d.report node g reason).GatesApart := by
  rw [report_eq]
  exact h

theorem install (h : d.GatesApart) {node : Node} : (d.install node).GatesApart := by
  rcases d.install_eq node with ⟨-, heq⟩ | ⟨-, heq⟩ <;> (rw [heq]; exact h)

theorem lose (h : d.GatesApart) {cause : Removal} {c : Cycle} {node : Node} {lost : Generation} :
    (d.lose cause c node lost).GatesApart :=
  lose_keep h.removeCycle.record h.removeCycle.report

theorem endReconnect (h : d.GatesApart) {node : Node} {lost : Generation} {outcome : Outcome} :
    (d.endReconnect node lost outcome).GatesApart :=
  endReconnect_keep h.record.install fun _ => h.record.report

theorem releaseGate (h : d.GatesApart) {id : NodeId} : (d.releaseGate id).GatesApart := by
  unfold Detector.releaseGate
  split
  · split
    · exact h
    · exact ClusterWatch.GatesApart.erase h _
  · exact h

theorem leave (h : d.GatesApart) {alive : Bool} {w : Worker} : (d.leave alive w).GatesApart := by
  unfold Detector.leave
  split
  · exact releaseGate (d := d.dropWorker w.generation) h
  · exact h

theorem gateFor (h : d.GatesApart) {id : NodeId} : (d.gateFor id).2.GatesApart := by
  unfold Detector.gateFor
  split
  · exact h
  · exact ClusterWatch.GatesApart.insert h _

end GatesApart

theorem start_gatesApart (self : Node) (cluster : ClusterName) (settings : DetectionSettings) :
    (start self cluster settings).GatesApart := by
  constructor <;> simp [start, Table.empty]

theorem Turn.gatesApart {lives : Bool} {aside : Aside} {d e : Detector}
    (turn : Turn lives d aside e) (h : d.GatesApart) : e.GatesApart := by
  cases turn with
  | pass | tell | hand | hear | land | wake | send | rest | retry => exact h
  | reconcile snapshot =>
    exact reconcile_keep (P := GatesApart) h.record (fun _ _ he _ => he.removeCycle)
      fun _ _ he _ _ => he.install
  | stop => exact stop_keep (P := GatesApart) h.record fun _ _ he _ => he.removeCycle
  | queue => exact h.gateFor.setStage
  | depart => exact h.leave
  | abandon | outlive => exact h.record.leave
  | finish => exact h.record.putCycle.setStage.leave
  | exhaust => exact h.record.removeCycle.report.leave
  | breakOff => exact h.record.lose.setStage
  | giveUp => exact h.record.lose.leave
  | disconnect => exact h.lose
  | reconnect => exact h.endReconnect
  | workerReconnect => exact h.endReconnect.leave

variable {d : Detector} {id : NodeId} {w : Worker} {gate : Nat}

theorem busy_iff : (d.view id).busy = true ↔ ∃ v ∈ d.workersOf id, v.held?.isSome = true := by
  show (List.any (List.map _ _) _) = true ↔ _
  rw [List.any_map, List.any_eq_true]
  refine exists_congr fun v => and_congr_right fun _ => ?_
  cases hstage : v.stage <;> simp [hand, Worker.held?, hstage, Stage.pose, Pose.pings]

theorem gate?_of_held? {v : Worker} (h : v.held? = some gate) : v.gate? = some gate := by
  unfold Worker.held? at h
  split at h <;> simp_all [Worker.gate?]

/-- The gate at which a worker waits is held if somebody pings its node. -/
theorem gateHeld_eq_busy (hgated : d.Gated) (hapart : d.GatesApart) (hw : w ∈ d.workersOf id)
    (hstage : w.stage = .queued gate) : d.gateHeld gate = (d.view id).busy := by
  obtain ⟨hmem, rfl⟩ := mem_workersOf.1 hw
  have hmine := hgated w hmem gate (by simp [Worker.gate?, hstage])
  rw [Bool.eq_iff_iff, busy_iff]
  unfold gateHeld
  rw [List.any_eq_true]
  constructor
  · rintro ⟨v, hv, hheld⟩
    have hheld : v.held? = some gate := by simpa using hheld
    have hkept := hgated v hv gate (gate?_of_held? hheld)
    have hsame := hapart.distinct _ (Table.mem_of_find? hkept) _ (Table.mem_of_find? hmine) rfl
    have hnode : v.node.id = w.node.id := congrArg NodeId.mk (congrArg Prod.fst hsame)
    exact ⟨v, mem_workersOf.2 ⟨hv, hnode⟩, by simp [hheld]⟩
  · rintro ⟨v, hv, hheld⟩
    obtain ⟨hv, hnode⟩ := mem_workersOf.1 hv
    obtain ⟨held, hheld⟩ := Option.isSome_iff_exists.1 hheld
    have hkept := hgated v hv held (gate?_of_held? hheld)
    rw [hnode, hmine] at hkept
    have hsame : gate = held := congrArg Prod.snd (Option.some.inj hkept)
    exact ⟨v, hv, by simp [hheld, hsame]⟩

end Detector

namespace Station

variable {s : Station}

theorem Reachable.gated (h : s.Reachable) : s.detector.Gated :=
  (h.keep (P := fun d => d.Enrolled ∧ d.Gated)
    (fun self cluster settings => ⟨Detector.start_enrolled self cluster settings,
      Detector.start_gated self cluster settings⟩)
    fun ⟨hd, hgated⟩ turn => ⟨turn.enrolled hd, turn.gated hd hgated⟩).2

theorem Reachable.gatesApart (h : s.Reachable) : s.detector.GatesApart :=
  h.keep Detector.start_gatesApart fun hd turn => turn.gatesApart hd

end Station

end ClusterWatch
