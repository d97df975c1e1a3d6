import Mathlib.Data.List.Nodup
import ClusterWatch.Proofs.Detector.Reach

/-!
Generations name cycles. Each is given out once, for one node, and the past tells which
cycles are watched: an entry of the detector is a cycle that has begun and has not been
taken away. Workers, entries and events of one generation therefore speak of one node, and
no two workers share a generation.
-/
namespace ClusterWatch

open Past

/-- A cycle begins or ends. -/
def Event.delimits : Event → Bool
  | .installed .. => true
  | .removed .. => true
  | _ => false

/-- What the past says of workers, entries and the generations given out so far. -/
structure Enrolment (workers : List Worker) (monitored : Table Cycle Cycle.key) (past : Past)
    (issued : Nat) : Prop where
  begun : ∀ {node g}, .installed node g ∈ past → g.number ≤ issued
  unique : ∀ {n m g}, .installed n g ∈ past → .installed m g ∈ past → n = m
  ended : ∀ {n g cause}, .removed n g cause ∈ past → .installed n g ∈ past
  worker : ∀ w ∈ workers, .installed w.node w.generation ∈ past
  distinct : (workers.map Worker.generation).Nodup
  entry : ∀ c ∈ monitored.entries, .installed c.node c.generation ∈ past
  present : ∀ c ∈ monitored.entries, ∀ node cause, .removed node c.generation cause ∉ past
  watched : ∀ {g}, Watched past g → ∃ c ∈ monitored.entries, c.generation = g

theorem Past.watched_cons {e : Event} {past : Past} {g : Generation} (he : e.delimits = false) :
    Watched (e :: past) g ↔ Watched past g := by
  cases e <;> simp_all [Watched, Event.delimits]

namespace Enrolment

variable {workers : List Worker} {monitored : Table Cycle Cycle.key} {past : Past} {issued : Nat}

/-- Entries of one generation are one entry. -/
theorem entry_unique (h : Enrolment workers monitored past issued) {b c : Cycle}
    (hb : b ∈ monitored.entries) (hc : c ∈ monitored.entries)
    (hg : b.generation = c.generation) : b = c := by
  have hnode : b.node = c.node := h.unique (h.entry b hb) (hg ▸ h.entry c hc)
  exact Table.eq_of_key_eq hb hc (congrArg Node.key hnode)

theorem entry_node (h : Enrolment workers monitored past issued) {w : Worker} {c : Cycle}
    (hw : w ∈ workers) (hc : c ∈ monitored.entries) (hg : c.generation = w.generation) :
    c.node = w.node :=
  h.unique (hg ▸ h.entry c hc) (h.worker w hw)

/-- Workers of one generation are one worker. -/
theorem worker_unique (h : Enrolment workers monitored past issued) {v w : Worker}
    (hv : v ∈ workers) (hw : w ∈ workers) (hg : v.generation = w.generation) : v = w :=
  List.inj_on_of_nodup_map h.distinct hv hw hg

theorem watched_iff (h : Enrolment workers monitored past issued) {g : Generation} :
    Watched past g ↔ ∃ c ∈ monitored.entries, c.generation = g := by
  refine ⟨h.watched, ?_⟩
  rintro ⟨c, hc, rfl⟩
  exact ⟨⟨c.node, h.entry c hc⟩, h.present c hc⟩

/-- Nothing is under watch when every cycle that began has been taken away. -/
theorem entries_eq_nil_iff (h : Enrolment workers monitored past issued) :
    monitored.entries = [] ↔
      ∀ node g, .installed node g ∈ past → ∃ cause, .removed node g cause ∈ past := by
  constructor
  · intro hnone node g hbegun
    by_contra hstays
    obtain ⟨c, hc, -⟩ := h.watched ⟨⟨node, hbegun⟩, fun n cause hremoved =>
      hstays ⟨cause, h.unique (h.ended hremoved) hbegun ▸ hremoved⟩⟩
    rw [hnone] at hc
    cases hc
  · intro hover
    refine List.eq_nil_iff_forall_not_mem.2 fun c hc => ?_
    obtain ⟨cause, hremoved⟩ := hover c.node c.generation (h.entry c hc)
    exact h.present c hc c.node cause hremoved

theorem note (h : Enrolment workers monitored past issued) {e : Event}
    (he : e.delimits = false) : Enrolment workers monitored (e :: past) issued where
  begun hi := by
    rcases List.mem_cons.1 hi with rfl | hi
    · simp [Event.delimits] at he
    · exact h.begun hi
  unique hn hm := by
    rcases List.mem_cons.1 hn with rfl | hn
    · simp [Event.delimits] at he
    · rcases List.mem_cons.1 hm with rfl | hm
      · simp [Event.delimits] at he
      · exact h.unique hn hm
  ended hr := by
    rcases List.mem_cons.1 hr with rfl | hr
    · simp [Event.delimits] at he
    · exact List.mem_cons_of_mem _ (h.ended hr)
  worker w hw := List.mem_cons_of_mem _ (h.worker w hw)
  distinct := h.distinct
  entry c hc := List.mem_cons_of_mem _ (h.entry c hc)
  present c hc node cause hr := by
    rcases List.mem_cons.1 hr with rfl | hr
    · simp [Event.delimits] at he
    · exact h.present c hc node cause hr
  watched hw := h.watched ((watched_cons he).1 hw)

/-- Workers may change all but their node and their generation. -/
theorem mapWorkers (h : Enrolment workers monitored past issued) {change : Worker → Worker}
    (hchange : ∀ w, (change w).node = w.node ∧ (change w).generation = w.generation) :
    Enrolment (workers.map change) monitored past issued where
  begun := h.begun
  unique := h.unique
  ended := h.ended
  worker w hw := by
    obtain ⟨v, hv, rfl⟩ := List.mem_map.1 hw
    rw [(hchange v).1, (hchange v).2]
    exact h.worker v hv
  distinct := by
    have hsame : Worker.generation ∘ change = Worker.generation := funext fun w => (hchange w).2
    rw [List.map_map, hsame]
    exact h.distinct
  entry := h.entry
  present := h.present
  watched := h.watched

theorem filterWorkers (h : Enrolment workers monitored past issued) (keep : Worker → Bool) :
    Enrolment (workers.filter keep) monitored past issued where
  begun := h.begun
  unique := h.unique
  ended := h.ended
  worker w hw := h.worker w (List.mem_filter.1 hw).1
  distinct := h.distinct.sublist (List.filter_sublist.map _)
  entry := h.entry
  present := h.present
  watched := h.watched

/-- An entry may change all but its node and its generation. -/
theorem putCycle (h : Enrolment workers monitored past issued) {b c : Cycle}
    (hb : b ∈ monitored.entries) (hnode : c.node = b.node) (hg : c.generation = b.generation) :
    Enrolment workers (monitored.insert c) past issued where
  begun := h.begun
  unique := h.unique
  ended := h.ended
  worker := h.worker
  distinct := h.distinct
  entry x hx := by
    rcases Table.mem_insert.1 hx with rfl | hx
    · rw [hnode, hg]
      exact h.entry b hb
    · exact h.entry x hx.1
  present x hx := by
    rcases Table.mem_insert.1 hx with rfl | hx
    · rw [hg]
      exact h.present b hb
    · exact h.present x hx.1
  watched hw := by
    obtain ⟨x, hx, rfl⟩ := h.watched hw
    by_cases hkey : c.key = x.key
    · have hxb : x = b := Table.eq_of_key_eq hx hb (hkey.symm.trans (congrArg Node.key hnode))
      exact ⟨c, Table.mem_insert_self, hxb ▸ hg⟩
    · exact ⟨x, Table.mem_insert.2 (Or.inr ⟨hx, hkey⟩), rfl⟩

theorem removeEntry (h : Enrolment workers monitored past issued) {c : Cycle} (cause : Removal)
    (hc : c ∈ monitored.entries) :
    Enrolment workers (monitored.erase c.key) (.removed c.node c.generation cause :: past)
      issued where
  begun hi := h.begun (by simpa using hi)
  unique hn hm := h.unique (by simpa using hn) (by simpa using hm)
  ended hr := by
    rcases List.mem_cons.1 hr with heq | hr
    · obtain ⟨rfl, rfl, -⟩ := Event.removed.inj heq
      exact List.mem_cons_of_mem _ (h.entry c hc)
    · exact List.mem_cons_of_mem _ (h.ended hr)
  worker w hw := List.mem_cons_of_mem _ (h.worker w hw)
  distinct := h.distinct
  entry x hx := List.mem_cons_of_mem _ (h.entry x (Table.mem_erase.1 hx).1)
  present x hx node why hr := by
    obtain ⟨hx, hkey⟩ := Table.mem_erase.1 hx
    rcases List.mem_cons.1 hr with heq | hr
    · have hg : x.generation = c.generation := (Event.removed.inj heq).2.1
      exact hkey (congrArg Cycle.key (h.entry_unique hc hx hg.symm))
    · exact h.present x hx node why hr
  watched := by
    rintro g ⟨⟨node, hi⟩, hr⟩
    obtain ⟨x, hx, rfl⟩ := h.watched
      ⟨⟨node, by simpa using hi⟩, fun n why hmem => hr n why (List.mem_cons_of_mem _ hmem)⟩
    refine ⟨x, Table.mem_erase.2 ⟨hx, fun hkey => ?_⟩, rfl⟩
    have hxc : x = c := Table.eq_of_key_eq hx hc hkey.symm
    exact hr c.node cause (hxc ▸ List.mem_cons_self)

theorem install (h : Enrolment workers monitored past issued) {node : Node}
    (hnew : monitored.contains node.key = false) :
    Enrolment (workers ++ [⟨node, ⟨issued + 1⟩, false, .ready⟩])
      (monitored.insert (Cycle.begin node ⟨issued + 1⟩)) (.installed node ⟨issued + 1⟩ :: past)
      (issued + 1) := by
  have hfresh : ∀ n, .installed n ⟨issued + 1⟩ ∉ past := fun n hn => by
    have hle : issued + 1 ≤ issued := h.begun hn
    omega
  have hkey : ∀ c ∈ monitored.entries, node.key ≠ c.key :=
    fun c hc => Table.key_ne_of_contains_eq_false hnew hc
  constructor
  case begun =>
    intro n g hi
    rcases List.mem_cons.1 hi with heq | hi
    · obtain ⟨rfl, rfl⟩ := Event.installed.inj heq
      exact Nat.le_refl _
    · exact Nat.le_succ_of_le (h.begun hi)
  case unique =>
    intro n m g hn hm
    rcases List.mem_cons.1 hn with hn | hn <;> rcases List.mem_cons.1 hm with hm | hm
    · exact (Event.installed.inj hn).1.trans (Event.installed.inj hm).1.symm
    · exact absurd ((Event.installed.inj hn).2 ▸ hm) (hfresh m)
    · exact absurd ((Event.installed.inj hm).2 ▸ hn) (hfresh n)
    · exact h.unique hn hm
  case ended =>
    exact fun hr => List.mem_cons_of_mem _ (h.ended (by simpa using hr))
  case worker =>
    intro w hw
    rcases List.mem_append.1 hw with hw | hw
    · exact List.mem_cons_of_mem _ (h.worker w hw)
    · obtain rfl := List.mem_singleton.1 hw
      exact List.mem_cons_self
  case distinct =>
    rw [List.map_append, List.nodup_append]
    refine ⟨h.distinct, by simp, fun g hg k hk heq => ?_⟩
    obtain ⟨w, hw, rfl⟩ := List.mem_map.1 hg
    have hk' : w.generation = ⟨issued + 1⟩ := heq.trans (by simpa using hk)
    exact hfresh w.node (hk' ▸ h.worker w hw)
  case entry =>
    intro c hc
    rcases Table.mem_insert.1 hc with rfl | hc
    · exact List.mem_cons_self
    · exact List.mem_cons_of_mem _ (h.entry c hc.1)
  case present =>
    intro c hc n cause hr
    have hr : .removed n c.generation cause ∈ past := by simpa using hr
    rcases Table.mem_insert.1 hc with rfl | hc
    · exact hfresh n (h.ended hr)
    · exact h.present c hc.1 n cause hr
  case watched =>
    rintro g ⟨⟨n, hi⟩, hr⟩
    rcases List.mem_cons.1 hi with heq | hi
    · obtain ⟨rfl, rfl⟩ := Event.installed.inj heq
      exact ⟨_, Table.mem_insert_self, rfl⟩
    · obtain ⟨c, hc, rfl⟩ := h.watched
        ⟨⟨n, hi⟩, fun n why hmem => hr n why (List.mem_cons_of_mem _ hmem)⟩
      exact ⟨c, Table.mem_insert.2 (Or.inr ⟨hc, hkey c hc⟩), rfl⟩

end Enrolment

namespace Detector

def Enrolled (d : Detector) : Prop := Enrolment d.workers d.monitored d.past d.issued

namespace Enrolled

variable {d : Detector}

theorem record (h : d.Enrolled) {e : Event} (he : e.delimits = false) : (d.record e).Enrolled :=
  h.note he

theorem updateWorker (h : d.Enrolled) {g : Generation} {change : Worker → Worker}
    (hchange : ∀ w, (change w).node = w.node ∧ (change w).generation = w.generation) :
    (d.updateWorker g change).Enrolled := by
  apply h.mapWorkers
  intro w
  split
  · exact hchange w
  · exact ⟨rfl, rfl⟩

theorem setStage (h : d.Enrolled) {g : Generation} {stage : Stage} :
    (d.setStage g stage).Enrolled :=
  h.updateWorker fun _ => ⟨rfl, rfl⟩

theorem leave (h : d.Enrolled) {alive : Bool} {w : Worker} : (d.leave alive w).Enrolled := by
  obtain ⟨gates, heq⟩ := d.leave_eq alive w
  rw [heq]
  exact h.filterWorkers _

theorem putCycle (h : d.Enrolled) {c : Cycle} {failures : Nat} {phase : Phase}
    (hc : c ∈ d.monitored.entries) : (d.putCycle { c with failures, phase }).Enrolled :=
  Enrolment.putCycle h hc rfl rfl

theorem removeCycle (h : d.Enrolled) {cause : Removal} {c : Cycle}
    (hc : c ∈ d.monitored.entries) : (d.removeCycle cause c).Enrolled := by
  apply Enrolment.mapWorkers (h.removeEntry cause hc)
  intro w
  split <;> exact ⟨rfl, rfl⟩

theorem report (h : d.Enrolled) {node : Node} {g : Generation} {reason : FailureReason} :
    (d.report node g reason).Enrolled := by
  rw [report_eq]
  exact h.record rfl

theorem install (h : d.Enrolled) {node : Node} : (d.install node).Enrolled := by
  rcases d.install_eq node with ⟨-, heq⟩ | ⟨hnew, heq⟩
  · rw [heq]
    exact h
  · rw [heq]
    exact Enrolment.install h hnew

theorem lose (h : d.Enrolled) {cause : Removal} {c : Cycle} {node : Node} {lost : Generation}
    (hc : c ∈ d.monitored.entries) : (d.lose cause c node lost).Enrolled :=
  lose_keep ((h.removeCycle hc).record rfl) (h.removeCycle hc).report

theorem endReconnect (h : d.Enrolled) {node : Node} {lost : Generation} {outcome : Outcome} :
    (d.endReconnect node lost outcome).Enrolled := by
  have hrecorded (outcome : Outcome) : (d.record (.connected node lost outcome)).Enrolled :=
    h.record rfl
  exact endReconnect_keep (hrecorded _).install fun _ => (hrecorded _).report

end Enrolled

theorem start_enrolled (self : Node) (cluster : ClusterName) (settings : DetectionSettings) :
    (start self cluster settings).Enrolled := by
  constructor <;> simp [start, past, Table.empty, Watched]

theorem Turn.enrolled {lives : Bool} {aside : Aside} {d e : Detector} (turn : Turn lives d aside e)
    (h : d.Enrolled) : e.Enrolled := by
  have hanswered (w : Worker) (outcome : Outcome) :
      (d.record (.answered w.node.id w.generation outcome)).Enrolled := h.record rfl
  have hentry {w : Worker} {c : Cycle} (current : d.currentCycle? w = some c) :
      c ∈ d.monitored.entries := (currentCycle?_eq_some current).1
  cases turn with
  | pass => exact h
  | tell | hand | hear => exact h.record rfl
  | reconcile snapshot =>
    exact reconcile_keep (P := Enrolled) (h.record rfl) (fun _ _ he hc => he.removeCycle hc)
      fun _ _ he _ _ => he.install
  | stop => exact stop_keep (P := Enrolled) (h.record rfl) fun _ _ he hc => he.removeCycle hc
  | land g now outcome =>
    apply h.updateWorker
    intro w
    unfold Station.landFlight
    split <;> exact ⟨rfl, rfl⟩
  | @queue w member stage =>
    obtain ⟨gates, made, heq⟩ := d.gateFor_eq w.node.id
    rw [heq]
    exact Enrolled.setStage (d := { d with gates, gatesMade := made }) h
  | depart => exact h.leave
  | wake => exact h.setStage
  | send version reply member stage free current =>
    exact ((h.putCycle (hentry current)).record rfl).setStage
  | abandon => exact (h.record rfl).leave
  | outlive => exact (hanswered _ _).leave
  | @rest w c gate flight member stage due current =>
    have hcleared : (((d.record (.answered w.node.id w.generation .done)).putCycle
        { c with failures := 0 }).setStage w.generation .ready).Enrolled :=
      ((hanswered w .done).putCycle (hentry current)).setStage
    exact (hcleared.putCycle Table.mem_insert_self).setStage
  | finish member stage due current =>
    exact ((hanswered _ _).putCycle (hentry current)).setStage.leave
  | retry member stage due current => exact ((hanswered _ _).putCycle (hentry current)).setStage
  | exhaust member stage due current =>
    exact ((hanswered _ _).removeCycle (hentry current)).report.leave
  | breakOff member stage due current => exact ((hanswered _ _).lose (hentry current)).setStage
  | giveUp member stage due current => exact ((hanswered _ _).lose (hentry current)).leave
  | disconnect node found => exact h.lose (cycle?_eq_some found).1
  | reconnect => exact h.endReconnect
  | workerReconnect => exact h.endReconnect.leave

end Detector

theorem Station.Reachable.enrolled {s : Station} (h : s.Reachable) : s.detector.Enrolled :=
  h.keep Detector.start_enrolled fun hd turn => turn.enrolled hd

end ClusterWatch
