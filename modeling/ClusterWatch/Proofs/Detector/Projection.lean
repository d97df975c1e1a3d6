import ClusterWatch.Proofs.Detector.Attendance
import ClusterWatch.Proofs.Detector.Facet
import ClusterWatch.Proofs.Detector.Persistence
import ClusterWatch.Proofs.Detector.SingleFlight

/-!
The view of a node that a detector offers. What is done on account of other nodes leaves the view
as it is, and what is done on account of the node itself does to the view what the view would do
by itself: the monitored entries, the numbers of generations and gates, and the history are shared
by all nodes, but nothing of what the others leave there is ever read.
-/
namespace ClusterWatch

open Detector Past

namespace Event

/-- The cycle that begins, if it is one of the node. -/
def enrolled? (id : NodeId) : Event → Option Generation
  | .installed node g => if node.id = id then some g else none
  | _ => none

/-- The membership that is given. -/
def membership? : Event → Option Membership
  | .reconciled nodes => some nodes
  | _ => none

/-- The event leaves a trace in the view of the node. -/
def marks (id : NodeId) : Event → Bool
  | .reconciled _ => true
  | .installed node _ => node.id = id
  | .pinged node _ _ => node.id = id
  | .connecting node _ => node.id = id
  | .reported node _ _ _ => node.id = id
  | _ => false

end Event

namespace Past

/-- The cycles of the node, in the order in which they began. -/
def cyclesOf (past : Past) (id : NodeId) : List Generation :=
  (past.filterMap (Event.enrolled? id)).reverse

/-- The memberships that were given, latest first. -/
def memberships (past : Past) : List Membership := past.filterMap Event.membership?

end Past

namespace History

/-- The pings that were sent to the node, latest first. -/
def pingsOf (history : History) (id : NodeId) : List (Nat × Node × PingRequest) :=
  history.filterMap fun
    | (time, .pinged node _ request) => if node.id = id then some (time, node, request) else none
    | _ => none

/-- The reports that were made of the node, latest first, and whether they were taken. -/
def reportsOf (history : History) (id : NodeId) : List (Nat × Node × FailureReason × Bool) :=
  history.filterMap fun
    | (time, .reported node _ reason taken) =>
        if node.id = id then some (time, node, reason, taken) else none
    | _ => none

end History

section Cycles

variable {past : Past} {id : NodeId} {g : Generation}

theorem mem_cyclesOf : g ∈ past.cyclesOf id ↔ ∃ node, node.id = id ∧ .installed node g ∈ past := by
  unfold Past.cyclesOf
  rw [List.mem_reverse, List.mem_filterMap]
  constructor
  · rintro ⟨e, he, hg⟩
    cases e <;> simp [Event.enrolled?] at hg
    obtain ⟨hid, rfl⟩ := hg
    exact ⟨_, hid, he⟩
  · rintro ⟨node, hid, hmem⟩
    exact ⟨_, hmem, by simp [Event.enrolled?, hid]⟩

theorem cyclesOf_installed {node : Node} (hid : node.id = id) :
    Past.cyclesOf (.installed node g :: past) id = past.cyclesOf id ++ [g] := by
  simp [Past.cyclesOf, Event.enrolled?, hid]

theorem cyclesOf_cons {e : Event} (he : e.enrolled? id = none) :
    Past.cyclesOf (e :: past) id = past.cyclesOf id := by
  simp [Past.cyclesOf, he]

theorem cyclesOf_append (later past : Past) :
    Past.cyclesOf (later ++ past) id = past.cyclesOf id ++ Past.cyclesOf later id := by
  simp [Past.cyclesOf]

end Cycles

namespace Detector

variable {d : Detector} {id : NodeId}

/-- The worker, as one of the node. -/
def hand (d : Detector) (id : NodeId) (w : Worker) : Hand :=
  ⟨(d.past.cyclesOf id).idxOf w.generation, w.node, w.retired, w.stage.pose⟩

def workersOf (d : Detector) (id : NodeId) : List Worker :=
  d.workers.filter fun w => w.node.id = id

def view (d : Detector) (id : NodeId) : View where
  id := id
  self := d.self
  cluster := d.cluster
  settings := d.settings
  now := d.now
  heard := d.past.memberships.length
  failures := (d.cycle? id).map Cycle.failures
  begun := (d.past.cyclesOf id).length
  hands := (d.workersOf id).map (d.hand id)
  shut := d.bulletin.shut
  pings := d.history.pingsOf id
  connects := d.past.reconnectsTo id
  reports := d.history.reportsOf id

theorem mem_workersOf {w : Worker} : w ∈ d.workersOf id ↔ w ∈ d.workers ∧ w.node.id = id := by
  simp [workersOf]

/-- Where no cycle begins, only the traces in the history are new. -/
theorem view_record_eq {e : Event} (he : e.enrolled? id = none) : (d.record e).view id =
    { d.view id with
      heard := (d.record e).past.memberships.length
      pings := (d.record e).history.pingsOf id
      connects := (d.record e).past.reconnectsTo id
      reports := (d.record e).history.reportsOf id } := by
  have hcycles : (d.record e).past.cyclesOf id = d.past.cyclesOf id := cyclesOf_cons he
  have hhand : (d.record e).hand id = d.hand id := by
    funext w
    unfold hand
    rw [hcycles]
  unfold view
  rw [hcycles, hhand]
  rfl

/-- An event that concerns other nodes leaves no trace. -/
theorem view_record {e : Event} (he : e.marks id = false) : (d.record e).view id = d.view id := by
  have hnone : e.enrolled? id = none := by
    cases e <;> simp_all [Event.marks, Event.enrolled?]
  have hheard : (d.record e).past.memberships = d.past.memberships := by
    refine List.filterMap_cons_none ?_
    cases e <;> simp_all [Event.marks, Event.membership?]
  have hpings : (d.record e).history.pingsOf id = d.history.pingsOf id := by
    cases e <;> simp_all [Detector.record, History.pingsOf, Event.marks]
  have hreports : (d.record e).history.reportsOf id = d.history.reportsOf id := by
    cases e <;> simp_all [Detector.record, History.reportsOf, Event.marks]
  have hconnects : (d.record e).past.reconnectsTo id = d.past.reconnectsTo id := by
    refine List.countP_cons_of_neg ?_
    cases e <;> simp_all [Event.reconnects, Event.marks]
  rw [view_record_eq hnone, hheard, hpings, hconnects, hreports]
  rfl

theorem view_reconciled (nodes : Membership) : (d.record (.reconciled nodes)).view id =
    { d.view id with heard := (d.view id).heard + 1 } := by
  rw [view_record_eq rfl]
  rfl

theorem view_pinged {node : Node} (hid : node.id = id) (g : Generation) (request : PingRequest) :
    (d.record (.pinged node g request)).view id =
      { d.view id with pings := (d.now, node, request) :: (d.view id).pings } := by
  have hpings : (d.record (.pinged node g request)).history.pingsOf id =
      (d.now, node, request) :: d.history.pingsOf id :=
    List.filterMap_cons_some (by simp [hid])
  exact (view_record_eq rfl).trans (congrArg (fun pings => { d.view id with pings }) hpings)

theorem view_connecting {node : Node} (hid : node.id = id) (g : Generation) :
    (d.record (.connecting node g)).view id =
      { d.view id with connects := (d.view id).connects + 1 } := by
  have hconnects : (d.record (.connecting node g)).past.reconnectsTo id =
      d.past.reconnectsTo id + 1 :=
    List.countP_cons_of_pos (by simp [Event.reconnects, hid])
  exact (view_record_eq rfl).trans
    (congrArg (fun connects => { d.view id with connects }) hconnects)

/-- The reply to a ping is looked up by the number of pings before it. -/
theorem length_pings : (d.view id).pings.length = d.past.pingsTo id := by
  show (List.filterMap _ d.history).length = List.countP _ (List.map _ d.history)
  rw [List.length_filterMap_eq_countP, List.countP_map]
  refine List.countP_congr fun entry _ => ?_
  obtain ⟨time, e⟩ := entry
  cases e <;> simp [Event.pingSentTo?]

section Mine

variable {w : Worker}

theorem mem_cyclesOf_of_worker (hd : d.Enrolled) (hw : w ∈ d.workersOf id) :
    w.generation ∈ d.past.cyclesOf id := by
  obtain ⟨hmem, hid⟩ := mem_workersOf.1 hw
  exact mem_cyclesOf.2 ⟨w.node, hid, hd.worker w hmem⟩

theorem rank_eq_iff (hd : d.Enrolled) {v : Worker} (hv : v ∈ d.workersOf id) :
    (d.hand id v).rank = (d.hand id w).rank ↔ v.generation = w.generation :=
  List.idxOf_inj (mem_cyclesOf_of_worker hd hv)

/-- One generation may change all but its node and its number. -/
theorem hands_updateWorker {g : Generation} (change : Worker → Worker)
    (hsame : ∀ v, (change v).node = v.node) :
    ((d.updateWorker g change).view id).hands =
      (d.workersOf id).map fun v => d.hand id (if v.generation = g then change v else v) := by
  show (((d.workers.map _).filter _).map _) = _
  rw [List.filter_map, List.map_map]
  refine congrArg (List.map _) (List.filter_congr fun v _ => ?_)
  simp only [Function.comp_apply]
  split
  · rw [hsame]
  · rfl

theorem view_setStage (hd : d.Enrolled) (w : Worker) (stage : Stage) :
    (d.setStage w.generation stage).view id =
      (d.view id).setPose (d.hand id w).rank stage.pose := by
  have hhands : ((d.setStage w.generation stage).view id).hands =
      ((d.view id).setPose (d.hand id w).rank stage.pose).hands := by
    refine (hands_updateWorker (fun v => { v with stage }) fun _ => rfl).trans ?_
    show _ = List.map _ (List.map _ _)
    rw [List.map_map]
    refine List.map_congr_left fun v hv => ?_
    simp only [Function.comp_apply, rank_eq_iff hd hv]
    split <;> rfl
  exact congrArg (fun hands => { d.view id with hands }) hhands

theorem view_leave (hd : d.Enrolled) (w : Worker) (alive : Bool) :
    (d.leave alive w).view id = (d.view id).drop (d.hand id w).rank := by
  obtain ⟨gates, heq⟩ := d.leave_eq alive w
  rw [heq]
  have hhands : ((d.workers.filter fun v => v.generation ≠ w.generation).filter
      fun v => v.node.id = id).map (d.hand id) =
      ((d.view id).drop (d.hand id w).rank).hands := by
    show _ = List.filter _ (List.map _ _)
    rw [List.filter_map, List.filter_comm]
    refine congrArg (List.map _) (List.filter_congr fun v hv => ?_)
    simp only [Function.comp_apply, ne_eq, rank_eq_iff hd hv]
  exact congrArg (fun hands => { d.view id with hands }) hhands

theorem view_putCycle {c : Cycle} (hid : c.node.id = id) :
    (d.putCycle c).view id = { d.view id with failures := some c.failures } := by
  have hfound : (d.putCycle c).cycle? id = some c := by
    show (d.monitored.insert c).find? id.text = some c
    rw [Table.find?_insert, if_pos (Cycle.key_eq_text.2 hid)]
  have hfailures : ((d.putCycle c).view id).failures = some c.failures := by
    show ((d.putCycle c).cycle? id).map Cycle.failures = _
    rw [hfound]
    rfl
  exact congrArg (fun failures => { d.view id with failures }) hfailures

theorem view_failures {c : Cycle} (hc : c ∈ d.monitored.entries) (hid : c.node.id = id) :
    (d.view id).failures = some c.failures := by
  have hfound : d.cycle? id = some c := hid ▸ Table.mem_iff_find?.1 hc
  exact congrArg (Option.map Cycle.failures) hfound

theorem view_failures_of_none (hnone : d.cycle? id = none) : (d.view id).failures = none :=
  congrArg (Option.map Cycle.failures) hnone

/-- Whoever has no entry has been told already. -/
theorem view_removeCycle (hd : d.Attended) (cause : Removal) {c : Cycle}
    (hc : c ∈ d.monitored.entries) (hid : c.node.id = id) :
    (d.removeCycle cause c).view id = (d.view id).remove := by
  have hremove : (d.view id).remove = { d.view id with
      failures := none
      hands := (d.view id).hands.map fun h => { h with retired := true } } := by
    unfold View.remove
    rw [view_failures hc hid]
  let erased : Detector := { d with monitored := d.monitored.erase c.key }
  have hgone : erased.cycle? id = none := by
    show (d.monitored.erase c.key).find? id.text = none
    rw [Table.find?_erase, if_pos (Cycle.key_eq_text.2 hid)]
  have hhands : ((erased.updateWorker c.generation fun w => { w with retired := true }).view
      id).hands = (d.view id).hands.map fun h => { h with retired := true } := by
    refine (hands_updateWorker (fun w => { w with retired := true }) fun _ => rfl).trans ?_
    show _ = List.map _ (List.map _ _)
    rw [List.map_map]
    refine List.map_congr_left fun v hv => ?_
    by_cases hg : v.generation = c.generation
    · rw [if_pos hg]
      rfl
    · obtain ⟨hmem, hv⟩ := mem_workersOf.1 hv
      have hnone : Unregistered d.monitored v.generation := by
        intro x hx hgx
        have hnode : x.node = v.node := hd.enrolled.entry_node hmem hx hgx
        have hxc : x = c := by
          apply Table.eq_of_key_eq hx hc
          rw [Cycle.key, Cycle.key, hnode, hv, hid]
        exact hg (hxc ▸ hgx.symm)
      have hretired : v.retired = true := (hd.attendance.told v hmem).2 hnone
      rw [if_neg hg]
      simp [hand, hretired, erased, past]
  have hview : (d.removeCycle cause c).view id =
      (erased.updateWorker c.generation fun w => { w with retired := true }).view id :=
    view_record rfl
  rw [hview, hremove, ← hhands]
  show ({ d.view id with failures := (erased.cycle? id).map Cycle.failures, hands := _ } : View) = _
  rw [hgone]
  rfl

theorem submitted_shut (b : Bulletin) (notice : Notice) :
    ((b.submit? notice).getD b).shut = b.shut := by
  unfold Bulletin.submit?
  split <;> rfl

theorem view_report {node : Node} (hid : node.id = id) (g : Generation) (reason : FailureReason) :
    (d.report node g reason).view id = (d.view id).report node reason := by
  have hreports : History.reportsOf ((d.now, .reported node g reason (!d.bulletin.shut)) ::
      d.history) id = (d.now, node, reason, !d.bulletin.shut) :: d.history.reportsOf id :=
    List.filterMap_cons_some (by simp [hid])
  rw [report_eq, view_record_eq rfl]
  exact congrArg₂ (fun shut reports => { d.view id with shut, reports }) (submitted_shut _ _)
    hreports

/-- A cycle that begins is the next one of the node. -/
theorem view_install (hd : d.Enrolled) {node : Node} (hid : node.id = id) :
    (d.install node).view id = (d.view id).install node := by
  have hkey : node.key = id.text := congrArg NodeId.text hid
  rcases d.install_eq node with ⟨hin, heq⟩ | ⟨hnew, heq⟩
  · obtain ⟨c, hc⟩ := Option.isSome_iff_exists.1 hin
    rw [hkey] at hc
    have hsome : (d.view id).failures = some c.failures := congrArg (Option.map Cycle.failures) hc
    rw [heq]
    unfold View.install
    rw [hsome]
  · have hnone : (d.view id).failures = none := by
      refine view_failures_of_none ?_
      simpa [Table.contains, hkey, cycle?] using hnew
    have hcycles : (d.install node).past.cyclesOf id =
        d.past.cyclesOf id ++ [⟨d.issued + 1⟩] := by
      rw [heq]
      exact cyclesOf_installed hid
    have hfresh : (⟨d.issued + 1⟩ : Generation) ∉ d.past.cyclesOf id := fun hmem => by
      obtain ⟨n, -, hn⟩ := mem_cyclesOf.1 hmem
      have hle : d.issued + 1 ≤ d.issued := hd.begun hn
      omega
    have hold : (d.workersOf id).map ((d.install node).hand id) = (d.view id).hands := by
      refine List.map_congr_left fun v hv => ?_
      unfold hand
      rw [hcycles, List.idxOf_append_of_mem (mem_cyclesOf_of_worker hd hv)]
    have hnewest : (d.install node).hand id ⟨node, ⟨d.issued + 1⟩, false, .ready⟩ =
        ⟨(d.view id).begun, node, false, .ready⟩ := by
      unfold hand
      rw [hcycles, List.idxOf_append_of_notMem hfresh]
      simp [view, Stage.pose]
    have hworkers : (d.install node).workersOf id =
        d.workersOf id ++ [⟨node, ⟨d.issued + 1⟩, false, .ready⟩] := by
      rw [heq]
      unfold workersOf
      exact (List.filter_append ..).trans (by simp [hid])
    have hfailures : ((d.install node).view id).failures = some 0 := by
      refine view_failures (c := Cycle.begin node ⟨d.issued + 1⟩) ?_ hid
      rw [heq]
      exact Table.mem_insert_self
    have hhands : ((d.install node).view id).hands =
        (d.view id).hands ++ [⟨(d.view id).begun, node, false, .ready⟩] := by
      show ((d.install node).workersOf id).map _ = _
      rw [hworkers, List.map_append, hold, List.map_singleton, hnewest]
    have hbegun : ((d.install node).view id).begun = (d.view id).begun + 1 := by
      show ((d.install node).past.cyclesOf id).length = _
      rw [hcycles, List.length_append]
      rfl
    unfold View.install
    rw [hnone]
    dsimp only
    rw [← hhands, ← hbegun, ← hfailures, heq]
    rfl

end Mine

/-! What is done on account of others. -/

/-- The generation is one of another node. -/
def Foreign (d : Detector) (id : NodeId) (g : Generation) : Prop :=
  ∃ node, node.id ≠ id ∧ .installed node g ∈ d.past

/-- The detector has gone on, and to the node nothing has changed. -/
structure Spares (id : NodeId) (d e : Detector) : Prop where
  enrolled : e.Enrolled
  past : d.past <:+ e.past
  view : e.view id = d.view id

namespace Spares

variable {e : Detector} {g : Generation} {node : Node}

theorem refl (hd : d.Enrolled) : Spares id d d := ⟨hd, List.suffix_rfl, rfl⟩

theorem record (h : Spares id d e) {event : Event} (hmarks : event.marks id = false)
    (hdelimits : event.delimits = false) : Spares id d (e.record event) :=
  ⟨h.enrolled.record hdelimits, h.past.trans (List.suffix_cons _ _),
    (view_record hmarks).trans h.view⟩

theorem notMem (h : Spares id d e) (hg : d.Foreign id g) {w : Worker} (hw : w ∈ e.workersOf id) :
    w.generation ≠ g := by
  obtain ⟨node, hnode, hmem⟩ := hg
  obtain ⟨hmine, hid⟩ := mem_workersOf.1 hw
  rintro rfl
  have hsame : w.node = node := h.enrolled.unique (h.enrolled.worker w hmine) (h.past.mem hmem)
  exact hnode (hsame ▸ hid)

theorem updateWorker (h : Spares id d e) (hg : d.Foreign id g) {change : Worker → Worker}
    (hsame : ∀ v, (change v).node = v.node ∧ (change v).generation = v.generation) :
    Spares id d (e.updateWorker g change) := by
  have hhands : ((e.updateWorker g change).view id).hands = (e.view id).hands := by
    refine (hands_updateWorker change fun v => (hsame v).1).trans
      (List.map_congr_left fun v hv => ?_)
    rw [if_neg (h.notMem hg hv)]
  refine ⟨h.enrolled.updateWorker hsame, h.past, Eq.trans ?_ h.view⟩
  exact congrArg (fun hands => { e.view id with hands }) hhands

theorem setStage (h : Spares id d e) (hg : d.Foreign id g) (stage : Stage) :
    Spares id d (e.setStage g stage) :=
  h.updateWorker hg fun _ => ⟨rfl, rfl⟩

theorem leave (h : Spares id d e) {alive : Bool} {w : Worker} (hg : d.Foreign id w.generation) :
    Spares id d (e.leave alive w) := by
  refine ⟨h.enrolled.leave, ?_, Eq.trans ?_ h.view⟩
  · obtain ⟨gates, heq⟩ := e.leave_eq alive w
    rw [heq]
    exact h.past
  · rw [view_leave h.enrolled]
    refine congrArg (fun hands => { e.view id with hands }) (List.filter_eq_self.2 fun v hv => ?_)
    obtain ⟨x, hx, rfl⟩ := List.mem_map.1 hv
    simpa using fun heq => h.notMem hg hx ((rank_eq_iff h.enrolled hx).1 heq)

/-- An entry of another node may change all but its node and its generation. -/
theorem putCycle (h : Spares id d e) {c : Cycle} (failures : Nat) (phase : Phase)
    (hc : c ∈ e.monitored.entries) (hid : c.node.id ≠ id) :
    Spares id d (e.putCycle { c with failures, phase }) := by
  have hcycle : (e.putCycle { c with failures, phase }).cycle? id = e.cycle? id := by
    show (e.monitored.insert _).find? id.text = _
    have hkey : ({ c with failures, phase } : Cycle).key ≠ id.text :=
      fun heq => hid (Cycle.key_eq_text.1 heq)
    rw [Table.find?_insert, if_neg hkey]
    rfl
  refine ⟨h.enrolled.putCycle hc, h.past, Eq.trans ?_ h.view⟩
  exact congrArg (fun c? => { e.view id with failures := Option.map Cycle.failures c? }) hcycle

theorem removeCycle (h : Spares id d e) {cause : Removal} {c : Cycle}
    (hc : c ∈ e.monitored.entries) (hid : c.node.id ≠ id) :
    Spares id d (e.removeCycle cause c) := by
  have hhands : ∀ v ∈ e.workersOf id, v.generation ≠ c.generation := fun v hv heq => by
    obtain ⟨hmem, hv⟩ := mem_workersOf.1 hv
    have hnode : c.node = v.node := h.enrolled.entry_node hmem hc heq.symm
    exact hid (hnode ▸ hv)
  have hcycle : (e.monitored.erase c.key).find? id.text = e.cycle? id := by
    rw [Table.find?_erase, if_neg fun heq => hid (Cycle.key_eq_text.1 heq)]
    rfl
  refine ⟨h.enrolled.removeCycle hc, h.past.trans (List.suffix_cons _ _), Eq.trans ?_ h.view⟩
  refine (view_record rfl).trans ?_
  let erased : Detector := { e with monitored := e.monitored.erase c.key }
  have hretired : ((erased.updateWorker c.generation fun w => { w with retired := true }).view
      id).hands = (e.view id).hands := by
    refine (hands_updateWorker (fun w => { w with retired := true }) fun _ => rfl).trans
      (List.map_congr_left fun v hv => ?_)
    rw [if_neg (hhands v hv)]
    rfl
  refine Eq.trans (congrArg (fun hands => { erased.view id with hands }) hretired) ?_
  exact congrArg (fun c? => { e.view id with failures := Option.map Cycle.failures c? }) hcycle

theorem report (h : Spares id d e) (hid : node.id ≠ id) {reason : FailureReason} :
    Spares id d (e.report node g reason) := by
  refine ⟨h.enrolled.report, ?_, Eq.trans ?_ h.view⟩
  · rw [report_eq]
    exact h.past.trans (List.suffix_cons _ _)
  · rw [report_eq, view_record (by simp [Event.marks, hid])]
    exact congrArg (fun shut => { e.view id with shut }) (submitted_shut _ _)

theorem install (h : Spares id d e) (hid : node.id ≠ id) : Spares id d (e.install node) := by
  refine ⟨h.enrolled.install, h.past.trans ?_, Eq.trans ?_ h.view⟩
  · exact (Continues.refl e).install.past
  · rcases e.install_eq node with ⟨-, heq⟩ | ⟨-, heq⟩
    · rw [heq]
    · rw [heq, view_record (by simp [Event.marks, hid])]
      have hcycle : (e.monitored.insert (Cycle.begin node ⟨e.issued + 1⟩)).find? id.text =
          e.cycle? id := by
        have hkey : (Cycle.begin node ⟨e.issued + 1⟩).key ≠ id.text :=
          fun heq => hid (Cycle.key_eq_text.1 heq)
        rw [Table.find?_insert, if_neg hkey]
        rfl
      have hworkers : (e.workers ++ [(⟨node, ⟨e.issued + 1⟩, false, .ready⟩ : Worker)]).filter
          (fun w => w.node.id = id) = e.workersOf id := by
        simp [workersOf, hid]
      exact congrArg₂ (fun c? workers => { e.view id with
        failures := Option.map Cycle.failures c?
        hands := workers.map (e.hand id) }) hcycle hworkers

theorem endReconnect (h : Spares id d e) (hid : node.id ≠ id) {outcome : Outcome} :
    Spares id d (e.endReconnect node g outcome) := by
  have hrecorded (outcome : Outcome) : Spares id d (e.record (.connected node g outcome)) :=
    h.record rfl rfl
  exact endReconnect_keep ((hrecorded _).install hid) fun _ => (hrecorded _).report hid

end Spares

/-! Memberships that are given, and stops. -/

section Folds

/-- No more than one of the entries that are dropped is the node's. -/
theorem view_foldl_removeCycle (id : NodeId) (cause : Removal) (cycles : List Cycle)
    {d : Detector} (hd : d.Attended) (hkeys : cycles.Pairwise fun b c => b.key < c.key)
    (hmem : ∀ c ∈ cycles, c ∈ d.monitored.entries) :
    (cycles.foldl (removeCycle · cause) d).view id =
      if cycles.any (fun c => c.node.id = id) then (d.view id).remove else d.view id := by
  induction cycles generalizing d with
  | nil => rfl
  | cons c rest ih =>
    obtain ⟨hfirst, hrest⟩ := List.pairwise_cons.1 hkeys
    have hc := hmem c List.mem_cons_self
    have hremoved : (d.removeCycle cause c).Attended := hd.removeCycle hc
    have hlater := ih hremoved hrest fun b hb => by
      refine Table.mem_erase.2 ⟨hmem b (List.mem_cons_of_mem _ hb), fun heq => ?_⟩
      exact String.lt_irrefl _ (heq ▸ hfirst b hb)
    rw [List.foldl_cons, hlater]
    by_cases hid : c.node.id = id
    · rw [view_removeCycle hd cause hc hid]
      simp [hid]
    · rw [((Spares.refl hd.enrolled).removeCycle hc hid).view]
      simp [hid]

theorem view_remove_of_none (hnone : ∀ c ∈ d.monitored.entries, c.node.id ≠ id) :
    (d.view id).remove = d.view id := by
  have hfound : d.cycle? id = none := by
    refine List.find?_eq_none.2 fun c hc => ?_
    simpa using fun heq => hnone c hc (Cycle.key_eq_text.1 heq)
  unfold View.remove
  rw [view_failures_of_none hfound]

theorem view_stop (hd : d.Attended) : d.stop.view id = (d.view id).remove := by
  have hfold := view_foldl_removeCycle id .stopped d.monitored.entries
    (hd.record (e := .stopped) rfl) d.monitored.increasing fun _ hc => hc
  rw [view_record rfl] at hfold
  refine hfold.trans ?_
  split
  next => rfl
  next hnone =>
    refine (view_remove_of_none fun c hc hid => hnone ?_).symm
    exact List.any_eq_true.2 ⟨c, hc, by simpa using hid⟩

theorem view_close (hd : d.Attended) : d.close.view id = { (d.view id).remove with shut := true } :=
  congrArg (fun v : View => { v with shut := true }) (view_stop hd)

/-- No more than one of the nodes that are taken on is the node. -/
theorem view_foldl_install (id : NodeId) (nodes : List Node) {d : Detector} (hd : d.Enrolled) :
    (nodes.foldl install d).view id =
      ((nodes.find? fun node => node.id = id).map (d.view id).install).getD (d.view id) := by
  induction nodes generalizing d with
  | nil => rfl
  | cons node rest ih =>
    rw [List.foldl_cons, ih hd.install]
    by_cases hid : node.id = id
    · rw [view_install hd hid, List.find?_cons_of_pos (by simpa using hid)]
      cases rest.find? fun node => node.id = id <;> simp
    · rw [((Spares.refl hd).install hid).view, List.find?_cons_of_neg (by simpa using hid)]

/-- The node is taken on as it is listed, unless it is the node itself that watches. -/
theorem find?_others (nodes : Membership) (self id : NodeId) :
    (nodes.entries.filter fun n => n.id ≠ self).find? (fun node => node.id = id) =
      if id = self then none else nodes.find? id.text := by
  by_cases hself : id = self
  · rw [if_pos hself]
    refine List.find?_eq_none.2 fun node hnode => ?_
    have hother : node.id ≠ self := by simpa using (List.mem_filter.1 hnode).2
    simpa [hself] using hother
  · rw [if_neg hself, List.find?_filter]
    refine congrArg (fun p => List.find? p nodes.entries) (funext fun n => ?_)
    by_cases hn : n.id = id <;> simp [hn, Node.key, hself, ← NodeId.mk.injEq]

/-- Of a membership that is given the node takes notice only of how it is listed itself. -/
theorem view_reconcile (answers : Answers) (hd : d.Attended) {s : Snapshot}
    (listed : s.nodes.find? id.text = answers.listed (d.view id).heard) :
    (d.reconcile s).view id = (d.view id).reconcile answers := by
  let given : Detector := d.record (.reconciled s.nodes)
  let left := d.monitored.entries.filter fun c => !s.hasNode c.node.id
  let others := s.nodes.entries.filter fun n => n.id ≠ d.self.id
  have hgiven : given.Attended := hd.record rfl
  have hsorted : left.Pairwise fun b c => b.key < c.key := d.monitored.increasing.filter _
  have hkept : ∀ c ∈ left, c ∈ given.monitored.entries := fun c hc => (List.mem_filter.1 hc).1
  have hdropped : (left.foldl (removeCycle · .left) given).Attended :=
    foldl_removeCycle_keep (P := Attended) (fun _ _ he hc => he.removeCycle hc) left given hsorted
      hkept hgiven
  have hleft := view_foldl_removeCycle id .left left hgiven hsorted hkept
  have hothers := view_foldl_install id others hdropped.enrolled
  have hview : given.view id = { d.view id with heard := (d.view id).heard + 1 } :=
    view_reconciled s.nodes
  have hself : (d.view id).id = id ∧ (d.view id).self = d.self := ⟨rfl, rfl⟩
  unfold View.reconcile
  dsimp only
  rw [← listed, ← hview, hself.1, hself.2]
  refine hothers.trans ?_
  rw [hleft]
  cases hfound : s.nodes.find? id.text with
  | none =>
    have hnobody : others.find? (fun node => node.id = id) = none := by
      rw [find?_others, hfound, ite_self]
    rw [hnobody]
    dsimp only [Option.map_none, Option.getD_none]
    split
    next => rfl
    next hnone =>
      refine (view_remove_of_none fun c hc hid => hnone ?_).symm
      have hunlisted : s.hasNode c.node.id = false := by
        simp [Snapshot.hasNode, Table.contains, hid, hfound]
      refine List.any_eq_true.2 ⟨c, List.mem_filter.2 ⟨hc, by simp [hunlisted]⟩, by simpa using hid⟩
  | some node =>
    have hstays : left.any (fun c => c.node.id = id) = false := by
      refine List.any_eq_false.2 fun c hc hid => ?_
      have hgone := (List.mem_filter.1 hc).2
      simp [Snapshot.hasNode, Table.contains, of_decide_eq_true hid, hfound] at hgone
    rw [hstays, if_neg Bool.false_ne_true, find?_others, hfound]
    split <;> rfl

end Folds

end Detector

end ClusterWatch
