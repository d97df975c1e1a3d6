import ClusterWatch.Proofs.Detector.Enrolment

/-!
At most one ping to a node is under way at any time. Whoever pings a node holds its gate,
and whoever holds or awaits a gate of a node has the one that the detector keeps for it, so
that a worker which finds the gate free is the only one at the node. Gates may be thrown
away and made anew, since that is done only when nobody holds or awaits them. The number of
workers in flight is the number that the history counts.
-/
namespace ClusterWatch

open Past

/-- The worker's ping to this node is under way. -/
def Worker.pings (id : NodeId) (w : Worker) : Bool := w.held?.isSome && w.node.id == id

theorem Worker.held?_of_pinging {w : Worker} {gate : Nat} {flight : Flight}
    (h : w.stage = .pinging gate flight) : w.held? = some gate := by
  simp [held?, h]

/-- Likewise, but of one generation the pings have come out. -/
def Worker.counts (landed : Option Generation) (id : NodeId) (w : Worker) : Bool :=
  w.pings id && decide (landed ≠ some w.generation)

@[simp] theorem Worker.counts_none (id : NodeId) : Worker.counts none id = Worker.pings id := by
  funext w
  simp [counts]

theorem Worker.counts_self {id : NodeId} {w : Worker} :
    w.counts (some w.generation) id = false := by
  simp [counts]

theorem Worker.counts_of_ne {g : Generation} {id : NodeId} {w : Worker} (h : g ≠ w.generation) :
    w.counts (some g) id = w.pings id := by
  simp [counts, h]

theorem Worker.counts_idle {landed : Option Generation} {id : NodeId} {w : Worker}
    (h : w.held? = none) : w.counts landed id = false := by
  simp [counts, pings, h]

namespace History

theorem tally_cons (time : Nat) (e : Event) (h : History) (id : NodeId) :
    tally ((time, e) :: h) id = (tally h id).count id e := rfl

theorem inFlight_le_peak (h : History) (id : NodeId) :
    (tally h id).inFlight ≤ (tally h id).peak := by
  cases h with
  | nil => exact Nat.le_refl 0
  | cons entry h =>
    obtain ⟨time, e⟩ := entry
    rw [tally_cons]
    exact Nat.le_max_right _ _

end History

/-- Among workers of different generations, leaving one out leaves out one. -/
theorem countP_counts {workers : List Worker} {w : Worker} (hw : w ∈ workers)
    (hdistinct : (workers.map Worker.generation).Nodup) (id : NodeId) :
    workers.countP (Worker.counts (some w.generation) id) + (if w.pings id then 1 else 0) =
      workers.countP (Worker.pings id) := by
  induction workers with
  | nil => simp at hw
  | cons v rest ih =>
    obtain ⟨hv, hrest⟩ := List.nodup_cons.1 hdistinct
    rw [List.countP_cons, List.countP_cons]
    rcases List.mem_cons.1 hw with rfl | hw
    · have hothers : ∀ u ∈ rest, u.counts (some w.generation) id = u.pings id := fun u hu =>
        Worker.counts_of_ne fun heq => hv (List.mem_map.2 ⟨u, hu, heq.symm⟩)
      rw [List.countP_congr fun u hu => by rw [hothers u hu], Worker.counts_self]
      simp
    · have hne : w.generation ≠ v.generation := fun heq => hv (List.mem_map.2 ⟨w, hw, heq⟩)
      have hih := ih hw hrest
      rw [Worker.counts_of_ne hne]
      omega

namespace Detector

/-- A gate that a worker holds or awaits is the one that is kept for its node. -/
def Gated (d : Detector) : Prop :=
  ∀ w ∈ d.workers, ∀ gate, w.gate? = some gate →
    d.gates.find? w.node.id.text = some (w.node.id.text, gate)

namespace Gated

variable {d : Detector}

theorem record (h : d.Gated) {e : Event} : (d.record e).Gated := h

theorem putCycle (h : d.Gated) {c : Cycle} : (d.putCycle c).Gated := h

theorem updateWorker (h : d.Gated) {g : Generation} {change : Worker → Worker}
    (hchange : ∀ w gate, (change w).gate? = some gate → w.gate? = some gate)
    (hnode : ∀ w, (change w).node = w.node) : (d.updateWorker g change).Gated := by
  intro w hw gate hgate
  obtain ⟨v, hv, rfl⟩ := List.mem_map.1 hw
  by_cases hg : v.generation = g
  · simp only [hg, ↓reduceIte] at hgate ⊢
    rw [hnode v]
    exact h v hv gate (hchange v gate hgate)
  · simp only [hg, ↓reduceIte] at hgate ⊢
    exact h v hv gate hgate

/-- A stage in which no gate is held or awaited. -/
theorem setStage (h : d.Gated) {g : Generation} {stage : Stage}
    (hstage : ∀ w : Worker, { w with stage }.gate? = none) : (d.setStage g stage).Gated :=
  h.updateWorker (fun w gate hgate => by simp [hstage w] at hgate) fun _ => rfl

theorem removeCycle (h : d.Gated) {cause : Removal} {c : Cycle} :
    (d.removeCycle cause c).Gated :=
  updateWorker (d := { d with monitored := d.monitored.erase c.key }) h (fun _ _ hgate => hgate)
    fun _ => rfl

theorem report (h : d.Gated) {node : Node} {g : Generation} {reason : FailureReason} :
    (d.report node g reason).Gated := by
  rw [report_eq]
  exact h

theorem install (h : d.Gated) {node : Node} : (d.install node).Gated := by
  rcases d.install_eq node with ⟨-, heq⟩ | ⟨-, heq⟩
  · rw [heq]
    exact h
  · rw [heq]
    intro w hw gate hgate
    rcases List.mem_append.1 hw with hw | hw
    · exact h w hw gate hgate
    · obtain rfl := List.mem_singleton.1 hw
      simp [Worker.gate?] at hgate

theorem lose (h : d.Gated) {cause : Removal} {c : Cycle} {node : Node} {lost : Generation} :
    (d.lose cause c node lost).Gated :=
  lose_keep h.removeCycle.record h.removeCycle.report

theorem endReconnect (h : d.Gated) {node : Node} {lost : Generation} {outcome : Outcome} :
    (d.endReconnect node lost outcome).Gated :=
  endReconnect_keep h.record.install fun _ => h.record.report

/-- A gate is thrown away only if no worker holds or awaits it. -/
theorem releaseGate (h : d.Gated) {id : NodeId} : (d.releaseGate id).Gated := by
  unfold Detector.releaseGate
  split
  next key gate hfound =>
    split
    next => exact h
    next hunused =>
      intro w hw kept hkept
      have hmine := h w hw kept hkept
      rw [Table.find?_erase]
      by_cases hid : id.text = w.node.id.text
      · rw [hid, hmine] at hfound
        have hgate : kept = gate := congrArg Prod.snd (Option.some.inj hfound)
        have hused : (d.workers.any fun v => v.gate? == some gate) = true :=
          List.any_eq_true.2 ⟨w, hw, by simp [hkept, hgate]⟩
        exact absurd hused hunused
      · rw [if_neg hid]
        exact hmine
  next => exact h

theorem leave (h : d.Gated) {alive : Bool} {w : Worker} : (d.leave alive w).Gated := by
  have hdropped : (d.dropWorker w.generation).Gated :=
    fun v hv => h v (List.mem_filter.1 hv).1
  unfold Detector.leave
  split
  · exact hdropped.releaseGate
  · exact hdropped

/-- A worker may hold or await the gate that is kept for its node. -/
theorem setStage_gate (h : d.Gated) (hd : d.Enrolled) {w : Worker} (hw : w ∈ d.workers)
    {gate : Nat} (hkept : d.gates.find? w.node.id.text = some (w.node.id.text, gate))
    {stage : Stage} (hstage : ∀ v : Worker, { v with stage }.gate? = some gate) :
    (d.setStage w.generation stage).Gated := by
  intro u hu held hheld
  obtain ⟨v, hv, rfl⟩ := List.mem_map.1 hu
  by_cases hg : v.generation = w.generation
  · have hnode : v.node = w.node := hd.unique (hd.worker v hv) (hg ▸ hd.worker w hw)
    rw [if_pos hg] at hheld ⊢
    obtain rfl := Option.some.inj ((hstage v).symm.trans hheld)
    rw [hnode]
    exact hkept
  · simp only [hg, ↓reduceIte] at hheld ⊢
    exact h v hv held hheld

/-- The gate that a worker asks for is the one that the detector keeps from then on. -/
theorem queue (h : d.Gated) (hd : d.Enrolled) {w : Worker} (hw : w ∈ d.workers) :
    ((d.gateFor w.node.id).2.setStage w.generation
      (.queued (d.gateFor w.node.id).1)).Gated := by
  cases hfound : d.gates.find? w.node.id.text with
  | some entry =>
    obtain ⟨key, gate⟩ := entry
    have hkey : key = w.node.id.text := Table.key_of_find? hfound
    have hsame : d.gateFor w.node.id = (gate, d) := by simp [gateFor, hfound]
    rw [hsame]
    exact h.setStage_gate hd hw (hkey ▸ hfound) fun _ => rfl
  | none =>
    let made : Detector := { d with
      gates := d.gates.insert (w.node.id.text, d.gatesMade)
      gatesMade := d.gatesMade + 1 }
    have hsame : d.gateFor w.node.id = (d.gatesMade, made) := by simp [gateFor, hfound, made]
    have hmade : made.Gated := by
      intro v hv gate hgate
      have hmine := h v hv gate hgate
      have hne : w.node.id.text ≠ v.node.id.text := fun heq => by simp [← heq, hfound] at hmine
      show (d.gates.insert _).find? _ = _
      rw [Table.find?_insert, if_neg hne]
      exact hmine
    rw [hsame]
    refine hmade.setStage_gate hd hw ?_ fun _ => rfl
    show (d.gates.insert _).find? _ = _
    rw [Table.find?_insert, if_pos rfl]

end Gated

theorem start_gated (self : Node) (cluster : ClusterName) (settings : DetectionSettings) :
    (start self cluster settings).Gated := by
  intro w hw
  simp [start] at hw

theorem Turn.gated {lives : Bool} {aside : Aside} {d e : Detector}
    (turn : Turn lives d aside e) (hd : d.Enrolled) (h : d.Gated) : e.Gated := by
  cases turn with
  | pass | tell | hand | hear => exact h
  | reconcile snapshot =>
    exact reconcile_keep (P := Gated) h (fun _ _ he _ => he.removeCycle)
      fun _ _ he _ _ => he.install
  | stop => exact stop_keep (P := Gated) h fun _ _ he _ => he.removeCycle
  | land g now outcome =>
    refine h.updateWorker (fun w gate hgate => ?_) fun w => ?_
    · unfold Station.landFlight at hgate
      split at hgate <;> simp_all [Worker.gate?]
    · unfold Station.landFlight
      split <;> rfl
  | queue member stage => exact h.queue hd member
  | wake => exact h.setStage fun _ => rfl
  | @send w c gate version reply member stage free current =>
    have hkept := h w member gate (by simp [Worker.gate?, stage])
    have hput : (d.putCycle { c with phase := .awaiting }).Enrolled :=
      hd.putCycle (currentCycle?_eq_some current).1
    exact (h.putCycle.record).setStage_gate (hput.record rfl) member hkept fun _ => rfl
  | depart => exact h.leave
  | abandon | outlive => exact h.record.leave
  | rest => exact (h.record.putCycle.setStage fun _ => rfl).putCycle.setStage fun _ => rfl
  | finish => exact (h.record.putCycle.setStage fun _ => rfl).leave
  | retry => exact h.record.putCycle.setStage fun _ => rfl
  | exhaust => exact h.record.removeCycle.report.leave
  | breakOff => exact h.record.lose.setStage fun _ => rfl
  | giveUp => exact h.record.lose.leave
  | disconnect => exact h.lose
  | reconnect => exact h.endReconnect
  | workerReconnect => exact h.endReconnect.leave

/-- The pings in flight are those that the history counts, and of each node it has never
counted two. A worker whose ping has come out is not taken to be in flight any more, although
its stage tells so until the worker has dealt with what came out. -/
def Counted (d : Detector) (landed : Option Generation) : Prop :=
  ∀ id, (d.history.tally id).sent = (d.history.tally id).ended +
      d.workers.countP (Worker.counts landed id) ∧
    (d.history.tally id).peak ≤ 1

namespace Counted

variable {d : Detector} {landed : Option Generation}

/-- If no ping has come out, all workers in flight are counted. -/
theorem all (h : d.Counted none) (id : NodeId) :
    (d.history.tally id).sent =
      (d.history.tally id).ended + d.workers.countP (Worker.pings id) := by
  simpa using (h id).1

theorem peak_le (h : d.Counted landed) (id : NodeId) : (d.history.tally id).peak ≤ 1 := (h id).2

theorem sent_le (h : d.Counted landed) (id : NodeId) :
    (d.history.tally id).sent - (d.history.tally id).ended ≤ 1 :=
  Nat.le_trans (History.inFlight_le_peak d.history id) (h.peak_le id)

theorem record (h : d.Counted landed) {e : Event} (hsent : e.pingSentTo? = none)
    (hended : e.pingEndedTo? = none) : (d.record e).Counted landed := by
  intro id
  obtain ⟨hcount, hpeak⟩ := h id
  have hflight := h.sent_le id
  simp only [Detector.record, History.tally_cons, History.Tally.count, hsent, hended, reduceCtorEq,
    ↓reduceIte]
  exact ⟨hcount, by omega⟩

theorem putCycle (h : d.Counted landed) {c : Cycle} : (d.putCycle c).Counted landed := h

/-- Workers may change all but their node, their generation and the gate they hold. -/
theorem updateWorker (h : d.Counted landed) {g : Generation} {change : Worker → Worker}
    (hnode : ∀ w, (change w).node = w.node)
    (hgeneration : ∀ w, (change w).generation = w.generation)
    (hheld : ∀ w, (change w).held? = w.held?) : (d.updateWorker g change).Counted landed := by
  intro id
  obtain ⟨hcount, hpeak⟩ := h id
  refine ⟨?_, hpeak⟩
  show (d.history.tally id).sent = (d.history.tally id).ended + (d.workers.map _).countP _
  rw [hcount, List.countP_map]
  refine congrArg _ (List.countP_congr fun w _ => ?_)
  simp only [Function.comp_apply]
  split
  · simp only [Worker.counts, Worker.pings, hnode, hgeneration, hheld]
  · rfl

theorem removeCycle (h : d.Counted landed) {cause : Removal} {c : Cycle} :
    (d.removeCycle cause c).Counted landed := by
  refine Counted.record ?_ rfl rfl
  exact updateWorker (d := { d with monitored := d.monitored.erase c.key }) h
    (fun _ => rfl) (fun _ => rfl) fun _ => rfl

theorem report (h : d.Counted landed) {node : Node} {g : Generation} {reason : FailureReason} :
    (d.report node g reason).Counted landed := by
  rw [report_eq]
  exact Counted.record h rfl rfl

theorem install (h : d.Counted landed) {node : Node} : (d.install node).Counted landed := by
  rcases d.install_eq node with ⟨-, heq⟩ | ⟨-, heq⟩
  · rw [heq]
    exact h
  · rw [heq]
    refine Counted.record (fun id => ?_) rfl rfl
    have hidle : Worker.counts landed id ⟨node, ⟨d.issued + 1⟩, false, .ready⟩ = false :=
      Worker.counts_idle rfl
    simpa [List.countP_append, hidle] using h id

theorem lose (h : d.Counted landed) {cause : Removal} {c : Cycle} {node : Node}
    {lost : Generation} : (d.lose cause c node lost).Counted landed :=
  lose_keep (P := (Counted · landed)) (h.removeCycle.record rfl rfl) h.removeCycle.report

theorem endReconnect (h : d.Counted landed) {node : Node} {lost : Generation}
    {outcome : Outcome} : (d.endReconnect node lost outcome).Counted landed := by
  have hrecorded (outcome : Outcome) :
      (d.record (.connected node lost outcome)).Counted landed := h.record rfl rfl
  exact endReconnect_keep (P := (Counted · landed)) (hrecorded _).install
    fun _ => (hrecorded _).report

/-- The ping of a worker has come out, or the worker does not wait for it any more. -/
theorem land (h : d.Counted none) (hd : d.Enrolled) {w : Worker} (hw : w ∈ d.workers)
    {gate : Nat} (hheld : w.held? = some gate) {e : Event} (hsent : e.pingSentTo? = none)
    (hended : e.pingEndedTo? = some w.node.id) : (d.record e).Counted (some w.generation) := by
  intro id
  have hcount := h.all id
  have hpeak := h.peak_le id
  have hflight := h.sent_le id
  have hothers := countP_counts hw hd.distinct id
  have hping : w.pings id = decide (w.node.id = id) := by
    simp only [Worker.pings, hheld, Option.isSome_some, Bool.true_and, beq_eq_decide]
  rw [hping] at hothers
  simp only [Detector.record, History.tally_cons, History.Tally.count, hsent, hended, reduceCtorEq,
    ↓reduceIte, Option.some.injEq]
  by_cases hid : w.node.id = id
  · simp only [hid, decide_true, ↓reduceIte] at hothers ⊢
    exact ⟨by omega, by omega⟩
  · simp only [hid, decide_false, Bool.false_eq_true, ↓reduceIte] at hothers ⊢
    exact ⟨by omega, by omega⟩

theorem answer (h : d.Counted none) (hd : d.Enrolled) {w : Worker} (hw : w ∈ d.workers)
    {gate : Nat} {flight : Flight} (hstage : w.stage = .pinging gate flight) {outcome : Outcome} :
    (d.record (.answered w.node.id w.generation outcome)).Counted (some w.generation) :=
  h.land hd hw (Worker.held?_of_pinging hstage) rfl rfl

/-- Workers without a ping in flight may as well be left out of the count. -/
theorem iff_of_idle {g : Generation}
    (hidle : ∀ w ∈ d.workers, w.generation = g → w.held? = none) :
    d.Counted (some g) ↔ d.Counted none := by
  have hsame (id : NodeId) : d.workers.countP (Worker.counts (some g) id) =
      d.workers.countP (Worker.counts none id) := by
    apply List.countP_congr
    intro w hw
    by_cases hg : w.generation = g
    · rw [Worker.counts_idle (hidle w hw hg), Worker.counts_idle (hidle w hw hg)]
    · rw [Worker.counts_of_ne (Ne.symm hg), Worker.counts_none]
  simp only [Counted, hsame]

theorem exempt (h : d.Counted none) (hd : d.Enrolled) {w : Worker} (hw : w ∈ d.workers)
    (hidle : w.held? = none) : d.Counted (some w.generation) :=
  (iff_of_idle fun _ hv hg => hd.worker_unique hv hw hg ▸ hidle).2 h

/-- The worker whose ping has come out goes on to some stage. -/
theorem moveOn {g : Generation} (h : d.Counted (some g)) {stage : Stage} :
    (d.setStage g stage).Counted (some g) := by
  intro id
  obtain ⟨hcount, hpeak⟩ := h id
  refine ⟨?_, hpeak⟩
  show (d.history.tally id).sent = (d.history.tally id).ended + (d.workers.map _).countP _
  rw [hcount, List.countP_map]
  refine congrArg _ (List.countP_congr fun w _ => ?_)
  simp only [Function.comp_apply]
  split
  next hg => simp [Worker.counts, hg]
  next => rfl

theorem setStage {g : Generation} (h : d.Counted (some g)) {stage : Stage}
    (hstage : ∀ w : Worker, { w with stage }.held? = none) :
    (d.setStage g stage).Counted none := by
  refine (iff_of_idle fun w hw hg => ?_).1 h.moveOn
  obtain ⟨v, hv, rfl⟩ := List.mem_map.1 hw
  by_cases hv' : v.generation = g
  · rw [if_pos hv']
    exact hstage v
  · rw [if_neg hv'] at hg
    exact absurd hg hv'

theorem leave {w : Worker} (h : d.Counted (some w.generation)) {alive : Bool} :
    (d.leave alive w).Counted none := by
  obtain ⟨gates, heq⟩ := d.leave_eq alive w
  rw [heq]
  intro id
  obtain ⟨hcount, hpeak⟩ := h id
  refine ⟨?_, hpeak⟩
  show (d.history.tally id).sent = (d.history.tally id).ended + (d.workers.filter _).countP _
  rw [hcount, List.countP_filter]
  refine congrArg _ (List.countP_congr fun v _ => ?_)
  simp [Worker.counts, eq_comm (a := w.generation)]

/-- A ping is sent to a node that nobody is pinging. -/
theorem launch (h : d.Counted none) (hd : d.Enrolled) {w : Worker} (hw : w ∈ d.workers)
    (hfree : ∀ v ∈ d.workers, v.pings w.node.id = false) {gate : Nat} {flight : Flight} {e : Event}
    (hsent : e.pingSentTo? = some w.node.id) (hended : e.pingEndedTo? = none) :
    ((d.record e).setStage w.generation (.pinging gate flight)).Counted none := by
  let sending (v : Worker) : Worker :=
    if v.generation = w.generation then { v with stage := .pinging gate flight } else v
  have hgeneration (v : Worker) : (sending v).generation = v.generation := by
    unfold sending
    split <;> rfl
  have hdistinct : ((d.workers.map sending).map Worker.generation).Nodup := by
    rw [List.map_map, show Worker.generation ∘ sending = Worker.generation from funext hgeneration]
    exact hd.distinct
  intro id
  have hcount := h.all id
  have hpeak := h.peak_le id
  have hbefore := countP_counts hw hd.distinct id
  have hafter := countP_counts (List.mem_map_of_mem (f := sending) hw) hdistinct id
  have hothers : (d.workers.map sending).countP (Worker.counts (some w.generation) id) =
      d.workers.countP (Worker.counts (some w.generation) id) := by
    rw [List.countP_map]
    apply List.countP_congr
    intro v _
    by_cases hg : w.generation = v.generation
    · simp [Worker.counts, hgeneration, hg]
    · simp [sending, Ne.symm hg]
  have hping : (sending w).pings id = decide (w.node.id = id) := by
    simp [sending, Worker.pings, Worker.held?, beq_eq_decide]
  show (History.tally (_ :: d.history) id).sent = (History.tally (_ :: d.history) id).ended +
      (d.workers.map sending).countP _ ∧ (History.tally (_ :: d.history) id).peak ≤ 1
  rw [hgeneration w, hothers, hping] at hafter
  rw [Worker.counts_none]
  simp only [History.tally_cons, History.Tally.count, hsent, hended, reduceCtorEq, ↓reduceIte,
    Option.some.injEq]
  by_cases hid : w.node.id = id
  · subst hid
    have hnobody : d.workers.countP (Worker.pings w.node.id) = 0 :=
      List.countP_eq_zero.2 fun v hv => by simp [hfree v hv]
    rw [hfree w hw] at hbefore
    simp only [decide_true, Bool.false_eq_true, ↓reduceIte] at hafter hbefore ⊢
    exact ⟨by omega, by omega⟩
  · have hidle : w.pings id = false := by simp [Worker.pings, hid]
    have hflight := h.sent_le id
    rw [hidle] at hbefore
    simp only [hid, decide_false, Bool.false_eq_true, ↓reduceIte] at hafter hbefore ⊢
    exact ⟨by omega, by omega⟩

end Counted

theorem start_counted (self : Node) (cluster : ClusterName) (settings : DetectionSettings) :
    (start self cluster settings).Counted none := by
  intro id
  simp [start, History.tally]

/-- Whoever pings a node holds the gate at which others queue for it. -/
theorem Gated.nobody_pings {d : Detector} (h : d.Gated) {w : Worker} (hw : w ∈ d.workers)
    {gate : Nat} (hstage : w.stage = .queued gate) (hfree : d.gateHeld gate = false) :
    ∀ v ∈ d.workers, v.pings w.node.id = false := by
  intro v hv
  have hmine := h w hw gate (by simp [Worker.gate?, hstage])
  cases hheld : v.held? with
  | none => simp [Worker.pings, hheld]
  | some held =>
    have hgate : v.gate? = some held := by
      unfold Worker.held? at hheld
      split at hheld <;> simp_all [Worker.gate?]
    have hnode : v.node.id ≠ w.node.id := fun heq => by
      have hkept := h v hv held hgate
      rw [heq, hmine] at hkept
      have hsame : gate = held := congrArg Prod.snd (Option.some.inj hkept)
      have hused : d.gateHeld gate = true :=
        List.any_eq_true.2 ⟨v, hv, by simp [hheld, hsame]⟩
      exact absurd (hused.symm.trans hfree) (by decide)
    simp [Worker.pings, hnode]

theorem Turn.counted {lives : Bool} {aside : Aside} {d e : Detector}
    (turn : Turn lives d aside e) (hd : d.Enrolled) (hgated : d.Gated) (h : d.Counted none) :
    e.Counted none := by
  cases turn with
  | pass => exact h
  | tell | hand | hear => exact h.record rfl rfl
  | reconcile snapshot =>
    exact reconcile_keep (P := (Counted · none)) (h.record rfl rfl)
      (fun _ _ he _ => he.removeCycle) fun _ _ he _ _ => he.install
  | stop =>
    exact stop_keep (P := (Counted · none)) (h.record rfl rfl) fun _ _ he _ => he.removeCycle
  | land g now outcome =>
    refine h.updateWorker (fun w => ?_) (fun w => ?_) fun w => ?_ <;>
      cases hstage : w.stage <;> simp [Station.landFlight, Worker.held?, hstage]
  | @queue w member stage =>
    have hidle : w.held? = none := by simp [Worker.held?, stage]
    obtain ⟨gates, made, heq⟩ := d.gateFor_eq w.node.id
    rw [heq]
    have hmade : Counted { d with gates, gatesMade := made } (some w.generation) :=
      h.exempt hd member hidle
    exact hmade.setStage fun _ => rfl
  | @depart w alive member idle =>
    refine (h.exempt hd member ?_).leave
    cases hstage : w.stage <;> simp_all [Worker.engaged, Worker.held?]
  | @wake w time member stage =>
    exact (h.exempt hd member (by simp [Worker.held?, stage])).setStage fun _ => rfl
  | @send w c gate version reply member stage free current =>
    have hput : (d.putCycle { c with phase := .awaiting }).Enrolled :=
      hd.putCycle (currentCycle?_eq_some current).1
    exact h.putCycle.launch hput member (hgated.nobody_pings member stage free) rfl rfl
  | abandon member stage =>
    exact (h.land hd member (Worker.held?_of_pinging stage) rfl rfl).leave
  | outlive member stage => exact (h.answer hd member stage).leave
  | rest member stage =>
    exact (h.answer hd member stage).putCycle.moveOn.putCycle.setStage fun _ => rfl
  | finish member stage => exact (h.answer hd member stage).putCycle.moveOn.leave
  | retry member stage => exact (h.answer hd member stage).putCycle.setStage fun _ => rfl
  | exhaust member stage => exact (h.answer hd member stage).removeCycle.report.leave
  | breakOff member stage => exact (h.answer hd member stage).lose.setStage fun _ => rfl
  | giveUp member stage => exact (h.answer hd member stage).lose.leave
  | disconnect => exact h.lose
  | reconnect => exact h.endReconnect
  | workerReconnect member stage =>
    refine Counted.leave (h.exempt hd member ?_).endReconnect
    simp [Worker.held?, stage]

end Detector

namespace Station

/-- Of a node no more than one ping is in flight, and that is what the history counts; nor
were there ever more. -/
theorem Reachable.one_ping_in_flight {s : Station} (h : s.Reachable) (id : NodeId) :
    s.detector.workers.countP (Worker.pings id) ≤ 1 ∧
      (s.detector.history.tally id).inFlight = s.detector.workers.countP (Worker.pings id) ∧
      (s.detector.history.tally id).peak ≤ 1 := by
  obtain ⟨-, -, hcounted⟩ := h.keep
    (P := fun d => d.Enrolled ∧ d.Gated ∧ d.Counted none)
    (fun self cluster settings => ⟨Detector.start_enrolled self cluster settings,
      Detector.start_gated self cluster settings, Detector.start_counted self cluster settings⟩)
    fun ⟨hd, hgated, hcounted⟩ turn =>
      ⟨turn.enrolled hd, turn.gated hd hgated, turn.counted hd hgated hcounted⟩
  have hcount := hcounted.all id
  have hflight := hcounted.sent_le id
  have hsame : (s.detector.history.tally id).inFlight =
      s.detector.workers.countP (Worker.pings id) := by
    unfold History.Tally.inFlight
    omega
  refine ⟨?_, hsame, hcounted.peak_le id⟩
  rw [← hsame]
  exact hflight

/-- Actions after which two cycles of one node overlap, at a gate that was made anew. -/
def overlap : List Action := [
  .reconcile Trial.together, .run true (.worker ⟨1⟩), .run true (.worker ⟨1⟩),
  .reconcile Trial.alone, .run true (.worker ⟨1⟩),
  .reconcile Trial.together, .run true (.worker ⟨2⟩), .run true (.worker ⟨2⟩),
  .reconcile Trial.alone, .reconcile Trial.together, .run true (.worker ⟨3⟩)]

theorem one_ping_in_flight_in_overlap :
    ∃ s : Station, s.detector.gatesMade = 2 ∧
      s.detector.workers.map (fun w => (w.generation, w.retired, w.gate?, w.held?)) =
        [(⟨2⟩, true, some 1, some 1), (⟨3⟩, false, some 1, none)] ∧
      s.detector.workers.countP (Worker.pings Trial.peer.id) ≤ 1 ∧
      (s.detector.history.tally Trial.peer.id).inFlight =
        s.detector.workers.countP (Worker.pings Trial.peer.id) ∧
      (s.detector.history.tally Trial.peer.id).peak ≤ 1 := by
  refine ⟨Trial.after .standard .silent overlap (by decide), by decide, by decide, ?_⟩
  exact Reachable.one_ping_in_flight (Trial.reachable (by decide)) Trial.peer.id

end Station

end ClusterWatch
