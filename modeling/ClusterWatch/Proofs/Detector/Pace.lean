import ClusterWatch.Proofs.Detector.RetryBudget

/-!
The pace of a cycle. A worker sends the next ping only when the last one has come out, so of
the pings that a cycle has sent since one was acknowledged all have failed but the one that
is under way. With the retry budget this bounds how often a cycle pings in vain.
-/
namespace ClusterWatch

open Detector Past

/-- The cycle of which the event may change how many pings it has sent in vain. -/
def Event.paced? : Event → Option Generation
  | .installed _ g => some g
  | .pinged _ g _ => some g
  | .answered _ g _ => some g
  | _ => none

namespace Past

/-- Pings of the cycle up to now since one was acknowledged. -/
def tries (g : Generation) : Past → Nat
  | [] => 0
  | .installed _ h :: earlier => if h = g then 0 else tries g earlier
  | .pinged _ h _ :: earlier => if h = g then tries g earlier + 1 else tries g earlier
  | .answered _ h .done :: earlier => if h = g then 0 else tries g earlier
  | _ :: earlier => tries g earlier

variable {g : Generation} {past : Past}

theorem tries_cons {e : Event} (he : e.paced? ≠ some g) : tries g (e :: past) = tries g past := by
  cases e with
  | installed node h | pinged node h request =>
    have hne : h ≠ g := fun heq => he (congrArg some heq)
    simp [tries, hne]
  | answered id h outcome =>
    have hne : h ≠ g := fun heq => he (congrArg some heq)
    cases outcome <;> simp [tries, hne]
  | _ => rfl

theorem tries_pinged {node : Node} {request : PingRequest} :
    tries g (.pinged node g request :: past) = tries g past + 1 := by
  simp [tries]

theorem tries_done {id : NodeId} : tries g (.answered id g .done :: past) = 0 := by
  simp [tries]

theorem tries_failed {id : NodeId} {error : TransportError} :
    tries g (.answered id g (.failed error) :: past) = tries g past := rfl

theorem tries_installed {node : Node} : tries g (.installed node g :: past) = 0 := by
  simp [tries]

theorem Watched.of_cons {e : Event} (h : Watched (e :: past) g) (he : e.paced? ≠ some g) :
    Watched past g := by
  obtain ⟨⟨node, hinstalled⟩, hremoved⟩ := h
  refine ⟨⟨node, ?_⟩, fun n cause hmem => hremoved n cause (List.mem_cons_of_mem _ hmem)⟩
  rcases List.mem_cons.1 hinstalled with rfl | hinstalled
  · exact absurd rfl he
  · exact hinstalled

end Past

/-- The pings of the worker that are under way. -/
def Worker.flying (w : Worker) : Nat := if w.held?.isSome then 1 else 0

theorem Worker.flying_eq_zero {w : Worker} (h : w.held? = none) : w.flying = 0 := by
  simp [flying, h]

/-- Pings in vain are those that have failed and the one that is under way. The cycle whose ping
has just been dealt with is left out until its worker has moved on. -/
def Pace (workers : List Worker) (past : Past) (loose : Option Generation) : Prop :=
  ∀ w ∈ workers, loose ≠ some w.generation → Watched past w.generation →
    tries w.generation past = failedInARow w.generation past + w.flying

namespace Pace

variable {workers : List Worker} {past : Past} {loose : Option Generation} {g : Generation}

theorem loosen (h : Pace workers past none) (g : Generation) : Pace workers past (some g) :=
  fun w hw _ => h w hw (by simp)

theorem note (h : Pace workers past loose) {e : Event}
    (he : ∀ g, e.paced? = some g → loose = some g) :
    Pace workers (e :: past) loose := by
  intro w hw hother hwatched
  have hpaced : e.paced? ≠ some w.generation := fun heq => hother (he _ heq)
  have htallied : e.tallied? ≠ some w.generation := fun heq => hpaced (by
    cases e <;> simp_all [Event.tallied?, Event.paced?])
  rw [tries_cons hpaced, failedInARow_cons htallied]
  exact h w hw hother (hwatched.of_cons hpaced)

/-- Workers may change all but their generation and whether they hold a gate. -/
theorem mapWorkers (h : Pace workers past loose) {change : Worker → Worker}
    (hchange : ∀ w, (change w).generation = w.generation ∧
      (loose ≠ some w.generation → (change w).flying = w.flying)) :
    Pace (workers.map change) past loose := by
  intro w hw hother hwatched
  obtain ⟨v, hv, rfl⟩ := List.mem_map.1 hw
  rw [(hchange v).1] at hother hwatched ⊢
  rw [(hchange v).2 hother]
  exact h v hv hother hwatched

theorem filterWorkers (h : Pace workers past loose) {keep : Worker → Bool}
    (hloose : ∀ w ∈ workers, keep w = true → loose ≠ some w.generation) :
    Pace (workers.filter keep) past none := by
  intro w hw _
  obtain ⟨hw, hkeep⟩ := List.mem_filter.1 hw
  exact h w hw (hloose w hw hkeep)

/-- The cycle is in step again. -/
theorem tighten (h : Pace workers past (some g))
    (hg : ∀ w ∈ workers, w.generation = g → Watched past g →
      tries g past = failedInARow g past + w.flying) : Pace workers past none := by
  intro w hw _ hwatched
  by_cases heq : w.generation = g
  · subst heq
    exact hg w hw rfl hwatched
  · exact h w hw (fun hsome => heq (Option.some.inj hsome).symm) hwatched

end Pace

namespace Detector

def Paced (d : Detector) (loose : Option Generation) : Prop := Pace d.workers d.past loose

namespace Paced

variable {d : Detector} {loose : Option Generation} {w : Worker}

theorem record (h : d.Paced loose) {e : Event} (he : ∀ g, e.paced? = some g → loose = some g) :
    (d.record e).Paced loose := Pace.note h he

theorem updateWorker (h : d.Paced loose) {g : Generation} {change : Worker → Worker}
    (hchange : ∀ w, (change w).generation = w.generation ∧
      (loose ≠ some g → (change w).flying = w.flying)) : (d.updateWorker g change).Paced loose := by
  refine Pace.mapWorkers h fun v => ?_
  split
  next hg =>
    subst hg
    exact hchange v
  next => exact ⟨rfl, fun _ => rfl⟩

theorem removeCycle (h : d.Paced loose) {cause : Removal} {c : Cycle} :
    (d.removeCycle cause c).Paced loose := by
  have hretired : ({ d with monitored := d.monitored.erase c.key }.updateWorker c.generation
      fun w => { w with retired := true }).Paced loose :=
    updateWorker (d := { d with monitored := d.monitored.erase c.key }) h
      fun _ => ⟨rfl, fun _ => rfl⟩
  exact hretired.record (by simp [Event.paced?])

theorem report (h : d.Paced loose) {node : Node} {g : Generation} {reason : FailureReason} :
    (d.report node g reason).Paced loose := by
  rw [report_eq]
  exact Pace.note h (by simp [Event.paced?])

theorem lose (h : d.Paced loose) {cause : Removal} {c : Cycle} {node : Node} {lost : Generation} :
    (d.lose cause c node lost).Paced loose :=
  lose_keep (P := (Paced · loose)) (h.removeCycle.record (by simp [Event.paced?]))
    h.removeCycle.report

/-- The worker goes whose cycle may be out of step. -/
theorem leave (h : d.Paced (some w.generation)) {alive : Bool} :
    (d.leave alive w).Paced none := by
  obtain ⟨gates, heq⟩ := d.leave_eq alive w
  rw [heq]
  refine Pace.filterWorkers h fun v _ hkeep hsome => ?_
  have hne : v.generation ≠ w.generation := by simpa using hkeep
  exact hne (Option.some.inj hsome).symm

/-- The worker moves on, and its cycle is in step again. -/
theorem move (h : d.Paced (some w.generation)) (hd : d.Enrolled) (hw : w ∈ d.workers)
    (stage : Stage)
    (hstep : Watched d.past w.generation → tries w.generation d.past =
      failedInARow w.generation d.past + Worker.flying { w with stage }) :
    (d.setStage w.generation stage).Paced none := by
  have hmoved : (d.setStage w.generation stage).Paced (some w.generation) :=
    h.updateWorker fun v => ⟨rfl, fun hne => absurd rfl hne⟩
  refine Pace.tighten hmoved fun v hv hg hwatched => ?_
  obtain ⟨u, hu, rfl⟩ := List.mem_map.1 hv
  have hgen : u.generation = w.generation := by
    split at hg <;> exact hg
  rw [if_pos hgen, hd.worker_unique hu hw hgen]
  exact hstep hwatched

theorem install (h : d.Paced none) (hd : d.Enrolled) {node : Node} :
    (d.install node).Paced none := by
  rcases d.install_eq node with ⟨-, heq⟩ | ⟨-, heq⟩
  · rw [heq]
    exact h
  · rw [heq]
    let g : Generation := ⟨d.issued + 1⟩
    have hfresh : ∀ v ∈ d.workers, v.generation ≠ g := fun v hv hg => by
      have hle : v.generation.number ≤ d.issued := hd.begun (hd.worker v hv)
      simp only [hg, g] at hle
      omega
    intro v hv _ hwatched
    rcases List.mem_append.1 hv with hv | hv
    · have hpaced : (Event.installed node g).paced? ≠ some v.generation := fun heq =>
        hfresh v hv (Option.some.inj heq).symm
      have htallied : (Event.installed node g).tallied? ≠ some v.generation := hpaced
      show tries _ (.installed node g :: d.past) = failedInARow _ (.installed node g :: d.past) + _
      rw [tries_cons hpaced, failedInARow_cons htallied]
      exact h v hv (by simp) (hwatched.of_cons hpaced)
    · obtain rfl := List.mem_singleton.1 hv
      show tries g (.installed node g :: d.past) = failedInARow g (.installed node g :: d.past) + 0
      rw [tries_installed, failedInARow_installed]

theorem endReconnect (h : d.Paced none) (hd : d.Enrolled) {node : Node} {lost : Generation}
    {outcome : Outcome} : (d.endReconnect node lost outcome).Paced none := by
  have hrecorded (outcome : Outcome) : (d.record (.connected node lost outcome)).Paced none :=
    h.record (by simp [Event.paced?])
  exact endReconnect_keep (P := (Paced · none)) ((hrecorded _).install (hd.record rfl))
    fun _ => (hrecorded _).report

end Paced

theorem start_paced (self : Node) (cluster : ClusterName) (settings : DetectionSettings) :
    (start self cluster settings).Paced none :=
  fun w hw => by simp [start] at hw

theorem Turn.paced {lives : Bool} {aside : Aside} {d e : Detector} (turn : Turn lives d aside e)
    (hd : d.Enrolled) (h : d.Paced none) : e.Paced none := by
  have hloose (w : Worker) : d.Paced (some w.generation) := Pace.loosen h w.generation
  have hanswered (w : Worker) (outcome : Outcome) :
      (d.record (.answered w.node.id w.generation outcome)).Paced (some w.generation) :=
    (hloose w).record fun g heq => heq ▸ rfl
  have hidle {w : Worker} (hw : w ∈ d.workers) (hnone : w.held? = none) (stage : Stage)
      (hstage : Worker.held? { w with stage } = none) (hwatched : Watched d.past w.generation) :
      tries w.generation d.past =
        failedInARow w.generation d.past + Worker.flying { w with stage } := by
    rw [h w hw (by simp) hwatched, Worker.flying_eq_zero hnone, Worker.flying_eq_zero hstage]
  have hentry {w : Worker} {c : Cycle} (current : d.currentCycle? w = some c) :
      c ∈ d.monitored.entries := (currentCycle?_eq_some current).1
  cases turn with
  | pass => exact h
  | tell | hand | hear => exact h.record (by simp [Event.paced?])
  | reconcile snapshot =>
    let Kept (e : Detector) : Prop := e.Enrolled ∧ e.Paced none
    refine (reconcile_keep (P := Kept) ⟨hd.record rfl, h.record (by simp [Event.paced?])⟩
      (fun e c he hc => ⟨he.1.removeCycle hc, he.2.removeCycle⟩)
      fun e node he _ _ => ⟨he.1.install, he.2.install he.1⟩).2
  | stop =>
    exact stop_keep (P := (Paced · none)) (h.record (by simp [Event.paced?]))
      fun _ _ he _ => he.removeCycle
  | land g now outcome =>
    refine h.updateWorker fun w => ?_
    unfold Station.landFlight
    cases hstage : w.stage <;> simp [Worker.flying, Worker.held?, hstage]
  | @queue w member stage =>
    obtain ⟨gates, made, heq⟩ := d.gateFor_eq w.node.id
    rw [heq]
    exact Paced.move (d := { d with gates, gatesMade := made }) (hloose w) hd member _
      (hidle member (by simp [Worker.held?, stage]) _ rfl)
  | @depart w => exact (hloose w).leave
  | @wake w time member stage =>
    exact (hloose w).move hd member _ (hidle member (by simp [Worker.held?, stage]) _ rfl)
  | @send w c gate version reply member stage free current =>
    let sent : Event := .pinged w.node w.generation (d.pingRequest w.node version)
    have hsent : ((d.putCycle { c with phase := .awaiting }).record sent).Paced
        (some w.generation) := Pace.note (hloose w) fun g heq => heq ▸ rfl
    refine hsent.move ((hd.putCycle (hentry current)).record rfl) member _ fun hwatched => ?_
    have hbefore := hidle member (by simp [Worker.held?, stage]) .ready rfl
      ((watched_cons (e := sent) rfl).1 hwatched)
    show tries w.generation (sent :: d.past) = failedInARow w.generation (sent :: d.past) + 1
    rw [tries_pinged, failedInARow_cons (by simp [sent, Event.tallied?]), hbefore]
    rfl
  | @abandon w => exact ((hloose w).record (by simp [Event.paced?])).leave
  | @outlive w gate flight outcome => exact (hanswered w outcome).leave
  | @rest w c gate flight member stage due current =>
    have hcleared : ((d.record (.answered w.node.id w.generation .done)).putCycle
        { c with failures := 0 }).Paced (some w.generation) := hanswered w .done
    have henrolled : ((d.record (.answered w.node.id w.generation .done)).putCycle
        { c with failures := 0 }).Enrolled := (hd.record rfl).putCycle (hentry current)
    have hdone (u : Worker) (hu : u.held? = none) (hg : u.generation = w.generation) :
        tries u.generation (.answered w.node.id w.generation .done :: d.past) =
          failedInARow u.generation (.answered w.node.id w.generation .done :: d.past) +
            u.flying := by
      rw [hg, tries_done, failedInARow_done, Worker.flying_eq_zero hu]
    have hready := hcleared.move henrolled member .ready
      fun _ => hdone { w with stage := .ready } rfl rfl
    exact Paced.move (w := { w with stage := .ready }) (hready.loosen w.generation)
      henrolled.setStage (mem_setStage member .ready) _
      fun _ => hdone { w with stage := .resting (d.now + d.settings.interval) } rfl rfl
  | @finish w c gate flight alive member stage due current =>
    have hcleared : ((d.record (.answered w.node.id w.generation .done)).putCycle
        { c with failures := 0 }).Paced (some w.generation) := hanswered w .done
    have hready : (((d.record (.answered w.node.id w.generation .done)).putCycle
        { c with failures := 0 }).setStage w.generation .ready).Paced (some w.generation) :=
      hcleared.updateWorker fun v => ⟨rfl, fun hne => absurd rfl hne⟩
    exact hready.leave
  | @retry w c gate flight error member stage due current counted left =>
    have hcounted : ((d.record (.answered w.node.id w.generation (.failed error))).putCycle
        { c with failures := c.failures + 1 }).Paced (some w.generation) :=
      hanswered w (.failed error)
    refine hcounted.move ((hd.record rfl).putCycle (hentry current)) member _ fun hwatched => ?_
    have hbefore := h w member (by simp) ((watched_cons rfl).1 hwatched)
    show tries w.generation (.answered w.node.id w.generation (.failed error) :: d.past) =
      failedInARow w.generation (.answered w.node.id w.generation (.failed error) :: d.past) + 0
    rw [tries_failed, failedInARow_failed counted, hbefore]
    simp [Worker.flying, Worker.held?, stage]
  | @exhaust w => exact (hanswered w _).removeCycle.report.leave
  | @breakOff w c gate flight next error member stage due current lost allowed =>
    obtain ⟨hc, -, hg⟩ := currentCycle?_eq_some current
    let answered := d.record (.answered w.node.id w.generation (.failed error))
    have hlost : (answered.lose .lostByPing c w.node w.generation).Paced (some w.generation) :=
      (hanswered w _).lose
    refine Paced.move (w := { w with retired := true }) hlost
      (Enrolled.lose (d := answered) (hd.record rfl) hc) (mem_lose (d := answered) member hg _ _ _)
      _ fun hwatched => ?_
    obtain ⟨event, -, hpast⟩ := answered.lose_past .lostByPing c w.node w.generation
    rw [hpast] at hwatched
    refine absurd ?_ (hwatched.2 c.node .lostByPing)
    exact hg ▸ List.mem_cons_of_mem _ List.mem_cons_self
  | @giveUp w => exact (hanswered w _).lose.leave
  | disconnect => exact h.lose
  | reconnect => exact h.endReconnect hd
  | @workerReconnect w => exact Paced.leave ((h.endReconnect hd).loosen w.generation)

end Detector

theorem Station.Reachable.paced {s : Station} (h : s.Reachable) : s.detector.Paced none :=
  h.keepBursts (P := fun d _ => d.Paced none) start_paced
    fun hpaced turn grows _ => turn.paced grows.enrolled hpaced

end ClusterWatch
