import ClusterWatch.Proofs.Detector.News
import ClusterWatch.Proofs.Detector.Reports

/-!
The retry budget. The count that an entry carries is the number of failed attempts in a row
that the past shows for its cycle, and it stays below the number of attempts allowed. While
the answer to a ping is being dealt with, the entry of that cycle is behind its past. The
attempt that brings the count to the limit is the one that ends the cycle with a report.
-/
namespace ClusterWatch

open Past

/-- The cycle whose count of failures in a row the event may change. -/
def Event.tallied? : Event → Option Generation
  | .installed _ g => some g
  | .answered _ g _ => some g
  | _ => none

namespace Past

variable {g : Generation} {past : Past}

theorem failedInARow_cons {e : Event} (he : e.tallied? ≠ some g) :
    failedInARow g (e :: past) = failedInARow g past := by
  cases e with
  | installed node h =>
    have hne : h ≠ g := fun heq => he (congrArg some heq)
    simp [failedInARow, hne]
  | answered id h outcome =>
    have hne : h ≠ g := fun heq => he (congrArg some heq)
    cases outcome <;> simp [failedInARow, hne]
  | _ => rfl

theorem failedInARow_installed {node : Node} :
    failedInARow g (.installed node g :: past) = 0 := by
  simp [failedInARow]

theorem failedInARow_done {id : NodeId} : failedInARow g (.answered id g .done :: past) = 0 := by
  simp [failedInARow]

theorem failedInARow_failed {id : NodeId} {error : TransportError}
    (hcounted : error.isDisconnect = false) :
    failedInARow g (.answered id g (.failed error) :: past) = failedInARow g past + 1 := by
  simp [failedInARow, hcounted]

end Past

/-- Entries count what the past shows, below the limit. The cycle whose ping has just been
answered is left out until its entry has been brought up to date. -/
def Budget (retries : Nat) (monitored : Table Cycle Cycle.key) (past : Past)
    (answered : Option Generation) : Prop :=
  ∀ c ∈ monitored.entries, answered ≠ some c.generation →
    c.failures = failedInARow c.generation past ∧ c.failures < retries

namespace Budget

variable {retries : Nat} {monitored : Table Cycle Cycle.key} {past : Past}
  {answered : Option Generation} {g : Generation}

theorem note (h : Budget retries monitored past answered) {e : Event} (he : e.tallied? = none) :
    Budget retries monitored (e :: past) answered := by
  intro c hc hother
  rw [failedInARow_cons (by simp [he])]
  exact h c hc hother

theorem answer (h : Budget retries monitored past none) {id : NodeId} {outcome : Outcome} :
    Budget retries monitored (.answered id g outcome :: past) (some g) := by
  intro c hc hother
  rw [failedInARow_cons (e := .answered id g outcome) hother]
  exact h c hc (by simp)

/-- The answer came too late: there is no entry of that cycle. -/
theorem late (h : Budget retries monitored past (some g))
    (hgone : ∀ c ∈ monitored.entries, c.generation ≠ g) :
    Budget retries monitored past none :=
  fun c hc _ => h c hc fun heq => hgone c hc (Option.some.inj heq).symm

/-- The entry of the cycle is brought up to date. -/
theorem putCycle (h : Budget retries monitored past answered) {c : Cycle}
    (hothers : ∀ b ∈ monitored.entries, b.key ≠ c.key → answered ≠ some b.generation)
    (hcount : c.failures = failedInARow c.generation past) (hbelow : c.failures < retries) :
    Budget retries (monitored.insert c) past none := by
  intro b hb _
  rcases Table.mem_insert.1 hb with rfl | ⟨hb, hkey⟩
  · exact ⟨hcount, hbelow⟩
  · exact h b hb (hothers b hb (Ne.symm hkey))

/-- An entry goes; its cycle may have been behind. -/
theorem erase (h : Budget retries monitored past answered) {c : Cycle}
    (hothers : ∀ b ∈ monitored.entries, b.key ≠ c.key → answered ≠ some b.generation) :
    Budget retries (monitored.erase c.key) past none := by
  intro b hb _
  obtain ⟨hb, hkey⟩ := Table.mem_erase.1 hb
  exact h b hb (hothers b hb (Ne.symm hkey))

theorem install (h : Budget retries monitored past none) (hretries : 0 < retries) {node : Node}
    (hfresh : ∀ c ∈ monitored.entries, c.generation ≠ g) :
    Budget retries (monitored.insert (Cycle.begin node g)) (.installed node g :: past) none := by
  have hbegun : Budget retries monitored (.installed node g :: past) none := by
    intro c hc hother
    have htallied : (Event.installed node g).tallied? ≠ some c.generation := fun heq =>
      hfresh c hc (Option.some.inj heq).symm
    rw [failedInARow_cons htallied]
    exact h c hc hother
  exact hbegun.putCycle (by simp) failedInARow_installed.symm hretries

end Budget

namespace Detector

def Budgeted (d : Detector) (answered : Option Generation) : Prop :=
  Budget d.settings.retries d.monitored d.past answered

namespace Budgeted

variable {d : Detector} {answered : Option Generation}

theorem record (h : d.Budgeted answered) {e : Event} (he : e.tallied? = none) :
    (d.record e).Budgeted answered := Budget.note h he

theorem setStage (h : d.Budgeted answered) {g : Generation} {stage : Stage} :
    (d.setStage g stage).Budgeted answered := h

theorem leave (h : d.Budgeted answered) {alive : Bool} {w : Worker} :
    (d.leave alive w).Budgeted answered := by
  obtain ⟨gates, heq⟩ := d.leave_eq alive w
  rw [heq]
  exact h

theorem report (h : d.Budgeted answered) {node : Node} {g : Generation}
    {reason : FailureReason} : (d.report node g reason).Budgeted answered := by
  rw [report_eq]
  exact Budget.note h rfl

/-- Entries other than one of a cycle are of other cycles. -/
private theorem others_of_enrolled (hd : d.Enrolled) {b c : Cycle}
    (hb : b ∈ d.monitored.entries) (hc : c ∈ d.monitored.entries) (hkey : b.key ≠ c.key) :
    some c.generation ≠ some b.generation := fun heq =>
  hkey (congrArg Cycle.key (hd.entry_unique hb hc (Option.some.inj heq).symm))

theorem putCycle {c : Cycle} (h : d.Budgeted (some c.generation)) (hd : d.Enrolled)
    (hc : c ∈ d.monitored.entries) {failures : Nat} {phase : Phase}
    (hcount : failures = failedInARow c.generation d.past)
    (hbelow : failures < d.settings.retries) :
    (d.putCycle { c with failures, phase }).Budgeted none :=
  Budget.putCycle h (fun _ hb hkey => others_of_enrolled hd hb hc hkey) hcount hbelow

/-- The phase of an entry changes, and nothing else. -/
theorem putPhase (h : d.Budgeted none) {c : Cycle} (hc : c ∈ d.monitored.entries)
    {phase : Phase} : (d.putCycle { c with phase }).Budgeted none := by
  obtain ⟨hcount, hbelow⟩ := h c hc (by simp)
  exact Budget.putCycle h (by simp) hcount hbelow

theorem removeAnswered {c : Cycle} (h : d.Budgeted (some c.generation)) (hd : d.Enrolled)
    (hc : c ∈ d.monitored.entries) {cause : Removal} :
    (d.removeCycle cause c).Budgeted none :=
  (Budget.erase h fun _ hb hkey => others_of_enrolled hd hb hc hkey).note rfl

theorem removeCycle (h : d.Budgeted none) {cause : Removal} {c : Cycle} :
    (d.removeCycle cause c).Budgeted none :=
  (Budget.erase h (by simp)).note rfl

theorem install (h : d.Budgeted none) (hd : d.Enrolled) (hretries : 0 < d.settings.retries)
    {node : Node} : (d.install node).Budgeted none := by
  rcases d.install_eq node with ⟨-, heq⟩ | ⟨-, heq⟩
  · rw [heq]
    exact h
  · rw [heq]
    apply Budget.install h hretries
    intro c hc hg
    have hle : c.generation.number ≤ d.issued := hd.begun (hd.entry c hc)
    simp only [hg] at hle
    omega

theorem lose {cause : Removal} {c : Cycle} (h : (d.removeCycle cause c).Budgeted none)
    {node : Node} {lost : Generation} : (d.lose cause c node lost).Budgeted none :=
  lose_keep (P := (Budgeted · none)) (h.record rfl) h.report

theorem endReconnect (h : d.Budgeted none) (hd : d.Enrolled) (hretries : 0 < d.settings.retries)
    {node : Node} {lost : Generation} {outcome : Outcome} :
    (d.endReconnect node lost outcome).Budgeted none := by
  have hrecorded (outcome : Outcome) :
      (d.record (.connected node lost outcome)).Budgeted none := h.record rfl
  exact endReconnect_keep (P := (Budgeted · none))
    ((hrecorded _).install (hd.record rfl) hretries) fun _ => (hrecorded _).report

end Budgeted

theorem start_budgeted (self : Node) (cluster : ClusterName) (settings : DetectionSettings) :
    (start self cluster settings).Budgeted none :=
  fun c hc => by simp [start, Table.empty] at hc

theorem Turn.budgeted {lives : Bool} {aside : Aside} {d e : Detector}
    (turn : Turn lives d aside e) (hd : d.Enrolled) (hretries : 0 < d.settings.retries)
    (h : d.Budgeted none) : e.Budgeted none := by
  have hanswered (w : Worker) (outcome : Outcome) :
      (d.record (.answered w.node.id w.generation outcome)).Budgeted (some w.generation) :=
    Budget.answer h
  have henrolled (w : Worker) (outcome : Outcome) :
      (d.record (.answered w.node.id w.generation outcome)).Enrolled := hd.record rfl
  have hbehind {w : Worker} {c : Cycle} (current : d.currentCycle? w = some c)
      (outcome : Outcome) :
      (d.record (.answered w.node.id w.generation outcome)).Budgeted (some c.generation) := by
    rw [(currentCycle?_eq_some current).2.2]
    exact hanswered w outcome
  have hcleared {w : Worker} {c : Cycle} (current : d.currentCycle? w = some c) :
      ((d.record (.answered w.node.id w.generation .done)).putCycle
        { c with failures := 0 }).Budgeted none := by
    obtain ⟨hc, -, hg⟩ := currentCycle?_eq_some current
    refine (hbehind current .done).putCycle (henrolled w .done) hc ?_ hretries
    rw [hg]
    exact failedInARow_done.symm
  have hdropped {w : Worker} {c : Cycle} (current : d.currentCycle? w = some c)
      (outcome : Outcome) {cause : Removal} :
      ((d.record (.answered w.node.id w.generation outcome)).removeCycle cause c).Budgeted none :=
    (hbehind current outcome).removeAnswered (henrolled w outcome) (currentCycle?_eq_some current).1
  cases turn with
  | pass | land | wake => exact h
  | tell | hand | hear => exact h.record rfl
  | reconcile snapshot =>
    let Kept (e : Detector) : Prop := e.settings = d.settings ∧ e.Enrolled ∧ e.Budgeted none
    have hstart : Kept (d.record (.reconciled snapshot.nodes)) := ⟨rfl, hd.record rfl, h.record rfl⟩
    refine (reconcile_keep hstart (fun e c he hc => ?_) fun e node he _ _ => ?_).2.2
    · exact ⟨he.1, he.2.1.removeCycle hc, he.2.2.removeCycle⟩
    · have hset : (e.install node).settings = e.settings := by
        exact ((Continues.refl e).install).settings
      exact ⟨hset.trans he.1, he.2.1.install, he.2.2.install he.2.1 (he.1 ▸ hretries)⟩
  | stop => exact stop_keep (P := (Budgeted · none)) (h.record rfl) fun _ _ he _ => he.removeCycle
  | @queue w member stage =>
    obtain ⟨gates, made, heq⟩ := d.gateFor_eq w.node.id
    rw [heq]
    exact h
  | depart => exact h.leave
  | @send w c gate version reply member stage free current =>
    exact ((h.putPhase (currentCycle?_eq_some current).1).record rfl).setStage
  | abandon => exact (h.record rfl).leave
  | @outlive w gate flight outcome alive member stage due superseded =>
    have hlate : (d.record (.answered w.node.id w.generation outcome)).Budgeted none :=
      (hanswered w outcome).late fun c hc hg =>
        currentCycle?_eq_none superseded c hc (congrArg Node.id (hd.entry_node member hc hg)) hg
    exact hlate.leave
  | rest member stage due current =>
    exact ((hcleared current).setStage.putPhase Table.mem_insert_self).setStage
  | finish member stage due current => exact (hcleared current).setStage.leave
  | @retry w c gate flight error member stage due current counted left =>
    obtain ⟨hc, -, hg⟩ := currentCycle?_eq_some current
    refine ((hbehind current (.failed error)).putCycle (henrolled w _) hc ?_ left).setStage
    rw [(h c hc (by simp)).1, hg]
    exact (failedInARow_failed counted).symm
  | exhaust member stage due current => exact (hdropped current _).report.leave
  | breakOff member stage due current => exact (hdropped current _).lose.setStage
  | giveUp member stage due current => exact (hdropped current _).lose.leave
  | disconnect => exact h.removeCycle.lose
  | reconnect => exact h.endReconnect hd hretries
  | workerReconnect => exact (h.endReconnect hd hretries).leave

end Detector

/-- The attempt that has failed was the last one that its cycle had left. -/
def Past.LastAttempt (retries : Nat) (g : Generation) (error : TransportError) (before : Past) :
    Prop :=
  error.isDisconnect = false ∧ Watched before g ∧ failedInARow g before + 1 = retries

/-- The event is a ping, a failed one or the report of a node that has failed to answer. -/
def Event.attempts : Event → Bool
  | .pinged .. => true
  | .answered _ _ (.failed _) => true
  | .reported _ _ (.unresponsive ..) _ => true
  | _ => false

/-- How pings, their failures and reports stand to what came before them. -/
structure Tried (retries : Nat) (limit : Duration) (e : Event) (earlier : Past) : Prop where
  pinged : ∀ node g request, e = .pinged node g request → Watched earlier g
  ended : ∀ id g error before, earlier = .answered id g (.failed error) :: before →
    LastAttempt retries g error before →
    ∃ node : Node, node.id = id ∧ e = .removed node g .unresponsive
  spent : ∀ node g attempts span taken, e = .reported node g (.unresponsive attempts span) taken →
    attempts = retries ∧ span = limit ∧ ∃ error before,
      earlier = .removed node g .unresponsive :: .answered node.id g (.failed error) :: before ∧
        LastAttempt retries g error before

/-- Last attempts have ended their cycles, and only they have been reported. -/
structure Spending (retries : Nat) (limit : Duration) (past : Past) : Prop where
  tried : Always (Tried retries limit) past
  settled : ∀ id g error before, past = .answered id g (.failed error) :: before →
    ¬ LastAttempt retries g error before

namespace Spending

variable {retries : Nat} {limit : Duration} {past : Past} {g : Generation}

theorem nil : Spending retries limit [] := ⟨always_nil, fun _ _ _ _ h => by simp at h⟩

private theorem tried_of_settled (h : Spending retries limit past) {e : Event}
    (hpinged : ∀ node g request, e = .pinged node g request → Watched past g)
    (hreported : ∀ node g attempts span taken,
      e ≠ .reported node g (.unresponsive attempts span) taken) : Tried retries limit e past where
  pinged := hpinged
  ended id g error before heq hlast := absurd hlast (h.settled id g error before heq)
  spent node g attempts span taken heq := absurd heq (hreported node g attempts span taken)

theorem plain (h : Spending retries limit past) {e : Event} (he : e.attempts = false) :
    Spending retries limit (e :: past) where
  tried := by
    refine always_cons h.tried (h.tried_of_settled ?_ ?_)
    · rintro node g request rfl
      simp [Event.attempts] at he
    · rintro node g attempts span taken rfl
      simp [Event.attempts] at he
  settled id g error before heq := by
    obtain ⟨rfl, -⟩ := List.cons.inj heq
    simp [Event.attempts] at he

theorem plainAll (h : Spending retries limit past) {new : List Event}
    (hnew : ∀ e ∈ new, e.attempts = false) : Spending retries limit (new ++ past) := by
  induction new with
  | nil => exact h
  | cons e new ih =>
    exact (ih fun f hf => hnew f (List.mem_cons_of_mem _ hf)).plain (hnew e List.mem_cons_self)

theorem ping (h : Spending retries limit past) (hwatched : Watched past g) {node : Node}
    {request : PingRequest} : Spending retries limit (.pinged node g request :: past) where
  tried := by
    refine always_cons h.tried (h.tried_of_settled (fun n k r heq => ?_) (by simp))
    obtain ⟨-, rfl, -⟩ := Event.pinged.inj heq
    exact hwatched
  settled id k error before heq := by simp at heq

/-- An attempt has failed that was not the last one of its cycle. -/
theorem failed (h : Spending retries limit past) {error : TransportError}
    (hmore : ¬ LastAttempt retries g error past) {id : NodeId} :
    Spending retries limit (.answered id g (.failed error) :: past) where
  tried := always_cons h.tried (h.tried_of_settled (by simp) (by simp))
  settled id' k error' before heq := by
    obtain ⟨he, rfl⟩ := List.cons.inj heq
    obtain ⟨-, rfl, hout⟩ := Event.answered.inj he
    obtain rfl := Outcome.failed.inj hout
    exact hmore

/-- The last attempt of a cycle has failed, the cycle ends and its node is reported. -/
theorem exhaust (h : Spending retries limit past) {error : TransportError}
    (hlast : LastAttempt retries g error past) {node : Node} {taken : Bool} :
    Spending retries limit (.reported node g (.unresponsive retries limit) taken ::
      .removed node g .unresponsive :: .answered node.id g (.failed error) :: past) where
  tried := by
    refine always_cons (always_cons (always_cons h.tried ?_) ⟨by simp, ?_, by simp⟩)
      ⟨by simp, by simp, ?_⟩
    · exact h.tried_of_settled (by simp) (by simp)
    · intro id k error' before heq _
      obtain ⟨he, -⟩ := List.cons.inj heq
      obtain ⟨rfl, rfl, -⟩ := Event.answered.inj he
      exact ⟨node, rfl, rfl⟩
    · intro n k attempts span taken' heq
      obtain ⟨rfl, rfl, hreason, -⟩ := Event.reported.inj heq
      obtain ⟨rfl, rfl⟩ := FailureReason.unresponsive.inj hreason
      exact ⟨rfl, rfl, error, past, rfl, hlast⟩
  settled id k error' before heq := by simp at heq

/-- What ends with a last attempt is reported at once. -/
theorem reported_of_last (h : Spending retries limit past) {reconnect : Bool}
    (hconsequent : Consequent reconnect past) {id : NodeId} {error : TransportError}
    {before : Past} (hsuffix : .answered id g (.failed error) :: before <:+ past)
    (hlast : LastAttempt retries g error before) :
    ∃ node taken, node.id = id ∧
      .reported node g (.unresponsive retries limit) taken :: .removed node g .unresponsive ::
        .answered id g (.failed error) :: before <:+ past := by
  rcases eq_or_next_of_suffix hsuffix with heq | ⟨e, hremoved⟩
  · exact absurd hlast (h.settled id g error before heq.symm)
  · obtain ⟨node, hid, rfl⟩ := (h.tried _ _ hremoved).ended id g error before rfl hlast
    obtain ⟨e, ⟨attempts, span, taken, rfl⟩, hreported⟩ := hconsequent.next hremoved rfl
    obtain ⟨rfl, rfl, -⟩ := (h.tried _ _ hreported).spent node g attempts span taken rfl
    exact ⟨node, taken, hid, hreported⟩

/-- The pings of a cycle that was reported lie before the report. -/
theorem pinged_before_report (h : Spending retries limit past) {node target : Node}
    {attempts : Nat} {span : Duration} {taken : Bool} {request : PingRequest}
    {earlier before : Past}
    (hreport : .reported node g (.unresponsive attempts span) taken :: earlier <:+ past)
    (hping : .pinged target g request :: before <:+ past) :
    .pinged target g request :: before <:+ earlier := by
  obtain ⟨-, -, error, rest, rfl, -⟩ :=
    (h.tried _ _ hreport).spent node g attempts span taken rfl
  rcases List.suffix_or_suffix_of_suffix hping hreport with hlater | hlater
  · rcases List.suffix_cons_iff.1 hlater with heq | hlater
    · simp at heq
    · exact hlater
  · have hwatched := (h.tried _ _ hping).pinged target g request rfl
    rcases List.suffix_cons_iff.1 hlater with heq | hlater
    · simp at heq
    · refine absurd (hlater.mem ?_) (hwatched.2 node .unresponsive)
      exact List.mem_cons_of_mem _ List.mem_cons_self

end Spending

namespace Detector

theorem LossSequel.attempts {reconnect : Bool} {label : Aside} {node : Node} {lost : Generation}
    {e : Event} (h : LossSequel node lost reconnect label e) : e.attempts = false := by
  cases h <;> rfl

private theorem attempts_of_settles {e : Event} (h : e.settles = true) : e.attempts = false := by
  cases e <;> first | rfl | simp [Event.settles] at h

theorem Burst.spending {d e : Detector} {label : Aside} {new : List Event}
    (burst : d.Burst e label new) (hd : d.Enrolled)
    (hbudget : d.Budgeted none)
    (h : Spending d.settings.retries d.settings.timeoutDuration d.past) :
    Spending d.settings.retries d.settings.timeoutDuration (new ++ d.past) := by
  have hwatched {w : Worker} {c : Cycle} (current : d.currentCycle? w = some c) :
      Watched d.past w.generation :=
    hd.watched_iff.2 ⟨c, (currentCycle?_eq_some current).1, (currentCycle?_eq_some current).2.2⟩
  have hcount {w : Worker} {c : Cycle} (current : d.currentCycle? w = some c) :
      c.failures = failedInARow w.generation d.past ∧ c.failures < d.settings.retries := by
    obtain ⟨hc, -, hg⟩ := currentCycle?_eq_some current
    exact hg ▸ hbudget c hc (by simp)
  cases burst with
  | silent => exact h
  | tell | hand | hear => exact h.plain rfl
  | reconcile nodes left hinstalls =>
    exact h.plainAll fun e he => attempts_of_settles (settles_of_mem_reconcile hinstalls he)
  | stop => exact h.plainAll fun e he => attempts_of_settles (settles_of_mem_stop he)
  | send version member idle current => exact h.ping (hwatched current)
  | abandon => exact h.plain rfl
  | @outlive w outcome member superseded =>
    cases outcome with
    | done => exact h.plain rfl
    | failed error =>
      apply h.failed
      intro hlast
      obtain ⟨c, hc, hg⟩ := hd.watched hlast.2.1
      exact currentCycle?_eq_none superseded c hc (congrArg Node.id (hd.entry_node member hc hg)) hg
  | acknowledge => exact h.plain rfl
  | retry member current counted left =>
    apply h.failed
    intro hlast
    have hfailures := (hcount current).1
    have hretries := hlast.2.2
    omega
  | exhaust taken member current counted spent =>
    refine h.exhaust ⟨counted, hwatched current, ?_⟩
    obtain ⟨hfailures, hbelow⟩ := hcount current
    omega
  | breakOff member current lost sequel =>
    refine Spending.plain (Spending.plain (h.failed fun hlast => ?_) rfl) sequel.attempts
    exact absurd (lost.symm.trans hlast.1) (by decide)
  | disconnect member named sequel => exact (h.plain rfl).plain sequel.attempts
  | regain => exact h.plain rfl
  | takeOn => exact (h.plain rfl).plain rfl
  | fail => exact (h.plain rfl).plain rfl

end Detector

theorem DetectionSettings.retries_pos_of_validate {settings : DetectionSettings}
    (h : settings.validate = .ok ()) : 0 < settings.retries := by
  unfold validate at h
  split at h
  · simp at h
  · split at h
    · simp at h
    · split at h
      · simp at h
      · omega

namespace Station

theorem Reachable.spending {s : Station} (h : s.Reachable)
    (hretries : 0 < s.detector.settings.retries) :
    s.detector.Budgeted none ∧
      Spending s.detector.settings.retries s.detector.settings.timeoutDuration s.past := by
  refine (h.keepBursts (P := fun d _ => 0 < d.settings.retries → d.Budgeted none ∧
    Spending d.settings.retries d.settings.timeoutDuration d.past)
    (fun self cluster settings _ => ⟨Detector.start_budgeted self cluster settings, .nil⟩)
    ?_) hretries
  rintro lives aside d e label new - - hspending turn grows - hpos
  have hd := grows.enrolled
  rw [grows.settings] at hpos ⊢
  obtain ⟨hbudget, hspending⟩ := hspending hpos
  rw [grows.past]
  exact ⟨turn.budgeted hd hpos hbudget, grows.burst.spending hd hbudget hspending⟩

/-- Attempts are counted, and nodes given up, as the number of attempts allowed demands. -/
structure HonoursBudget (s : Station) : Prop where
  /-- An entry counts the failures in a row of its cycle, and there is room for one more. -/
  counted : ∀ c ∈ s.detector.monitored.entries,
    c.failures = failedInARow c.generation s.past ∧ c.failures < s.detector.settings.retries ∧
      (s.detector.settings.retries < UInt32.size → c.failures + 1 < UInt32.size)
  /-- The failure that uses up the attempts of a cycle ends it and is reported at once. -/
  reported : ∀ id g error before, .answered id g (.failed error) :: before <:+ s.past →
    LastAttempt s.detector.settings.retries g error before →
    ∃ node taken, node.id = id ∧
      .reported node g (.unresponsive s.detector.settings.retries
          s.detector.settings.timeoutDuration) taken ::
        .removed node g .unresponsive :: .answered id g (.failed error) :: before <:+ s.past
  /-- A report is a failure that is submitted to the listeners. -/
  submitted : s.ReportsSubmitted
  /-- No other failure is reported so, and the cycle is gone and has sent no ping since. -/
  spent : ∀ node g attempts limit taken earlier,
    .reported node g (.unresponsive attempts limit) taken :: earlier <:+ s.past →
    attempts = s.detector.settings.retries ∧ limit = s.detector.settings.timeoutDuration ∧
    (∃ error before,
      earlier = .removed node g .unresponsive :: .answered node.id g (.failed error) :: before ∧
      LastAttempt s.detector.settings.retries g error before) ∧
    (∀ c ∈ s.detector.monitored.entries, c.generation ≠ g) ∧
    ∀ target request before, .pinged target g request :: before <:+ s.past →
      .pinged target g request :: before <:+ earlier

/-- Under settings that are accepted, the count of an entry is the number of failures in a row
of its cycle, and the node is reported exactly at the failure that uses up its attempts. -/
theorem Reachable.honours_budget {s : Station} (h : s.Reachable)
    (hvalid : s.detector.settings.validate = .ok ()) : s.HonoursBudget := by
  obtain ⟨hbudget, hspending⟩ := h.spending (DetectionSettings.retries_pos_of_validate hvalid)
  refine ⟨fun c hc => ?_, fun id g error before hsuffix hlast => ?_, h.reports_submitted, ?_⟩
  · obtain ⟨hcount, hbelow⟩ := hbudget c hc (by simp)
    exact ⟨hcount, hbelow, fun hsize => by omega⟩
  · exact hspending.reported_of_last h.consequent hsuffix hlast
  · intro node g attempts limit taken earlier hsuffix
    obtain ⟨hattempts, hlimit, error, before, rfl, hlast⟩ :=
      (hspending.tried _ _ hsuffix).spent node g attempts limit taken rfl
    refine ⟨hattempts, hlimit, ⟨error, before, rfl, hlast⟩, fun c hc hg => ?_,
      fun target request before hping => hspending.pinged_before_report hsuffix hping⟩
    subst hg
    refine h.enrolled.present c hc node .unresponsive (hsuffix.mem ?_)
    exact List.mem_cons_of_mem _ List.mem_cons_self

/-- The peer has refused two pings, which is as many as it may. -/
def twiceRefused : Station :=
  Trial.after { DetectionSettings.standard with retries := 2 }
    (Link.ideal.setReply Trial.peer.id (.after 0 (.failed (.remote Trial.peer.id "busy")))) [
      .reconcile Trial.together, .run true (.worker ⟨1⟩), .run true (.worker ⟨1⟩),
      .run true (.worker ⟨1⟩), .run true (.worker ⟨1⟩), .run true (.worker ⟨1⟩),
      .run true (.worker ⟨1⟩)] (by decide)

theorem honours_budget_twice_refused :
    (∃ earlier, .reported Trial.peer ⟨1⟩ (.unresponsive 2 (.ofMillis 30000)) true :: earlier <:+
        twiceRefused.past) ∧
      twiceRefused.submitted = [.nodeFailed Trial.peer (.unresponsive 2 (.ofMillis 30000))] ∧
      twiceRefused.HonoursBudget := by
  refine ⟨⟨twiceRefused.past.tail, by decide⟩, by decide, ?_⟩
  exact Reachable.honours_budget (Trial.reachable (by decide)) (by decide)

end Station

end ClusterWatch
