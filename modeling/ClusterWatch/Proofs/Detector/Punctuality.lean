import ClusterWatch.Proofs.Detector.Gates
import ClusterWatch.Proofs.Detector.InTime
import ClusterWatch.Proofs.Detector.Listening
import ClusterWatch.Proofs.Detector.News
import ClusterWatch.Proofs.Detector.RetryBudget

/-!
Punctual runs. A run is punctual if time passes only where nothing is left to do, and never beyond
what is awaited next. On such a run cycles keep to their timetables: what has become of a cycle that
nobody else has ended is the beginning of its timetable, up to the present moment.
-/
namespace ClusterWatch

open Detector Past

namespace Timetable

/-- The answer to the ping that is under way comes at this very moment. -/
def AnswersAt (t : Timetable) (k now : Nat) : Prop :=
  ∃ j sent failures delay outcome, k = j + 1 ∧ t.beat? j = some (.ping sent failures) ∧
    t.replies j = .after delay outcome ∧ now = sent + delay

variable {t : Timetable} {now failures j sent : Nat} {flight : Flight}

theorem le_time_sequel (t : Timetable) (ended failures : Nat) (verdict : Verdict) :
    ended ≤ (t.sequel ended failures verdict).time := by
  cases verdict with
  | acknowledged => exact Nat.le_add_right _ _
  | failed =>
    show ended ≤ (if failures + 1 = t.settings.retries then Beat.report ended
      else .ping ended (failures + 1)).time
    split <;> exact Nat.le_refl _
  | lost => exact Nat.le_refl _

/-- The next beat is not late. -/
theorem OnTime.le_time {k : Nat} {stage : Stage} {b : Beat} (h : t.OnTime now k failures stage)
    (hbeat : t.beat? k = some b) : now ≤ b.time := by
  cases stage with
  | ready | queued =>
    obtain rfl := Option.some.inj (hbeat.symm.trans h)
    exact Nat.le_refl _
  | pinging gate flight =>
    obtain ⟨j, sent, rfl, hawaits⟩ := h
    obtain rfl := Option.some.inj (hbeat.symm.trans (beat?_succ hawaits.beat))
    exact Nat.le_trans hawaits.due (le_time_sequel t _ _ _)
  | resting wake =>
    obtain rfl := Option.some.inj (hbeat.symm.trans h.1)
    exact h.2
  | connecting flight => exact h.elim

/-- What has not come out yet is not over, unless its answer comes at this very moment. -/
theorem Awaits.ahead (h : t.Awaits now failures j flight sent)
    (bears : flight.Bears (t.replies j) sent now) (under : flight.outcome? now = none) :
    now < sent + t.settings.span (t.replies j) ∨ t.AnswersAt (j + 1) now := by
  obtain ⟨hbeat, ⟨error, hlimit, -⟩, -⟩ := h
  have hlanding : flight.landing.filter (·.1 ≤ now) = none := by
    cases hfiltered : flight.landing.filter (·.1 ≤ now) with
    | none => rfl
    | some landed => simp [Flight.outcome?, hfiltered] at under
  have hgivenUp : now < sent + t.settings.timeout := by
    simpa [Flight.outcome?, hlanding, hlimit] using under
  cases hreply : t.replies j with
  | never => exact Or.inl hgivenUp
  | after delay outcome =>
    rw [hreply] at bears
    have hanswer : now ≤ sent + delay := by
      rcases bears with hsome | ⟨-, hle⟩
      · rw [hsome, Option.filter_some] at hlanding
        have hnot : ¬ sent + delay ≤ now := by simpa using hlanding
        omega
      · exact hle
    rcases Nat.lt_or_eq_of_le hanswer with hlt | heq
    · left
      simp only [DetectionSettings.span]
      omega
    · exact Or.inr ⟨j, sent, failures, delay, outcome, rfl, hbeat, hreply, heq⟩

end Timetable

def Action.elapses? : Action → Option Nat
  | .elapse time => some time
  | _ => none

namespace Station

variable {s t : Station} {g : Generation} {replies : Nat → Reply}

/-- Time passes only where nothing can go on, and stops at whatever is awaited next. -/
def Timely (s : Station) (action : Action) : Prop :=
  ∀ time ∈ action.elapses?, s.Quiet ∧ ∀ wake ∈ s.wakeTimes, s.now + time ≤ wake

instance (s : Station) : Decidable s.Quiet := decidable_of_iff _ quiet_iff.symm

instance (s : Station) (action : Action) : Decidable (s.Timely action) :=
  inferInstanceAs (Decidable (∀ time ∈ action.elapses?, _))

/-- Every action is timely when its turn comes, and the pings of the cycle are answered as it is
laid down for them. -/
def RunsInTime (g : Generation) (replies : Nat → Reply) (s : Station) : List Action → Prop
  | [] => True
  | action :: rest => s.Timely action ∧
      ∀ t ∈ s.act action, t.detector.Heard g replies ∧ RunsInTime g replies t rest

instance decidableRunsInTime (g : Generation) (replies : Nat → Reply) :
    (s : Station) → (actions : List Action) → Decidable (s.RunsInTime g replies actions)
  | _, [] => isTrue trivial
  | s, action :: rest =>
      have (t : Station) : Decidable (t.RunsInTime g replies rest) :=
        decidableRunsInTime g replies t rest
      inferInstanceAs (Decidable (s.Timely action ∧ ∀ t ∈ s.act action, _))

/-- Some punctual run leads to the station from a start. -/
def Punctual (g : Generation) (replies : Nat → Reply) (s : Station) : Prop :=
  ∃ self cluster settings initial link actions,
    (start self cluster settings initial link).acts actions = some s ∧
      (start self cluster settings initial link).RunsInTime g replies actions

theorem Punctual.reachable (h : s.Punctual g replies) : s.Reachable := by
  obtain ⟨self, cluster, settings, initial, link, actions, hacts, -⟩ := h
  exact ⟨self, cluster, settings, initial, link, actions, hacts⟩

section Quiet

variable {w : Worker} {c : Cycle} {gate : Nat}

/-- Where nothing can go on, nobody who drives an entry is about to ping. -/
theorem Reachable.not_ready_of_quiet (h : s.Reachable) (alive : s.alive = true) (quiet : s.Quiet)
    (hw : w ∈ s.detector.workers) (hc : c ∈ s.detector.monitored.entries)
    (hg : c.generation = w.generation) : w.stage ≠ .ready ∧ ∀ gate, w.stage ≠ .queued gate := by
  obtain ⟨hd, hattendance⟩ := h.attended alive
  have hidle : s.runWorker true w = none := (run_worker hd true hw).symm.trans (quiet true _)
  refine ⟨fun hstage => by simp [runWorker, hstage] at hidle, fun gate hstage => ?_⟩
  -- Whoever holds the gate pings the same node, and not for this entry: it has been told to stop.
  have hfree : s.detector.gateHeld gate = false := by
    cases hheld : s.detector.gateHeld gate with
    | false => rfl
    | true =>
      have hmine : w ∈ s.detector.workersOf w.node.id := mem_workersOf.2 ⟨hw, rfl⟩
      rw [gateHeld_eq_busy h.gated h.gatesApart hmine hstage] at hheld
      obtain ⟨v, hv, hvheld⟩ := busy_iff.1 hheld
      obtain ⟨hv, hnode⟩ := mem_workersOf.1 hv
      have hretired : v.retired = true := by
        refine (hattendance.told v hv).2 fun b hb hbg => ?_
        have hbnode : b.node.id = c.node.id := by
          rw [hd.entry_node hv hb hbg, hd.entry_node hw hc hg, hnode]
        have hbc : b = c := Table.eq_of_key_eq hb hc (congrArg NodeId.text hbnode)
        have hvw : v = w := hd.worker_unique hv hw (hbg.symm.trans (hbc ▸ hg))
        rw [hvw] at hvheld
        simp [Worker.held?, hstage] at hvheld
      simp [held?_of_quiet hd quiet hv hretired] at hvheld
  cases hretired : w.retired <;> cases hcurrent : s.detector.currentCycle? w <;>
    simp [runWorker, hstage, hretired, hfree, hcurrent] at hidle

/-- Where nothing can go on, a flight has not come out. -/
theorem outcome?_of_quiet (hd : s.detector.Enrolled) (quiet : s.Quiet)
    (hw : w ∈ s.detector.workers) {flight : Flight} (hstage : w.stage = .pinging gate flight) :
    flight.outcome? s.now = none := by
  have hidle : s.runWorker false w = none := (run_worker hd false hw).symm.trans (quiet false _)
  cases hout : flight.outcome? s.now with
  | none => rfl
  | some outcome => simp [runWorker, hstage, hout] at hidle

theorem lt_of_quiet (hd : s.detector.Enrolled) (quiet : s.Quiet) (hw : w ∈ s.detector.workers)
    {wake : Nat} (hstage : w.stage = .resting wake) : s.now < wake := by
  have hidle : s.runWorker false w = none := (run_worker hd false hw).symm.trans (quiet false _)
  by_contra hpast
  cases hretired : w.retired <;> simp [runWorker, hstage, hretired, hpast] at hidle

end Quiet

/-- The passing of time up to what is awaited next leaves the cycle in step with its timetable. -/
theorem elapse_course {time : Nat} (h : s.Reachable) (alive : s.alive = true) (quiet : s.Quiet)
    (timely : ∀ wake ∈ s.wakeTimes, s.now + time ≤ wake)
    (heard : (s.elapse time).detector.Heard g replies) (hcourse : s.detector.Course g replies) :
    (s.elapse time).detector.Course g replies := by
  refine ⟨hcourse.unborn, fun node begun hbegun hends => ?_⟩
  obtain ⟨k, hkept⟩ := hcourse.kept node begun hbegun hends
  refine ⟨k, hkept.settings, hkept.deeds, fun i hi => ?_, fun w hw hwg c hc hcg => ?_, hkept.off⟩
  · obtain ⟨b, hbeat, htime⟩ := hkept.come i hi
    exact ⟨b, hbeat, Nat.le_trans htime (Nat.le_add_right _ _)⟩
  · have hon := hkept.on w hw hwg c hc hcg
    have hwakes : ∀ wake ∈ w.wakeTimes, s.now + time ≤ wake := fun wake hwake =>
      timely wake (List.mem_append_left _ (List.mem_append_left _
        (List.mem_flatMap.2 ⟨w, hw, hwake⟩)))
    have hactive := h.not_ready_of_quiet alive quiet hw hc (hcg.trans hwg.symm)
    cases hstage : w.stage with
    | ready => exact absurd hstage hactive.1
    | queued gate => exact absurd hstage (hactive.2 gate)
    | pinging gate flight =>
      rw [hstage] at hon
      obtain ⟨j, sent, rfl, hawaits⟩ := hon
      have hbears := heard.bears (t := ⟨node, s.detector.settings, begun, replies⟩) hkept.deeds
        hawaits.beat hw hwg hstage
      rw [Worker.wakeTimes, hstage] at hwakes
      exact ⟨j, sent, rfl, hawaits.later hbears hwakes⟩
    | resting wake =>
      rw [hstage] at hon
      rw [Worker.wakeTimes, hstage] at hwakes
      exact ⟨hon.1, hwakes wake List.mem_cons_self⟩
    | connecting flight =>
      rw [hstage] at hon
      exact hon.elim

theorem act_course {action : Action} (h : s.Reachable) (hact : s.act action = some t)
    (alive : t.alive = true) (timely : s.Timely action) (hretries : 0 < s.detector.settings.retries)
    (apart : ∀ i outcome, replies i ≠ .after s.detector.settings.timeout outcome)
    (heard : s.detector.Heard g replies) (heard' : t.detector.Heard g replies)
    (hcourse : s.detector.Course g replies) : t.detector.Course g replies := by
  have halive : s.alive = true := alive_of_act hact alive
  by_cases hstill : ∀ time, action ≠ .elapse time
  · obtain ⟨d, ⟨aside, turn⟩, hnow, informs⟩ := act_moment h.permitted hact hstill
    rw [alive] at turn
    have hturned := turn.course hnow (h.attended halive) hretries apart heard hcourse
    exact hturned.spared informs.spared
  · simp only [not_forall, not_not] at hstill
    obtain ⟨time, rfl⟩ := hstill
    obtain rfl := Option.some.inj hact
    obtain ⟨quiet, hwakes⟩ := timely time rfl
    exact elapse_course h halive quiet hwakes heard' hcourse

/-- What holds of the cycle at the start holds wherever a punctual run may lead. -/
theorem acts_course {actions : List Action} (h : s.Reachable) (hacts : s.acts actions = some t)
    (alive : t.alive = true) (inTime : s.RunsInTime g replies actions)
    (hretries : 0 < s.detector.settings.retries)
    (apart : ∀ i outcome, replies i ≠ .after s.detector.settings.timeout outcome)
    (heard : s.detector.Heard g replies) (hcourse : s.detector.Course g replies) :
    t.detector.Heard g replies ∧ t.detector.Course g replies := by
  induction actions generalizing s with
  | nil =>
    obtain rfl := Option.some.inj hacts
    exact ⟨heard, hcourse⟩
  | cons action rest ih =>
    obtain ⟨u, hact, hrest⟩ := Option.bind_eq_some_iff.1 hacts
    obtain ⟨timely, hnext⟩ := inTime
    obtain ⟨heard', inTime'⟩ := hnext u hact
    have hsettings : u.detector.settings = s.detector.settings :=
      (act_continues h.permitted hact).settings
    have hu :=
      act_course h hact (alive_of_acts hrest alive) timely hretries apart heard heard' hcourse
    exact ih (h.act hact) hrest inTime' (hsettings ▸ hretries) (hsettings ▸ apart) heard' hu

theorem start_course (self : Node) (cluster : ClusterName) (settings : DetectionSettings) :
    (Detector.start self cluster settings).Course g replies :=
  ⟨fun _ => rfl, fun _ _ hbegun => by simp [Detector.start] at hbegun⟩

theorem Punctual.course (h : s.Punctual g replies) (alive : s.alive = true)
    (hretries : 0 < s.detector.settings.retries)
    (apart : ∀ i outcome, replies i ≠ .after s.detector.settings.timeout outcome) :
    s.detector.Heard g replies ∧ s.detector.Course g replies := by
  obtain ⟨self, cluster, settings, initial, link, actions, hacts, inTime⟩ := h
  have hsettings : s.detector.settings = settings :=
    (acts_continues (start_permitted self cluster settings initial link) hacts).settings
  rw [hsettings] at hretries apart
  refine acts_course ⟨self, cluster, settings, initial, link, [], rfl⟩ hacts alive inTime hretries
    apart (fun w hw => by simp [start, Detector.start] at hw) (start_course self cluster settings)

/-- The next beat is not late, and where nothing can go on it is ahead, unless the answer that
decides on it comes at this very moment. -/
theorem Reachable.next_beat (h : s.Reachable) (alive : s.alive = true) {tt : Timetable} {k : Nat}
    (heard : s.detector.Heard g tt.replies) (hkept : tt.Kept g k s.detector) {b : Beat}
    (hbeat : tt.beat? k = some b) :
    s.now ≤ b.time ∧ (s.Quiet → s.now < b.time ∨ tt.AnswersAt k s.now) := by
  obtain ⟨hd, hattendance⟩ := h.attended alive
  by_cases hnone : Unregistered s.detector.monitored g
  · rw [hkept.off hnone] at hbeat
    cases hbeat
  simp only [Unregistered, not_forall, not_not] at hnone
  obtain ⟨c, hc, hcg⟩ := hnone
  obtain ⟨w, hw, hwc⟩ := hattendance.driven c hc
  have hwg : w.generation = g := hwc.trans hcg
  have hon := hkept.on w hw hwg c hc hcg
  refine ⟨hon.le_time hbeat, fun quiet => ?_⟩
  have hactive := h.not_ready_of_quiet alive quiet hw hc hwc.symm
  cases hstage : w.stage with
  | ready => exact absurd hstage hactive.1
  | queued gate => exact absurd hstage (hactive.2 gate)
  | pinging gate flight =>
    rw [hstage] at hon
    obtain ⟨j, sent, rfl, hawaits⟩ := hon
    have hbears := heard.bears hkept.deeds hawaits.beat hw hwg hstage
    obtain rfl := Option.some.inj (hbeat.symm.trans (Timetable.beat?_succ hawaits.beat))
    rcases hawaits.ahead hbears (outcome?_of_quiet hd quiet hw hstage) with hahead | hanswer
    · exact Or.inl (Nat.lt_of_lt_of_le hahead (Timetable.le_time_sequel tt _ _ _))
    · exact Or.inr hanswer
  | resting wake =>
    rw [hstage] at hon
    obtain rfl := Option.some.inj (hbeat.symm.trans hon.1)
    exact Or.inl (lt_of_quiet hd quiet hw hstage)
  | connecting flight =>
    rw [hstage] at hon
    exact hon.elim

/-- What has become of the cycle is the beginning of its timetable, up to the present moment. -/
structure KeepsTime (s : Station) (g : Generation) (t : Timetable) : Prop where
  /-- The first `k` beats are done, and the next one is not late. Where nothing can go on, it has
  not come yet, unless the answer that decides on it comes at this very moment. -/
  course : ∃ k, s.detector.history.deeds g = t.course k ∧
    (∀ i < k, ∃ b, t.beat? i = some b ∧ b.time ≤ s.now) ∧
    ∀ b, t.beat? k = some b → s.now ≤ b.time ∧ (s.Quiet → s.now < b.time ∨ t.AnswersAt k s.now)
  /-- A report is a failure that is submitted to the listeners; it is taken unless the bulletin has
  been shut. -/
  submitted : s.ReportsSubmitted
  taken : ∀ time node attempts limit,
    (time, .reports node attempts limit) ∈ s.detector.history.deeds g →
      s.detector.bulletin.shut = false →
      .nodeFailed node (.unresponsive attempts limit) ∈ s.submitted
  /-- A node that never answers is pinged as often as is allowed, whenever an attempt is given up,
  and is reported when the last one is. -/
  silent : (∀ i, t.replies i = .never) →
    (t.begun + t.settings.retries * t.settings.timeout < s.now ∨
      s.Quiet ∧ t.begun + t.settings.retries * t.settings.timeout ≤ s.now) →
    s.detector.history.deeds g =
      (List.range t.settings.retries).map
          (fun i => (t.begun + i * t.settings.timeout, .pings t.node)) ++
        [(t.begun + t.settings.retries * t.settings.timeout, .ends t.node .unresponsive),
          (t.begun + t.settings.retries * t.settings.timeout,
            .reports t.node t.settings.retries t.settings.timeoutDuration)]

/-- A cycle that nobody else ends keeps to its timetable. -/
theorem Punctual.keeps_time (h : s.Punctual g replies) (alive : s.alive = true)
    (valid : s.detector.settings.validate = .ok ()) {node : Node} {begun : Nat}
    (installed : (begun, .installed node g) ∈ s.detector.history)
    (unremoved : s.past.EndsItself g)
    (apart : ∀ i outcome, replies i ≠ .after s.detector.settings.timeout outcome) :
    s.KeepsTime g ⟨node, s.detector.settings, begun, replies⟩ := by
  have hretries := DetectionSettings.retries_pos_of_validate valid
  obtain ⟨heard, hcourse⟩ := h.course alive hretries apart
  obtain ⟨k, hkept⟩ := hcourse.kept node begun installed unremoved
  have hnext (b : Beat) := h.reachable.next_beat alive heard hkept (b := b)
  have hsubmitted := h.reachable.reports_submitted
  refine ⟨⟨k, hkept.deeds, hkept.come, hnext⟩, hsubmitted, fun time n attempts limit hdeed isOpen => ?_,
    fun silent passed => ?_⟩
  · obtain ⟨taken, hreported⟩ := History.reported_of_mem_deeds hdeed
    exact hsubmitted.mem_submitted isOpen hreported
  have hlast := Timetable.beat?_retries_of_silent silent hretries
  have hk : k = s.detector.settings.retries + 1 := by
    refine Nat.le_antisymm (Nat.not_lt.1 fun hmore => ?_) (Nat.not_le.1 fun hless => ?_)
    · obtain ⟨b, hbeat, -⟩ := hkept.come _ hmore
      rw [Timetable.beat?_succ_of_end hlast (by simp)] at hbeat
      cases hbeat
    · obtain ⟨b, hbeat⟩ := Timetable.exists_beat_of_silent silent hretries hless
      have hb := Timetable.time_le_of_silent silent hretries hless hbeat
      obtain ⟨hnow, hahead⟩ := hnext b hbeat
      rcases passed with passed | ⟨quiet, passed⟩
      · exact Nat.lt_irrefl _ (Nat.lt_of_lt_of_le passed (Nat.le_trans hnow hb))
      · rcases hahead quiet with hlt | ⟨j, _, _, _, _, -, -, hreply, -⟩
        · exact Nat.lt_irrefl _ (Nat.lt_of_le_of_lt passed (Nat.lt_of_lt_of_le hlt hb))
        · cases hreply.symm.trans (silent j)
  rw [hkept.deeds, hk, Timetable.course_succ hlast,
    Timetable.course_of_silent silent (Nat.le_refl _)]
  rfl

/-- Two attempts are allowed, of 300 milliseconds each. -/
def hasty : DetectionSettings := { DetectionSettings.standard with timeout := 300, retries := 2 }

/-- Only the second ping of the peer is answered. -/
def onlySecond (i : Nat) : Reply := if i = 1 then .after 20 .done else .never

def timedActions : List Action :=
  [.reconcile Trial.together, .run true (.worker ⟨1⟩), .run true (.worker ⟨1⟩), .elapse 300,
    .run true (.worker ⟨1⟩), .run true (.worker ⟨1⟩), .run true (.worker ⟨1⟩), .elapse 20,
    .run true (.worker ⟨1⟩), .elapse 1000, .run true (.worker ⟨1⟩), .run true (.worker ⟨1⟩),
    .run true (.worker ⟨1⟩), .elapse 300, .run true (.worker ⟨1⟩), .run true (.worker ⟨1⟩),
    .run true (.worker ⟨1⟩), .elapse 300, .run true (.worker ⟨1⟩)]

def answeredOnce : Station :=
  Trial.after hasty (Link.silent.setScript Trial.peer.id [.never, .after 20 .done]) timedActions
    (by decide)

theorem keeps_time_answered_once :
    answeredOnce.Punctual ⟨1⟩ onlySecond ∧ answeredOnce.alive = true ∧
      hasty.validate = .ok () ∧ (0, .installed Trial.peer ⟨1⟩) ∈ answeredOnce.detector.history ∧
      answeredOnce.past.EndsItself ⟨1⟩ ∧ (∀ i outcome, onlySecond i ≠ .after 300 outcome) ∧
      answeredOnce.detector.history.deeds ⟨1⟩ =
        [(0, .pings Trial.peer), (300, .pings Trial.peer), (1320, .pings Trial.peer),
          (1620, .pings Trial.peer), (1920, .ends Trial.peer .unresponsive),
          (1920, .reports Trial.peer 2 (.ofMillis 300))] ∧
      answeredOnce.submitted = [.nodeFailed Trial.peer (.unresponsive 2 (.ofMillis 300))] ∧
      answeredOnce.KeepsTime ⟨1⟩ ⟨Trial.peer, hasty, 0, onlySecond⟩ := by
  have punctual : answeredOnce.Punctual ⟨1⟩ onlySecond :=
    ⟨_, _, _, _, _, timedActions, Trial.acts_after (by decide), by decide⟩
  have apart (i : Nat) (outcome : Outcome) : onlySecond i ≠ .after 300 outcome := by
    unfold onlySecond
    split <;> simp
  exact ⟨punctual, by decide, rfl, by decide, by decide, apart, by decide, by decide,
    punctual.keeps_time (by decide) rfl (by decide) (by decide) apart⟩

end Station

end ClusterWatch
