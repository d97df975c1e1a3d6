import ClusterWatch.Proofs.Detector.Attendance
import ClusterWatch.Proofs.Detector.Timetable

/-!
Keeping to a timetable. A cycle keeps to its timetable as long as the beats that are over are all
that the history tells of it, and its worker is where the next beat will find it in time. Nobody who
deals with other cycles, with gates or with the news disturbs this.
-/
namespace ClusterWatch

open Detector Past

/-- A cycle that ends so has not been ended by anybody else. -/
def Removal.own : Removal → Bool
  | .unresponsive => true
  | .lostByPing => true
  | _ => false

/-- Somebody else has ended the cycle. -/
def Event.cutsShort (g : Generation) : Event → Bool
  | .removed _ h cause => h = g && !cause.own
  | _ => false

/-- The event is no deed of the cycle and does not begin it. -/
def Event.Aloof (g : Generation) (e : Event) : Prop :=
  e.deed? g = none ∧ ∀ node, e ≠ .installed node g

/-- What is under way was sent at that time and comes out as the reply says; an answer that has not
come in yet is not late. -/
def Flight.Bears (flight : Flight) (reply : Reply) (sent now : Nat) : Prop :=
  match reply with
  | .never => flight.landing = none
  | .after delay outcome =>
      flight.landing = some (sent + delay, outcome) ∨
        (flight.landing = none ∧ now ≤ sent + delay)

instance (flight : Flight) (reply : Reply) (sent now : Nat) :
    Decidable (flight.Bears reply sent now) :=
  match reply with
  | .never => inferInstanceAs (Decidable (_ = _))
  | .after _ _ => inferInstanceAs (Decidable (_ ∨ _))

def Stage.Bears (stage : Stage) (reply : Reply) (sent now : Nat) : Prop :=
  match stage with
  | .pinging _ flight => flight.Bears reply sent now
  | _ => True

instance (stage : Stage) (reply : Reply) (sent now : Nat) :
    Decidable (stage.Bears reply sent now) :=
  match stage with
  | .pinging _ flight => inferInstanceAs (Decidable (flight.Bears reply sent now))
  | .ready | .queued _ | .resting _ | .connecting _ => inferInstanceAs (Decidable True)

/-- The last ping of the cycle, if it is under way, is answered as is laid down for it. -/
def Detector.Heard (d : Detector) (g : Generation) (replies : Nat → Reply) : Prop :=
  ∀ w ∈ d.workers, w.generation = g → ∀ sent ∈ (d.history.pingTimes g).getLast?,
    w.stage.Bears (replies ((d.history.pingTimes g).length - 1)) sent d.now

instance (d : Detector) (g : Generation) (replies : Nat → Reply) : Decidable (d.Heard g replies) :=
  inferInstanceAs (Decidable (∀ w ∈ d.workers, _))

namespace Timetable

/-- The flight is that of the ping of beat `j`, and it is not overdue. -/
structure Awaits (t : Timetable) (now failures j : Nat) (flight : Flight) (sent : Nat) : Prop where
  beat : t.beat? j = some (.ping sent failures)
  limit : ∃ error, flight.limit = some (sent + t.settings.timeout, .failed error) ∧
    error.isDisconnect = false
  due : now ≤ sent + t.settings.span (t.replies j)

/-- The first `k` beats are done, and the worker is where the next one finds it in time. -/
def OnTime (t : Timetable) (now k failures : Nat) : Stage → Prop
  | .ready => t.beat? k = some (.ping now failures)
  | .queued _ => t.beat? k = some (.ping now failures)
  | .pinging _ flight => ∃ j sent, k = j + 1 ∧ t.Awaits now failures j flight sent
  | .resting wake => t.beat? k = some (.ping wake failures) ∧ now ≤ wake
  | .connecting _ => False

variable {t : Timetable} {now failures k j sent : Nat} {flight : Flight}

/-- An attempt comes out at the time and with the verdict that the timetable reckons with. -/
theorem Awaits.comes_out {outcome : Outcome} (h : t.Awaits now failures j flight sent)
    (bears : flight.Bears (t.replies j) sent now)
    (apart : ∀ outcome, t.replies j ≠ .after t.settings.timeout outcome)
    (due : flight.outcome? now = some outcome) :
    now = sent + t.settings.span (t.replies j) ∧
      t.settings.verdict (t.replies j) = outcome.verdict := by
  obtain ⟨-, ⟨error, hlimit, hcounted⟩, hdue⟩ := h
  have hgivenUp (hlanding : flight.landing.filter (·.1 ≤ now) = none) :
      sent + t.settings.timeout ≤ now ∧ outcome.verdict = .failed := by
    have hcame : Outcome.failed error = outcome ∧ sent + t.settings.timeout ≤ now := by
      simpa [Flight.outcome?, hlanding, hlimit] using due
    obtain ⟨rfl, htime⟩ := hcame
    exact ⟨htime, by simp [Outcome.verdict, hcounted]⟩
  cases hreply : t.replies j with
  | never =>
    rw [hreply] at bears hdue
    have hlanding : flight.landing = none := bears
    obtain ⟨htime, hverdict⟩ := hgivenUp (by simp [hlanding])
    simp only [DetectionSettings.span] at hdue ⊢
    exact ⟨by omega, hverdict.symm⟩
  | after delay answer =>
    rw [hreply] at bears hdue
    have hapart : delay ≠ t.settings.timeout := fun heq => apart answer (heq ▸ hreply)
    simp only [DetectionSettings.span, DetectionSettings.verdict] at hdue ⊢
    by_cases hin : flight.landing = some (sent + delay, answer) ∧ sent + delay ≤ now
    · obtain ⟨hlanding, htime⟩ := hin
      have hanswer : answer = outcome := by
        simpa [Flight.outcome?, hlanding, Option.filter, htime] using due
      subst hanswer
      have hbefore : delay < t.settings.timeout := by omega
      rw [if_pos hbefore]
      exact ⟨by omega, rfl⟩
    · have hpast : flight.landing.filter (·.1 ≤ now) = none ∧
          (sent + t.settings.timeout ≤ now → t.settings.timeout ≤ delay) := by
        rcases bears with hlanding | ⟨hlanding, hnow⟩
        · have hnot : ¬ sent + delay ≤ now := fun htime => hin ⟨hlanding, htime⟩
          exact ⟨by simp [hlanding]; omega, by omega⟩
        · exact ⟨by simp [hlanding], by omega⟩
      obtain ⟨htime, hverdict⟩ := hgivenUp hpast.1
      have hafter := hpast.2 htime
      rw [if_neg (by omega), hverdict]
      exact ⟨by omega, rfl⟩

/-- A clock that stops at what is awaited does not pass the end of the attempt. -/
theorem Awaits.later {later : Nat} (h : t.Awaits now failures j flight sent)
    (bears : flight.Bears (t.replies j) sent later)
    (timely : ∀ wake ∈ flight.wakeTimes, later ≤ wake) : t.Awaits later failures j flight sent := by
  obtain ⟨error, hlimit, hcounted⟩ := h.limit
  refine ⟨h.beat, h.limit, ?_⟩
  have hgivenUp : later ≤ sent + t.settings.timeout :=
    timely _ (by simp [Flight.wakeTimes, hlimit])
  cases hreply : t.replies j with
  | never => exact hgivenUp
  | after delay answer =>
    rw [hreply] at bears
    have hanswer : later ≤ sent + delay := by
      rcases bears with hlanding | ⟨-, hnow⟩
      · exact timely _ (by simp [Flight.wakeTimes, hlanding])
      · exact hnow
    exact Nat.le_trans (Nat.le_min.2 ⟨by omega, by omega⟩)
      (Nat.le_of_eq (Nat.add_min_add_left sent delay t.settings.timeout))

end Timetable

namespace Detector

/-- Nothing has been done to the cycle: what there is of it was there before, nothing is told of it
and no time has passed. -/
structure Spared (g : Generation) (d e : Detector) : Prop where
  now : e.now = d.now
  settings : e.settings = d.settings
  history : ∃ new : History, e.history = new ++ d.history ∧ ∀ entry ∈ new, entry.2.Aloof g
  workers : ∀ w ∈ e.workers, w.generation = g →
    ∃ v ∈ d.workers, v.generation = g ∧ v.stage = w.stage
  entries : ∀ c ∈ e.monitored.entries, c.generation = g →
    ∃ b ∈ d.monitored.entries, b.generation = g ∧ b.failures = c.failures
  off : Unregistered e.monitored g → Unregistered d.monitored g

namespace Spared

variable {g h : Generation} {d e f : Detector}

theorem refl (g : Generation) (d : Detector) : Spared g d d where
  now := rfl
  settings := rfl
  history := ⟨[], rfl, by simp⟩
  workers w hw hg := ⟨w, hw, hg, rfl⟩
  entries c hc hg := ⟨c, hc, hg, rfl⟩
  off := id

theorem trans (hd : Spared g d e) (he : Spared g e f) : Spared g d f where
  now := he.now.trans hd.now
  settings := he.settings.trans hd.settings
  history := by
    obtain ⟨first, hfirst, haloof⟩ := hd.history
    obtain ⟨second, hsecond, haloof'⟩ := he.history
    refine ⟨second ++ first, by rw [hsecond, hfirst, List.append_assoc], fun entry hentry => ?_⟩
    rcases List.mem_append.1 hentry with hentry | hentry
    · exact haloof' entry hentry
    · exact haloof entry hentry
  workers w hw hg := by
    obtain ⟨v, hv, hvg, hstage⟩ := he.workers w hw hg
    obtain ⟨u, hu, hug, hstage'⟩ := hd.workers v hv hvg
    exact ⟨u, hu, hug, hstage'.trans hstage⟩
  entries c hc hg := by
    obtain ⟨b, hb, hbg, hfailures⟩ := he.entries c hc hg
    obtain ⟨a, ha, hag, hfailures'⟩ := hd.entries b hb hbg
    exact ⟨a, ha, hag, hfailures'.trans hfailures⟩
  off hnone := hd.off (he.off hnone)

/-- Gates, news and those who are told of them do not matter. -/
theorem aside (hd : Spared g d e) (gates : Table (String × Nat) Prod.fst) (made : Nat)
    (registry : Registry) (bulletin : Bulletin) :
    Spared g d { e with gates, gatesMade := made, registry, bulletin } :=
  ⟨hd.now, hd.settings, hd.history, hd.workers, hd.entries, hd.off⟩

theorem record (hd : Spared g d e) {event : Event} (haloof : event.Aloof g) :
    Spared g d (e.record event) :=
  hd.trans ⟨rfl, rfl, ⟨[(e.now, event)], rfl, by simpa using haloof⟩,
    (refl g e).workers, (refl g e).entries, id⟩

/-- Other workers may go on, and workers of the cycle may be told to stop. -/
theorem updateWorker (hd : Spared g d e) {change : Worker → Worker}
    (hsame : ∀ w, (change w).generation = w.generation)
    (hstage : h = g → ∀ w, (change w).stage = w.stage) : Spared g d (e.updateWorker h change) := by
  refine hd.trans ⟨rfl, rfl, (refl g e).history, fun w hw hg => ?_, (refl g e).entries, id⟩
  obtain ⟨v, hv, rfl⟩ := List.mem_map.1 hw
  split at hg
  next hvh =>
    have hvg : v.generation = g := (hsame v).symm.trans hg
    rw [if_pos hvh]
    exact ⟨v, hv, hvg, (hstage (hvh.symm.trans hvg) v).symm⟩
  next hvh =>
    rw [if_neg hvh]
    exact ⟨v, hv, hg, rfl⟩

theorem setStage (hd : Spared g d e) (hother : h ≠ g) (stage : Stage) :
    Spared g d (e.setStage h stage) :=
  hd.updateWorker (fun _ => rfl) fun heq => absurd heq hother

theorem leave (hd : Spared g d e) (alive : Bool) (w : Worker) : Spared g d (e.leave alive w) := by
  obtain ⟨gates, heq⟩ := e.leave_eq alive w
  rw [heq]
  refine hd.trans ⟨rfl, rfl, (refl g e).history, fun v hv hg => ?_, (refl g e).entries, id⟩
  exact ⟨v, (List.mem_filter.1 hv).1, hg, rfl⟩

/-- An entry of another cycle may change, but not its node. -/
theorem putCycle (hd : Spared g d e) {b c : Cycle} (hb : b ∈ e.monitored.entries)
    (hkey : c.key = b.key) (hbg : b.generation ≠ g) (hcg : c.generation ≠ g) :
    Spared g d (e.putCycle c) := by
  refine hd.trans ⟨rfl, rfl, (refl g e).history, (refl g e).workers, fun x hx hg => ?_,
    fun hnone x hx hg => ?_⟩
  · rcases Table.mem_insert.1 hx with rfl | ⟨hx, -⟩
    · exact absurd hg hcg
    · exact ⟨x, hx, hg, rfl⟩
  · refine hnone x (Table.mem_insert.2 (Or.inr ⟨hx, fun heq => ?_⟩)) hg
    rw [Table.eq_of_key_eq hx hb (heq.symm.trans hkey)] at hg
    exact hbg hg

theorem removeCycle (hd : Spared g d e) {c : Cycle} (hc : c ∈ e.monitored.entries)
    (hother : c.generation ≠ g) (cause : Removal) : Spared g d (e.removeCycle cause c) := by
  have herased : Spared g d { e with monitored := e.monitored.erase c.key } := by
    refine hd.trans ⟨rfl, rfl, (refl g e).history, (refl g e).workers, fun x hx hg => ?_,
      fun hnone x hx hg => ?_⟩
    · exact ⟨x, (Table.mem_erase.1 hx).1, hg, rfl⟩
    · refine hnone x (Table.mem_erase.2 ⟨hx, fun hkey => ?_⟩) hg
      rw [← Table.eq_of_key_eq hc hx hkey] at hg
      exact hother hg
  have haloof : (Event.removed c.node c.generation cause).Aloof g :=
    ⟨by simp [Event.deed?, hother], by simp⟩
  have hretired : Spared g d ({ e with monitored := e.monitored.erase c.key }.updateWorker
      c.generation fun w => { w with retired := true }) :=
    herased.updateWorker (fun _ => rfl) fun _ _ => rfl
  exact hretired.record haloof

theorem report (hd : Spared g d e) {node : Node} {reason : FailureReason}
    (haloof : ∀ taken, (Event.reported node h reason taken).Aloof g) :
    Spared g d (e.report node h reason) := by
  rw [report_eq]
  exact (hd.aside e.gates e.gatesMade e.registry _).record (haloof _)

theorem install (hd : Spared g d e) {node : Node} (hother : ⟨e.issued + 1⟩ ≠ g) :
    Spared g d (e.install node) := by
  rcases e.install_eq node with ⟨-, heq⟩ | ⟨hnew, heq⟩
  · rw [heq]
    exact hd
  rw [heq]
  refine Spared.record ?_ ⟨rfl, fun n hn => hother (Event.installed.inj hn).2⟩
  refine hd.trans ⟨rfl, rfl, (refl g e).history, fun w hw hg => ?_, fun x hx hg => ?_,
    fun hnone x hx => hnone x (Table.mem_insert.2
      (Or.inr ⟨hx, Table.key_ne_of_contains_eq_false hnew hx⟩))⟩
  · rcases List.mem_append.1 hw with hw | hw
    · exact ⟨w, hw, hg, rfl⟩
    · obtain rfl := List.mem_singleton.1 hw
      exact absurd hg hother
  · rcases Table.mem_insert.1 hx with rfl | ⟨hx, -⟩
    · exact absurd hg hother
    · exact ⟨x, hx, hg, rfl⟩

theorem lose (hd : Spared g d e) {c : Cycle} (hc : c ∈ e.monitored.entries)
    (hother : c.generation ≠ g) (cause : Removal) (node : Node) (lost : Generation) :
    Spared g d (e.lose cause c node lost) := by
  have hremoved := hd.removeCycle hc hother cause
  refine lose_keep (P := Spared g d) (hremoved.record ⟨rfl, by simp⟩) ?_
  exact hremoved.report fun taken => ⟨rfl, by simp⟩

end Spared

/-- Where the one worker of the cycle is, and what its one entry counts. -/
structure Stands (g : Generation) (e : Detector) (stage : Stage) (failures : Nat) : Prop where
  worker : ∀ w ∈ e.workers, w.generation = g → w.stage = stage
  entry : ∀ c ∈ e.monitored.entries, c.generation = g → c.failures = failures
  there : ¬ Unregistered e.monitored g

/-- The entry of a cycle has been put anew and its worker has moved. -/
theorem stands {d e f : Detector} (hd : d.Enrolled) {b c : Cycle} {g : Generation} {stage : Stage}
    {failures : Nat} (hb : b ∈ d.monitored.entries) (hbg : b.generation = g)
    (hmonitored : e.monitored = d.monitored.insert c)
    (hworkers : e.workers = (f.setStage g stage).workers) (hnode : c.node = b.node)
    (hcg : c.generation = g) (hfailures : c.failures = failures) : Stands g e stage failures := by
  constructor
  case worker =>
    intro w hw hwg
    rw [hworkers] at hw
    obtain ⟨v, hv, rfl⟩ := List.mem_map.1 hw
    split at hwg
    next hvg => simp [hvg]
    next hvg => exact absurd hwg hvg
  case entry =>
    intro x hx hxg
    rw [hmonitored] at hx
    rcases Table.mem_insert.1 hx with rfl | ⟨hx, hne⟩
    · exact hfailures
    · have hsame : b = x := hd.entry_unique hb hx (hbg.trans hxg.symm)
      exact absurd (congrArg Node.key (hnode.trans (congrArg Cycle.node hsame))) hne
  case there =>
    intro hnone
    rw [hmonitored] at hnone
    exact hnone c Table.mem_insert_self hcg

end Detector

/-- The first `k` beats of the cycle are done, each in its time, and the next one is awaited, or
there is none. -/
structure Timetable.Kept (t : Timetable) (g : Generation) (k : Nat) (d : Detector) : Prop where
  settings : d.settings = t.settings
  deeds : d.history.deeds g = t.course k
  come : ∀ i < k, ∃ b, t.beat? i = some b ∧ b.time ≤ d.now
  on : ∀ w ∈ d.workers, w.generation = g → ∀ c ∈ d.monitored.entries, c.generation = g →
    t.OnTime d.now k c.failures w.stage
  off : Unregistered d.monitored g → t.beat? k = none

namespace Timetable.Kept

variable {t : Timetable} {g : Generation} {k : Nat} {d e : Detector} {b : Beat}

theorem spared (h : t.Kept g k d) (spared : Spared g d e) : t.Kept g k e where
  settings := spared.settings.trans h.settings
  deeds := by
    obtain ⟨new, hhistory, haloof⟩ := spared.history
    rw [hhistory, History.deeds_append_of_none fun entry hentry => (haloof entry hentry).1]
    exact h.deeds
  come := spared.now ▸ h.come
  on w hw hg c hc hcg := by
    obtain ⟨v, hv, hvg, hstage⟩ := spared.workers w hw hg
    obtain ⟨b, hb, hbg, hfailures⟩ := spared.entries c hc hcg
    rw [spared.now, ← hstage, ← hfailures]
    exact h.on v hv hvg b hb hbg
  off hnone := h.off (spared.off hnone)

/-- The worker moves on between two beats. -/
theorem updateWorker (h : t.Kept g k d) {change : Worker → Worker}
    (hon : ∀ w ∈ d.workers, w.generation = g → ∀ c ∈ d.monitored.entries, c.generation = g →
      t.OnTime d.now k c.failures w.stage → t.OnTime d.now k c.failures (change w).stage) :
    t.Kept g k (d.updateWorker g change) where
  settings := h.settings
  deeds := h.deeds
  come := h.come
  on w hw hg c hc hcg := by
    obtain ⟨v, hv, rfl⟩ := List.mem_map.1 hw
    split at hg
    next hvg =>
      rw [if_pos hvg]
      exact hon v hv hvg c hc hcg (h.on v hv hvg c hc hcg)
    next hvg => exact absurd hg hvg
  off := h.off

/-- The cycle goes on between two beats. -/
theorem goOn (h : t.Kept g k d) (hnow : e.now = d.now) (hsettings : e.settings = d.settings)
    (hdeeds : e.history.deeds g = d.history.deeds g) {stage : Stage} {failures : Nat}
    (stands : e.Stands g stage failures) (hon : t.OnTime d.now k failures stage) :
    t.Kept g k e where
  settings := hsettings.trans h.settings
  deeds := hdeeds.trans h.deeds
  come := hnow ▸ h.come
  on w hw hg c hc hcg := by
    rw [hnow, stands.worker w hw hg, stands.entry c hc hcg]
    exact hon
  off hnone := absurd hnone stands.there

/-- A beat is done at its time. -/
theorem beat (h : t.Kept g k d) (hbeat : t.beat? k = some b) (htime : b.time ≤ d.now)
    (hnow : e.now = d.now) (hsettings : e.settings = d.settings)
    (hdeeds : e.history.deeds g = d.history.deeds g ++ t.deeds b)
    (hon : ∀ w ∈ e.workers, w.generation = g → ∀ c ∈ e.monitored.entries, c.generation = g →
      t.OnTime d.now (k + 1) c.failures w.stage)
    (hoff : Unregistered e.monitored g → t.beat? (k + 1) = none) : t.Kept g (k + 1) e where
  settings := hsettings.trans h.settings
  deeds := by rw [hdeeds, h.deeds, course_succ hbeat]
  come i hi := by
    rw [hnow]
    rcases Nat.lt_succ_iff_lt_or_eq.1 hi with hi | rfl
    · exact h.come i hi
    · exact ⟨b, hbeat, htime⟩
  on w hw hg c hc hcg := hnow ▸ hon w hw hg c hc hcg
  off := hoff

/-- The ping that is next is sent. -/
theorem ping (h : t.Kept g k d) {failures gate : Nat} {flight : Flight}
    (hbeat : t.beat? k = some (.ping d.now failures)) (hnow : e.now = d.now)
    (hsettings : e.settings = d.settings)
    (hdeeds : e.history.deeds g = d.history.deeds g ++ [(d.now, .pings t.node)])
    (stands : e.Stands g (.pinging gate flight) failures)
    (limit : ∃ error, flight.limit = some (d.now + t.settings.timeout, .failed error) ∧
      error.isDisconnect = false) : t.Kept g (k + 1) e := by
  refine h.beat hbeat (Nat.le_refl _) hnow hsettings hdeeds (fun w hw hg c hc hcg => ?_)
    fun hnone => absurd hnone stands.there
  rw [stands.worker w hw hg, stands.entry c hc hcg]
  exact ⟨k, d.now, rfl, hbeat, limit, Nat.le_add_right _ _⟩

/-- The last beat is done, and the entry is gone with it. -/
theorem last (h : t.Kept g k d) (hbeat : t.beat? k = some b) (htime : b.time = d.now)
    (hend : ∀ time failures, b ≠ .ping time failures) (hnow : e.now = d.now)
    (hsettings : e.settings = d.settings)
    (hdeeds : e.history.deeds g = d.history.deeds g ++ t.deeds b)
    (hnone : Unregistered e.monitored g) : t.Kept g (k + 1) e :=
  h.beat hbeat (Nat.le_of_eq htime) hnow hsettings hdeeds
    (fun _ _ _ c hc hcg => absurd hcg (hnone c hc)) fun _ => beat?_succ_of_end hbeat hend

end Timetable.Kept

/-- Nobody else has ended the cycle. -/
def Past.EndsItself (past : Past) (g : Generation) : Prop :=
  ∀ e ∈ past, e.cutsShort g = false

instance (past : Past) (g : Generation) : Decidable (past.EndsItself g) :=
  inferInstanceAs (Decidable (∀ e ∈ past, _))

namespace Detector

/-- The cycle, once it has begun and unless somebody else ends it, keeps to its timetable. -/
structure Course (g : Generation) (replies : Nat → Reply) (d : Detector) : Prop where
  unborn : (∀ node, .installed node g ∉ d.past) → d.history.deeds g = []
  kept : ∀ node begun, (begun, .installed node g) ∈ d.history → d.past.EndsItself g →
    ∃ k, Timetable.Kept ⟨node, d.settings, begun, replies⟩ g k d

namespace Course

variable {g : Generation} {replies : Nat → Reply} {d e : Detector}

theorem spared (h : d.Course g replies) (spared : Spared g d e) : e.Course g replies := by
  obtain ⟨new, hhistory, haloof⟩ := spared.history
  have hpast : e.past = new.map Prod.snd ++ d.past := by simp [past, hhistory]
  constructor
  case unborn =>
    intro hunborn
    rw [hhistory, History.deeds_append_of_none fun entry hentry => (haloof entry hentry).1]
    exact h.unborn fun node hnode =>
      hunborn node (hpast ▸ List.mem_append_right _ hnode)
  case kept =>
    intro node begun hbegun hends
    have hbefore : (begun, .installed node g) ∈ d.history := by
      rw [hhistory] at hbegun
      rcases List.mem_append.1 hbegun with hnew | hbegun
      · exact absurd rfl ((haloof _ hnew).2 node)
      · exact hbegun
    obtain ⟨k, hkept⟩ := h.kept node begun hbefore fun e he =>
      hends e (hpast ▸ List.mem_append_right _ he)
    refine ⟨k, ?_⟩
    rw [spared.settings]
    exact hkept.spared spared

theorem updateWorker (h : d.Course g replies) {change : Worker → Worker}
    (hon : ∀ w ∈ d.workers, w.generation = g → ∀ c ∈ d.monitored.entries, c.generation = g →
      ∀ (t : Timetable) k, t.OnTime d.now k c.failures w.stage →
        t.OnTime d.now k c.failures (change w).stage) :
    (d.updateWorker g change).Course g replies where
  unborn := h.unborn
  kept node begun hbegun hends := by
    obtain ⟨k, hkept⟩ := h.kept node begun hbegun hends
    exact ⟨k, hkept.updateWorker fun w hw hwg c hc hcg => hon w hw hwg c hc hcg _ k⟩

/-- A cycle that has a worker has begun, and what its worker does is up to its timetable. -/
theorem goOn (h : d.Course g replies) (hd : d.Enrolled) {w : Worker} (hw : w ∈ d.workers)
    (hwg : w.generation = g) (new : History) (hhistory : e.history = new ++ d.history)
    (hinstalled : ∀ entry ∈ new, ∀ node, entry.2 ≠ .installed node g)
    (hsettings : e.settings = d.settings)
    (hgo : ∀ t : Timetable, t.replies = replies → t.node = w.node → ∀ k, t.Kept g k d →
      ∃ j, t.Kept g j e) : e.Course g replies := by
  have hborn : .installed w.node g ∈ d.past := hwg ▸ hd.worker w hw
  have hpast : e.past = new.map Prod.snd ++ d.past := by simp [past, hhistory]
  constructor
  case unborn =>
    exact fun hunborn => absurd (hpast ▸ List.mem_append_right _ hborn) (hunborn w.node)
  case kept =>
    intro node begun hbegun hends
    have hbefore : (begun, .installed node g) ∈ d.history := by
      rw [hhistory] at hbegun
      rcases List.mem_append.1 hbegun with hnew | hbegun
      · exact absurd rfl (hinstalled _ hnew node)
      · exact hbegun
    have hnode : node = w.node := hd.unique (List.mem_map_of_mem hbefore) hborn
    obtain ⟨k, hkept⟩ := h.kept node begun hbefore fun e he =>
      hends e (hpast ▸ List.mem_append_right _ he)
    rw [hsettings]
    exact hgo _ rfl hnode k hkept

/-- Somebody else ends a cycle, this one or another. -/
theorem dismiss (h : d.Course g replies) {c : Cycle} (hc : c ∈ d.monitored.entries)
    {cause : Removal} (hcause : cause.own = false) (hd : d.Enrolled) :
    (d.removeCycle cause c).Course g replies := by
  by_cases hcg : c.generation = g
  · have hborn : .installed c.node g ∈ d.past := hcg ▸ hd.entry c hc
    constructor
    case unborn => exact fun hunborn => absurd (List.mem_cons_of_mem _ hborn) (hunborn c.node)
    case kept =>
      intro node begun _ hends
      have hremoved : .removed c.node g cause ∈ (d.removeCycle cause c).past :=
        hcg ▸ List.mem_cons_self
      simpa [Event.cutsShort, hcause] using hends _ hremoved
  · exact h.spared ((Spared.refl g d).removeCycle hc hcg cause)

/-- A cycle begins, this one or another. -/
theorem install (h : d.Course g replies) (hd : d.Enrolled) (node : Node) :
    (d.install node).Course g replies := by
  by_cases hg : ⟨d.issued + 1⟩ = g
  swap
  · exact h.spared ((Spared.refl g d).install hg)
  rcases d.install_eq node with ⟨-, heq⟩ | ⟨-, heq⟩
  · rw [heq]
    exact h
  have hfresh : ∀ n, .installed n g ∉ d.past := fun n hn => by
    have hle := hd.begun hn
    rw [← hg] at hle
    exact absurd hle (Nat.not_succ_le_self _)
  rw [heq, hg]
  constructor
  case unborn => exact fun hunborn => absurd List.mem_cons_self (hunborn node)
  case kept =>
    intro n begun hbegun _
    rcases List.mem_cons.1 hbegun with heq | hbegun
    · obtain ⟨rfl, hinstalled⟩ := Prod.mk.inj heq
      obtain ⟨rfl, -⟩ := Event.installed.inj hinstalled
      refine ⟨0, rfl, ?_, by simp, fun w hw hwg c hc hcg => ?_, fun hnone => ?_⟩
      · exact (History.deeds_cons_of_none rfl).trans (h.unborn hfresh)
      · have hfailures : c.failures = 0 := by
          rcases Table.mem_insert.1 hc with rfl | ⟨hc, -⟩
          · rfl
          · exact absurd (hcg ▸ hd.entry c hc) (hfresh c.node)
        rcases List.mem_append.1 hw with hw | hw
        · exact absurd (hwg ▸ hd.worker w hw) (hfresh w.node)
        · obtain rfl := List.mem_singleton.1 hw
          rw [hfailures]
          rfl
      · exact absurd rfl (hnone _ Table.mem_insert_self)
    · exact absurd (List.mem_map_of_mem hbegun) (hfresh n)

end Course

end Detector

end ClusterWatch
