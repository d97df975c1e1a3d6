import ClusterWatch.Proofs.Detector.OneTurn
import ClusterWatch.Proofs.Detector.Timekeeping

/-!
Turns in time. A turn that takes no time leaves a cycle in step with its timetable: the worker of
the cycle does what the next beat asks for, and whatever else happens, short of ending the cycle,
does not touch it.
-/
namespace ClusterWatch

open Detector Past

section Ping

variable {g : Generation} {d : Detector} {w : Worker} {c : Cycle} {t : Timetable}
  {k gate : Nat} {flight : Flight}

/-- What a cycle has under way is its last ping, and it is answered as the timetable has it. -/
theorem Detector.Heard.bears {j failures sent : Nat} (heard : d.Heard g t.replies)
    (hdeeds : d.history.deeds g = t.course (j + 1)) (hbeat : t.beat? j = some (.ping sent failures))
    (hw : w ∈ d.workers) (hwg : w.generation = g) (hstage : w.stage = .pinging gate flight) :
    flight.Bears (t.replies j) sent d.now := by
  have hpings : d.history.pingTimes g =
      ((t.course j).filter (·.2.isPing)).map Prod.fst ++ [sent] := by
    simp [History.pingTimes, hdeeds, Timetable.course_succ hbeat, Timetable.deeds, Deed.isPing]
  have hlength : (d.history.pingTimes g).length - 1 = j := by
    rw [hpings, List.length_append, Timetable.course_pings hbeat]
    rfl
  have hbears := heard w hw hwg sent (by simp [hpings])
  rw [hstage, hlength] at hbears
  exact hbears

/-- The ping of a cycle has come out: this is the time that the timetable has for it, and what is
next goes by the verdict. -/
theorem Timetable.Kept.comes_out {outcome : Outcome} (h : t.Kept g k d)
    (heard : d.Heard g t.replies)
    (apart : ∀ i outcome, t.replies i ≠ .after t.settings.timeout outcome) (hw : w ∈ d.workers)
    (hwg : w.generation = g) (hc : c ∈ d.monitored.entries) (hcg : c.generation = g)
    (hstage : w.stage = .pinging gate flight) (due : flight.outcome? d.now = some outcome) :
    t.beat? k = some (t.sequel d.now c.failures outcome.verdict) ∧
      (0 < t.settings.retries → c.failures < t.settings.retries) := by
  have hon := h.on w hw hwg c hc hcg
  rw [hstage] at hon
  obtain ⟨j, sent, rfl, hawaits⟩ := hon
  have hbears := heard.bears h.deeds hawaits.beat hw hwg hstage
  obtain ⟨hnow, hverdict⟩ := hawaits.comes_out hbears (apart j) due
  rw [Timetable.beat?_succ hawaits.beat, hverdict, ← hnow]
  exact ⟨rfl, fun hretries => Timetable.failures_lt hretries hawaits.beat⟩

end Ping

/-- An answer that comes in is taken up later. -/
theorem Timetable.OnTime.land {t : Timetable} {now k failures : Nat} {w : Worker}
    (h : t.OnTime now k failures w.stage) (time : Nat) (outcome : Outcome) :
    t.OnTime now k failures (Station.landFlight time outcome w).stage := by
  unfold Station.landFlight
  cases hstage : w.stage with
  | pinging gate flight =>
    rw [hstage] at h
    obtain ⟨j, sent, hk, hbeat, hlimit, hdue⟩ := h
    refine ⟨j, sent, hk, hbeat, ?_, hdue⟩
    unfold Flight.land
    cases flight.landing <;> exact hlimit
  | connecting flight =>
    rw [hstage] at h
    exact h.elim
  | _ => exact h

namespace Detector

theorem lose_history (d : Detector) (cause : Removal) (c : Cycle) (node : Node)
    (lost : Generation) :
    ∃ event : Event, (∀ g, event.Aloof g) ∧ (d.lose cause c node lost).history =
      (d.now, event) :: (d.now, .removed c.node c.generation cause) :: d.history := by
  apply lose_keep (P := fun e : Detector => ∃ event : Event, (∀ g, event.Aloof g) ∧
    e.history = (d.now, event) :: (d.now, .removed c.node c.generation cause) :: d.history)
  · exact ⟨_, fun g => ⟨rfl, by simp⟩, rfl⟩
  · rw [report_eq]
    exact ⟨_, fun g => ⟨rfl, by simp⟩, rfl⟩

theorem lose_now (d : Detector) (cause : Removal) (c : Cycle) (node : Node) (lost : Generation) :
    (d.lose cause c node lost).now = d.now := by
  apply lose_keep (P := fun e => e.now = d.now)
  · rfl
  · exact (report_submits _ _ _ _).now

theorem aloof_answered {g : Generation} (w : Worker) (outcome : Outcome) :
    (Event.answered w.node.id w.generation outcome).Aloof g :=
  ⟨rfl, by simp⟩

theorem deed?_removed {g : Generation} {c : Cycle} {cause : Removal} (hg : c.generation = g) :
    (Event.removed c.node c.generation cause).deed? g = some (.ends c.node cause) := by
  simp [Event.deed?, hg]

namespace Course

section Worker

variable {g : Generation} {replies : Nat → Reply} {d e : Detector} {w : Worker} {c : Cycle}
  {gate : Nat} {flight : Flight}

theorem setStage (h : d.Course g replies) (hd : d.Enrolled) (hw : w ∈ d.workers) {stage : Stage}
    (hon : ∀ (t : Timetable) k failures, t.OnTime d.now k failures w.stage →
      t.OnTime d.now k failures stage) : (d.setStage w.generation stage).Course g replies := by
  by_cases hwg : w.generation = g
  · subst hwg
    refine h.updateWorker fun v hv hvg c _ _ t k hv' => ?_
    rw [hd.worker_unique hv hw hvg] at hv'
    exact hon t k c.failures hv'
  · exact h.spared ((Spared.refl g d).setStage hwg stage)

/-- A ping is sent, by the worker of this cycle or by another. -/
theorem send (h : d.Course g replies) (hd : d.Enrolled) (hw : w ∈ d.workers)
    (hstage : w.stage = .queued gate) (current : d.currentCycle? w = some c) (version : Int)
    (reply : Reply) :
    (((d.putCycle { c with phase := .awaiting }).record
      (.pinged w.node w.generation (d.pingRequest w.node version))).setStage w.generation
        (.pinging gate (.launch d.now reply (some (d.attemptLimit w.node))))).Course g replies := by
  obtain ⟨hc, -, hg⟩ := currentCycle?_eq_some current
  by_cases hwg : w.generation = g
  · subst hwg
    refine h.goOn hd hw rfl [(d.now, .pinged w.node w.generation _)] rfl (by simp) rfl ?_
    rintro t rfl hnode k hkept
    have hon := hkept.on w hw rfl c hc hg
    rw [hstage] at hon
    refine ⟨k + 1, hkept.ping hon rfl rfl ?_ (stands hd hc hg rfl rfl rfl hg rfl) ?_⟩
    · rw [hnode]
      exact History.deeds_cons_of_some (by simp [Event.deed?])
    · refine ⟨.timeout w.node.id d.settings.timeoutDuration, ?_, rfl⟩
      rw [← hkept.settings]
      cases reply <;> rfl
  · have hother : c.generation ≠ g := fun hcg => hwg (hg.symm.trans hcg)
    have hput :=
      (Spared.refl g d).putCycle (c := { c with phase := .awaiting }) hc rfl hother hother
    refine h.spared ((hput.record ⟨?_, by simp⟩).setStage hwg _)
    simp [Event.deed?, hwg]

/-- A ping was acknowledged, and the cycle rests. -/
theorem rest (h : d.Course g replies) (hd : d.Enrolled) (heard : d.Heard g replies)
    (apart : ∀ i outcome, replies i ≠ .after d.settings.timeout outcome) (hw : w ∈ d.workers)
    (hstage : w.stage = .pinging gate flight) (due : flight.outcome? d.now = some .done)
    (current : d.currentCycle? w = some c) :
    (((((d.record (.answered w.node.id w.generation .done)).putCycle
      { c with failures := 0 }).setStage w.generation .ready).putCycle
        { c with failures := 0, phase := .backoff }).setStage w.generation
          (.resting (d.now + d.settings.interval))).Course g replies := by
  obtain ⟨hc, -, hg⟩ := currentCycle?_eq_some current
  have hanswered : (d.record (.answered w.node.id w.generation .done)).Enrolled := hd.record rfl
  have hcleared : ((d.record (.answered w.node.id w.generation .done)).putCycle
      { c with failures := 0 }).Enrolled := hanswered.putCycle hc
  by_cases hwg : w.generation = g
  · subst hwg
    refine h.goOn hd hw rfl [(d.now, .answered w.node.id w.generation .done)] rfl (by simp) rfl ?_
    rintro t rfl - k hkept
    rw [hkept.settings] at apart
    obtain ⟨hbeat, -⟩ := hkept.comes_out heard apart hw rfl hc hg hstage due
    refine ⟨k, hkept.goOn rfl rfl (History.deeds_cons_of_none rfl)
      (stands hcleared Table.mem_insert_self hg rfl rfl rfl hg rfl) ⟨?_, ?_⟩⟩
    · rw [hkept.settings]
      exact hbeat
    · exact Nat.le_add_right _ _
  · have hother : c.generation ≠ g := fun hcg => hwg (hg.symm.trans hcg)
    have hrecorded := (Spared.refl g d).record (aloof_answered w .done)
    have hput := hrecorded.putCycle (c := { c with failures := 0 }) hc rfl hother hother
    have hrested := (hput.setStage hwg .ready).putCycle
      (c := { c with failures := 0, phase := .backoff }) Table.mem_insert_self rfl hother hother
    exact h.spared (hrested.setStage hwg _)

/-- A ping has failed, and another attempt is left. -/
theorem retry (h : d.Course g replies) (hd : d.Enrolled) (heard : d.Heard g replies)
    (apart : ∀ i outcome, replies i ≠ .after d.settings.timeout outcome) (hw : w ∈ d.workers)
    (hstage : w.stage = .pinging gate flight) {error : TransportError}
    (due : flight.outcome? d.now = some (.failed error)) (current : d.currentCycle? w = some c)
    (counted : error.isDisconnect = false) (left : c.failures + 1 < d.settings.retries) :
    (((d.record (.answered w.node.id w.generation (.failed error))).putCycle
      { c with failures := c.failures + 1 }).setStage w.generation .ready).Course g replies := by
  obtain ⟨hc, -, hg⟩ := currentCycle?_eq_some current
  have hanswered : (d.record (.answered w.node.id w.generation (.failed error))).Enrolled :=
    hd.record rfl
  by_cases hwg : w.generation = g
  · subst hwg
    refine h.goOn hd hw rfl [(d.now, .answered w.node.id w.generation (.failed error))] rfl
      (by simp) rfl ?_
    rintro t rfl - k hkept
    rw [hkept.settings] at apart left
    obtain ⟨hbeat, -⟩ := hkept.comes_out heard apart hw rfl hc hg hstage due
    have hverdict : (Outcome.failed error).verdict = .failed := by simp [Outcome.verdict, counted]
    rw [hverdict, Timetable.sequel, if_neg (Nat.ne_of_lt left)] at hbeat
    exact ⟨k, hkept.goOn rfl rfl (History.deeds_cons_of_none rfl)
      (stands hanswered hc hg rfl rfl rfl hg rfl) hbeat⟩
  · have hother : c.generation ≠ g := fun hcg => hwg (hg.symm.trans hcg)
    have hrecorded := (Spared.refl g d).record (aloof_answered w (.failed error))
    have hput :=
      hrecorded.putCycle (c := { c with failures := c.failures + 1 }) hc rfl hother hother
    exact h.spared (hput.setStage hwg .ready)

/-- The last attempt has failed: the cycle ends, and its node is reported. -/
theorem exhaust (h : d.Course g replies) (hd : d.Attended) (heard : d.Heard g replies)
    (apart : ∀ i outcome, replies i ≠ .after d.settings.timeout outcome)
    (hretries : 0 < d.settings.retries) (hw : w ∈ d.workers)
    (hstage : w.stage = .pinging gate flight) {error : TransportError}
    (due : flight.outcome? d.now = some (.failed error)) (current : d.currentCycle? w = some c)
    (counted : error.isDisconnect = false) (spent : d.settings.retries ≤ c.failures + 1) :
    (((d.record (.answered w.node.id w.generation (.failed error))).removeCycle
      .unresponsive c).report w.node w.generation
        (.unresponsive d.settings.retries d.settings.timeoutDuration)).Course g replies := by
  obtain ⟨hc, -, hg⟩ := currentCycle?_eq_some current
  by_cases hwg : w.generation = g
  · subst hwg
    have hnone := hd.unregistered_removeCycle .unresponsive hc
    rw [report_eq]
    refine h.goOn hd.enrolled hw rfl [(d.now, .reported w.node w.generation _ _),
      (d.now, .removed c.node c.generation .unresponsive),
      (d.now, .answered w.node.id w.generation (.failed error))] rfl (by simp) rfl ?_
    rintro t rfl hnode k hkept
    have hsettings := hkept.settings
    rw [hsettings] at apart hretries spent
    obtain ⟨hbeat, hbelow⟩ := hkept.comes_out heard apart hw rfl hc hg hstage due
    have hverdict : (Outcome.failed error).verdict = .failed := by simp [Outcome.verdict, counted]
    have hlast : c.failures + 1 = t.settings.retries := Nat.le_antisymm (hbelow hretries) spent
    rw [hverdict, Timetable.sequel, if_pos hlast] at hbeat
    refine ⟨k + 1, hkept.last hbeat rfl (by simp) rfl rfl ?_ (hg ▸ hnone)⟩
    have hcn : c.node = t.node := (hd.enrolled.entry_node hw hc hg).trans hnode.symm
    have hreported (taken : Bool) : (Event.reported w.node w.generation (.unresponsive
        d.settings.retries d.settings.timeoutDuration) taken).deed? w.generation =
          some (.reports w.node d.settings.retries d.settings.timeoutDuration) := by
      simp [Event.deed?]
    show History.deeds ((d.now, _) :: (d.now, _) :: (d.now, _) :: d.history) w.generation = _
    rw [History.deeds_cons_of_some (hreported _), History.deeds_cons_of_some (deed?_removed hg),
      History.deeds_cons_of_none rfl, Timetable.deeds, ← hcn, ← hsettings, List.append_assoc,
      hd.enrolled.entry_node hw hc hg]
    rfl
  · have hother : c.generation ≠ g := fun hcg => hwg (hg.symm.trans hcg)
    have hrecorded := (Spared.refl g d).record (aloof_answered w (.failed error))
    refine h.spared ((hrecorded.removeCycle hc hother .unresponsive).report fun taken => ⟨?_, ?_⟩)
    · simp [Event.deed?, hwg]
    · simp

/-- A ping has found the connection lost, and the cycle ends. -/
theorem lose (h : d.Course g replies) (hd : d.Attended) (heard : d.Heard g replies)
    (apart : ∀ i outcome, replies i ≠ .after d.settings.timeout outcome) (hw : w ∈ d.workers)
    (hstage : w.stage = .pinging gate flight) {error : TransportError}
    (due : flight.outcome? d.now = some (.failed error)) (current : d.currentCycle? w = some c)
    (lost : error.isDisconnect = true) :
    ((d.record (.answered w.node.id w.generation (.failed error))).lose .lostByPing c w.node
      w.generation).Course g replies := by
  obtain ⟨hc, -, hg⟩ := currentCycle?_eq_some current
  by_cases hwg : w.generation = g
  · subst hwg
    let answered := d.record (.answered w.node.id w.generation (.failed error))
    have hnone := hd.unregistered_removeCycle .lostByPing hc
    obtain ⟨event, haloof, hhistory⟩ := answered.lose_history .lostByPing c w.node w.generation
    refine h.goOn hd.enrolled hw rfl [(d.now, event),
      (d.now, .removed c.node c.generation .lostByPing),
      (d.now, .answered w.node.id w.generation (.failed error))] hhistory ?_
      (lose_settings answered .lostByPing c w.node w.generation) ?_
    · simpa using (haloof w.generation).2
    rintro t rfl hnode k hkept
    rw [hkept.settings] at apart
    obtain ⟨hbeat, -⟩ := hkept.comes_out heard apart hw rfl hc hg hstage due
    have hverdict : (Outcome.failed error).verdict = .lost := by simp [Outcome.verdict, lost]
    rw [hverdict] at hbeat
    refine ⟨k + 1, hkept.last hbeat rfl (by simp [Timetable.sequel]) (lose_now _ _ _ _ _)
      (lose_settings _ _ _ _ _) ?_ ?_⟩
    · have hcn : c.node = t.node := (hd.enrolled.entry_node hw hc hg).trans hnode.symm
      have hanswered : answered.history.deeds w.generation = d.history.deeds w.generation :=
        History.deeds_cons_of_none rfl
      rw [hhistory, Timetable.sequel, Timetable.deeds, ← hcn,
        History.deeds_cons_of_none (haloof w.generation).1,
        History.deeds_cons_of_some (deed?_removed hg), hanswered]
      rfl
    · rw [lose_monitored, ← hg]
      exact hnone
  · have hother : c.generation ≠ g := fun hcg => hwg (hg.symm.trans hcg)
    have hrecorded := (Spared.refl g d).record (aloof_answered w (.failed error))
    exact h.spared (hrecorded.lose hc hother .lostByPing w.node w.generation)

end Worker

end Course

theorem aloof_connected {g : Generation} (node : Node) (lost : Generation) (outcome : Outcome) :
    (Event.connected node lost outcome).Aloof g :=
  ⟨rfl, by simp⟩

theorem aloof_of_delivers {g : Generation} {e : Event} (h : e.delivers = true) : e.Aloof g := by
  cases e with
  | handed | told => exact ⟨rfl, by simp⟩
  | _ => cases h

theorem Informs.spared {g : Generation} {d e : Detector} (h : d.Informs e) : Spared g d e where
  now := h.now
  settings := h.settings
  history := by
    obtain ⟨told, hhistory, htold⟩ := h.history
    exact ⟨told, hhistory, fun entry hentry => aloof_of_delivers (htold entry hentry)⟩
  workers w hw hg := ⟨w, h.workers ▸ hw, hg, rfl⟩
  entries c hc hg := ⟨c, h.monitored ▸ hc, hg, rfl⟩
  off hnone := h.monitored ▸ hnone

/-- A turn that takes no time leaves the cycle in step with its timetable. -/
theorem Turn.course {g : Generation} {replies : Nat → Reply} {aside : Aside} {d e : Detector}
    (turn : Turn true d aside e) (hnow : e.now = d.now) (hd : d.Attended)
    (hretries : 0 < d.settings.retries)
    (apart : ∀ i outcome, replies i ≠ .after d.settings.timeout outcome)
    (heard : d.Heard g replies) (h : d.Course g replies) : e.Course g replies := by
  have spared := Spared.refl g d
  have hended {f : Detector} (hf : f.Enrolled ∧ f.Course g replies) {c : Cycle}
      (hc : c ∈ f.monitored.entries) (cause : Removal) (hcause : cause.own = false) :
      (f.removeCycle cause c).Enrolled ∧ (f.removeCycle cause c).Course g replies :=
    ⟨hf.1.removeCycle hc, hf.2.dismiss hc hcause hf.1⟩
  have hreconnected (node : Node) (lost : Generation) (outcome : Outcome) :
      (d.endReconnect node lost outcome).Course g replies := by
    have hrecorded (outcome : Outcome) :
        (d.record (.connected node lost outcome)).Course g replies :=
      h.spared (spared.record (aloof_connected node lost outcome))
    refine endReconnect_keep (P := fun e => e.Course g replies) ?_ fun error => ?_
    · exact (hrecorded .done).install (hd.enrolled.record rfl) node
    · exact (hrecorded (.failed error)).spared
        ((Spared.refl g _).report fun taken => ⟨rfl, by simp⟩)
  cases turn with
  | pass now registry bulletin =>
    obtain rfl : now = d.now := hnow
    exact h.spared (spared.aside d.gates d.gatesMade registry bulletin)
  | tell | hand | hear => exact h.spared (spared.record ⟨rfl, by simp⟩)
  | reconcile snapshot =>
    refine (reconcile_keep (P := fun e => e.Enrolled ∧ e.Course g replies) ⟨hd.enrolled.record rfl,
      h.spared (spared.record ⟨rfl, by simp⟩)⟩ (fun f c hf hc => hended hf hc _ rfl) ?_).2
    intro f node hf _ _
    exact ⟨hf.1.install, hf.2.install hf.1 node⟩
  | stop =>
    exact (stop_keep (P := fun e => e.Enrolled ∧ e.Course g replies) ⟨hd.enrolled.record rfl,
      h.spared (spared.record ⟨rfl, by simp⟩)⟩ fun f c hf hc => hended hf hc _ rfl).2
  | land k now outcome =>
    by_cases hk : k = g
    · subst hk
      exact h.updateWorker fun w _ _ c _ _ t j hon => hon.land now outcome
    · refine h.spared (spared.updateWorker (fun w => ?_) fun heq => absurd heq hk)
      unfold Station.landFlight
      split <;> rfl
  | @queue w member stage =>
    obtain ⟨gates, made, heq⟩ := d.gateFor_eq w.node.id
    have hgates := h.spared (spared.aside gates made d.registry d.bulletin)
    rw [heq]
    refine Course.setStage (d := { d with gates, gatesMade := made }) hgates ?_ member ?_
    · exact ⟨hd.enrolled.begun, hd.enrolled.unique, hd.enrolled.ended, hd.enrolled.worker,
        hd.enrolled.distinct, hd.enrolled.entry, hd.enrolled.present, hd.enrolled.watched⟩
    · intro t k failures hon
      rw [stage] at hon
      exact hon
  | depart => exact h.spared (spared.leave _ _)
  | abandon => exact h.spared ((spared.record ⟨rfl, by simp⟩).leave _ _)
  | outlive => exact h.spared ((spared.record (aloof_answered _ _)).leave _ _)
  | wake member stage due =>
    refine h.setStage hd.enrolled member fun t k failures hon => ?_
    rw [stage] at hon
    obtain ⟨hbeat, hwake⟩ := hon
    rw [Nat.le_antisymm due hwake] at hbeat
    exact hbeat
  | send version reply member stage free current =>
    exact h.send hd.enrolled member stage current version reply
  | rest member stage due current => exact h.rest hd.enrolled heard apart member stage due current
  | finish member stage due current orphaned => exact absurd orphaned (by decide)
  | retry member stage due current counted left =>
    exact h.retry hd.enrolled heard apart member stage due current counted left
  | exhaust member stage due current counted spent =>
    refine (h.exhaust hd heard apart hretries member stage due current counted spent).spared ?_
    exact (Spared.refl g _).leave _ _
  | @breakOff w c gate flight next error member stage due current lost allowed =>
    obtain ⟨hc, -, hg⟩ := currentCycle?_eq_some current
    have hlost := h.lose hd heard apart member stage due current lost
    have hnone := hd.unregistered_removeCycle .lostByPing hc
    by_cases hwg : w.generation = g
    · subst hwg
      refine hlost.updateWorker fun v _ _ x hx hxg => ?_
      rw [lose_monitored] at hx
      exact absurd (hxg.trans hg.symm) (hnone x hx)
    · exact hlost.spared ((Spared.refl g _).setStage hwg _)
  | giveUp member stage due current lost refused =>
    exact (h.lose hd heard apart member stage due current lost).spared ((Spared.refl g _).leave _ _)
  | @disconnect c node found =>
    have hc := (cycle?_eq_some found).1
    have hdropped := (hended ⟨hd.enrolled, h⟩ hc .lostByEvent rfl).2
    refine lose_keep (P := fun e => e.Course g replies) (hdropped.spared ?_) (hdropped.spared ?_)
    · exact (Spared.refl g _).record ⟨rfl, by simp⟩
    · exact (Spared.refl g _).report fun taken => ⟨rfl, by simp⟩
  | reconnect outcome begun => exact hreconnected _ _ outcome
  | workerReconnect => exact (hreconnected _ _ _).spared ((Spared.refl g _).leave _ _)

end Detector

end ClusterWatch
