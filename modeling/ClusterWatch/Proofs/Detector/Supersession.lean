import ClusterWatch.Proofs.Detector.Fate

/-!
What is left of a cycle that has been taken away. Cycles are numbered as they begin, so of two
the later one has the greater number, and a worker can tell whether the entry of its node is
still the one that it drives. It pings only while that is so. Afterwards, whatever wakes it, it
touches no entry, reports nothing and sends nothing; a reconnect that its own loss has called
for is another matter.
-/
namespace ClusterWatch

open Detector Past

/-- A cycle begins. -/
def Event.begins : Event → Bool
  | .installed .. => true
  | _ => false

/-- How many cycles have begun. -/
def Past.installations (past : Past) : Nat := past.countP Event.begins

/-- A cycle has the number that its turn gives it. -/
def Numbered (e : Event) (earlier : Past) : Prop :=
  ∀ node g, e = .installed node g → g.number = earlier.installations + 1

theorem number_le {past : Past} (h : Always Numbered past) {node : Node} {g : Generation}
    (hg : .installed node g ∈ past) : g.number ≤ past.installations := by
  obtain ⟨later, before, heq⟩ := List.append_of_mem hg
  have hsuffix : Event.installed node g :: before <:+ past := ⟨later, heq.symm⟩
  calc g.number = installations before + 1 := h _ before hsuffix node g rfl
    _ = installations (.installed node g :: before) :=
      (List.countP_cons_of_pos (p := Event.begins) rfl).symm
    _ ≤ past.installations := hsuffix.sublist.countP_le

/-- A cycle has a greater number than all that began before it. -/
theorem newer_than_earlier {past earlier : Past} (h : Always Numbered past) {node m : Node}
    {g k : Generation} (hg : .installed node g :: earlier <:+ past)
    (hk : .installed m k ∈ earlier) : g.newerThan k = true := by
  have hle := number_le (always_of_suffix h (suffix_of_cons hg)) hk
  have heq := h _ earlier hg node g rfl
  simp only [Generation.newerThan, decide_eq_true_eq]
  omega

/-- No cycle begins a second time. -/
theorem not_begun_again {past new : Past} (h : Always Numbered (new ++ past)) {node : Node}
    {g : Generation} (hg : .installed node g ∈ past) (m : Node) : .installed m g ∉ new := by
  intro hmem
  obtain ⟨later, before, rfl⟩ := List.append_of_mem hmem
  have hsuffix : Event.installed m g :: (before ++ past) <:+
      later ++ Event.installed m g :: before ++ past := ⟨later, by simp⟩
  have hnewer := newer_than_earlier h hsuffix (List.mem_append_right _ hg)
  simp [Generation.newerThan] at hnewer

/-- Cycles are numbered through. -/
structure Numbering (issued : Nat) (past : Past) : Prop where
  issued : issued = past.installations
  each : Always Numbered past

namespace Numbering

variable {issued : Nat} {past : Past}

theorem note (h : Numbering issued past) {e : Event} (he : e.begins = false) :
    Numbering issued (e :: past) where
  issued := h.issued.trans (List.countP_cons_of_neg (by simp [he])).symm
  each := by
    refine always_cons h.each fun node g heq => ?_
    simp [heq, Event.begins] at he

theorem install (h : Numbering issued past) (node : Node) :
    Numbering (issued + 1) (.installed node ⟨issued + 1⟩ :: past) where
  issued := (congrArg (· + 1) h.issued).trans (List.countP_cons_of_pos rfl).symm
  each := by
    refine always_cons h.each fun n g heq => ?_
    obtain ⟨-, rfl⟩ := Event.installed.inj heq
    exact congrArg (· + 1) h.issued

end Numbering

namespace Detector

def Counts (d : Detector) : Prop := Numbering d.issued d.past

namespace Counts

variable {d : Detector}

theorem record (h : d.Counts) {e : Event} (he : e.begins = false) : (d.record e).Counts := h.note he

theorem removeCycle (h : d.Counts) {cause : Removal} {c : Cycle} :
    (d.removeCycle cause c).Counts := h.note rfl

theorem report (h : d.Counts) {node : Node} {g : Generation} {reason : FailureReason} :
    (d.report node g reason).Counts := by
  rw [report_eq]
  exact h.note rfl

theorem install (h : d.Counts) {node : Node} : (d.install node).Counts := by
  rcases d.install_eq node with ⟨-, heq⟩ | ⟨-, heq⟩
  · rw [heq]
    exact h
  · rw [heq]
    exact Numbering.install h node

theorem leave (h : d.Counts) {alive : Bool} {w : Worker} : (d.leave alive w).Counts := by
  obtain ⟨gates, heq⟩ := d.leave_eq alive w
  rw [heq]
  exact h

theorem lose (h : d.Counts) {cause : Removal} {c : Cycle} {node : Node} {lost : Generation} :
    (d.lose cause c node lost).Counts :=
  lose_keep (h.removeCycle.record rfl) h.removeCycle.report

theorem endReconnect (h : d.Counts) {node : Node} {lost : Generation} {outcome : Outcome} :
    (d.endReconnect node lost outcome).Counts :=
  endReconnect_keep (P := Counts) (h.record rfl).install fun _ => (h.record rfl).report

end Counts

theorem Turn.counts {lives : Bool} {aside : Aside} {d e : Detector}
    (turn : Turn lives d aside e) (h : d.Counts) : e.Counts := by
  cases turn with
  | pass | land | wake => exact h
  | tell | hand | hear | send | rest | retry => exact h.note rfl
  | reconcile snapshot =>
    exact reconcile_keep (P := Counts) (h.record rfl) (fun _ _ he _ => he.removeCycle)
      fun _ _ he _ _ => he.install
  | stop => exact stop_keep (P := Counts) (h.record rfl) fun _ _ he _ => he.removeCycle
  | @queue w member stage =>
    obtain ⟨gates, made, heq⟩ := d.gateFor_eq w.node.id
    rw [heq]
    exact h
  | depart => exact h.leave
  | abandon | outlive => exact (h.record rfl).leave
  | @finish w c gate flight alive =>
    refine Counts.leave (d := Detector.setStage (Detector.putCycle _ _) w.generation .ready) ?_
    exact h.note rfl
  | exhaust => exact (h.record rfl).removeCycle.report.leave
  | breakOff => exact (h.record rfl).lose
  | giveUp => exact (h.record rfl).lose.leave
  | disconnect => exact h.lose
  | reconnect => exact h.endReconnect
  | workerReconnect => exact h.endReconnect.leave

end Detector

/-- A ping goes to the node of a cycle that is under watch, on account of that cycle. -/
def Driven (e : Event) (earlier : Past) : Prop :=
  ∀ node g request, e = .pinged node g request → .installed node g ∈ earlier ∧ Watched earlier g

theorem driven_append {past : Past} (h : Always Driven past) {events : List Event}
    (hevents : ∀ e ∈ events, e.pingSentTo? = none) : Always Driven (events ++ past) := by
  induction events with
  | nil => exact h
  | cons e events ih =>
    refine always_cons (ih fun f hf => hevents f (List.mem_cons_of_mem _ hf)) ?_
    rintro node g request rfl
    simpa [Event.pingSentTo?] using hevents _ List.mem_cons_self

namespace Detector

variable {d e : Detector} {label : Aside} {new : List Event}

theorem Burst.driven (burst : d.Burst e label new) (hd : d.Enrolled) (h : Always Driven d.past) :
    Always Driven (new ++ d.past) := by
  rcases burst.pings with hnone | ⟨w, c, version, member, -, current, rfl⟩
  · exact driven_append h hnone
  · refine always_cons h fun node g request heq => ?_
    obtain ⟨rfl, rfl, -⟩ := Event.pinged.inj heq
    obtain ⟨hc, -, hg⟩ := currentCycle?_eq_some current
    exact ⟨hd.worker w member, hd.watched_iff.2 ⟨c, hc, hg⟩⟩

end Detector
/-- The ping of the cycle comes to an end. -/
def Event.concludes (g : Generation) : Event → Bool
  | .answered _ h _ => h = g
  | .abandoned _ h => h = g
  | _ => false

namespace Station

/-- Nothing has come of the cycle but, at most, the end of its ping: entries, news and link are as
they were, and its worker, if it is still there, awaits no attempt to connect. -/
structure Undisturbed (g : Generation) (s t : Station) : Prop where
  monitored : t.detector.monitored = s.detector.monitored
  bulletin : t.detector.bulletin = s.detector.bulletin
  link : t.link = s.link
  past : t.past = s.past ∨ ∃ e, e.concludes g = true ∧ t.past = e :: s.past
  idle : ∀ w ∈ t.detector.workers, w.generation = g → w.stage.connects = false

section Undisturbed

variable {s t : Station} {w : Worker}

theorem undisturbed_setStage (s : Station) (w : Worker) (stage : Stage)
    (hstage : stage.connects = false) : Undisturbed w.generation s (s.setStage w stage) where
  monitored := rfl
  bulletin := rfl
  link := rfl
  past := Or.inl rfl
  idle v hv hg := by
    obtain ⟨u, hu, rfl⟩ := List.mem_map.1 hv
    by_cases hgen : u.generation = w.generation
    · rw [if_pos hgen]
      exact hstage
    · rw [if_neg hgen] at hg
      exact absurd hg hgen

theorem undisturbed_endWorker (s : Station) (w : Worker) :
    Undisturbed w.generation s (s.endWorker w) := by
  obtain ⟨alive, -, heq⟩ := s.endWorker_eq w
  obtain ⟨gates, hleave⟩ := s.detector.leave_eq alive w
  rw [heq, hleave]
  refine ⟨rfl, rfl, rfl, Or.inl rfl, fun v hv hg => ?_⟩
  have hne : v.generation ≠ w.generation := by simpa using (List.mem_filter.1 hv).2
  exact absurd hg hne

/-- The end of the ping is noted before the worker goes. -/
theorem undisturbed_concluded (s : Station) (w : Worker) {e : Event}
    (he : e.concludes w.generation = true) :
    Undisturbed w.generation s ({ s with detector := s.detector.record e }.endWorker w) := by
  have h := undisturbed_endWorker { s with detector := s.detector.record e } w
  refine ⟨h.monitored, h.bulletin, h.link, Or.inr ⟨e, he, ?_⟩, h.idle⟩
  obtain ⟨alive, -, heq⟩ := endWorker_eq { s with detector := s.detector.record e } w
  rw [heq]
  exact leave_past _ _ _

theorem undisturbed_queueWorker (s : Station) (w : Worker) :
    Undisturbed w.generation s (s.queueWorker w) := by
  obtain ⟨gates, made, heq⟩ := s.detector.gateFor_eq w.node.id
  unfold queueWorker
  dsimp only
  rw [heq]
  have h := undisturbed_setStage { s with detector := { s.detector with gates, gatesMade := made } }
    w (.queued (s.detector.gateFor w.node.id).1) rfl
  exact ⟨h.monitored, h.bulletin, h.link, h.past, h.idle⟩

/-- A worker whose cycle is no longer current disturbs nothing, whatever it has been woken by. -/
theorem runWorker_undisturbed {heed : Bool} (superseded : s.detector.currentCycle? w = none)
    (idle : w.stage.connects = false) (h : s.runWorker heed w = some t) :
    Undisturbed w.generation s t := by
  unfold runWorker at h
  cases stage : w.stage with
  | ready =>
    simp only [stage, Option.some.injEq] at h
    subst h
    split
    · exact undisturbed_queueWorker s w
    · exact undisturbed_endWorker s w
  | queued gate =>
    simp only [stage, superseded] at h
    split at h
    next =>
      obtain rfl := Option.some.inj h
      exact undisturbed_endWorker s w
    next =>
      split at h
      next => simp at h
      next =>
        obtain rfl := Option.some.inj h
        exact undisturbed_endWorker s w
  | pinging gate flight =>
    have habandon : Undisturbed w.generation s (s.abandonPing w) :=
      undisturbed_concluded s w (by simp [Event.concludes])
    have hsettle (outcome : Outcome) : Undisturbed w.generation s (s.settlePing w outcome) := by
      let answered : Station :=
        { s with detector := s.detector.record (.answered w.node.id w.generation outcome) }
      have hsame : answered.detector.currentCycle? w = none := superseded
      unfold settlePing
      dsimp only
      rw [hsame]
      exact undisturbed_concluded s w (by simp [Event.concludes])
    simp only [stage] at h
    split at h
    next =>
      obtain rfl := Option.some.inj h
      exact habandon
    next =>
      cases due : flight.outcome? s.now with
      | some outcome =>
        rw [due] at h
        obtain rfl := Option.some.inj h
        exact hsettle outcome
      | none =>
        rw [due] at h
        dsimp only at h
        split at h
        next =>
          obtain rfl := Option.some.inj h
          exact habandon
        next => simp at h
  | resting wake =>
    simp only [stage] at h
    split at h
    next =>
      obtain rfl := Option.some.inj h
      exact undisturbed_endWorker s w
    next =>
      split at h
      next => simp at h
      next =>
        obtain rfl := Option.some.inj h
        exact undisturbed_setStage s w _ rfl
  | connecting flight => simp [stage, Stage.connects] at idle

theorem answer_undisturbed {g : Generation} (outcome : Outcome)
    (idle : ∀ w ∈ s.detector.workers, w.generation = g → w.stage.connects = false) :
    Undisturbed g s (s.answer g outcome) where
  monitored := rfl
  bulletin := rfl
  link := rfl
  past := Or.inl rfl
  idle v hv hg := by
    obtain ⟨u, hu, rfl⟩ := List.mem_map.1 hv
    by_cases hgen : u.generation = g
    · rw [if_pos hgen]
      have hidle := idle u hu hgen
      unfold landFlight
      cases stage : u.stage <;> simp_all [Stage.connects]
    · rw [if_neg hgen] at hg
      exact absurd hg hgen

end Undisturbed

theorem Reachable.numbering {s : Station} (h : s.Reachable) :
    Numbering s.detector.issued s.past := by
  refine h.keep (P := Counts) (fun self cluster settings => ?_) fun hd turn => turn.counts hd
  exact ⟨rfl, always_nil⟩

theorem Reachable.driven {s : Station} (h : s.Reachable) : Always Driven s.past := by
  refine h.keepBursts (P := fun d _ => Always Driven d.past) (fun _ _ _ => always_nil) ?_
  rintro lives aside d e label new - - hdriven - grows -
  rw [grows.past]
  exact grows.burst.driven grows.enrolled hdriven

/-- Cycles can be told apart by their age, and what is left of one that has ended is inert. -/
structure EndedCyclesInert (s : Station) : Prop where
  /-- Of two cycles the later one has the greater number. -/
  newer : ∀ node g earlier, .installed node g :: earlier <:+ s.past →
    ∀ m k, .installed m k ∈ earlier → g.newerThan k = true
  /-- Numbers stay within a word as long as no more cycles have begun than there are words. -/
  bounded : s.past.installations < UInt64.size →
    ∀ node g, .installed node g ∈ s.past → g.number < UInt64.size
  /-- The past tells which cycle the entry of a node belongs to. -/
  watched : ∀ node g, (.installed node g ∈ s.past ∧ Watched s.past g) ↔
    ∃ c ∈ s.detector.monitored.entries, c.node = node ∧ c.generation = g
  pinged : ∀ node g request earlier, .pinged node g request :: earlier <:+ s.past →
    .installed node g ∈ earlier ∧ Watched earlier g
  /-- Once a cycle has been taken away, its worker disturbs nothing any more, whatever it is that
  comes out, unless the worker awaits an attempt to connect. -/
  undisturbed : ∀ node g cause, .removed node g cause ∈ s.past →
    (∀ w ∈ s.detector.workers, w.generation = g → w.stage.connects = false) →
    ∀ t, (∃ heed, s.act (.run heed (.worker g)) = some t) ∨
      (∃ outcome, s.act (.answer g outcome) = some t) → s.Undisturbed g t
  /-- A worker awaits an attempt to connect only on account of the loss of its own connection. -/
  exempt : ∀ w ∈ s.detector.workers, w.stage.connects = true → ∃ node cause,
    cause.loses = true ∧ w.node.id = node.id ∧ s.past.fate w.generation =
      [.connecting w.node w.generation, .removed node w.generation cause]

/-- Cycles are numbered in the order in which they begin; a ping is sent for the cycle that the
entry of its node belongs to; and a cycle that has been taken away disturbs nothing any more. -/
theorem Reachable.ended_cycles_inert {s : Station} (h : s.Reachable) : s.EndedCyclesInert := by
  have hd := h.enrolled
  have hnumbering := h.numbering
  refine ⟨fun node g earlier hg m k hk => newer_than_earlier hnumbering.each hg hk,
    fun hfew node g hg => Nat.lt_of_le_of_lt (number_le hnumbering.each hg) hfew,
    fun node g => ⟨?_, ?_⟩,
    fun node g request earlier hping => h.driven _ earlier hping node g request rfl, ?_, ?_⟩
  · rintro ⟨hinstalled, hwatched⟩
    obtain ⟨c, hc, rfl⟩ := hd.watched hwatched
    exact ⟨c, hc, hd.unique (hd.entry c hc) hinstalled, rfl⟩
  · rintro ⟨c, hc, rfl, rfl⟩
    exact ⟨hd.entry c hc, hd.watched_iff.2 ⟨c, hc, rfl⟩⟩
  · rintro node g cause hremoved hidle t (⟨heed, hrun⟩ | ⟨outcome, hanswer⟩)
    · obtain ⟨w, hfound, hstep⟩ := Option.bind_eq_some_iff.1 hrun
      have hw := List.mem_of_find?_eq_some hfound
      obtain rfl : w.generation = g := by simpa using List.find?_some hfound
      refine runWorker_undisturbed ?_ (hidle w hw rfl) hstep
      refine Option.filter_eq_none_iff.2 fun c hc hg => ?_
      have hentry := (cycle?_eq_some hc).1
      have hgen : c.generation = w.generation := by simpa using hg
      exact hd.present c hentry node cause (hgen ▸ hremoved)
    · obtain rfl := Option.some.inj hanswer
      exact answer_undisturbed outcome hidle
  · intro w hw hconnects
    have hunderway : ⟨w.node, w.generation⟩ ∈ s.attempts := List.mem_append_left _
      (List.mem_filterMap.2 ⟨w, hw, Worker.errand?_of_connects hconnects⟩)
    exact h.fated.1.awaited hunderway

/-- The peer has left and come back while a ping of its first cycle was under way, which has been
refused since. -/
def answeredLate : Station :=
  Trial.after .standard .silent [
    .reconcile Trial.together, .run true (.worker ⟨1⟩), .run true (.worker ⟨1⟩),
    .reconcile Trial.alone, .reconcile Trial.together,
    .answer ⟨1⟩ (.failed (.remote Trial.peer.id "busy"))] (by decide)

theorem ended_cycles_inert_answered_late :
    Event.removed Trial.peer ⟨1⟩ .left ∈ answeredLate.past ∧
      (answeredLate.act (.run false (.worker ⟨1⟩))).isSome = true ∧
      answeredLate.detector.monitored.entries.map Cycle.generation = [⟨2⟩] ∧
      answeredLate.EndedCyclesInert :=
  ⟨by decide, by decide, by decide, Reachable.ended_cycles_inert (Trial.reachable (by decide))⟩

end Station
end ClusterWatch
