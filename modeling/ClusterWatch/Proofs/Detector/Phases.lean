import ClusterWatch.Proofs.Detector.Punctuality
import ClusterWatch.Proofs.Detector.Reconciling
import ClusterWatch.Proofs.Detector.Supersession

/-!
What the phase of an entry is worth. The entry of a cycle is written by its worker, a little before
or after what it tells of, so it is compared with what the worker is at and with what the past shows
of the cycle's pings. A turn does one of five things to a cycle that is under watch after it: it
passes the cycle by, begins it, sends a ping of it, or deals with the answer to one, which was an
acknowledgement or is to be tried again. Whatever the entry says goes by these five.
-/
namespace ClusterWatch

open Detector Past

/-- The cycle of whose pings the event tells. -/
def Event.pingOf? : Event → Option Generation
  | .pinged _ g _ => some g
  | .answered _ g _ => some g
  | .abandoned _ g => some g
  | _ => none

namespace Past

/-- No ping of the cycle has been sent. -/
def Unpinged (g : Generation) (past : Past) : Prop := ∀ node request, .pinged node g request ∉ past

/-- The last that is known of the cycle's pings is that one was sent. -/
def Unanswered (g : Generation) (past : Past) : Prop :=
  Since (fun e => ∃ node request, e = .pinged node g request) (fun e => e.pingOf? ≠ some g) past

/-- The last that is known of the cycle's pings is that one was acknowledged. -/
def Acknowledged (g : Generation) (past : Past) : Prop :=
  Since (fun e => ∃ id, e = .answered id g .done) (fun e => e.pingOf? ≠ some g) past

end Past

/-- How the phase of a cycle may change while the cycle lasts. -/
inductive Phase.Moves : Phase → Phase → Prop
  | stays (phase : Phase) : Moves phase phase
  | awaits (phase : Phase) : Moves phase .awaiting
  | rests : Moves .awaiting .backoff

theorem Phase.Moves.not_idle {p q : Phase} (h : p.Moves q) (hp : p ≠ .idle) : q ≠ .idle := by
  cases h with
  | stays => exact hp
  | awaits => exact Phase.noConfusion
  | rests => exact Phase.noConfusion

/-- The phase that the worker's stage belongs to, if it tells. -/
def Stage.phase? : Stage → Option Phase
  | .pinging .. => some .awaiting
  | .resting _ => some .backoff
  | _ => none

namespace Detector

/-- A worker of the cycle is at what belongs to the phase. -/
def Shows (d : Detector) (g : Generation) (phase : Phase) : Prop :=
  ∃ w ∈ d.workers, w.generation = g ∧ w.stage.phase? = some phase

/-- Nothing that happens from the one to the other is about pings of the cycle. -/
structure PassesBy (g : Generation) (d e : Detector) : Prop where
  past : ∃ new, e.past = new ++ d.past ∧ ∀ event ∈ new, event.pingOf? ≠ some g
  shown : ∀ phase, e.Shows g phase → d.Shows g phase

section PassesBy

variable {g k : Generation} {d e : Detector} {node : Node} {w : Worker}

/-- Only workers and past matter. -/
theorem PassesBy.of_eq {f : Detector} (h : PassesBy g d e) (hworkers : f.workers = e.workers)
    (hpast : f.past = e.past) : PassesBy g d f where
  past := hpast ▸ h.past
  shown phase := by
    rintro ⟨w, hw, hshows⟩
    exact h.shown phase ⟨w, hworkers ▸ hw, hshows⟩

namespace PassesBy

theorem refl (g : Generation) (d : Detector) : PassesBy g d d :=
  ⟨⟨[], rfl, by simp⟩, fun _ h => h⟩

theorem record (h : PassesBy g d e) {event : Event} (hother : event.pingOf? ≠ some g) :
    PassesBy g d (e.record event) where
  past := by
    obtain ⟨new, hpast, hnew⟩ := h.past
    exact ⟨event :: new, congrArg (event :: ·) hpast, List.forall_mem_cons.2 ⟨hother, hnew⟩⟩
  shown := h.shown

theorem updateWorker (h : PassesBy g d e) {change : Worker → Worker}
    (hsame : ∀ w, (change w).generation = w.generation)
    (hphase : ∀ w, (change w).stage.phase? = w.stage.phase?) :
    PassesBy g d (e.updateWorker k change) where
  past := h.past
  shown phase := by
    rintro ⟨w, hw, hg, hshows⟩
    obtain ⟨v, hv, rfl⟩ := List.mem_map.1 hw
    refine h.shown phase ⟨v, hv, ?_, ?_⟩
    · split at hg
      · exact (hsame v).symm.trans hg
      · exact hg
    · split at hshows
      · exact (hphase v).symm.trans hshows
      · exact hshows

/-- Another worker goes on, or one goes on to what belongs to no phase. -/
theorem setStage (h : PassesBy g d e) {stage : Stage} (hstage : k ≠ g ∨ stage.phase? = none) :
    PassesBy g d (e.setStage k stage) where
  past := h.past
  shown phase := by
    rintro ⟨w, hw, hg, hshows⟩
    obtain ⟨v, hv, rfl⟩ := List.mem_map.1 hw
    by_cases hvk : v.generation = k
    · rw [if_pos hvk] at hg hshows
      rcases hstage with hother | hnone
      · exact absurd (hvk.symm.trans hg) hother
      · cases hnone.symm.trans hshows
    · rw [if_neg hvk] at hg hshows
      exact h.shown phase ⟨v, hv, hg, hshows⟩

theorem putCycle (h : PassesBy g d e) {c : Cycle} : PassesBy g d (e.putCycle c) := h.of_eq rfl rfl

theorem removeCycle (h : PassesBy g d e) (cause : Removal) (c : Cycle) :
    PassesBy g d (e.removeCycle cause c) := by
  have herased : PassesBy g d { e with monitored := e.monitored.erase c.key } := h.of_eq rfl rfl
  have htold : PassesBy g d ({ e with monitored := e.monitored.erase c.key }.updateWorker
      c.generation fun w => { w with retired := true }) :=
    herased.updateWorker (fun _ => rfl) fun _ => rfl
  exact htold.record (by simp [Event.pingOf?])

theorem report (h : PassesBy g d e) {reason : FailureReason} :
    PassesBy g d (e.report node k reason) := by
  rw [report_eq]
  exact (h.of_eq rfl rfl : PassesBy g d { e with
    bulletin := (e.bulletin.submit? (.nodeFailed node reason)).getD e.bulletin }).record
      (by simp [Event.pingOf?])

theorem install (h : PassesBy g d e) (node : Node) : PassesBy g d (e.install node) := by
  rcases e.install_eq node with ⟨-, heq⟩ | ⟨-, heq⟩
  · rw [heq]
    exact h
  · rw [heq]
    have hmanned : PassesBy g d { e with
        issued := e.issued + 1
        monitored := e.monitored.insert (Cycle.begin node ⟨e.issued + 1⟩)
        workers := e.workers ++ [⟨node, ⟨e.issued + 1⟩, false, .ready⟩] } := by
      refine ⟨h.past, fun phase => ?_⟩
      rintro ⟨w, hw, hg, hshows⟩
      rcases List.mem_append.1 hw with hw | hw
      · exact h.shown phase ⟨w, hw, hg, hshows⟩
      · obtain rfl := List.mem_singleton.1 hw
        cases hshows
    exact hmanned.record (by simp [Event.pingOf?])

theorem leave (h : PassesBy g d e) {alive : Bool} : PassesBy g d (e.leave alive w) := by
  obtain ⟨gates, heq⟩ := e.leave_eq alive w
  rw [heq]
  refine ⟨h.past, fun phase => ?_⟩
  rintro ⟨v, hv, hshows⟩
  exact h.shown phase ⟨v, (List.mem_filter.1 hv).1, hshows⟩

theorem lose (h : PassesBy g d e) {cause : Removal} {c : Cycle} :
    PassesBy g d (e.lose cause c node k) := by
  have hremoved := h.removeCycle cause c
  exact lose_keep (hremoved.record (by simp [Event.pingOf?])) hremoved.report

theorem endReconnect (h : PassesBy g d e) {outcome : Outcome} :
    PassesBy g d (e.endReconnect node k outcome) := by
  have hrecorded (outcome : Outcome) : PassesBy g d (e.record (.connected node k outcome)) :=
    h.record (by simp [Event.pingOf?])
  exact endReconnect_keep ((hrecorded _).install node) fun _ => (hrecorded _).report

theorem reconcile (h : PassesBy g d e) (snapshot : Snapshot) :
    PassesBy g d (e.reconcile snapshot) :=
  reconcile_keep (P := PassesBy g d) (h.record (by simp [Event.pingOf?]))
    (fun _ c he _ => he.removeCycle .left c) fun _ node he _ _ => he.install node

theorem unpinged (h : PassesBy g d e) (hbefore : Unpinged g d.past) : Unpinged g e.past := by
  obtain ⟨new, hpast, hnew⟩ := h.past
  intro node request hpinged
  rw [hpast] at hpinged
  rcases List.mem_append.1 hpinged with hmem | hmem
  · exact hnew _ hmem rfl
  · exact hbefore node request hmem

theorem since (h : PassesBy g d e) {P : Event → Prop}
    (hbefore : Since P (fun event => event.pingOf? ≠ some g) d.past) :
    Since P (fun event => event.pingOf? ≠ some g) e.past := by
  obtain ⟨new, hpast, hnew⟩ := h.past
  rw [hpast]
  exact since_append hbefore hnew

end PassesBy

/-- All workers of a cycle that is moved on are at what it is moved on to. -/
theorem phase?_of_shows_setStage {stage : Stage} {phase : Phase}
    (h : (d.setStage g stage).Shows g phase) : stage.phase? = some phase := by
  obtain ⟨w, hw, hg, hshows⟩ := h
  obtain ⟨v, hv, rfl⟩ := List.mem_map.1 hw
  by_cases hvg : v.generation = g
  · rwa [if_pos hvg] at hshows
  · rw [if_neg hvg] at hg
    exact absurd hg hvg

end PassesBy

/-- What a turn is to a cycle that is under watch after it. -/
inductive Stride (d e : Detector) (c : Cycle) : Prop
  | stays (entry : c ∈ d.monitored.entries) (aside : PassesBy c.generation d e)
  | begins (new : c = Cycle.begin c.node c.generation) (fresh : d.issued < c.generation.number)
      (aside : PassesBy c.generation d e)
  | sends {b : Cycle} (entry : b ∈ d.monitored.entries)
      (becomes : c = { b with phase := .awaiting })
      (sent : ∃ node request, e.past = .pinged node c.generation request :: d.past)
      (shows : ∀ phase, e.Shows c.generation phase → phase = .awaiting)
  | rests {b : Cycle} (entry : b ∈ d.monitored.entries) (pinging : d.Shows b.generation .awaiting)
      (becomes : c = { b with failures := 0, phase := .backoff })
      (answered : ∃ id, e.past = .answered id c.generation .done :: d.past)
      (shows : ∀ phase, e.Shows c.generation phase → phase = .backoff)
  | retries {b : Cycle} (entry : b ∈ d.monitored.entries)
      (pinging : d.Shows b.generation .awaiting)
      (becomes : c = { b with failures := b.failures + 1 })
      (shows : ∀ phase, ¬ e.Shows c.generation phase)

section Stride

variable {d e : Detector} {c : Cycle} {aside : Aside}

/-- Entries after a reconnect were there before, or begin. -/
theorem Stride.endReconnect {node : Node} {lost : Generation} {outcome : Outcome}
    (hc : c ∈ (d.endReconnect node lost outcome).monitored.entries)
    (haside : PassesBy c.generation d e) : Stride d e c := by
  have hentry : ∀ c ∈ (d.endReconnect node lost outcome).monitored.entries,
      c ∈ d.monitored.entries ∨
        (c = Cycle.begin c.node c.generation ∧ d.issued < c.generation.number) := by
    apply endReconnect_keep (P := fun f => ∀ c ∈ f.monitored.entries, c ∈ d.monitored.entries ∨
      (c = Cycle.begin c.node c.generation ∧ d.issued < c.generation.number))
    · intro c hc
      have henlarged := (Enlarged.refl (d.record (.connected node lost .done)) [node]).install
        List.mem_cons_self
      by_cases hbefore : c ∈ d.monitored.entries
      · exact .inl hbefore
      · exact .inr (henlarged.begun c hc hbefore).2
    · intro error c hc
      rw [report_eq] at hc
      exact .inl hc
  rcases hentry c hc with hbefore | ⟨hnew, hfresh⟩
  · exact .stays hbefore haside
  · exact .begins hnew hfresh haside

section Answers

variable {w : Worker} {b : Cycle} {gate : Nat} {flight : Flight} {error : TransportError}

/-- An entry other than the worker's own is of another cycle. -/
theorem generation_ne_of_key (hd : d.Enrolled) (current : d.currentCycle? w = some b)
    (hx : c ∈ d.monitored.entries) (hkey : b.key ≠ c.key) : w.generation ≠ c.generation := by
  obtain ⟨hb, -, hg⟩ := currentCycle?_eq_some current
  intro heq
  exact hkey (congrArg Cycle.key (hd.entry_unique hb hx (hg.trans heq)))

theorem shows_of_pinging (member : w ∈ d.workers) (stage : w.stage = .pinging gate flight)
    (current : d.currentCycle? w = some b) : d.Shows b.generation .awaiting :=
  ⟨w, member, (currentCycle?_eq_some current).2.2.symm, by rw [stage]; rfl⟩

/-- The answer to a ping of another cycle passes this one by. -/
theorem passesBy_answered (hne : w.generation ≠ c.generation) (outcome : Outcome) :
    PassesBy c.generation d (d.record (.answered w.node.id w.generation outcome)) :=
  (PassesBy.refl c.generation d).record (by simpa [Event.pingOf?] using hne)

theorem stride_send (hd : d.Enrolled) (current : d.currentCycle? w = some b) (version : Int)
    (next : Flight)
    (hc : c ∈ (((d.putCycle { b with phase := .awaiting }).record
      (.pinged w.node w.generation (d.pingRequest w.node version))).setStage w.generation
        (.pinging gate next)).monitored.entries) :
    Stride d (((d.putCycle { b with phase := .awaiting }).record
      (.pinged w.node w.generation (d.pingRequest w.node version))).setStage w.generation
        (.pinging gate next)) c := by
  obtain ⟨hb, -, hg⟩ := currentCycle?_eq_some current
  rcases Table.mem_insert.1 hc with rfl | ⟨hbefore, hkey⟩
  · refine .sends hb rfl ⟨w.node, d.pingRequest w.node version, ?_⟩ fun phase hshows => ?_
    · show _ = Event.pinged w.node b.generation _ :: d.past
      rw [hg]
      rfl
    · rw [show Cycle.generation { b with phase := .awaiting } = w.generation from hg] at hshows
      exact (Option.some.inj (phase?_of_shows_setStage hshows)).symm
  · have hne := generation_ne_of_key hd current hbefore hkey
    refine .stays hbefore (((PassesBy.refl c.generation d).putCycle.record ?_).setStage (.inl hne))
    simpa [Event.pingOf?] using hne

theorem stride_rest (hd : d.Enrolled) (member : w ∈ d.workers)
    (stage : w.stage = .pinging gate flight) (current : d.currentCycle? w = some b) (wake : Nat)
    (hc : c ∈ (((((d.record (.answered w.node.id w.generation .done)).putCycle
      { b with failures := 0 }).setStage w.generation .ready).putCycle
        { b with failures := 0, phase := .backoff }).setStage w.generation
          (.resting wake)).monitored.entries) :
    Stride d (((((d.record (.answered w.node.id w.generation .done)).putCycle
      { b with failures := 0 }).setStage w.generation .ready).putCycle
        { b with failures := 0, phase := .backoff }).setStage w.generation (.resting wake)) c := by
  obtain ⟨hb, -, hg⟩ := currentCycle?_eq_some current
  rcases Table.mem_insert.1 hc with rfl | ⟨hbefore, hkey⟩
  · refine .rests hb (shows_of_pinging member stage current) rfl ⟨w.node.id, ?_⟩
      fun phase hshows => ?_
    · show _ = Event.answered w.node.id b.generation .done :: d.past
      rw [hg]
      rfl
    · rw [show Cycle.generation { b with failures := 0, phase := .backoff } = w.generation
        from hg] at hshows
      exact (Option.some.inj (phase?_of_shows_setStage hshows)).symm
  · obtain ⟨hbefore, -⟩ := (Table.mem_insert.1 hbefore).resolve_left fun heq =>
      hkey (congrArg Cycle.key heq).symm
    have hne := generation_ne_of_key hd current hbefore hkey
    exact .stays hbefore
      (((passesBy_answered hne .done).putCycle.setStage (.inl hne)).putCycle.setStage (.inl hne))

theorem stride_retry (hd : d.Enrolled) (member : w ∈ d.workers)
    (stage : w.stage = .pinging gate flight) (current : d.currentCycle? w = some b)
    (hc : c ∈ (((d.record (.answered w.node.id w.generation (.failed error))).putCycle
      { b with failures := b.failures + 1 }).setStage w.generation .ready).monitored.entries) :
    Stride d (((d.record (.answered w.node.id w.generation (.failed error))).putCycle
      { b with failures := b.failures + 1 }).setStage w.generation .ready) c := by
  obtain ⟨hb, -, hg⟩ := currentCycle?_eq_some current
  rcases Table.mem_insert.1 hc with rfl | ⟨hbefore, hkey⟩
  · refine .retries hb (shows_of_pinging member stage current) rfl fun phase hshows => ?_
    rw [show Cycle.generation { b with failures := b.failures + 1 } = w.generation from hg]
      at hshows
    cases phase?_of_shows_setStage hshows
  · have hne := generation_ne_of_key hd current hbefore hkey
    exact .stays hbefore ((passesBy_answered hne (.failed error)).putCycle.setStage (.inl hne))

end Answers

theorem Turn.stride (turn : Turn true d aside e) (hd : d.Attended)
    (hc : c ∈ e.monitored.entries) : Stride d e c := by
  have here := PassesBy.refl c.generation d
  cases turn with
  | pass => exact .stays hc (here.of_eq rfl rfl)
  | tell | hand | hear => exact .stays hc (here.record (by simp [Event.pingOf?]))
  | reconcile snapshot =>
    have haside := here.reconcile snapshot
    by_cases hbefore : c ∈ (d.pruned snapshot).monitored.entries
    · exact .stays (mem_pruned.1 hbefore).1 haside
    · obtain ⟨-, hnew, hfresh⟩ := (d.enlarged_reconcile snapshot).begun c hc hbefore
      rw [(d.pruned_frame snapshot).1] at hfresh
      exact .begins hnew hfresh haside
  | stop => exact absurd hc not_mem_stop
  | land =>
    refine .stays hc (here.updateWorker (fun w => ?_) fun w => ?_)
    · unfold Station.landFlight
      split <;> rfl
    · cases hstage : w.stage <;> simp [Station.landFlight, hstage, Stage.phase?]
  | @queue w member stage =>
    obtain ⟨gates, made, heq⟩ := d.gateFor_eq w.node.id
    rw [heq] at hc ⊢
    have hgates : PassesBy c.generation d { d with gates, gatesMade := made } := here.of_eq rfl rfl
    exact .stays hc (hgates.setStage (.inr rfl))
  | depart =>
    rw [leave_monitored] at hc
    exact .stays hc here.leave
  | wake => exact .stays hc (here.setStage (.inr rfl))
  | send version reply member stage free current =>
    exact stride_send hd.enrolled current version _ hc
  | abandon member stage retired =>
    rw [leave_monitored] at hc
    have hne := (hd.attendance.told _ member).1 retired c hc
    refine .stays hc (here.record ?_).leave
    simpa [Event.pingOf?] using Ne.symm hne
  | outlive member stage due superseded =>
    rw [leave_monitored] at hc
    have hne := hd.unregistered member superseded c hc
    exact .stays hc (passesBy_answered (Ne.symm hne) _).leave
  | rest member stage due current => exact stride_rest hd.enrolled member stage current _ hc
  | finish member stage due current orphaned => exact absurd orphaned (by decide)
  | retry member stage due current => exact stride_retry hd.enrolled member stage current hc
  | @exhaust w b gate flight error alive member stage due current =>
    rw [leave_monitored, report_eq] at hc
    obtain ⟨hbefore, hkey⟩ := Table.mem_erase.1 hc
    have hne := generation_ne_of_key hd.enrolled current hbefore hkey
    exact .stays hbefore ((passesBy_answered hne (.failed error)).removeCycle _ b).report.leave
  | @breakOff w b gate flight next error member stage due current =>
    have hc : c ∈ (Detector.lose _ _ b _ _).monitored.entries := hc
    rw [lose_monitored] at hc
    obtain ⟨hbefore, hkey⟩ := Table.mem_erase.1 hc
    have hne := generation_ne_of_key hd.enrolled current hbefore hkey
    exact .stays hbefore ((passesBy_answered hne (.failed error)).lose.setStage (.inr rfl))
  | @giveUp w b gate flight error alive member stage due current =>
    rw [leave_monitored, lose_monitored] at hc
    obtain ⟨hbefore, hkey⟩ := Table.mem_erase.1 hc
    have hne := generation_ne_of_key hd.enrolled current hbefore hkey
    exact .stays hbefore (passesBy_answered hne (.failed error)).lose.leave
  | disconnect =>
    rw [lose_monitored] at hc
    exact .stays (Table.mem_erase.1 hc).1 here.lose
  | reconnect => exact .endReconnect hc here.endReconnect
  | workerReconnect =>
    rw [leave_monitored] at hc
    exact .endReconnect hc here.endReconnect.leave

/-- What an entry says is what its worker is at, and what the past shows of the cycle's pings. -/
structure Candid (d : Detector) (c : Cycle) : Prop where
  idle : c.phase = .idle → c.failures = 0 ∧ Unpinged c.generation d.past
  backoff : c.phase = .backoff → c.failures = 0 ∧ Acknowledged c.generation d.past
  shown : ∀ phase, d.Shows c.generation phase → c.phase = phase
  pinging : d.Shows c.generation .awaiting → Unanswered c.generation d.past

/-- Only cycles that have begun are pinged, so nobody can have pinged on account of one to come. -/
theorem unpinged_of_fresh (hd : d.Enrolled) (hdriven : Always Driven d.past) {g : Generation}
    (fresh : d.issued < g.number) : Unpinged g d.past := by
  intro node request hpinged
  obtain ⟨later, earlier, hsplit⟩ := List.append_of_mem hpinged
  have hbegun := (hdriven _ earlier ⟨later, hsplit.symm⟩ node g request rfl).1
  have hissued := hd.begun (hsplit ▸ List.mem_append_right _ (List.mem_cons_of_mem _ hbegun))
  omega

/-- Nobody is at a cycle that is still to begin. -/
theorem not_shows_of_fresh (hd : d.Enrolled) {g : Generation} (fresh : d.issued < g.number)
    {phase : Phase} : ¬ d.Shows g phase := by
  rintro ⟨w, hw, rfl, -⟩
  have hissued := hd.begun (hd.worker w hw)
  omega

theorem Stride.candid (stride : Stride d e c) (hd : d.Enrolled) (hdriven : Always Driven d.past)
    (h : ∀ b ∈ d.monitored.entries, d.Candid b) : e.Candid c := by
  cases stride with
  | stays entry aside =>
    have hbefore := h c entry
    constructor
    case idle => exact fun hphase => (hbefore.idle hphase).imp_right aside.unpinged
    case backoff => exact fun hphase => (hbefore.backoff hphase).imp_right aside.since
    case shown => exact fun phase hshows => hbefore.shown phase (aside.shown phase hshows)
    case pinging => exact fun hshows => aside.since (hbefore.pinging (aside.shown _ hshows))
  | begins new fresh aside =>
    have hphase : c.phase = .idle := congrArg Cycle.phase new
    constructor
    case idle =>
      have hunpinged := aside.unpinged (unpinged_of_fresh hd hdriven fresh)
      exact fun _ => ⟨congrArg Cycle.failures new, hunpinged⟩
    case backoff => exact fun hbackoff => nomatch hphase.symm.trans hbackoff
    case shown =>
      exact fun phase hshows => absurd (aside.shown phase hshows) (not_shows_of_fresh hd fresh)
    case pinging =>
      exact fun hshows => absurd (aside.shown _ hshows) (not_shows_of_fresh hd fresh)
  | sends entry becomes sent shows =>
    have hphase : c.phase = .awaiting := congrArg Cycle.phase becomes
    obtain ⟨node, request, hpast⟩ := sent
    constructor
    case idle => exact fun hidle => nomatch hphase.symm.trans hidle
    case backoff => exact fun hbackoff => nomatch hphase.symm.trans hbackoff
    case shown => exact fun phase hshows => hphase.trans (shows phase hshows).symm
    case pinging =>
      intro _
      rw [hpast]
      exact .inl ⟨node, request, rfl⟩
  | rests entry pinging becomes answered shows =>
    have hphase : c.phase = .backoff := congrArg Cycle.phase becomes
    obtain ⟨id, hpast⟩ := answered
    constructor
    case idle => exact fun hidle => nomatch hphase.symm.trans hidle
    case backoff =>
      intro _
      rw [hpast]
      exact ⟨congrArg Cycle.failures becomes, .inl ⟨id, rfl⟩⟩
    case shown => exact fun phase hshows => hphase.trans (shows phase hshows).symm
    case pinging => exact fun hshows => nomatch shows _ hshows
  | @retries b entry pinging becomes shows =>
    have hphase : c.phase = .awaiting :=
      (congrArg Cycle.phase becomes).trans ((h b entry).shown _ pinging)
    constructor
    case idle => exact fun hidle => nomatch hphase.symm.trans hidle
    case backoff => exact fun hbackoff => nomatch hphase.symm.trans hbackoff
    case shown => exact fun phase hshows => absurd hshows (shows phase)
    case pinging => exact fun hshows => absurd hshows (shows _)

/-- The cycle has an entry already, the phase of which moves as it may, or it begins only now. -/
def Moved (d : Detector) (c : Cycle) : Prop :=
  (∃ b ∈ d.monitored.entries, b.generation = c.generation ∧ b.phase.Moves c.phase) ∨
    (c.phase = .idle ∧ ∀ node, .installed node c.generation ∉ d.past)

theorem Stride.moved (stride : Stride d e c) (hd : d.Enrolled)
    (h : ∀ b ∈ d.monitored.entries, d.Candid b) : d.Moved c := by
  cases stride with
  | stays entry => exact .inl ⟨c, entry, rfl, .stays _⟩
  | begins new fresh =>
    refine .inr ⟨congrArg Cycle.phase new, fun node hbegun => ?_⟩
    exact absurd (hd.begun hbegun) (Nat.not_le.2 fresh)
  | @sends b entry becomes =>
    subst becomes
    exact .inl ⟨b, entry, rfl, .awaits _⟩
  | @rests b entry pinging becomes =>
    subst becomes
    have hphase := (h b entry).shown _ pinging
    exact .inl ⟨b, entry, rfl, hphase ▸ .rests⟩
  | @retries b entry pinging becomes =>
    subst becomes
    exact .inl ⟨b, entry, rfl, .stays _⟩

end Stride

end Detector

namespace Station

variable {s t : Station} {c : Cycle}

theorem Reachable.candid (h : s.Reachable) (alive : s.alive = true) :
    ∀ c ∈ s.detector.monitored.entries, s.detector.Candid c := by
  refine (h.keepAlive (P := fun d => d.Attended ∧ Always Driven d.past ∧
    ∀ c ∈ d.monitored.entries, d.Candid c) (fun self cluster settings => ?_) ?_ alive).2.2
  · refine ⟨start_attended self cluster settings, always_nil, fun c hc => ?_⟩
    simp [Detector.start, Table.empty] at hc
  · rintro aside d e ⟨hd, hdriven, hcandid⟩ turn
    obtain ⟨label, new, hgrows, -⟩ := turn.grows hd.enrolled
    refine ⟨turn.attended hd, ?_, fun c hc => ?_⟩
    · rw [hgrows.past]
      exact hgrows.burst.driven hd.enrolled hdriven
    · exact (turn.stride hd hc).candid hd.enrolled hdriven hcandid

theorem Reachable.counted (h : s.Reachable) : s.detector.Counted none :=
  (h.keep (P := fun d => d.Enrolled ∧ d.Gated ∧ d.Counted none)
    (fun self cluster settings => ⟨start_enrolled self cluster settings,
      start_gated self cluster settings, start_counted self cluster settings⟩)
    fun ⟨hd, hgated, hcounted⟩ turn =>
      ⟨turn.enrolled hd, turn.gated hd hgated, turn.counted hd hgated hcounted⟩).2.2

/-- What one action makes of an entry. -/
theorem act_moved {action : Action} (h : s.Reachable) (hact : s.act action = some t)
    (alive : t.alive = true) (hc : c ∈ t.detector.monitored.entries) : s.detector.Moved c := by
  have halive := alive_of_act hact alive
  by_cases hstill : ∀ time, action ≠ .elapse time
  · obtain ⟨d, ⟨aside, turn⟩, -, informs⟩ := act_moment h.permitted hact hstill
    rw [alive] at turn
    have stride := turn.stride (h.attended halive) (informs.monitored ▸ hc)
    exact stride.moved h.enrolled (h.candid halive)
  · simp only [not_forall, not_not] at hstill
    obtain ⟨time, rfl⟩ := hstill
    obtain rfl := Option.some.inj hact
    exact .inl ⟨c, hc, rfl, .stays _⟩

/-- A cycle that is not idle will not be idle again, whatever is done to it; or it begins later. -/
theorem acts_moved {actions : List Action} (h : s.Reachable) (hacts : s.acts actions = some t)
    (alive : t.alive = true) (hc : c ∈ t.detector.monitored.entries) :
    (∃ b ∈ s.detector.monitored.entries, b.generation = c.generation ∧
      (b.phase ≠ .idle → c.phase ≠ .idle)) ∨ ∀ node, .installed node c.generation ∉ s.past := by
  induction actions generalizing s with
  | nil =>
    obtain rfl := Option.some.inj hacts
    exact .inl ⟨c, hc, rfl, id⟩
  | cons action rest ih =>
    obtain ⟨u, hact, hrest⟩ := Option.bind_eq_some_iff.1 hacts
    rcases ih (h.act hact) hrest with ⟨b, hb, hg, hlater⟩ | hunborn
    · rcases act_moved h hact (alive_of_acts hrest alive) hb with ⟨a, ha, hga, hmoves⟩ | hbegins
      · exact .inl ⟨a, ha, hga.trans hg, fun hphase => hlater (hmoves.not_idle hphase)⟩
      · exact .inr (hg ▸ hbegins.2)
    · have hpast := (act_continues h.permitted hact).past
      exact .inr fun node hbegun => hunborn node (hpast.mem hbegun)

/-- What the entry of a cycle says is so. -/
inductive Truthful (s : Station) (c : Cycle) : Prop
  | awaiting (phase : c.phase = .awaiting) (sent : Unanswered c.generation s.past)
      (one : (s.detector.history.tally c.node.id).inFlight = 1)
  | backoff (phase : c.phase = .backoff) (last : Acknowledged c.generation s.past)
      (cleared : c.failures = 0) (none : (s.detector.history.tally c.node.id).inFlight = 0)

theorem Reachable.inFlight_eq (h : s.Reachable) (id : NodeId) :
    (s.detector.history.tally id).inFlight = s.detector.workers.countP (Worker.pings id) := by
  have hcount := h.counted.all id
  unfold History.Tally.inFlight
  omega

/-- Where nothing can go on, the worker of an entry awaits an answer or rests. -/
theorem Reachable.shows_of_quiet (h : s.Reachable) (alive : s.alive = true) (quiet : s.Quiet)
    (hc : c ∈ s.detector.monitored.entries) : ∃ w ∈ s.detector.workers,
      w.generation = c.generation ∧ ((∃ gate flight, w.stage = .pinging gate flight) ∨
        ∃ wake, w.stage = .resting wake) := by
  obtain ⟨hd, hattendance⟩ := h.attended alive
  obtain ⟨w, hw, hg⟩ := hattendance.driven c hc
  obtain ⟨hready, hqueued⟩ := h.not_ready_of_quiet alive quiet hw hc hg.symm
  refine ⟨w, hw, hg, ?_⟩
  cases hstage : w.stage with
  | ready => exact absurd hstage hready
  | queued gate => exact absurd hstage (hqueued gate)
  | pinging gate flight => exact .inl ⟨gate, flight, rfl⟩
  | resting wake => exact .inr ⟨wake, rfl⟩
  | connecting flight =>
    have hretired := (hattendance.away w hw (by rw [hstage]; rfl)).1
    exact absurd hg.symm ((hattendance.told w hw).1 hretired c hc)

/-- Where nothing can go on, nobody but the worker of its entry pings a node. -/
theorem Reachable.pings_of_quiet (h : s.Reachable) (alive : s.alive = true) (quiet : s.Quiet)
    (hc : c ∈ s.detector.monitored.entries) {v : Worker} (hv : v ∈ s.detector.workers)
    (hpings : v.pings c.node.id = true) : v.generation = c.generation := by
  have hd := h.attended alive
  obtain ⟨hheld, hnode⟩ : v.held?.isSome = true ∧ v.node.id = c.node.id := by
    simpa [Worker.pings] using hpings
  have hunretired : ¬ v.retired = true := fun hretired => by
    rw [held?_of_quiet hd.enrolled quiet hv hretired] at hheld
    cases hheld
  obtain ⟨b, hb, hg, hbnode⟩ := hd.registered hv hunretired
  have hbc : b = c := by
    refine Table.eq_of_key_eq hb hc (congrArg NodeId.text ?_)
    rw [hbnode, hnode]
  exact hg.symm.trans (congrArg Cycle.generation hbc)

theorem Reachable.truthful_of_quiet (h : s.Reachable) (alive : s.alive = true) (quiet : s.Quiet)
    (hc : c ∈ s.detector.monitored.entries) : s.Truthful c := by
  have hd := h.enrolled
  have hcandid := h.candid alive c hc
  obtain ⟨w, hw, hg, ⟨gate, flight, hstage⟩ | ⟨wake, hstage⟩⟩ := h.shows_of_quiet alive quiet hc
  · have hshows : s.detector.Shows c.generation .awaiting := ⟨w, hw, hg, by rw [hstage]; rfl⟩
    refine .awaiting (hcandid.shown _ hshows) (hcandid.pinging hshows) (Nat.le_antisymm ?_ ?_)
    · exact h.counted.sent_le c.node.id
    · have hpings : w.pings c.node.id = true := by
        rw [hd.entry_node hw hc hg.symm]
        simp [Worker.pings, Worker.held?_of_pinging hstage]
      rw [h.inFlight_eq]
      exact List.countP_pos_iff.2 ⟨w, hw, hpings⟩
  · have hphase := hcandid.shown .backoff ⟨w, hw, hg, by rw [hstage]; rfl⟩
    obtain ⟨hcleared, hacknowledged⟩ := hcandid.backoff hphase
    refine .backoff hphase hacknowledged hcleared ?_
    rw [h.inFlight_eq]
    refine List.countP_eq_zero.2 fun v hv hpings => ?_
    have hvw := hd.worker_unique hv hw ((h.pings_of_quiet alive quiet hc hv hpings).trans hg.symm)
    simp [Worker.pings, hvw, Worker.held?, hstage] at hpings

/-- What the phases of the entries are worth. -/
structure PhasesTruthful (s : Station) : Prop where
  settled : s.Quiet → ∀ c ∈ s.detector.monitored.entries, s.Truthful c
  idle : ∀ c ∈ s.detector.monitored.entries, c.phase = .idle →
    c.failures = 0 ∧ Unpinged c.generation s.past
  moves : ∀ action t, s.act action = some t → t.alive = true →
    ∀ c ∈ t.detector.monitored.entries, s.detector.Moved c
  onward : ∀ actions t, s.acts actions = some t → t.alive = true →
    ∀ b ∈ s.detector.monitored.entries, ∀ c ∈ t.detector.monitored.entries,
      b.generation = c.generation → b.phase ≠ .idle → c.phase ≠ .idle

/-- Where nothing can go on, every cycle awaits the answer to its one ping or rests after one that
was acknowledged, and its entry says which; and phases move on as they may, and never back. -/
theorem Reachable.phases_truthful (h : s.Reachable) (alive : s.alive = true) :
    s.PhasesTruthful := by
  have hd := h.enrolled
  constructor
  case settled => exact fun quiet c hc => h.truthful_of_quiet alive quiet hc
  case idle => exact fun c hc hphase => (h.candid alive c hc).idle hphase
  case moves => exact fun action t hact halive c hc => act_moved h hact halive hc
  case onward =>
    intro actions t hacts halive b hb c hc hg hphase
    rcases acts_moved h hacts halive hc with ⟨a, ha, hga, hlater⟩ | hunborn
    · obtain rfl := hd.entry_unique ha hb (hga.trans hg.symm)
      exact hlater hphase
    · exact absurd (hd.entry b hb) (hg ▸ hunborn b.node)

/-- The peer has left and come back while it was pinged, and the worker that pinged it has gone. -/
def addedAgain : Station :=
  Trial.after .standard (Link.silent.setReply Trial.other.id Link.atOnce) [
    .reconcile (Trial.together.withNode Trial.other),
    .run true (.worker ⟨1⟩), .run true (.worker ⟨1⟩), .run true (.worker ⟨1⟩),
    .run true (.worker ⟨2⟩), .run true (.worker ⟨2⟩),
    .reconcile (Trial.alone.withNode Trial.other),
    .reconcile (Trial.together.withNode Trial.other), .run true (.worker ⟨3⟩),
    .run true (.worker ⟨2⟩), .run true (.worker ⟨3⟩)] (by decide)

theorem phases_truthful_added_again :
    addedAgain.alive = true ∧ addedAgain.Quiet ∧
      addedAgain.detector.monitored.entries =
        [⟨Trial.other, ⟨1⟩, 0, .backoff⟩, ⟨Trial.peer, ⟨3⟩, 0, .awaiting⟩] ∧
      addedAgain.PhasesTruthful :=
  ⟨by decide, by decide, by decide,
    Reachable.phases_truthful (Trial.reachable (by decide)) (by decide)⟩

end Station
end ClusterWatch
