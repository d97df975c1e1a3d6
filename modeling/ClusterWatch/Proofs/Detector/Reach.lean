import ClusterWatch.Proofs.Detector.Turn
import ClusterWatch.Proofs.Others
import ClusterWatch.Proofs.Trial

/-!
The states that a station can come to. Every action is a number of turns of the detector, so
a property of the detector that holds at the start and is kept by every turn holds in every
state that some list of actions leads to.
-/
namespace ClusterWatch

open Detector

/-- The worker's reconnect is under way. -/
def Stage.connects : Stage → Bool
  | .connecting _ => true
  | _ => false

namespace Detector

/-- A worker is in a reconnect only if the settings ask for reconnects. -/
def Permitted (d : Detector) : Prop :=
  ∀ w ∈ d.workers, w.stage.connects = true → d.settings.reconnect = true

namespace Permitted

variable {d : Detector}

theorem updateWorker {g : Generation} {change : Worker → Worker} (h : d.Permitted)
    (hchange : ∀ w, (change w).stage.connects = true →
      w.stage.connects = true ∨ d.settings.reconnect = true) :
    (d.updateWorker g change).Permitted := by
  intro w hw hstage
  obtain ⟨v, hv, rfl⟩ := List.mem_map.1 hw
  split at hstage
  next =>
    rcases hchange v hstage with hbefore | hallowed
    · exact h v hv hbefore
    · exact hallowed
  next => exact h v hv hstage

theorem setStage {g : Generation} {stage : Stage} (h : d.Permitted)
    (hstage : stage.connects = false) : (d.setStage g stage).Permitted :=
  h.updateWorker fun _ hs => absurd (hs.symm.trans hstage) (by decide)

theorem removeCycle {cause : Removal} {c : Cycle} (h : d.Permitted) :
    (d.removeCycle cause c).Permitted :=
  updateWorker (d := { d with monitored := d.monitored.erase c.key }) h fun _ hs => Or.inl hs

theorem report {node : Node} {g : Generation} {reason : FailureReason} (h : d.Permitted) :
    (d.report node g reason).Permitted := by
  rw [report_eq]
  exact h

theorem install {node : Node} (h : d.Permitted) : (d.install node).Permitted := by
  rcases d.install_eq node with ⟨-, heq⟩ | ⟨-, heq⟩
  · rw [heq]
    exact h
  · rw [heq]
    intro w hw hstage
    rcases List.mem_append.1 hw with hw | hw
    · exact h w hw hstage
    · obtain rfl := List.mem_singleton.1 hw
      simp [Stage.connects] at hstage

theorem leave {alive : Bool} {w : Worker} (h : d.Permitted) : (d.leave alive w).Permitted := by
  obtain ⟨gates, heq⟩ := d.leave_eq alive w
  rw [heq]
  exact fun v hv => h v (List.mem_filter.1 hv).1

theorem lose {cause : Removal} {c : Cycle} {node : Node} {lost : Generation} (h : d.Permitted) :
    (d.lose cause c node lost).Permitted := by
  have hremoved : (d.removeCycle cause c).Permitted := h.removeCycle
  exact lose_keep hremoved hremoved.report

theorem endReconnect {node : Node} {lost : Generation} {outcome : Outcome} (h : d.Permitted) :
    (d.endReconnect node lost outcome).Permitted := by
  have hrecorded (e : Event) : (d.record e).Permitted := h
  exact endReconnect_keep (hrecorded _).install fun _ => (hrecorded _).report

end Permitted

theorem Turn.permitted {lives : Bool} {aside : Aside} {d e : Detector}
    (turn : Turn lives d aside e) (h : d.Permitted) : e.Permitted := by
  cases turn with
  | pass | tell | hand | hear => exact h
  | reconcile snapshot =>
    exact reconcile_keep (P := Permitted) h (fun _ _ he _ => he.removeCycle)
      fun _ _ he _ _ => he.install
  | stop => exact stop_keep (P := Permitted) h fun _ _ he _ => he.removeCycle
  | land g now outcome =>
    refine h.updateWorker fun w hs => Or.inl ?_
    unfold Station.landFlight at hs
    cases hstage : w.stage <;> simp_all [Stage.connects]
  | @queue w member stage =>
    obtain ⟨gates, made, heq⟩ := d.gateFor_eq w.node.id
    rw [heq]
    exact Permitted.setStage (d := { d with gates, gatesMade := made }) h rfl
  | depart | abandon | outlive => exact Permitted.leave h
  | wake => exact h.setStage rfl
  | send => exact Permitted.setStage (d := Detector.record _ _) h rfl
  | rest =>
    exact Permitted.setStage (d := Detector.putCycle _ _)
      (Permitted.setStage (d := Detector.putCycle _ _) h rfl) rfl
  | finish =>
    refine Permitted.leave (d := Detector.setStage _ _ .ready) ?_
    exact Permitted.setStage (d := Detector.putCycle _ _) h rfl
  | retry => exact Permitted.setStage (d := Detector.putCycle _ _) h rfl
  | exhaust => exact (Permitted.removeCycle (d := Detector.record _ _) h).report.leave
  | breakOff member stage due current lost allowed =>
    refine (Permitted.lose (d := Detector.record _ _) h).updateWorker fun _ _ => Or.inr ?_
    rw [lose_settings]
    exact allowed
  | giveUp => exact (Permitted.lose (d := Detector.record _ _) h).leave
  | disconnect => exact h.lose
  | reconnect => exact h.endReconnect
  | workerReconnect => exact h.endReconnect.leave

/-- Who sets out on an errand does so on account of a reconnect that begins with the turn. -/
theorem Turn.reconnects_of_setsOut {lives : Bool} {aside : Aside} {d e : Detector}
    (turn : Turn lives d aside e) {errand : Errand} (h : aside = .setsOut errand) :
    e.Reconnects errand.node errand.lost := by
  cases turn with
  | disconnect node found =>
    split at h
    next allowed =>
      obtain rfl := Aside.setsOut.inj h
      exact lose_reconnects allowed
    next => cases h
  | _ => cases h

end Detector

/-- What is awaited, if a reconnect is. -/
def HandlerStage.errand? : HandlerStage → Option Errand
  | .fresh _ => none
  | .connecting node lost _ => some ⟨node, lost⟩

def FeedStage.errand? : FeedStage → Option Errand
  | .connecting node lost _ => some ⟨node, lost⟩
  | _ => none

namespace Station

def past (s : Station) : Past := s.detector.past

/-- Some list of actions leads to the station from a start. -/
def Reachable (s : Station) : Prop :=
  ∃ self cluster settings initial link actions,
    (start self cluster settings initial link).acts actions = some s

/-- The reconnects that are awaited by those who were told of a loss of connection. -/
def errands (s : Station) : List Errand :=
  s.handlers.filterMap (·.stage.errand?) ++ s.feed.stage.errand?.toList

/-- A reconnect is under way only if the settings ask for reconnects and it has begun. Those who
were told of a loss directly are told apart by their numbers. -/
structure Permitted (s : Station) : Prop where
  workers : s.detector.Permitted
  errands : ∀ errand ∈ s.errands, s.detector.Reconnects errand.node errand.lost
  distinct : (s.handlers.map DisconnectHandler.number).Nodup
  made : ∀ h ∈ s.handlers, h.number < s.handlersMade

/-- Only the stages of the workers tell whether they keep the detector alive. -/
theorem endWorker_alive (s : Station) (w : Worker) :
    (s.endWorker w).alive = { s with detector := s.detector.dropWorker w.generation }.alive := by
  unfold endWorker
  dsimp only
  split
  · obtain ⟨gates, heq⟩ := (s.detector.dropWorker w.generation).releaseGate_eq w.node.id
    rw [heq]
    rfl
  · rfl

theorem endWorker_eq (s : Station) (w : Worker) :
    ∃ alive, ((s.endWorker w).alive = true → alive = true) ∧
      s.endWorker w = { s with detector := s.detector.leave alive w } := by
  refine ⟨(s.endWorker w).alive, id, ?_⟩
  rw [endWorker_alive]
  unfold endWorker leave
  dsimp only
  split <;> rfl

/-- With one worker less, a detector that was gone is gone still. -/
theorem endWorker_gone {s : Station} {w : Worker} (h : ¬ s.alive = true) :
    (s.endWorker w).alive = false := by
  rw [endWorker_alive]
  simp only [alive, Bool.or_eq_true, not_or, Bool.not_eq_true] at h ⊢
  obtain ⟨⟨⟨howned, hworkers⟩, hhandlers⟩, hfeed⟩ := h
  have hless : (s.detector.workers.filter fun v => v.generation ≠ w.generation).any
      Worker.keepsDetector = false :=
    List.any_eq_false.2 fun v hv => List.any_eq_false.1 hworkers v (List.mem_filter.1 hv).1
  simp only [Bool.or_eq_false_iff]
  exact ⟨⟨⟨howned, hless⟩, hhandlers⟩, hfeed⟩

/-- What becomes of the detector when a connection is lost, and whether a reconnect begins. -/
theorem afterDisconnect_eq (s : Station) (node : Node) (lost : Generation) :
    ∃ link, (s.afterDisconnect node lost).1 = { s with
        link
        detector := if s.detector.settings.reconnect then s.detector.record (.connecting node lost)
          else s.detector.report node lost .disconnected } ∧
      (s.afterDisconnect node lost).2.isSome = s.detector.settings.reconnect := by
  unfold afterDisconnect
  cases s.detector.settings.reconnect with
  | true => exact ⟨_, rfl, rfl⟩
  | false => exact ⟨s.link, rfl, rfl⟩

theorem loseConnection_of_none {s : Station} {node : Node}
    (h : s.detector.cycle? node.id = none) : s.loseConnection node = (s, none) := by
  simp [loseConnection, h]

theorem loseConnection_of_some {s : Station} {node : Node} {c : Cycle}
    (h : s.detector.cycle? node.id = some c) :
    ∃ link, (s.loseConnection node).1 = { s with
        link
        detector := s.detector.lose .lostByEvent c node c.generation } ∧
      (s.loseConnection node).2.map Prod.fst =
        if s.detector.settings.reconnect then some c.generation else none := by
  let dropped : Station := { s with detector := s.detector.removeCycle .lostByEvent c }
  obtain ⟨link, hstation, hflight⟩ := afterDisconnect_eq dropped node c.generation
  refine ⟨link, ?_, ?_⟩
  · simp only [loseConnection, h, lose]
    exact hstation
  · have hallowed : dropped.detector.settings.reconnect = s.detector.settings.reconnect := rfl
    rw [hallowed] at hflight
    simp only [loseConnection, h, Option.map_map]
    show Option.map _ (dropped.afterDisconnect node c.generation).2 = _
    cases hnext : (dropped.afterDisconnect node c.generation).2 with
    | none => simp [← hflight, hnext]
    | some next => simp [← hflight, hnext]

/-- What an attempt to connect, if there is one, is to those on errands. -/
def asideOf (node : Node) : Option (Generation × Flight) → Aside
  | none => .nothing
  | some (lost, _) => .setsOut ⟨node, lost⟩

/-- Telling of a lost connection is one turn of the detector. -/
theorem loseConnection_turn (s : Station) (node : Node) :
    ∃ link d, (∀ lives, Turn lives s.detector (asideOf node (s.loseConnection node).2) d) ∧
      (s.loseConnection node).1 = { s with link, detector := d } := by
  cases found : s.detector.cycle? node.id with
  | none =>
    rw [loseConnection_of_none found]
    exact ⟨s.link, s.detector, fun _ => .pass _ s.detector.registry s.detector.bulletin, rfl⟩
  | some c =>
    obtain ⟨link, hstation, hattempt⟩ := loseConnection_of_some found
    have turn (lives : Bool) : Turn lives s.detector _ _ := .disconnect node found
    refine ⟨link, _, ?_, hstation⟩
    cases allowed : s.detector.settings.reconnect with
    | true =>
      simp only [allowed, ↓reduceIte] at hattempt turn
      obtain ⟨⟨lost, flight⟩, hsome, rfl⟩ := Option.map_eq_some_iff.1 hattempt
      rw [hsome]
      exact turn
    | false =>
      simp only [allowed, Bool.false_eq_true, ↓reduceIte] at hattempt turn
      rw [Option.map_eq_none_iff.1 hattempt]
      exact turn

/-- The station is `s` but for its link and for one turn of its detector. -/
def TurnsTo (s t : Station) : Prop :=
  ∃ d link, Turn t.alive s.detector .nothing d ∧ t = { s with link, detector := d }

section Worker

variable {s : Station} {w : Worker} {gate : Nat} {flight : Flight}

theorem loseByPing_turn {c : Cycle} {error : TransportError} (member : w ∈ s.detector.workers)
    (stage : w.stage = .pinging gate flight)
    (due : flight.outcome? s.detector.now = some (.failed error))
    (current : s.detector.currentCycle? w = some c) (lost : error.isDisconnect = true) :
    s.TurnsTo ({ s with
      detector := s.detector.record (.answered w.node.id w.generation (.failed error)) }.loseByPing
        w c) := by
  let dropped : Station := { s with
    detector := (s.detector.record (.answered w.node.id w.generation (.failed error))).removeCycle
      .lostByPing c }
  obtain ⟨link, hstation, hflight⟩ := afterDisconnect_eq dropped w.node w.generation
  unfold loseByPing
  rcases hlose : dropped.afterDisconnect w.node w.generation with ⟨t, next?⟩
  rw [hlose] at hstation hflight
  dsimp only at hstation hflight
  subst hstation
  have hsettings : dropped.detector.settings.reconnect = s.detector.settings.reconnect := rfl
  rw [hsettings] at hflight
  cases next? with
  | some next =>
    exact ⟨_, link, .breakOff member stage due current lost hflight.symm, rfl⟩
  | none =>
    obtain ⟨alive, kept, heq⟩ := endWorker_eq { dropped with
      link
      detector := if dropped.detector.settings.reconnect then
        dropped.detector.record (.connecting w.node w.generation)
      else dropped.detector.report w.node w.generation .disconnected } w
    exact ⟨_, link, .giveUp member stage due current lost hflight.symm kept, heq⟩

theorem countFailure_turn {c : Cycle} {error : TransportError} (member : w ∈ s.detector.workers)
    (stage : w.stage = .pinging gate flight)
    (due : flight.outcome? s.detector.now = some (.failed error))
    (current : s.detector.currentCycle? w = some c) (counted : ¬ error.isDisconnect = true) :
    s.TurnsTo (Station.countFailure
      { s with detector := s.detector.record (.answered w.node.id w.generation (.failed error)) }
      w c) := by
  have hcounted : error.isDisconnect = false := by simpa using counted
  unfold countFailure
  dsimp only
  split
  next left => exact ⟨_, s.link, .retry member stage due current hcounted left, rfl⟩
  next spent =>
    let answered := s.detector.record (.answered w.node.id w.generation (.failed error))
    obtain ⟨alive, kept, heq⟩ := endWorker_eq { s with
      detector := (answered.removeCycle .unresponsive c).report w.node w.generation
        (.unresponsive s.detector.settings.retries s.detector.settings.timeoutDuration) } w
    exact ⟨_, s.link, .exhaust member stage due current hcounted (Nat.not_lt.1 spent) kept, heq⟩

theorem settlePing_turn {outcome : Outcome} (member : w ∈ s.detector.workers)
    (stage : w.stage = .pinging gate flight)
    (due : flight.outcome? s.detector.now = some outcome) :
    s.TurnsTo (s.settlePing w outcome) := by
  let answered : Station :=
    { s with detector := s.detector.record (.answered w.node.id w.generation outcome) }
  have hsame : answered.detector.currentCycle? w = s.detector.currentCycle? w := rfl
  unfold settlePing
  dsimp only
  rw [hsame]
  cases current : s.detector.currentCycle? w with
  | none =>
    obtain ⟨alive, kept, heq⟩ := endWorker_eq answered w
    exact ⟨_, s.link, .outlive member stage due current kept, heq⟩
  | some c =>
    cases outcome with
    | done =>
      dsimp only [acknowledge]
      split
      next => exact ⟨_, s.link, .rest member stage due current, rfl⟩
      next hdead =>
        obtain ⟨alive, -, heq⟩ := endWorker_eq _ w
        exact ⟨_, s.link, .finish member stage due current (endWorker_gone hdead), heq⟩
    | failed error =>
      dsimp only
      split
      next lost => exact loseByPing_turn member stage due current lost
      next counted => exact countFailure_turn member stage due current counted

theorem queueWorker_turn (member : w ∈ s.detector.workers) (stage : w.stage = .ready) :
    s.TurnsTo (s.queueWorker w) :=
  ⟨_, s.link, .queue member stage, rfl⟩

theorem sendPing_turn {c : Cycle} (member : w ∈ s.detector.workers)
    (stage : w.stage = .queued gate) (free : s.detector.gateHeld gate = false)
    (current : s.detector.currentCycle? w = some c) : s.TurnsTo (s.sendPing w c gate) :=
  ⟨_, _, .send s.supplier.current.version (s.link.takePing w.node.id).1 member stage free current,
    rfl⟩

theorem abandonPing_turn (member : w ∈ s.detector.workers)
    (stage : w.stage = .pinging gate flight) (retired : w.retired = true) :
    s.TurnsTo (s.abandonPing w) := by
  obtain ⟨alive, kept, heq⟩ := endWorker_eq
    { s with detector := s.detector.record (.abandoned w.node.id w.generation) } w
  exact ⟨_, s.link, .abandon member stage retired kept, heq⟩

theorem depart_turn (member : w ∈ s.detector.workers) (idle : w.engaged = false)
    (reason : (s.endWorker w).alive = false ∨ w.retired = true ∨
      s.detector.currentCycle? w = none) : s.TurnsTo (s.endWorker w) := by
  obtain ⟨alive, kept, heq⟩ := endWorker_eq s w
  exact ⟨_, s.link, .depart member idle reason kept, heq⟩

/-- A stretch of a worker is one turn of the detector. -/
theorem runWorker_turn {heed : Bool} {t : Station} (member : w ∈ s.detector.workers)
    (permitted : s.Permitted) (h : s.runWorker heed w = some t) : s.TurnsTo t := by
  unfold runWorker at h
  cases stage : w.stage with
  | ready =>
    simp only [stage, Option.some.injEq] at h
    subst h
    split
    next => exact queueWorker_turn member stage
    next hdead =>
      exact depart_turn member (by simp [Worker.engaged, stage])
        (Or.inl (endWorker_gone hdead))
  | queued gate =>
    have idle : w.engaged = false := by simp [Worker.engaged, stage]
    simp only [stage] at h
    split at h
    next hretired =>
      obtain rfl := Option.some.inj h
      have retired : w.retired = true := by
        rw [Bool.and_eq_true] at hretired
        exact hretired.1
      exact depart_turn member idle (Or.inr (Or.inl retired))
    next =>
      split at h
      next => simp at h
      next hfree =>
        have free : s.detector.gateHeld gate = false := by simpa using hfree
        cases current : s.detector.currentCycle? w with
        | none =>
          rw [current] at h
          obtain rfl := Option.some.inj h
          exact depart_turn member idle (Or.inr (Or.inr current))
        | some c =>
          rw [current] at h
          obtain rfl := Option.some.inj h
          exact sendPing_turn member stage free current
  | pinging gate flight =>
    simp only [stage] at h
    split at h
    next hretired =>
      obtain rfl := Option.some.inj h
      rw [Bool.and_eq_true] at hretired
      exact abandonPing_turn member stage hretired.1
    next =>
      cases due : flight.outcome? s.now with
      | some outcome =>
        rw [due] at h
        obtain rfl := Option.some.inj h
        exact settlePing_turn member stage due
      | none =>
        rw [due] at h
        dsimp only at h
        split at h
        next retired =>
          obtain rfl := Option.some.inj h
          exact abandonPing_turn member stage retired
        next => simp at h
  | resting wake =>
    simp only [stage] at h
    split at h
    next hretired =>
      obtain rfl := Option.some.inj h
      rw [Bool.and_eq_true] at hretired
      exact depart_turn member (by simp [Worker.engaged, stage]) (Or.inr (Or.inl hretired.1))
    next =>
      split at h
      next => simp at h
      next hdue =>
        obtain rfl := Option.some.inj h
        exact ⟨_, s.link, .wake member stage (Nat.not_lt.1 hdue), rfl⟩
  | connecting flight =>
    simp only [stage] at h
    obtain ⟨outcome, due, rfl⟩ := Option.map_eq_some_iff.1 h
    have allowed := permitted.workers w member (by simp [stage, Stage.connects])
    obtain ⟨alive, kept, heq⟩ := endWorker_eq (s.endReconnect w.node w.generation outcome) w
    exact ⟨_, s.link, .workerReconnect member stage due allowed kept, heq⟩

end Worker

/-- What an action or a stretch brings about: turns of the detector, and still no reconnect
that the settings do not ask for. -/
def Advances (s t : Station) : Prop :=
  Turns t.alive s.detector s.errands t.detector t.errands ∧ t.Permitted

section Beside

variable {s t : Station}

theorem advances_of_turns (turns : Turns t.alive s.detector s.errands t.detector t.errands)
    (permitted : s.Permitted) (distinct : (t.handlers.map DisconnectHandler.number).Nodup)
    (made : ∀ h ∈ t.handlers, h.number < t.handlersMade) : s.Advances t := by
  let Allowed (d : Detector) (errands : List Errand) : Prop :=
    d.Permitted ∧ ∀ errand ∈ errands, d.Reconnects errand.node errand.lost
  have hallowed : Allowed t.detector t.errands := by
    refine turns.keepBoth ⟨permitted.workers, permitted.errands⟩ ?_
    rintro aside d e before after ⟨hd, herrands⟩ turn moves
    refine ⟨turn.permitted hd, fun errand herrand => ?_⟩
    have hkept (h : errand ∈ before) : e.Reconnects errand.node errand.lost :=
      turn.continues.reconnects (herrands errand h)
    cases aside with
    | nothing => exact hkept (moves.mem_iff.1 herrand)
    | setsOut first =>
      rcases List.mem_cons.1 (moves.mem_iff.1 herrand) with rfl | h
      · exact turn.reconnects_of_setsOut rfl
      · exact hkept h
    | returns last => exact hkept (moves.mem_iff.2 (List.mem_cons_of_mem _ herrand))
  exact ⟨turns, hallowed.1, hallowed.2, distinct, made⟩

/-- The detector takes its turns, and those who were told of a loss stay as they are. -/
theorem advances_alone (turns : Turns t.alive s.detector s.errands t.detector s.errands)
    (permitted : s.Permitted)
    (hbeside : (t.handlers, t.handlersMade, t.feed) = (s.handlers, s.handlersMade, s.feed)) :
    s.Advances t := by
  obtain ⟨hhandlers, hmade, hfeed⟩ :
      t.handlers = s.handlers ∧ t.handlersMade = s.handlersMade ∧ t.feed = s.feed := by
    simpa using hbeside
  have herrands : t.errands = s.errands := by
    unfold errands
    rw [hhandlers, hfeed]
  refine advances_of_turns (herrands ▸ turns) permitted ?_ ?_
  · rw [hhandlers]
    exact permitted.distinct
  · rw [hhandlers, hmade]
    exact permitted.made

theorem turns_of_turn {d e : Detector} {errands : List Errand} {lives : Bool}
    (turn : Turn lives d .nothing e) : Turns lives d errands e errands :=
  turn.turns (List.Perm.refl errands)

theorem TurnsTo.advances (h : s.TurnsTo t) (permitted : s.Permitted) : s.Advances t := by
  obtain ⟨d, link, turn, rfl⟩ := h
  exact advances_alone (turns_of_turn turn) permitted rfl

section Handler

variable {h : DisconnectHandler}

/-- Whoever is done leaves the others on their errands. -/
theorem errands_endHandler (member : h ∈ s.handlers) (permitted : s.Permitted) :
    s.errands.Perm (h.stage.errand?.toList ++ (s.endHandler h).errands) := by
  unfold errands endHandler
  rw [← List.append_assoc]
  exact List.Perm.append_right _ (filterMap_perm_others member permitted.distinct)

theorem errands_setHandler (member : h ∈ s.handlers) (permitted : s.Permitted)
    (idle : h.stage.errand? = none) (stage : HandlerStage) :
    (s.setHandler h stage).errands.Perm (stage.errand?.toList ++ s.errands) := by
  unfold errands setHandler
  rw [← List.append_assoc]
  exact List.Perm.append_right _
    (filterMap_perm_change member permitted.distinct idle fun other => { other with stage })

/-- Some have been told of a loss, and the detector has taken its turns. -/
theorem advances_setHandler {d : Detector} {link : Link} {stage : HandlerStage}
    (permitted : s.Permitted)
    (turns : ∀ lives, Turns lives s.detector s.errands d (s.setHandler h stage).errands) :
    s.Advances ({ s with link, detector := d }.setHandler h stage) := by
  refine advances_of_turns (turns _) permitted ?_ fun k hk => ?_
  · show ((s.handlers.map _).map DisconnectHandler.number).Nodup
    rw [List.map_map]
    refine (List.map_congr_left fun other _ => ?_) ▸ permitted.distinct
    simp only [Function.comp_apply]
    split <;> rfl
  · obtain ⟨other, hother, rfl⟩ := List.mem_map.1 hk
    have hmade := permitted.made other hother
    split <;> exact hmade

theorem advances_endHandler {d : Detector} {link : Link} (permitted : s.Permitted)
    (turns : ∀ lives, Turns lives s.detector s.errands d (s.endHandler h).errands) :
    s.Advances ({ s with link, detector := d }.endHandler h) :=
  advances_of_turns (turns _) permitted (permitted.distinct.sublist (List.filter_sublist.map _))
    fun k hk => permitted.made k (List.mem_filter.1 hk).1

theorem runHandler_advances (member : h ∈ s.handlers) (permitted : s.Permitted)
    (hrun : s.runHandler h = some t) : s.Advances t := by
  have hend := errands_endHandler member permitted
  unfold runHandler at hrun
  cases stage : h.stage with
  | fresh node =>
    have idle : h.stage.errand? = none := by
      rw [stage]
      rfl
    rw [idle] at hend
    simp only [stage] at hrun
    obtain ⟨link, d, turn, hstation⟩ := s.loseConnection_turn node
    rcases hlose : s.loseConnection node with ⟨u, attempt?⟩
    rw [hlose] at hrun turn hstation
    dsimp only at hstation
    subst hstation
    cases attempt? with
    | none =>
      obtain rfl := Option.some.inj hrun
      exact advances_endHandler permitted fun lives => (turn lives).turns hend.symm
    | some attempt =>
      obtain rfl := Option.some.inj hrun
      have hmoved := errands_setHandler member permitted idle (.connecting node attempt.1 attempt.2)
      exact advances_setHandler permitted fun lives => (turn lives).turns hmoved
  | connecting node lost flight =>
    simp only [stage] at hrun hend
    obtain ⟨outcome, -, rfl⟩ := Option.map_eq_some_iff.1 hrun
    have begun := permitted.errands ⟨node, lost⟩ (hend.mem_iff.2 (by simp [HandlerStage.errand?]))
    have turn (lives : Bool) : Turn lives s.detector _ _ := .reconnect outcome begun
    exact advances_endHandler permitted fun lives => (turn lives).turns hend

end Handler

/-- The detector takes its turns, and the feed goes on. -/
theorem advances_feed {d : Detector} {link : Link} {feed : DisconnectFeed}
    (permitted : s.Permitted)
    (turns : ∀ lives, Turns lives s.detector s.errands d { s with feed }.errands) :
    s.Advances { s with link, detector := d, feed } :=
  advances_of_turns (turns _) permitted permitted.distinct permitted.made

theorem runFeed_advances (permitted : s.Permitted) (hrun : s.runFeed = some t) :
    s.Advances t := by
  unfold runFeed at hrun
  cases stage : s.feed.stage with
  | off => simp [stage] at hrun
  | listening =>
    have idle : s.feed.stage.errand? = none := by
      rw [stage]
      rfl
    have herrands (feed : DisconnectFeed) (hfeed : feed.stage.errand? = none) :
        { s with feed }.errands = s.errands := by
      simp only [errands, hfeed, idle]
    simp only [stage] at hrun
    cases hevents : s.feed.events with
    | nil => simp [hevents] at hrun
    | cons node rest =>
      simp only [hevents] at hrun
      split at hrun
      next =>
        let taken : Station := { s with feed := ⟨rest, .listening⟩ }
        obtain ⟨link, d, turn, hstation⟩ := taken.loseConnection_turn node
        rcases hlose : taken.loseConnection node with ⟨u, attempt?⟩
        rw [hlose] at hrun turn hstation
        dsimp only at hstation
        subst hstation
        cases attempt? with
        | none =>
          obtain rfl := Option.some.inj hrun
          refine advances_feed permitted fun lives => (turn lives).turns ?_
          rw [herrands ⟨rest, .listening⟩ rfl]
          exact List.Perm.refl _
        | some attempt =>
          obtain rfl := Option.some.inj hrun
          refine advances_feed permitted fun lives => (turn lives).turns ?_
          rw [← herrands ⟨rest, .listening⟩ rfl]
          simp only [errands, FeedStage.errand?, Option.toList_none, Option.toList_some,
            List.append_nil]
          exact List.perm_append_singleton _ _
      next =>
        obtain rfl := Option.some.inj hrun
        refine advances_feed permitted fun _ => ?_
        rw [herrands ⟨[], .off⟩ rfl]
        exact .none _ _
  | connecting node lost flight =>
    simp only [stage] at hrun
    obtain ⟨outcome, -, rfl⟩ := Option.map_eq_some_iff.1 hrun
    have hback : s.errands.Perm (⟨node, lost⟩ ::
        { s with feed := ⟨s.feed.events, .listening⟩ }.errands) := by
      simp only [errands, stage, FeedStage.errand?, Option.toList_none, Option.toList_some,
        List.append_nil]
      exact List.perm_append_singleton _ _
    have begun := permitted.errands ⟨node, lost⟩ (hback.mem_iff.2 List.mem_cons_self)
    have turn (lives : Bool) : Turn lives s.detector _ _ := .reconnect outcome begun
    exact advances_feed permitted fun lives => (turn lives).turns hback

theorem followTo_advances {index : Nat} {subscription : Subscription} {snapshot : Snapshot}
    (permitted : s.Permitted) : s.Advances (s.followTo index subscription snapshot) := by
  unfold followTo
  split
  · exact advances_alone (turns_of_turn (.reconcile snapshot)) permitted rfl
  · exact advances_alone (.none _ _) permitted rfl

theorem runFollower_advances {index : Nat} {follower : Follower} (permitted : s.Permitted)
    (hrun : s.runFollower index follower = some t) : s.Advances t := by
  unfold runFollower at hrun
  split at hrun
  next =>
    obtain rfl := Option.some.inj hrun
    exact followTo_advances permitted
  next =>
    split at hrun
    next =>
      obtain rfl := Option.some.inj hrun
      exact followTo_advances permitted
    next => simp at hrun
    next =>
      obtain rfl := Option.some.inj hrun
      split
      · exact advances_alone (turns_of_turn .stop) permitted rfl
      · exact advances_alone (.none _ _) permitted rfl
  next => simp at hrun

theorem deliver_turns {lives : Bool} {d e : Detector} {errands : List Errand}
    (h : d.deliver? = some e) : Turns lives d errands e errands := by
  obtain ⟨⟨notice, bulletin⟩, -, rfl⟩ := Option.map_eq_some_iff.1 h
  have hpassed : Turns lives d errands { d with bulletin } errands :=
    turns_of_turn (.pass d.now d.registry bulletin)
  have hhanded := hpassed.trans (turns_of_turn (.hand notice))
  refine List.foldlRecOn (motive := (Turns lives d errands · errands)) _ _ hhanded ?_
  exact fun e he told _ => he.trans (turns_of_turn (.tell told.1 told.2))

theorem run_advances {heed : Bool} {activity : Activity} (permitted : s.Permitted)
    (hrun : s.run heed activity = some t) : s.Advances t := by
  cases activity with
  | worker g =>
    obtain ⟨w, hw, hstep⟩ := Option.bind_eq_some_iff.1 hrun
    exact (runWorker_turn (List.mem_of_find?_eq_some hw) permitted hstep).advances permitted
  | handler number =>
    obtain ⟨h, hh, hstep⟩ := Option.bind_eq_some_iff.1 hrun
    exact runHandler_advances (List.mem_of_find?_eq_some hh) permitted hstep
  | feed => exact runFeed_advances permitted hrun
  | follower index =>
    obtain ⟨follower, -, hstep⟩ := Option.bind_eq_some_iff.1 hrun
    exact runFollower_advances permitted hstep
  | delivery =>
    obtain ⟨d, hd, rfl⟩ := Option.map_eq_some_iff.1 hrun
    exact advances_alone (deliver_turns hd) permitted rfl

/-- A ping that comes in may be news for the listeners, and does not shut them out. -/
theorem act_ping {request : PingRequest} (h : s.act (.ping request) = some t) :
    ∃ bulletin, bulletin.shut = s.detector.bulletin.shut ∧
      t = { s with detector := { s.detector with bulletin } } := by
  simp only [act] at h
  split at h
  next next hnext =>
    obtain rfl := Option.some.inj h
    unfold receivePing at hnext
    split at hnext
    next =>
      unfold Detector.receivePing at hnext
      split at hnext
      next => simp [Except.map] at hnext
      next =>
        split at hnext
        next bulletin hsubmit =>
          obtain rfl := Except.ok.inj hnext
          unfold Bulletin.submit? at hsubmit
          split at hsubmit
          next => simp at hsubmit
          next taken => exact ⟨bulletin, by simp [← Option.some.inj hsubmit, taken], rfl⟩
        next =>
          obtain rfl := Except.ok.inj hnext
          exact ⟨s.detector.bulletin, rfl, rfl⟩
    next => simp at hnext
  next =>
    obtain rfl := Option.some.inj h
    exact ⟨s.detector.bulletin, rfl, rfl⟩

/-- A publication concerns the supplier only. -/
theorem act_publish {snapshot : Snapshot} (h : s.act (.publish snapshot) = some t) :
    ∃ supplier, t = { s with supplier } := by
  simp only [act] at h
  split at h
  next next hnext =>
    obtain rfl := Option.some.inj h
    unfold publish at hnext
    cases hsupplier : s.supplier.publish snapshot with
    | error error => simp [hsupplier, Except.map] at hnext
    | ok supplier =>
      rw [hsupplier] at hnext
      exact ⟨supplier, (Except.ok.inj hnext).symm⟩
  next =>
    obtain rfl := Option.some.inj h
    exact ⟨s.supplier, rfl⟩

/-- Whoever is told of a loss directly is given a number of their own. -/
theorem disconnect_advances (node : Node) (permitted : s.Permitted) :
    s.Advances (s.disconnect node) := by
  have herrands : (s.disconnect node).errands = s.errands := by
    simp [errands, disconnect, HandlerStage.errand?]
  refine advances_of_turns (herrands ▸ turns_of_turn (.hear node)) permitted ?_ fun k hk => ?_
  · have hnew : s.handlersMade ∉ s.handlers.map DisconnectHandler.number := fun hmem => by
      obtain ⟨k, hk, hnumber⟩ := List.mem_map.1 hmem
      exact Nat.lt_irrefl _ (hnumber ▸ permitted.made k hk)
    simpa [disconnect, List.nodup_append] using ⟨permitted.distinct, by simpa using hnew⟩
  · rcases List.mem_append.1 hk with hk | hk
    · exact Nat.lt_succ_of_lt (permitted.made k hk)
    · obtain rfl := List.mem_singleton.1 hk
      exact Nat.lt_succ_self _

/-- Without a follower the transport's events are lost on the detector. -/
theorem disconnectEvent_cases (s : Station) (node : Node) :
    s.disconnectEvent node = s ∨ s.feed.stage ≠ .off ∧ s.disconnectEvent node = { s with
      detector := s.detector.record (.disconnected node)
      feed := s.feed.offer s.link.backlog node } := by
  unfold disconnectEvent
  split
  next => exact Or.inl rfl
  next hon => exact Or.inr ⟨hon, rfl⟩

theorem disconnectEvent_of_on {node : Node} (on : s.feed.stage ≠ .off) :
    s.disconnectEvent node = { s with
      detector := s.detector.record (.disconnected node)
      feed := s.feed.offer s.link.backlog node } := by
  unfold disconnectEvent
  split
  next hoff => exact absurd hoff on
  next => rfl

/-- Only who owns the detector can ask it for something. -/
theorem of_owned {u : Station} (h : (if s.owned then some u else none) = some t) : t = u := by
  split at h
  · exact (Option.some.inj h).symm
  · simp at h

/-- Every action is a number of turns of the detector. -/
theorem act_advances {action : Action} (permitted : s.Permitted) (h : s.act action = some t) :
    s.Advances t := by
  cases action with
  | reconcile snapshot =>
    obtain rfl := of_owned h
    exact advances_alone (turns_of_turn (.reconcile snapshot)) permitted rfl
  | stop =>
    obtain rfl := of_owned h
    exact advances_alone (turns_of_turn .stop) permitted rfl
  | close =>
    obtain rfl := of_owned h
    exact advances_alone
      ((turns_of_turn .stop).trans
        (turns_of_turn (.pass _ _ s.detector.stop.bulletin.shutdown))) permitted rfl
  | release =>
    obtain rfl := Option.some.inj h
    exact advances_alone (.none _ _) permitted rfl
  | follow =>
    obtain rfl := of_owned h
    exact advances_alone (.none _ _) permitted rfl
  | disconnect node =>
    obtain rfl := of_owned h
    exact disconnect_advances node permitted
  | addListener listener =>
    obtain rfl := of_owned h
    exact advances_alone
      (turns_of_turn (.pass _ (s.detector.registry.add listener) s.detector.bulletin)) permitted rfl
  | removeListener listener =>
    obtain rfl := of_owned h
    unfold removeListener?
    cases s.detector.registry.remove? listener with
    | none => exact ⟨.none _ _, permitted⟩
    | some registry =>
      exact advances_alone (turns_of_turn (.pass _ registry s.detector.bulletin)) permitted rfl
  | publish snapshot =>
    obtain ⟨supplier, rfl⟩ := act_publish h
    exact advances_alone (.none _ _) permitted rfl
  | closeSupplier =>
    obtain rfl := Option.some.inj h
    exact advances_alone (.none _ _) permitted rfl
  | disconnectEvent node =>
    obtain rfl := Option.some.inj h
    rcases s.disconnectEvent_cases node with heq | ⟨-, heq⟩ <;> rw [heq]
    · exact ⟨.none _ _, permitted⟩
    · exact advances_of_turns (turns_of_turn (.hear node)) permitted permitted.distinct
        permitted.made
  | ping request =>
    obtain ⟨bulletin, -, rfl⟩ := act_ping h
    exact advances_alone (turns_of_turn (.pass s.detector.now s.detector.registry bulletin))
      permitted rfl
  | setScript id replies | setReply id reply | setConnects id replies =>
    obtain rfl := Option.some.inj h
    exact advances_alone (.none _ _) permitted rfl
  | answer g outcome =>
    obtain rfl := Option.some.inj h
    exact advances_alone (turns_of_turn (.land g s.now outcome)) permitted rfl
  | run heed activity => exact run_advances permitted h
  | elapse time =>
    obtain rfl := Option.some.inj h
    exact advances_alone
      (turns_of_turn (.pass (s.now + time) s.detector.registry s.detector.bulletin)) permitted rfl

theorem act_continues {action : Action} (permitted : s.Permitted) (h : s.act action = some t) :
    s.detector.Continues t.detector := by
  obtain ⟨turns, -⟩ := act_advances permitted h
  refine turns.keepBoth (P := fun d _ => s.detector.Continues d) (.refl _) fun hd turn _ => ?_
  exact hd.trans turn.continues

/-- Nobody goes on who is not among the activities. -/
theorem run_of_notMem {a : Activity} (h : a ∉ s.activities) (heed : Bool) :
    s.run heed a = none := by
  simp only [activities, List.mem_append, List.mem_map, List.mem_singleton, List.mem_range,
    not_or] at h
  obtain ⟨⟨⟨⟨hworker, hhandler⟩, hfeed⟩, hfollower⟩, hdelivery⟩ := h
  cases a with
  | worker g =>
    have hnone : s.detector.workers.find? (fun w => w.generation = g) = none :=
      List.find?_eq_none.2 fun w hw hg => hworker ⟨w, hw, by simpa using hg⟩
    simp [run, hnone]
  | handler number =>
    have hnone : s.handlers.find? (fun h => h.number = number) = none :=
      List.find?_eq_none.2 fun h hh hnumber => hhandler ⟨h, hh, by simpa using hnumber⟩
    simp [run, hnone]
  | feed => exact absurd rfl hfeed
  | follower index =>
    have hnone : s.followers[index]? = none :=
      List.getElem?_eq_none (Nat.not_lt.1 fun hlt => hfollower ⟨index, hlt, rfl⟩)
    simp [run, hnone]
  | delivery => exact absurd rfl hdelivery

end Beside

theorem start_errands (self : Node) (cluster : ClusterName) (settings : DetectionSettings)
    (initial : Snapshot) (link : Link) :
    (start self cluster settings initial link).errands = [] := by
  cases hfollow : settings.followDisconnects <;> simp [start, errands, FeedStage.errand?, hfollow]

theorem start_permitted (self : Node) (cluster : ClusterName) (settings : DetectionSettings)
    (initial : Snapshot) (link : Link) : (start self cluster settings initial link).Permitted := by
  refine ⟨fun w hw => by simp [start, Detector.start] at hw, fun errand h => ?_, by simp [start],
    fun h hh => by simp [start] at hh⟩
  rw [start_errands] at h
  simp at h

/-- A property of the detector and of the errands that holds at the start and is kept by every
turn holds wherever actions may lead. -/
theorem acts_keep {P : Detector → List Errand → Prop}
    (turn : ∀ {lives aside d e before after}, P d before → Turn lives d aside e →
      aside.Moves before after → P e after) {actions : List Action} {s t : Station}
    (permitted : s.Permitted) (h : P s.detector s.errands) (hacts : s.acts actions = some t) :
    P t.detector t.errands ∧ t.Permitted := by
  induction actions generalizing s with
  | nil =>
    obtain rfl := Option.some.inj hacts
    exact ⟨h, permitted⟩
  | cons action rest ih =>
    obtain ⟨u, hact, hrest⟩ := Option.bind_eq_some_iff.1 hacts
    obtain ⟨turns, hu⟩ := act_advances permitted hact
    exact ih hu (turns.keepBoth h turn) hrest

theorem Reachable.permitted {s : Station} (h : s.Reachable) : s.Permitted := by
  obtain ⟨self, cluster, settings, initial, link, actions, hacts⟩ := h
  exact (acts_keep (P := fun _ _ => True) (fun _ _ _ => trivial)
    (start_permitted self cluster settings initial link) trivial hacts).2

theorem Reachable.keepBoth {P : Detector → List Errand → Prop} {s : Station} (h : s.Reachable)
    (start : ∀ self cluster settings, P (.start self cluster settings) [])
    (turn : ∀ {lives aside d e before after}, P d before → Turn lives d aside e →
      aside.Moves before after → P e after) : P s.detector s.errands := by
  obtain ⟨self, cluster, settings, initial, link, actions, hacts⟩ := h
  refine (acts_keep turn (start_permitted self cluster settings initial link) ?_ hacts).1
  rw [start_errands]
  exact start self cluster settings

theorem Reachable.keep {P : Detector → Prop} {s : Station} (h : s.Reachable)
    (start : ∀ self cluster settings, P (.start self cluster settings))
    (turn : ∀ {lives aside d e}, P d → Turn lives d aside e → P e) : P s.detector :=
  h.keepBoth (P := fun d _ => P d) start fun hd turn' _ => turn hd turn'

theorem acts_continues {s t : Station} {actions : List Action} (permitted : s.Permitted)
    (h : s.acts actions = some t) : s.detector.Continues t.detector := by
  induction actions generalizing s with
  | nil =>
    obtain rfl := Option.some.inj h
    exact .refl _
  | cons action rest ih =>
    obtain ⟨u, hact, hrest⟩ := Option.bind_eq_some_iff.1 h
    exact (act_continues permitted hact).trans (ih (act_advances permitted hact).2 hrest)

theorem Reachable.acts {s t : Station} (h : s.Reachable) {actions : List Action}
    (hacts : s.acts actions = some t) : t.Reachable := by
  obtain ⟨self, cluster, settings, initial, link, before, hbefore⟩ := h
  exact ⟨self, cluster, settings, initial, link, _, (runs_append hbefore _).trans hacts⟩

theorem Reachable.act {s t : Station} (h : s.Reachable) {action : Action}
    (hact : s.act action = some t) : t.Reachable := by
  have hacts : s.acts [action] = some t := Option.bind_eq_some_iff.2 ⟨t, hact, rfl⟩
  exact h.acts hacts

end Station

namespace Trial

def station (settings : DetectionSettings) (link : Link) : Station :=
  .start home ⟨"trial"⟩ settings alone link

/-- The station after actions that are possible one after the other. -/
def after (settings : DetectionSettings) (link : Link) (actions : List Action)
    (h : ((station settings link).acts actions).isSome) : Station :=
  ((station settings link).acts actions).get h

theorem acts_after {settings : DetectionSettings} {link : Link} {actions : List Action}
    (h : ((station settings link).acts actions).isSome) :
    (station settings link).acts actions = some (after settings link actions h) :=
  (Option.some_get h).symm

theorem reachable {settings : DetectionSettings} {link : Link} {actions : List Action}
    (h : ((station settings link).acts actions).isSome) :
    (after settings link actions h).Reachable :=
  ⟨_, _, _, _, _, actions, acts_after h⟩

end Trial
end ClusterWatch
