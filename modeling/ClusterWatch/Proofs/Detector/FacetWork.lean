import ClusterWatch.Proofs.Detector.Gates

/-!
The work of workers as far as one node is concerned. As long as the detector is there, a stretch of
one of the node's own workers does to the view of the node what the view does by itself when the
answers are given; a stretch of a worker of another node leaves the view as it is.
-/
namespace ClusterWatch

open Detector Past

namespace Station

/-- The station as far as the node is concerned. -/
def facet (s : Station) (id : NodeId) : Facet where
  view := s.detector.view id
  version := s.supplier.current.version
  accepted := s.supplier.accepted
  closed := s.supplier.closed
  followers := s.followers

/-- From the one station to the other, pings to the node and attempts to connect to it are answered
as settled, and the membership that is given says of it what is settled. -/
structure Answered (answers : Answers) (id : NodeId) (s t : Station) : Prop where
  ping : t.past.pingsTo id = s.past.pingsTo id + 1 →
    (s.link.takePing id).1.plain = answers.ping (s.past.pingsTo id)
  connect : t.past.reconnectsTo id = s.past.reconnectsTo id + 1 →
    (s.link.takeConnect id).1.plain = answers.connect (s.past.reconnectsTo id)
  listed : ∀ nodes, t.past.memberships = nodes :: s.past.memberships →
    nodes.find? id.text = answers.listed s.past.memberships.length

/-- Whether the newest of the memberships, if it is the only new one, is as wanted. -/
instance (new old : List Membership) (P : Membership → Prop) [DecidablePred P] :
    Decidable (∀ nodes, new = nodes :: old → P nodes) :=
  match new with
  | [] => isTrue fun _ h => nomatch h
  | nodes :: rest => decidable_of_iff (rest = old → P nodes)
      ⟨fun h _ heq => (List.cons.inj heq).1 ▸ h (List.cons.inj heq).2,
        fun h heq => h nodes (heq ▸ rfl)⟩

instance (answers : Answers) (id : NodeId) (s t : Station) : Decidable (Answered answers id s t) :=
  decidable_of_iff (_ ∧ _ ∧ _)
    ⟨fun ⟨ping, connect, listed⟩ => ⟨ping, connect, listed⟩,
      fun ⟨ping, connect, listed⟩ => ⟨ping, connect, listed⟩⟩

section Mine

variable {s t : Station} {id : NodeId} {w : Worker} {c : Cycle} {answers : Answers}

theorem view_endWorker (hd : s.detector.Enrolled) (w : Worker) :
    (s.endWorker w).detector.view id =
      (s.detector.view id).drop (s.detector.hand id w).rank := by
  obtain ⟨alive, -, heq⟩ := endWorker_eq s w
  rw [heq]
  exact view_leave hd w alive

theorem view_queueWorker (hd : s.detector.Enrolled) (w : Worker) :
    (s.queueWorker w).detector.view id =
      (s.detector.view id).setPose (s.detector.hand id w).rank .queued := by
  obtain ⟨gates, made, heq⟩ := s.detector.gateFor_eq w.node.id
  unfold queueWorker
  dsimp only
  rw [heq]
  exact view_setStage (d := { s.detector with gates, gatesMade := made }) hd w _

theorem view_abandonPing (hd : s.detector.Enrolled) (w : Worker) :
    (s.abandonPing w).detector.view id =
      (s.detector.view id).drop (s.detector.hand id w).rank := by
  let abandoned : Station :=
    { s with detector := s.detector.record (.abandoned w.node.id w.generation) }
  have hview : abandoned.detector.view id = s.detector.view id := view_record rfl
  rw [← hview]
  exact view_endWorker (s := abandoned) (hd.record rfl) w

/-- A worker that has not been told to stop finds its entry. -/
theorem current_of_unretired (hd : s.detector.Attended) (hw : w ∈ s.detector.workers)
    (unretired : ¬ w.retired = true) : ∃ c, s.detector.currentCycle? w = some c := by
  cases current : s.detector.currentCycle? w with
  | some c => exact ⟨c, rfl⟩
  | none => exact absurd ((hd.attendance.told w hw).2 (hd.unregistered hw current)) unretired

theorem view_sendPing {gate : Nat} (hd : s.detector.Enrolled) (hw : w ∈ s.detector.workersOf id)
    (hc : c ∈ s.detector.monitored.entries) (hid : c.node.id = id)
    (answered : Answered answers id s (s.sendPing w c gate)) :
    (s.sendPing w c gate).detector.view id = (s.detector.view id).send answers
      s.supplier.current.version (s.detector.hand id w) := by
  have hnode := (mem_workersOf.1 hw).2
  let put : Detector := s.detector.putCycle { c with phase := .awaiting }
  let request := s.detector.pingRequest w.node s.supplier.current.version
  have hput : put.Enrolled := hd.putCycle hc
  have hview : put.view id = s.detector.view id := by
    rw [view_putCycle (c := { c with phase := .awaiting }) hid, ← view_failures hc hid]
  have hsent : (s.sendPing w c gate).past.pingsTo id = s.past.pingsTo id + 1 :=
    List.countP_cons_of_pos (by simp [Event.pingSentTo?, hnode])
  have hreply : (s.link.takePing w.node.id).1.plain =
      answers.ping (s.detector.view id).pings.length := by
    rw [length_pings, hnode]
    exact answered.ping hsent
  let flight : Flight :=
    .launch s.now (s.link.takePing w.node.id).1 (some (s.detector.attemptLimit w.node))
  have hflight : flight.plain = .launch s.now (answers.ping (s.detector.view id).pings.length)
      (some (s.now + s.detector.settings.timeout, .failed .closed)) := by
    rw [← hreply]
    exact Flight.plain_launch ..
  refine (view_setStage (d := put.record (.pinged w.node w.generation request))
    (hput.record rfl) w (.pinging gate flight)).trans ?_
  rw [view_pinged hnode, hview, show (Stage.pinging gate flight).pose = .pinging flight.plain from
    rfl, hflight]
  rfl

theorem view_acknowledge (hd : s.detector.Enrolled) (hc : c ∈ s.detector.monitored.entries)
    (hid : c.node.id = id) (alive : (s.acknowledge w c).alive = true) :
    (s.acknowledge w c).detector.view id = (s.detector.view id).settle answers
      (s.detector.hand id w) .done := by
  let cleared : Detector :=
    (s.detector.putCycle { c with failures := 0 }).setStage w.generation .ready
  have hput : (s.detector.putCycle { c with failures := 0 }).Enrolled := hd.putCycle hc
  have hcleared : cleared.Enrolled := hput.setStage
  have hview : cleared.view id = { s.detector.view id with failures := some 0 }.setPose
      (s.detector.hand id w).rank .ready := by
    refine (view_setStage hput w .ready).trans ?_
    rw [view_putCycle (c := { c with failures := 0 }) hid]
    rfl
  unfold acknowledge at alive ⊢
  dsimp only at alive ⊢
  split
  next =>
    refine (view_setStage (d := cleared.putCycle { c with failures := 0, phase := .backoff })
      (hcleared.putCycle (c := { c with failures := 0 }) Table.mem_insert_self) w _).trans ?_
    rw [view_putCycle (c := { c with failures := 0, phase := .backoff }) hid, hview]
    exact View.setPose_setPose { s.detector.view id with failures := some 0 }
      (s.detector.hand id w).rank .ready (.resting (s.now + s.detector.settings.interval))
  -- The detector that is there afterwards was there when the worker went to rest.
  next hdead =>
    rw [if_neg hdead] at alive
    exact absurd (alive.symm.trans (endWorker_gone hdead)) (by decide)

theorem view_loseByPing (hd : s.detector.Attended) (hw : w ∈ s.detector.workersOf id)
    (hc : c ∈ s.detector.monitored.entries) (hid : c.node.id = id)
    (answered : Answered answers id s (s.loseByPing w c)) :
    (s.loseByPing w c).detector.view id =
      (s.detector.view id).lose answers (s.detector.hand id w) := by
  have hnode := (mem_workersOf.1 hw).2
  let removed : Detector := s.detector.removeCycle .lostByPing c
  have hremoved : removed.Attended := hd.removeCycle hc
  have hview : removed.view id = (s.detector.view id).remove := view_removeCycle hd _ hc hid
  unfold loseByPing afterDisconnect at answered ⊢
  unfold View.lose
  dsimp only at answered ⊢
  by_cases allowed : s.detector.settings.reconnect = true
  · have hboth : removed.settings.reconnect = true ∧
        (s.detector.view id).settings.reconnect = true := ⟨allowed, allowed⟩
    rw [if_pos hboth.1] at answered
    rw [if_pos hboth.1, if_pos hboth.2]
    have hbegun : Past.reconnectsTo (.connecting w.node w.generation :: removed.past) id =
        s.past.reconnectsTo id + 1 :=
      List.countP_cons_of_pos (by simp [Event.reconnects, hnode])
    have hreply : (s.link.takeConnect w.node.id).1.plain =
        answers.connect (s.detector.view id).connects := by
      rw [hnode]
      exact answered.connect hbegun
    let flight : Flight := .launch s.now (s.link.takeConnect w.node.id).1 none
    have hflight : flight.plain =
        .launch s.now (answers.connect (s.detector.view id).connects) none := by
      rw [← hreply]
      exact Flight.plain_launch ..
    have hconnects : (s.detector.view id).remove.connects = (s.detector.view id).connects := by
      unfold View.remove
      split <;> rfl
    refine (view_setStage (d := removed.record (.connecting w.node w.generation))
      (hremoved.enrolled.record rfl) w (.connecting flight)).trans ?_
    rw [view_connecting hnode, hview, show (Stage.connecting flight).pose = .connecting flight.plain
      from rfl, hflight, hconnects]
    rfl
  · have hboth : ¬ removed.settings.reconnect = true ∧
        ¬ (s.detector.view id).settings.reconnect = true := ⟨allowed, allowed⟩
    rw [if_neg hboth.1, if_neg hboth.2]
    have hreported : (removed.report w.node w.generation .disconnected).Attended := hremoved.report
    refine (view_endWorker hreported.enrolled w).trans ?_
    rw [view_report hnode, hview]
    have hrank : ((removed.report w.node w.generation .disconnected).hand id w).rank =
        (s.detector.hand id w).rank := by
      rw [report_eq]
      rfl
    rw [hrank]
    rfl

theorem view_countFailure (hd : s.detector.Attended) (hw : w ∈ s.detector.workersOf id)
    (hc : c ∈ s.detector.monitored.entries) (hid : c.node.id = id) :
    (s.countFailure w c).detector.view id =
      (s.detector.view id).countFailure (s.detector.hand id w) := by
  have hnode := (mem_workersOf.1 hw).2
  have hfailures : (s.detector.view id).failures.getD 0 = c.failures := by
    rw [view_failures hc hid]
    rfl
  have hretries : (s.detector.view id).settings.retries = s.detector.settings.retries := rfl
  unfold countFailure View.countFailure
  dsimp only
  rw [hfailures, hretries]
  split
  next =>
    refine (view_setStage (hd.enrolled.putCycle hc) w .ready).trans ?_
    rw [view_putCycle (c := { c with failures := c.failures + 1 }) hid]
    rfl
  next =>
    let removed : Detector := s.detector.removeCycle .unresponsive c
    have hremoved : removed.Attended := hd.removeCycle hc
    let reason : FailureReason :=
      .unresponsive s.detector.settings.retries s.detector.settings.timeoutDuration
    have hreported : (removed.report w.node w.generation reason).Attended := hremoved.report
    refine (view_endWorker hreported.enrolled w).trans ?_
    rw [view_report hnode, view_removeCycle hd _ hc hid]
    have hrank : ((removed.report w.node w.generation reason).hand id w).rank =
        (s.detector.hand id w).rank := by
      rw [report_eq]
      rfl
    rw [hrank]
    rfl

theorem view_settlePing {outcome : Outcome} (hd : s.detector.Attended)
    (hw : w ∈ s.detector.workersOf id) (unretired : ¬ w.retired = true)
    (alive : (s.settlePing w outcome).alive = true)
    (answered : Answered answers id s (s.settlePing w outcome)) :
    (s.settlePing w outcome).detector.view id =
      (s.detector.view id).settle answers (s.detector.hand id w) outcome.plain := by
  obtain ⟨hmem, hnode⟩ := mem_workersOf.1 hw
  let settled : Station :=
    { s with detector := s.detector.record (.answered w.node.id w.generation outcome) }
  have hsettled : settled.detector.Attended := hd.record rfl
  have hview : settled.detector.view id = s.detector.view id := view_record rfl
  obtain ⟨c, current⟩ := current_of_unretired hd hmem unretired
  obtain ⟨hc, hid, -⟩ := currentCycle?_eq_some current
  rw [hnode] at hid
  have hfound : settled.detector.currentCycle? w = some c := current
  rw [← hview]
  unfold settlePing at alive answered ⊢
  dsimp only at alive answered ⊢
  rw [hfound] at alive answered ⊢
  cases outcome with
  | done => exact view_acknowledge hsettled.enrolled hc hid alive
  | failed error =>
    dsimp only [View.settle, Outcome.plain] at alive answered ⊢
    by_cases lost : error.isDisconnect = true
    · rw [if_pos lost] at answered
      rw [if_pos lost, if_pos lost]
      exact view_loseByPing hsettled hw hc hid
        ⟨answered.ping, answered.connect, answered.listed⟩
    · rw [if_neg lost, if_neg lost]
      exact view_countFailure hsettled hw hc hid

theorem view_endReconnect {outcome : Outcome} (hd : s.detector.Enrolled)
    (hw : w ∈ s.detector.workersOf id) :
    ((s.endReconnect w.node w.generation outcome).endWorker w).detector.view id =
      (s.detector.view id).endReconnect (s.detector.hand id w) outcome.plain := by
  have hnode := (mem_workersOf.1 hw).2
  let ended : Detector := s.detector.record (.connected w.node w.generation outcome)
  have hended : ended.Enrolled := hd.record rfl
  have hview : ended.view id = s.detector.view id := view_record rfl
  have hrank (e : Detector) (hpast : s.detector.past <:+ e.past) :
      (e.hand id w).rank = (s.detector.hand id w).rank := by
    obtain ⟨later, hlater⟩ := hpast
    show (e.past.cyclesOf id).idxOf _ = _
    rw [← hlater, cyclesOf_append]
    exact List.idxOf_append_of_mem (mem_cyclesOf_of_worker hd hw)
  refine (view_endWorker (s := s.endReconnect w.node w.generation outcome) hd.endReconnect w).trans
    ?_
  have hsame := hrank (s.detector.endReconnect w.node w.generation outcome)
    (Continues.refl s.detector).endReconnect.past
  refine (congrArg (View.drop _) hsame).trans ?_
  cases outcome with
  | done =>
    show ((ended.install w.node).view id).drop _ = _
    rw [view_install hended hnode, hview]
    rfl
  | failed error =>
    show ((ended.report w.node w.generation .unreachable).view id).drop _ = _
    rw [view_report hnode, hview]
    rfl

/-- A worker that has been told to stop does not find its entry. -/
theorem current_of_retired (hd : s.detector.Attended) (hw : w ∈ s.detector.workers)
    (retired : w.retired = true) : s.detector.currentCycle? w = none := by
  cases current : s.detector.currentCycle? w with
  | none => rfl
  | some c =>
    obtain ⟨hc, -, hg⟩ := currentCycle?_eq_some current
    exact absurd hg ((hd.attendance.told w hw).1 retired c hc)

/-- One that has been told to stop ends when its ping comes out, and nothing more comes of it. -/
theorem view_settlePing_of_retired {outcome : Outcome} (hd : s.detector.Attended)
    (hw : w ∈ s.detector.workers) (retired : w.retired = true) :
    (s.settlePing w outcome).detector.view id =
      (s.detector.view id).drop (s.detector.hand id w).rank := by
  let settled : Station :=
    { s with detector := s.detector.record (.answered w.node.id w.generation outcome) }
  have hview : settled.detector.view id = s.detector.view id := view_record rfl
  have hsettled : settled.detector.Attended := hd.record rfl
  have hnone : settled.detector.currentCycle? w = none := current_of_retired hsettled hw retired
  unfold settlePing
  dsimp only
  rw [hnone, ← hview]
  exact view_endWorker (s := settled) (hd.enrolled.record rfl) w

/-- Whether a worker of the node can go on is settled by the facet. -/
theorem runWorker_isSome (h : s.Reachable) (hd : s.detector.Attended)
    (hw : w ∈ s.detector.workersOf id) (version : Int) (heed : Bool) :
    (s.runWorker heed w).isSome =
      ((s.detector.view id).runHand answers version heed (s.detector.hand id w)).isSome := by
  have hmem := (mem_workersOf.1 hw).1
  have hnow : (s.detector.view id).now = s.now := rfl
  have hretired : (s.detector.hand id w).retired = w.retired := rfl
  have hpose : (s.detector.hand id w).pose = w.stage.pose := rfl
  unfold runWorker View.runHand
  rw [hpose, hretired, hnow]
  cases stage : w.stage with
  | ready => rfl
  | queued gate =>
    have hheld : s.detector.gateHeld gate = (s.detector.view id).busy :=
      gateHeld_eq_busy h.gated h.gatesApart hw stage
    simp only [Stage.pose, hheld]
    by_cases retired : w.retired = true
    · rw [current_of_retired hd hmem retired]
      cases (s.detector.view id).busy <;> cases heed <;> simp [retired]
    · obtain ⟨c, current⟩ := current_of_unretired hd hmem retired
      rw [current]
      cases (s.detector.view id).busy <;> simp [retired]
  | pinging gate flight =>
    simp only [Stage.pose, Flight.outcome?_plain]
    by_cases retired : w.retired = true
    · cases heed <;> cases flight.outcome? s.now <;> simp [retired]
    · cases flight.outcome? s.now <;> simp [retired]
  | resting wake =>
    simp only [Stage.pose]
    split
    next => rfl
    next => split <;> rfl
  | connecting flight =>
    simp only [Stage.pose, Option.isSome_map, Flight.outcome?_plain]

/-- One that waits at a gate ends if it is to stop, and pings if the gate is free. -/
theorem runQueued_mine {heed : Bool} {gate : Nat} (h : s.Reachable) (hd : s.detector.Attended)
    (hw : w ∈ s.detector.workersOf id) (stage : w.stage = .queued gate)
    (hrun : s.runWorker heed w = some t) (answered : Answered answers id s t) :
    (s.detector.view id).runHand answers s.supplier.current.version heed (s.detector.hand id w) =
      some (t.detector.view id) := by
  have hmem := (mem_workersOf.1 hw).1
  have hretired : (s.detector.hand id w).retired = w.retired := rfl
  have hpose : (s.detector.hand id w).pose = w.stage.pose := rfl
  have hheld : s.detector.gateHeld gate = (s.detector.view id).busy :=
    gateHeld_eq_busy h.gated h.gatesApart hw stage
  unfold runWorker at hrun
  unfold View.runHand
  rw [hpose, hretired]
  simp only [stage, Stage.pose, hheld] at hrun ⊢
  by_cases retired : w.retired = true
  · -- It ends whether it notices that it is to stop or that it has no entry.
    have hended : s.endWorker w = t := by
      rw [current_of_retired hd hmem retired] at hrun
      cases hbusy : (s.detector.view id).busy <;> cases heed <;>
        simpa [hbusy, retired] using hrun
    subst hended
    rw [if_pos retired, view_endWorker hd.enrolled w]
  · rw [if_neg retired]
    obtain ⟨c, current⟩ := current_of_unretired hd hmem retired
    obtain ⟨hc, hid, -⟩ := currentCycle?_eq_some current
    rw [current] at hrun
    cases hbusy : (s.detector.view id).busy with
    | true => simp [hbusy, retired] at hrun
    | false =>
      simp only [hbusy, retired, Bool.false_and, Bool.false_eq_true, ↓reduceIte,
        Option.some.injEq] at hrun
      subst hrun
      rw [if_neg Bool.false_ne_true]
      exact congrArg some
        (view_sendPing hd.enrolled hw hc (hid.trans (mem_workersOf.1 hw).2) answered).symm

/-- One that pings drops the ping if it is to stop, or else deals with the answer. -/
theorem runPinging_mine {heed : Bool} {gate : Nat} {flight : Flight} (hd : s.detector.Attended)
    (hw : w ∈ s.detector.workersOf id) (stage : w.stage = .pinging gate flight)
    (hrun : s.runWorker heed w = some t) (after : t.alive = true)
    (answered : Answered answers id s t) :
    (s.detector.view id).runHand answers s.supplier.current.version heed (s.detector.hand id w) =
      some (t.detector.view id) := by
  have hmem := (mem_workersOf.1 hw).1
  have hnow : (s.detector.view id).now = s.now := rfl
  have hretired : (s.detector.hand id w).retired = w.retired := rfl
  have hpose : (s.detector.hand id w).pose = w.stage.pose := rfl
  unfold runWorker at hrun
  unfold View.runHand
  rw [hpose, hretired, hnow]
  simp only [stage, Stage.pose, Flight.outcome?_plain] at hrun ⊢
  by_cases retired : w.retired = true
  · rw [if_pos retired]
    have hended : s.abandonPing w = t ∨ ∃ outcome, s.settlePing w outcome = t := by
      cases hdue : flight.outcome? s.now <;> cases heed <;> simp [hdue, retired] at hrun
      · exact .inl hrun
      · exact .inl hrun
      · exact .inr ⟨_, hrun⟩
      · exact .inl hrun
    rcases hended with rfl | ⟨outcome, rfl⟩
    · rw [view_abandonPing hd.enrolled w]
    · rw [view_settlePing_of_retired hd hmem retired]
  · rw [if_neg retired]
    cases hdue : flight.outcome? s.now with
    | some outcome =>
      simp only [hdue, retired, Bool.false_and, Bool.false_eq_true, ↓reduceIte,
        Option.some.injEq] at hrun
      subst hrun
      exact congrArg some (view_settlePing hd hw retired after answered).symm
    | none => simp [hdue, retired] at hrun

/-- A worker of the node goes on as the facet does. -/
theorem runWorker_mine {heed : Bool} (h : s.Reachable) (hd : s.detector.Attended)
    (hw : w ∈ s.detector.workersOf id) (hrun : s.runWorker heed w = some t)
    (before : s.alive = true) (after : t.alive = true) (answered : Answered answers id s t) :
    (s.detector.view id).runHand answers s.supplier.current.version heed (s.detector.hand id w) =
      some (t.detector.view id) := by
  have hnow : (s.detector.view id).now = s.now := rfl
  have hretired : (s.detector.hand id w).retired = w.retired := rfl
  have hpose : (s.detector.hand id w).pose = w.stage.pose := rfl
  cases stage : w.stage with
  | queued gate => exact runQueued_mine h hd hw stage hrun answered
  | pinging gate flight => exact runPinging_mine hd hw stage hrun after answered
  | ready =>
    unfold runWorker at hrun
    unfold View.runHand
    simp only [stage, before, ↓reduceIte, Option.some.injEq] at hrun
    subst hrun
    rw [hpose, stage]
    exact congrArg some (view_queueWorker hd.enrolled w).symm
  | resting wake =>
    unfold runWorker at hrun
    unfold View.runHand
    rw [hpose, hretired, hnow]
    simp only [stage, Stage.pose] at hrun ⊢
    split at hrun
    next stops =>
      obtain rfl := Option.some.inj hrun
      rw [if_pos stops, view_endWorker hd.enrolled w]
    next goesOn =>
      rw [if_neg goesOn]
      split at hrun
      next => simp at hrun
      next due =>
        obtain rfl := Option.some.inj hrun
        rw [if_neg due]
        exact congrArg some (view_setStage hd.enrolled w .ready).symm
  | connecting flight =>
    unfold runWorker at hrun
    unfold View.runHand
    rw [hpose, hnow]
    simp only [stage, Stage.pose] at hrun ⊢
    obtain ⟨outcome, due, rfl⟩ := Option.map_eq_some_iff.1 hrun
    rw [Flight.outcome?_plain, due]
    exact congrArg some (view_endReconnect hd.enrolled hw).symm

end Mine

section Others

variable {s t : Station} {id : NodeId} {w : Worker} {d : Detector}

theorem spares_endWorker (h : Spares id d s.detector) (hg : d.Foreign id w.generation) :
    Spares id d (s.endWorker w).detector := by
  obtain ⟨alive, -, heq⟩ := endWorker_eq s w
  rw [heq]
  exact h.leave hg

theorem spares_queueWorker (h : Spares id d s.detector) (hg : d.Foreign id w.generation) :
    Spares id d (s.queueWorker w).detector := by
  obtain ⟨gates, made, heq⟩ := s.detector.gateFor_eq w.node.id
  have hmade : Spares id d (s.detector.gateFor w.node.id).2 := by
    rw [heq]
    exact ⟨h.enrolled, h.past, h.view⟩
  exact hmade.setStage hg _

theorem spares_sendPing {c : Cycle} {gate : Nat} (h : Spares id d s.detector)
    (hg : d.Foreign id w.generation) (hid : w.node.id ≠ id)
    (hc : c ∈ s.detector.monitored.entries) (hcycle : c.node.id ≠ id) :
    Spares id d (s.sendPing w c gate).detector := by
  have hput := h.putCycle c.failures .awaiting hc hcycle
  exact (hput.record (by simp [Event.marks, hid]) rfl).setStage hg _

theorem spares_abandonPing (h : Spares id d s.detector) (hg : d.Foreign id w.generation) :
    Spares id d (s.abandonPing w).detector :=
  spares_endWorker (s := { s with
    detector := s.detector.record (.abandoned w.node.id w.generation) }) (h.record rfl rfl) hg

theorem spares_loseByPing {c : Cycle} (h : Spares id d s.detector)
    (hg : d.Foreign id w.generation) (hid : w.node.id ≠ id) (hc : c ∈ s.detector.monitored.entries)
    (hcycle : c.node.id ≠ id) : Spares id d (s.loseByPing w c).detector := by
  have hremoved : Spares id d (s.detector.removeCycle .lostByPing c) := h.removeCycle hc hcycle
  unfold loseByPing afterDisconnect
  dsimp only
  split
  next hnext =>
    split at hnext
    next =>
      obtain ⟨rfl, -⟩ := Prod.mk.inj hnext
      have hbegun : Spares id d ((s.detector.removeCycle .lostByPing c).record
          (.connecting w.node w.generation)) :=
        hremoved.record (by simp [Event.marks, hid]) rfl
      exact hbegun.setStage hg _
    next => simp at hnext
  next hnext =>
    split at hnext
    next => simp at hnext
    next =>
      obtain ⟨rfl, -⟩ := Prod.mk.inj hnext
      exact spares_endWorker (hremoved.report hid) hg

theorem spares_settlePing {outcome : Outcome} (h : Spares id d s.detector)
    (hg : d.Foreign id w.generation) (hid : w.node.id ≠ id) :
    Spares id d (s.settlePing w outcome).detector := by
  have hanswered : Spares id d
      (s.detector.record (.answered w.node.id w.generation outcome)) := h.record rfl rfl
  unfold settlePing
  dsimp only
  split
  next => exact spares_endWorker hanswered hg
  next c current =>
    obtain ⟨hc, hnode, -⟩ := currentCycle?_eq_some current
    have hcycle : c.node.id ≠ id := hnode ▸ hid
    split
    next =>
      have hcleared := (hanswered.putCycle 0 c.phase hc hcycle).setStage hg .ready
      unfold acknowledge
      dsimp only
      split
      next =>
        exact (hcleared.putCycle (c := { c with failures := 0 }) 0 .backoff Table.mem_insert_self
          hcycle).setStage hg _
      next => exact spares_endWorker hcleared hg
    next =>
      split
      next => exact spares_loseByPing hanswered hg hid hc hcycle
      next =>
        unfold countFailure
        dsimp only
        split
        next => exact (hanswered.putCycle _ _ hc hcycle).setStage hg _
        next => exact spares_endWorker ((hanswered.removeCycle hc hcycle).report hid) hg

/-- A stretch of a worker of another node is nothing to the node. -/
theorem runWorker_others {heed : Bool} (hd : s.detector.Enrolled) (hw : w ∈ s.detector.workers)
    (hid : w.node.id ≠ id) (hrun : s.runWorker heed w = some t) :
    Spares id s.detector t.detector := by
  have hsame : Spares id s.detector s.detector := Spares.refl hd
  have hg : s.detector.Foreign id w.generation := ⟨w.node, hid, hd.worker w hw⟩
  unfold runWorker at hrun
  cases stage : w.stage with
  | ready =>
    simp only [stage, Option.some.injEq] at hrun
    subst hrun
    split
    next => exact spares_queueWorker hsame hg
    next => exact spares_endWorker hsame hg
  | queued gate =>
    simp only [stage] at hrun
    split at hrun
    next =>
      obtain rfl := Option.some.inj hrun
      exact spares_endWorker hsame hg
    next =>
      split at hrun
      next => simp at hrun
      next =>
        split at hrun
        next =>
          obtain rfl := Option.some.inj hrun
          exact spares_endWorker hsame hg
        next c current =>
          obtain rfl := Option.some.inj hrun
          obtain ⟨hc, hnode, -⟩ := currentCycle?_eq_some current
          exact spares_sendPing hsame hg hid hc (hnode ▸ hid)
  | pinging gate flight =>
    simp only [stage] at hrun
    split at hrun
    next =>
      obtain rfl := Option.some.inj hrun
      exact spares_abandonPing hsame hg
    next =>
      split at hrun
      next =>
        obtain rfl := Option.some.inj hrun
        exact spares_settlePing hsame hg hid
      next =>
        split at hrun
        next =>
          obtain rfl := Option.some.inj hrun
          exact spares_abandonPing hsame hg
        next => simp at hrun
  | resting wake =>
    simp only [stage] at hrun
    split at hrun
    next =>
      obtain rfl := Option.some.inj hrun
      exact spares_endWorker hsame hg
    next =>
      split at hrun
      next => simp at hrun
      next =>
        obtain rfl := Option.some.inj hrun
        exact hsame.setStage hg _
  | connecting flight =>
    simp only [stage] at hrun
    obtain ⟨outcome, -, rfl⟩ := Option.map_eq_some_iff.1 hrun
    exact spares_endWorker (s := s.endReconnect w.node w.generation outcome)
      (hsame.endReconnect hid) hg

end Others

end Station

end ClusterWatch
