import ClusterWatch.Proofs.Detector.Reach

/-!
How long the detector is there. It is kept by its owner, by workers from the time they ask for a
gate until what follows has come out, and by whoever deals with a disconnect. Once there is none
of these, nobody can ask for anything, the workers that are left can only wake up and go, and so
the detector is gone for good.
-/
namespace ClusterWatch

open Detector

/-- Handing over the news concerns the listeners only. -/
theorem Detector.deliver?_workers {d e : Detector} (h : d.deliver? = some e) :
    e.workers = d.workers := by
  obtain ⟨⟨notice, bulletin⟩, -, rfl⟩ := Option.map_eq_some_iff.1 h
  exact List.foldlRecOn (motive := fun e : Detector => e.workers = d.workers) _ _ rfl
    fun e he _ _ => he

namespace Station

/-- Nothing keeps the detector. -/
structure Gone (s : Station) : Prop where
  owned : s.owned = false
  workers : ∀ w ∈ s.detector.workers, w.keepsDetector = false
  handlers : s.handlers = []
  feed : s.feed.stage.errand? = none

variable {s t : Station}

theorem gone_iff : s.Gone ↔ s.alive = false := by
  have hparts : s.alive = false ↔ ((s.owned = false ∧
      s.detector.workers.any Worker.keepsDetector = false) ∧ s.handlers = []) ∧
      s.feed.stage.errand? = none := by
    unfold alive
    cases s.feed.stage <;> simp [FeedStage.errand?]
  rw [hparts]
  constructor
  · rintro ⟨howned, hworkers, hhandlers, hfeed⟩
    exact ⟨⟨⟨howned, List.any_eq_false.2 fun w hw => by simp [hworkers w hw]⟩, hhandlers⟩, hfeed⟩
  · rintro ⟨⟨⟨howned, hworkers⟩, hhandlers⟩, hfeed⟩
    exact ⟨howned, fun w hw => by simpa using List.any_eq_false.1 hworkers w hw, hhandlers, hfeed⟩

namespace Gone

theorem not_alive (h : s.Gone) : ¬ s.alive = true := by
  rw [gone_iff.1 h]
  exact Bool.false_ne_true

/-- Who is not there cannot be asked for anything. -/
theorem not_owned (h : s.Gone) {u : Station} :
    (if s.owned then some u else none) ≠ some t := by
  simp [h.owned]

theorem endWorker (h : s.Gone) (w : Worker) : (s.endWorker w).Gone :=
  gone_iff.2 (endWorker_gone h.not_alive)

theorem updateWorker (h : s.Gone) {g : Generation} {change : Worker → Worker}
    (hchange : ∀ w, w.keepsDetector = false → (change w).keepsDetector = false) :
    Gone { s with detector := s.detector.updateWorker g change } where
  owned := h.owned
  workers w hw := by
    obtain ⟨v, hv, rfl⟩ := List.mem_map.1 hw
    have hbefore := h.workers v hv
    split
    · exact hchange v hbefore
    · exact hbefore
  handlers := h.handlers
  feed := h.feed

/-- A worker that does not keep the detector finds that it is gone, or sleeps on. -/
theorem runWorker (h : s.Gone) {heed : Bool} {w : Worker} (hw : w ∈ s.detector.workers)
    (hrun : s.runWorker heed w = some t) : t.Gone := by
  have hkeeps := h.workers w hw
  unfold Station.runWorker at hrun
  cases stage : w.stage with
  | ready =>
    simp only [stage, h.not_alive, Bool.false_eq_true, ↓reduceIte, Option.some.injEq] at hrun
    subst hrun
    exact h.endWorker w
  | resting wake =>
    simp only [stage] at hrun
    split at hrun
    next =>
      obtain rfl := Option.some.inj hrun
      exact h.endWorker w
    next =>
      split at hrun
      next => simp at hrun
      next =>
        obtain rfl := Option.some.inj hrun
        exact h.updateWorker fun _ _ => rfl
  | queued | pinging | connecting => simp [Worker.keepsDetector, stage] at hkeeps

theorem runFeed (h : s.Gone) (hrun : s.runFeed = some t) : t.Gone := by
  have hfeed := h.feed
  unfold Station.runFeed at hrun
  cases stage : s.feed.stage with
  | off => simp [stage] at hrun
  | listening =>
    simp only [stage, h.not_alive, Bool.false_eq_true, ↓reduceIte] at hrun
    split at hrun
    next => simp at hrun
    next =>
      obtain rfl := Option.some.inj hrun
      exact ⟨h.owned, h.workers, h.handlers, rfl⟩
  | connecting node lost flight => simp [stage, FeedStage.errand?] at hfeed

theorem setFollower (h : s.Gone) (index : Nat) (follower : Follower) :
    (s.setFollower index follower).Gone := ⟨h.owned, h.workers, h.handlers, h.feed⟩

theorem followTo (h : s.Gone) (index : Nat) (subscription : Subscription) (snapshot : Snapshot) :
    (s.followTo index subscription snapshot).Gone := by
  unfold Station.followTo
  rw [if_neg h.not_alive]
  exact h.setFollower index _

theorem runFollower (h : s.Gone) {index : Nat} {follower : Follower}
    (hrun : s.runFollower index follower = some t) : t.Gone := by
  unfold Station.runFollower at hrun
  split at hrun
  next =>
    obtain rfl := Option.some.inj hrun
    exact h.followTo index _ _
  next =>
    split at hrun
    next =>
      obtain rfl := Option.some.inj hrun
      exact h.followTo index _ _
    next => simp at hrun
    next =>
      obtain rfl := Option.some.inj hrun
      rw [if_neg h.not_alive]
      exact h.setFollower index _
  next => simp at hrun

theorem run (h : s.Gone) {heed : Bool} {activity : Activity}
    (hrun : s.run heed activity = some t) : t.Gone := by
  cases activity with
  | worker g =>
    obtain ⟨w, hw, hstep⟩ := Option.bind_eq_some_iff.1 hrun
    exact h.runWorker (List.mem_of_find?_eq_some hw) hstep
  | handler number => simp [Station.run, h.handlers] at hrun
  | feed => exact h.runFeed hrun
  | follower index =>
    obtain ⟨follower, -, hstep⟩ := Option.bind_eq_some_iff.1 hrun
    exact h.runFollower hstep
  | delivery =>
    obtain ⟨d, hd, rfl⟩ := Option.map_eq_some_iff.1 hrun
    refine ⟨h.owned, ?_, h.handlers, h.feed⟩
    rw [deliver?_workers hd]
    exact h.workers

theorem act (h : s.Gone) {action : Action} (hact : s.act action = some t) : t.Gone := by
  cases action with
  | reconcile | stop | close | follow | disconnect | addListener | removeListener =>
    exact absurd hact h.not_owned
  | release =>
    obtain rfl := Option.some.inj hact
    exact ⟨rfl, h.workers, h.handlers, h.feed⟩
  | publish snapshot =>
    obtain ⟨supplier, rfl⟩ := act_publish hact
    exact ⟨h.owned, h.workers, h.handlers, h.feed⟩
  | ping request =>
    obtain ⟨bulletin, -, rfl⟩ := act_ping hact
    exact ⟨h.owned, h.workers, h.handlers, h.feed⟩
  | disconnectEvent node =>
    obtain rfl := Option.some.inj hact
    rcases s.disconnectEvent_cases node with heq | ⟨-, heq⟩ <;> rw [heq]
    · exact h
    · exact ⟨h.owned, h.workers, h.handlers, h.feed⟩
  | closeSupplier | setScript | setReply | setConnects | elapse =>
    obtain rfl := Option.some.inj hact
    exact ⟨h.owned, h.workers, h.handlers, h.feed⟩
  | answer g outcome =>
    obtain rfl := Option.some.inj hact
    refine h.updateWorker fun w hw => ?_
    unfold landFlight
    cases stage : w.stage <;> simp_all [Worker.keepsDetector]
  | run heed activity => exact h.run hact

end Gone

/-- A detector that is there has been there all along. -/
theorem alive_of_act {action : Action} (hact : s.act action = some t) (h : t.alive = true) :
    s.alive = true := by
  cases halive : s.alive with
  | true => rfl
  | false => exact absurd h ((gone_iff.2 halive).act hact).not_alive

theorem alive_of_acts {actions : List Action} (hacts : s.acts actions = some t)
    (h : t.alive = true) : s.alive = true := by
  induction actions generalizing s with
  | nil =>
    obtain rfl := Option.some.inj hacts
    exact h
  | cons action rest ih =>
    obtain ⟨u, hact, hrest⟩ := Option.bind_eq_some_iff.1 hacts
    exact alive_of_act hact (ih hrest)

theorem acts_keepAlive {P : Detector → Prop} (turn : ∀ {aside d e}, P d → Turn true d aside e → P e)
    {actions : List Action} (permitted : s.Permitted) (h : P s.detector)
    (hacts : s.acts actions = some t) (alive : t.alive = true) : P t.detector := by
  induction actions generalizing s with
  | nil =>
    obtain rfl := Option.some.inj hacts
    exact h
  | cons action rest ih =>
    obtain ⟨u, hact, hrest⟩ := Option.bind_eq_some_iff.1 hacts
    obtain ⟨turns, hu⟩ := act_advances permitted hact
    rw [alive_of_acts hrest alive] at turns
    refine ih hu (turns.keepBoth (P := fun d _ => P d) h fun hd next _ => ?_) hrest
    exact turn hd next

/-- What every turn of a detector that lives on keeps holds as long as the detector is there. -/
theorem Reachable.keepAlive {P : Detector → Prop} (h : s.Reachable)
    (start : ∀ self cluster settings, P (.start self cluster settings))
    (turn : ∀ {aside d e}, P d → Turn true d aside e → P e) (alive : s.alive = true) :
    P s.detector := by
  obtain ⟨self, cluster, settings, initial, link, actions, hacts⟩ := h
  exact acts_keepAlive turn (start_permitted self cluster settings initial link) (start _ _ _)
    hacts alive

end Station
end ClusterWatch
