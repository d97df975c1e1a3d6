import ClusterWatch.Proofs.Detector.Submission

/-!
One turn at a time. Only the passing of time moves the clock, and any other action is one turn of
the detector at the moment it finds, after which news may have been handed over to the listeners
and nothing else has happened.
-/
namespace ClusterWatch

/-- The event is that news is handed over, or that a listener is told of it. -/
def Event.delivers : Event → Bool
  | .handed _ => true
  | .told .. => true
  | _ => false

namespace Detector

variable {d e : Detector}

theorem deliver?_now (h : d.deliver? = some e) : e.now = d.now := by
  obtain ⟨⟨notice, bulletin⟩, -, rfl⟩ := Option.map_eq_some_iff.1 h
  exact List.foldlRecOn (motive := fun e : Detector => e.now = d.now) _ _ rfl fun e he _ _ => he

/-- At most news has been handed over, or the news for the listeners has changed. -/
structure Informs (d e : Detector) : Prop where
  now : e.now = d.now
  settings : e.settings = d.settings
  workers : e.workers = d.workers
  monitored : e.monitored = d.monitored
  history : ∃ told : History, e.history = told ++ d.history ∧
    ∀ entry ∈ told, entry.2.delivers = true

theorem Informs.refl (d : Detector) : d.Informs d :=
  ⟨rfl, rfl, rfl, rfl, [], rfl, by simp⟩

theorem informs_of_deliver? (h : d.deliver? = some e) : d.Informs e := by
  obtain ⟨⟨notice, bulletin⟩, -, rfl⟩ := Option.map_eq_some_iff.1 h
  apply List.foldlRecOn (motive := fun e => d.Informs e)
  · exact ⟨rfl, rfl, rfl, rfl, [(d.now, .handed notice)], rfl, by simp [Event.delivers]⟩
  · rintro e ⟨now, settings, workers, monitored, told, history, htold⟩ ⟨listener, news⟩ -
    refine ⟨now, settings, workers, monitored, (e.now, .told listener news) :: told, ?_, ?_⟩
    · exact congrArg ((e.now, Event.told listener news) :: ·) history
    · intro entry hentry
      rcases List.mem_cons.1 hentry with rfl | hentry
      · rfl
      · exact htold entry hentry

end Detector

open Detector

namespace Station

variable {s t : Station}

/-- Only the passing of time moves the clock. -/
theorem act_now {action : Action} (permitted : s.Permitted) (h : s.act action = some t)
    (still : ∀ time, action ≠ .elapse time) : t.now = s.now := by
  cases haside : action.aside with
  | true =>
    obtain ⟨heard, submits, -⟩ := act_hears permitted h haside
    exact submits.now
  | false =>
    cases action with
    | close =>
      obtain rfl := of_owned h
      exact (stop_submits _).now
    | addListener listener =>
      obtain rfl := of_owned h
      rfl
    | removeListener listener =>
      obtain rfl := of_owned h
      unfold removeListener?
      cases s.detector.registry.remove? listener <;> rfl
    | run heed activity =>
      cases activity with
      | delivery =>
        obtain ⟨d, hd, rfl⟩ := Option.map_eq_some_iff.1 h
        exact deliver?_now hd
      | worker | handler | feed | follower => cases haside
    | elapse time => exact absurd rfl (still time)
    | _ => cases haside

/-- The detector of `t` comes about by one turn of the detector of `s`. -/
def OneTurn (s t : Station) : Prop := ∃ aside, Turn t.alive s.detector aside t.detector

theorem oneTurn_of_eq (h : t.detector = s.detector) : s.OneTurn t := by
  refine ⟨.nothing, ?_⟩
  rw [h]
  exact .pass s.detector.now s.detector.registry s.detector.bulletin

theorem TurnsTo.oneTurn (h : s.TurnsTo t) : s.OneTurn t := by
  obtain ⟨d, link, turn, rfl⟩ := h
  exact ⟨.nothing, turn⟩

theorem runHandler_oneTurn {h : DisconnectHandler} (member : h ∈ s.handlers)
    (permitted : s.Permitted) (hrun : s.runHandler h = some t) : s.OneTurn t := by
  unfold runHandler at hrun
  cases stage : h.stage with
  | fresh node =>
    simp only [stage] at hrun
    obtain ⟨link, d, turn, hstation⟩ := s.loseConnection_turn node
    rcases hlose : s.loseConnection node with ⟨u, attempt?⟩
    rw [hlose] at hrun turn hstation
    dsimp only at hstation
    subst hstation
    cases attempt? <;> obtain rfl := Option.some.inj hrun <;> exact ⟨_, turn _⟩
  | connecting node lost flight =>
    simp only [stage] at hrun
    obtain ⟨outcome, -, rfl⟩ := Option.map_eq_some_iff.1 hrun
    have hawaited : ⟨node, lost⟩ ∈ s.errands :=
      List.mem_append_left _
        (List.mem_filterMap.2 ⟨h, member, by simp [stage, HandlerStage.errand?]⟩)
    exact ⟨_, .reconnect outcome (permitted.errands _ hawaited)⟩

theorem runFeed_oneTurn (permitted : s.Permitted) (hrun : s.runFeed = some t) : s.OneTurn t := by
  unfold runFeed at hrun
  cases stage : s.feed.stage with
  | off => simp [stage] at hrun
  | listening =>
    simp only [stage] at hrun
    split at hrun
    next => simp at hrun
    next node rest _ =>
      split at hrun
      next =>
        let taken : Station := { s with feed := ⟨rest, .listening⟩ }
        obtain ⟨link, d, turn, hstation⟩ := taken.loseConnection_turn node
        rcases hlose : taken.loseConnection node with ⟨u, attempt?⟩
        rw [hlose] at hrun turn hstation
        dsimp only at hstation
        subst hstation
        cases attempt? <;> obtain rfl := Option.some.inj hrun <;> exact ⟨_, turn _⟩
      next =>
        obtain rfl := Option.some.inj hrun
        exact oneTurn_of_eq rfl
  | connecting node lost flight =>
    simp only [stage] at hrun
    obtain ⟨outcome, -, rfl⟩ := Option.map_eq_some_iff.1 hrun
    have hawaited : ⟨node, lost⟩ ∈ s.errands :=
      List.mem_append_right _ (by simp [stage, FeedStage.errand?])
    exact ⟨_, .reconnect outcome (permitted.errands _ hawaited)⟩

theorem followTo_oneTurn (s : Station) (index : Nat) (subscription : Subscription)
    (snapshot : Snapshot) : s.OneTurn (s.followTo index subscription snapshot) := by
  unfold followTo
  split
  · exact ⟨_, .reconcile snapshot⟩
  · exact oneTurn_of_eq rfl

theorem runFollower_oneTurn {index : Nat} {follower : Follower}
    (hrun : s.runFollower index follower = some t) : s.OneTurn t := by
  unfold runFollower at hrun
  split at hrun
  next =>
    obtain rfl := Option.some.inj hrun
    exact followTo_oneTurn s index _ _
  next =>
    split at hrun
    next =>
      obtain rfl := Option.some.inj hrun
      exact followTo_oneTurn s index _ _
    next => simp at hrun
    next =>
      obtain rfl := Option.some.inj hrun
      split
      · exact ⟨_, .stop⟩
      · exact oneTurn_of_eq rfl
  next => simp at hrun

/-- One turn of the detector, and nothing after it that concerns anybody but the listeners. -/
structure Moment (s t : Station) (d : Detector) : Prop where
  turn : ∃ aside, Turn t.alive s.detector aside d
  now : d.now = s.now
  informs : d.Informs t.detector

theorem OneTurn.moment (h : s.OneTurn t) (hnow : t.now = s.now) : s.Moment t t.detector :=
  ⟨h, hnow, .refl _⟩

/-- Everything but the passing of time is one turn of the detector at the moment it finds. -/
theorem act_moment {action : Action} (permitted : s.Permitted) (h : s.act action = some t)
    (still : ∀ time, action ≠ .elapse time) : ∃ d, s.Moment t d := by
  have hnow := act_now permitted h still
  cases action with
  | reconcile snapshot =>
    obtain rfl := of_owned h
    exact ⟨_, ⟨_, .reconcile snapshot⟩, hnow, .refl _⟩
  | stop =>
    obtain rfl := of_owned h
    exact ⟨_, ⟨_, .stop⟩, hnow, .refl _⟩
  | close =>
    obtain rfl := of_owned h
    exact ⟨_, ⟨_, .stop⟩, hnow, rfl, rfl, rfl, rfl, [], rfl, by simp⟩
  | follow =>
    obtain rfl := of_owned h
    exact ⟨_, OneTurn.moment (oneTurn_of_eq rfl) hnow⟩
  | disconnect node =>
    obtain rfl := of_owned h
    exact ⟨_, ⟨_, .hear node⟩, hnow, .refl _⟩
  | disconnectEvent node =>
    obtain rfl := Option.some.inj h
    rcases s.disconnectEvent_cases node with heq | ⟨-, heq⟩ <;> rw [heq]
    · exact ⟨_, OneTurn.moment (s := s) (t := s) (oneTurn_of_eq rfl) rfl⟩
    · exact ⟨_, ⟨_, .hear node⟩, rfl, .refl _⟩
  | addListener listener =>
    obtain rfl := of_owned h
    exact ⟨_, ⟨_, .pass s.now (s.detector.registry.add listener) s.detector.bulletin⟩, rfl, .refl _⟩
  | removeListener listener =>
    obtain rfl := of_owned h
    unfold removeListener?
    cases s.detector.registry.remove? listener with
    | none => exact ⟨_, OneTurn.moment (s := s) (t := s) (oneTurn_of_eq rfl) rfl⟩
    | some registry =>
      exact ⟨_, ⟨_, .pass s.now registry s.detector.bulletin⟩, rfl, .refl _⟩
  | publish snapshot =>
    obtain ⟨supplier, rfl⟩ := act_publish h
    exact ⟨_, OneTurn.moment (oneTurn_of_eq rfl) hnow⟩
  | ping request =>
    obtain ⟨bulletin, -, rfl⟩ := act_ping h
    exact ⟨_, ⟨_, .pass s.now s.detector.registry bulletin⟩, rfl, .refl _⟩
  | release | closeSupplier | setScript | setReply | setConnects =>
    obtain rfl := Option.some.inj h
    exact ⟨_, OneTurn.moment (oneTurn_of_eq rfl) hnow⟩
  | answer g outcome =>
    obtain rfl := Option.some.inj h
    exact ⟨_, ⟨_, .land g s.now outcome⟩, rfl, .refl _⟩
  | run heed activity =>
    cases activity with
    | worker g =>
      obtain ⟨w, hw, hstep⟩ := Option.bind_eq_some_iff.1 h
      have turn := runWorker_turn (List.mem_of_find?_eq_some hw) permitted hstep
      exact ⟨_, turn.oneTurn.moment hnow⟩
    | handler number =>
      obtain ⟨k, hk, hstep⟩ := Option.bind_eq_some_iff.1 h
      exact ⟨_, (runHandler_oneTurn (List.mem_of_find?_eq_some hk) permitted hstep).moment hnow⟩
    | feed => exact ⟨_, (runFeed_oneTurn permitted h).moment hnow⟩
    | follower index =>
      obtain ⟨follower, -, hstep⟩ := Option.bind_eq_some_iff.1 h
      exact ⟨_, (runFollower_oneTurn hstep).moment hnow⟩
    | delivery =>
      obtain ⟨d, hd, rfl⟩ := Option.map_eq_some_iff.1 h
      exact ⟨_, ⟨_, .pass s.now s.detector.registry s.detector.bulletin⟩, rfl,
        informs_of_deliver? hd⟩
  | elapse time => exact absurd rfl (still time)

end Station
end ClusterWatch
