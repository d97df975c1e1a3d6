import ClusterWatch.Proofs.Detector.Attendance

/-!
When a disconnect event takes effect. The events that the transport broadcasts are taken up by
one follower, in the order in which they came and one at a time: as long as the reconnect that an
event has called for is under way, those behind it wait, however long that may be. So before time
passes the cycle that was under watch when the event came is over, or the follower still awaits
the reconnect of an earlier event.
-/
namespace ClusterWatch

open Detector Past

/-- A cycle of this generation has been taken away. -/
def Past.Ended (past : Past) (g : Generation) : Prop := ∃ node cause, .removed node g cause ∈ past

namespace DisconnectFeed

/-- The event has not been taken up yet, and only events that were there before it are ahead. -/
structure Waits (feed : DisconnectFeed) (node : Node) (earlier : List Node) : Prop where
  on : feed.stage ≠ .off
  queued : ∃ ahead behind, feed.events = ahead ++ node :: behind ∧ ahead <:+ earlier

variable {feed : DisconnectFeed} {kept : Nat} {node : Node} {earlier : List Node}

/-- A follower that has not fallen behind loses nothing. -/
theorem offer_events (room : feed.events.length < kept) (m : Node) :
    feed.offer kept m = { feed with events := feed.events ++ [m] } := by
  have hall : (feed.events ++ [m]).length - kept = 0 := by
    rw [List.length_append, List.length_singleton]
    omega
  unfold offer
  dsimp only
  rw [hall, List.drop_zero]

theorem waits_offer (on : feed.stage ≠ .off) (room : feed.events.length < kept) :
    (feed.offer kept node).Waits node feed.events := by
  rw [offer_events room]
  exact ⟨on, feed.events, [], rfl, List.suffix_rfl⟩

theorem Waits.offer (h : feed.Waits node earlier) (room : feed.events.length < kept)
    (m : Node) : (feed.offer kept m).Waits node earlier := by
  obtain ⟨ahead, behind, hevents, hahead⟩ := h.queued
  rw [offer_events room]
  refine ⟨h.on, ahead, behind ++ [m], ?_, hahead⟩
  rw [hevents, List.append_assoc, List.cons_append]

end DisconnectFeed

namespace Station

variable {s t : Station}

theorem loseConnection_feed (s : Station) (node : Node) :
    (s.loseConnection node).1.feed = s.feed := by
  obtain ⟨link, d, -, hstation⟩ := s.loseConnection_turn node
  rw [hstation]

theorem runHandler_feed {h : DisconnectHandler} (hrun : s.runHandler h = some t) :
    t.feed = s.feed := by
  unfold runHandler at hrun
  split at hrun
  next node _ =>
    have hfeed := s.loseConnection_feed node
    rcases hlose : s.loseConnection node with ⟨u, attempt?⟩
    rw [hlose] at hrun hfeed
    cases attempt? <;> obtain rfl := Option.some.inj hrun <;> exact hfeed
  next =>
    obtain ⟨outcome, -, rfl⟩ := Option.map_eq_some_iff.1 hrun
    rfl

theorem followTo_feed (s : Station) (index : Nat) (subscription : Subscription)
    (snapshot : Snapshot) : (s.followTo index subscription snapshot).feed = s.feed := by
  unfold followTo
  split <;> rfl

theorem runFollower_feed {index : Nat} {follower : Follower}
    (hrun : s.runFollower index follower = some t) : t.feed = s.feed := by
  unfold runFollower at hrun
  split at hrun
  next =>
    obtain rfl := Option.some.inj hrun
    exact followTo_feed s index _ _
  next =>
    split at hrun
    next =>
      obtain rfl := Option.some.inj hrun
      exact followTo_feed s index _ _
    next => simp at hrun
    next =>
      obtain rfl := Option.some.inj hrun
      split <;> rfl
  next => simp at hrun

/-- Only its own stretches and the transport's events change what the follower is at. -/
theorem act_feed {action : Action} (permitted : s.Permitted) (h : s.act action = some t)
    (hrun : ∀ heed, action ≠ .run heed .feed) (hevent : ∀ node, action ≠ .disconnectEvent node) :
    t.feed = s.feed := by
  cases action with
  | reconcile | stop | close | follow | disconnect | addListener =>
    obtain rfl := of_owned h
    rfl
  | removeListener listener =>
    obtain rfl := of_owned h
    unfold removeListener?
    cases s.detector.registry.remove? listener <;> rfl
  | publish snapshot =>
    obtain ⟨supplier, rfl⟩ := act_publish h
    rfl
  | ping request =>
    obtain ⟨bulletin, -, rfl⟩ := act_ping h
    rfl
  | disconnectEvent node => exact absurd rfl (hevent node)
  | release | closeSupplier | setScript | setReply | setConnects | answer | elapse =>
    obtain rfl := Option.some.inj h
    rfl
  | run heed activity =>
    cases activity with
    | worker g =>
      obtain ⟨w, hw, hstep⟩ := Option.bind_eq_some_iff.1 h
      obtain ⟨d, link, -, rfl⟩ := runWorker_turn (List.mem_of_find?_eq_some hw) permitted hstep
      rfl
    | handler number =>
      obtain ⟨handler, -, hstep⟩ := Option.bind_eq_some_iff.1 h
      exact runHandler_feed hstep
    | feed => exact absurd rfl (hrun heed)
    | follower index =>
      obtain ⟨follower, -, hstep⟩ := Option.bind_eq_some_iff.1 h
      exact runFollower_feed hstep
    | delivery =>
      obtain ⟨d, -, rfl⟩ := Option.map_eq_some_iff.1 h
      rfl

theorem ended_of_act {g : Generation} {action : Action} (h : s.past.Ended g)
    (permitted : s.Permitted) (hact : s.act action = some t) : t.past.Ended g := by
  obtain ⟨n, cause, hremoved⟩ := h
  exact ⟨n, cause, (act_continues permitted hact).past.mem hremoved⟩

/-- The follower is done with a reconnect, or it takes up the event at the head of the queue. -/
theorem runFeed_cases (alive : s.alive = true) (h : s.runFeed = some t) :
    (s.feed.stage ≠ .off ∧ t.feed = ⟨s.feed.events, .listening⟩) ∨
    ∃ first rest, s.feed.events = first :: rest ∧ t.feed.events = rest ∧ t.feed.stage ≠ .off ∧
      t.detector = ({ s with feed := ⟨rest, .listening⟩ }.loseConnection first).1.detector := by
  unfold runFeed at h
  cases stage : s.feed.stage with
  | off => simp [stage] at h
  | connecting busy lost flight =>
    simp only [stage] at h
    obtain ⟨outcome, -, rfl⟩ := Option.map_eq_some_iff.1 h
    exact Or.inl ⟨by simp, rfl⟩
  | listening =>
    right
    cases hevents : s.feed.events with
    | nil => simp [stage, hevents] at h
    | cons first rest =>
      refine ⟨first, rest, rfl, ?_⟩
      let taken : Station := { s with feed := ⟨rest, .listening⟩ }
      have hfeed : (taken.loseConnection first).1.feed = ⟨rest, .listening⟩ :=
        taken.loseConnection_feed first
      simp only [stage, hevents, alive, ↓reduceIte] at h
      rcases hlose : taken.loseConnection first with ⟨u, attempt?⟩
      rw [hlose] at h hfeed
      cases attempt? with
      | none =>
        obtain rfl := Option.some.inj h
        have hsame : u.feed = ⟨rest, .listening⟩ := hfeed
        simp [hsame]
      | some attempt =>
        obtain rfl := Option.some.inj h
        simp

/-- As long as the detector is there, nobody stops following the events. -/
theorem act_listens {action : Action} (permitted : s.Permitted) (h : s.act action = some t)
    (alive : s.alive = true) (on : s.feed.stage ≠ .off) : t.feed.stage ≠ .off := by
  by_cases hevent : ∃ node, action = .disconnectEvent node
  · obtain ⟨node, rfl⟩ := hevent
    obtain rfl := Option.some.inj h
    rw [disconnectEvent_of_on on]
    exact on
  · by_cases hrun : ∃ heed, action = .run heed .feed
    · obtain ⟨heed, rfl⟩ := hrun
      rcases runFeed_cases alive h with ⟨-, hfeed⟩ | ⟨first, rest, -, -, hon, -⟩
      · simp [hfeed]
      · exact hon
    · rw [act_feed permitted h (fun heed heq => hrun ⟨heed, heq⟩)
        fun node heq => hevent ⟨node, heq⟩]
      exact on

theorem acts_listens {actions : List Action} (permitted : s.Permitted)
    (hacts : s.acts actions = some t) (alive : t.alive = true)
    (follows : s.detector.settings.followDisconnects = true → s.feed.stage ≠ .off) :
    t.detector.settings.followDisconnects = true → t.feed.stage ≠ .off := by
  induction actions generalizing s with
  | nil =>
    obtain rfl := Option.some.inj hacts
    exact follows
  | cons action rest ih =>
    obtain ⟨u, hact, hrest⟩ := Option.bind_eq_some_iff.1 hacts
    refine ih (act_advances permitted hact).2 hrest fun hfollows => ?_
    rw [(act_continues permitted hact).settings] at hfollows
    exact act_listens permitted hact (alive_of_acts hacts alive) (follows hfollows)

theorem Reachable.listens (h : s.Reachable) (alive : s.alive = true)
    (follows : s.detector.settings.followDisconnects = true) : s.feed.stage ≠ .off := by
  obtain ⟨self, cluster, settings, initial, link, actions, hacts⟩ := h
  refine acts_listens (start_permitted _ _ _ _ _) hacts alive (fun hfollows => ?_) follows
  have hon : settings.followDisconnects = true := hfollows
  simp [start, hon]

/-- No event comes when the follower has as many to take up as the transport keeps for it. -/
def keepsUp (s : Station) : List Action → Bool
  | [] => true
  | action :: rest =>
      (match action with
        | .disconnectEvent _ => decide (s.feed.events.length < s.link.backlog)
        | _ => true) &&
      match s.act action with
        | some next => next.keepsUp rest
        | none => true

section Waits

variable {node : Node} {earlier : List Node} {n : Node} {g : Generation}

/-- The follower takes up the event at the head of the queue; a cycle of its node that is under
watch then is over. -/
theorem runFeed_waits {c : Cycle} (alive : s.alive = true) (hc : c ∈ s.detector.monitored.entries)
    (hnode : c.node.id = node.id) (waits : s.feed.Waits node earlier) (h : s.runFeed = some t) :
    t.past.Ended c.generation ∨ t.feed.Waits node earlier := by
  obtain ⟨ahead, behind, hevents, hahead⟩ := waits.queued
  rcases runFeed_cases alive h with ⟨-, hfeed⟩ | ⟨first, rest, hqueue, hrest, hon, hdetector⟩
  · right
    rw [hfeed]
    exact ⟨by simp, ahead, behind, hevents, hahead⟩
  · rw [hevents] at hqueue
    cases ahead with
    | nil =>
      left
      obtain ⟨rfl, rfl⟩ := List.cons.inj hqueue
      have hfound : s.detector.cycle? node.id = some c := hnode ▸ Table.mem_iff_find?.1 hc
      obtain ⟨link, hstation, -⟩ :=
        loseConnection_of_some (s := { s with feed := ⟨behind, .listening⟩ }) hfound
      refine ⟨c.node, .lostByEvent, ?_⟩
      show _ ∈ t.detector.past
      rw [hdetector, hstation]
      exact removed_mem_lose _ _ _ _ _
    | cons _ ahead =>
      right
      obtain ⟨rfl, rfl⟩ := List.cons.inj hqueue
      exact ⟨hon, ahead, behind, hrest, (List.suffix_cons _ ahead).trans hahead⟩

/-- Whatever happens, the event keeps its place until the cycle is over. -/
theorem act_waits {action : Action} (h : s.Reachable) (alive : s.alive = true)
    (hbegun : .installed n g ∈ s.past) (hnode : n.id = node.id)
    (waits : s.feed.Waits node earlier)
    (room : ∀ m, action = .disconnectEvent m → s.feed.events.length < s.link.backlog)
    (hact : s.act action = some t) : t.past.Ended g ∨ t.feed.Waits node earlier := by
  by_cases ended : s.past.Ended g
  · exact Or.inl (ended_of_act ended h.permitted hact)
  by_cases hevent : ∃ m, action = .disconnectEvent m
  · obtain ⟨m, rfl⟩ := hevent
    obtain rfl := Option.some.inj hact
    rw [disconnectEvent_of_on waits.on]
    exact Or.inr (waits.offer (room m rfl) m)
  by_cases hrun : ∃ heed, action = .run heed .feed
  · obtain ⟨heed, rfl⟩ := hrun
    -- A cycle that has not ended is the one of its node that the event will find.
    have hwatched : Watched s.past g :=
      ⟨⟨n, hbegun⟩, fun m cause hremoved => ended ⟨m, cause, hremoved⟩⟩
    obtain ⟨c, hc, rfl⟩ := h.enrolled.watched hwatched
    have hsame : c.node = n := h.enrolled.unique (h.enrolled.entry c hc) hbegun
    exact runFeed_waits alive hc (hsame ▸ hnode) waits hact
  · rw [act_feed h.permitted hact (fun heed heq => hrun ⟨heed, heq⟩) fun m heq => hevent ⟨m, heq⟩]
    exact Or.inr waits

theorem acts_waits {actions : List Action} (h : s.Reachable) (hbegun : .installed n g ∈ s.past)
    (hnode : n.id = node.id) (waits : s.past.Ended g ∨ s.feed.Waits node earlier)
    (keepsUp : s.keepsUp actions = true) (hacts : s.acts actions = some t)
    (alive : t.alive = true) : t.past.Ended g ∨ t.feed.Waits node earlier := by
  induction actions generalizing s with
  | nil =>
    obtain rfl := Option.some.inj hacts
    exact waits
  | cons action rest ih =>
    obtain ⟨u, hact, hrest⟩ := Option.bind_eq_some_iff.1 hacts
    have hu : u.Reachable := h.act hact
    simp only [Station.keepsUp, hact, Bool.and_eq_true] at keepsUp
    refine ih hu ((act_continues h.permitted hact).past.mem hbegun) ?_ keepsUp.2 hrest
    rcases waits with ended | waits
    · exact Or.inl (ended_of_act ended h.permitted hact)
    · refine act_waits h (alive_of_acts hacts alive) hbegun hnode waits (fun m heq => ?_) hact
      subst heq
      simpa using keepsUp.1

end Waits

/-- The follower of the events awaits a reconnect, and the event has not been taken up yet. -/
structure HeldUp (s : Station) (node : Node) (earlier : List Node) : Prop where
  asked : s.detector.settings.reconnect = true
  busy : ∃ other lost flight, s.feed.stage = .connecting other lost flight ∧
    .connecting other lost ∈ s.past ∧ flight.outcome? s.now = none
  queued : ∃ ahead behind, s.feed.events = ahead ++ node :: behind ∧ ahead <:+ earlier

theorem quiet_iff : s.Quiet ↔ ∀ heed, ∀ a ∈ s.activities, s.run heed a = none := by
  refine ⟨fun quiet heed a _ => quiet heed a, fun hidle heed a => ?_⟩
  by_cases hmem : a ∈ s.activities
  · exact hidle heed a hmem
  · exact run_of_notMem hmem heed

/-- Where nothing can go on, an event that waits waits for a reconnect. -/
theorem heldUp_of_quiet {node : Node} {earlier : List Node} (permitted : s.Permitted)
    (alive : s.alive = true) (quiet : s.Quiet) (waits : s.feed.Waits node earlier) :
    s.HeldUp node earlier := by
  obtain ⟨ahead, behind, hevents, hahead⟩ := waits.queued
  have hidle : s.runFeed = none := quiet true .feed
  unfold runFeed at hidle
  cases stage : s.feed.stage with
  | off => exact absurd stage waits.on
  | listening =>
    cases hqueue : s.feed.events with
    | nil => simp [hqueue] at hevents
    | cons first rest =>
      simp only [stage, hqueue, alive, ↓reduceIte] at hidle
      split at hidle <;> simp at hidle
  | connecting other lost flight =>
    have hawaited : ⟨other, lost⟩ ∈ s.errands := by
      simp [errands, stage, FeedStage.errand?]
    obtain ⟨asked, begun⟩ := permitted.errands _ hawaited
    simp only [stage, Option.map_eq_none_iff] at hidle
    exact ⟨asked, ⟨other, lost, flight, stage, begun, hidle⟩, ahead, behind, hevents, hahead⟩

/-- A worker goes on by its own stretch. -/
theorem run_worker (hd : s.detector.Enrolled) (heed : Bool) {w : Worker}
    (hw : w ∈ s.detector.workers) : s.run heed (.worker w.generation) = s.runWorker heed w := by
  have hfound : s.detector.workers.find? (fun v => v.generation = w.generation) = some w :=
    find?_eq_some_of_key hw hd.distinct
  rw [run, hfound, Option.bind_some]

/-- Where nothing can go on, whoever has been told to stop awaits the outcome of a reconnect. -/
theorem connects_of_quiet (hd : s.detector.Enrolled) (quiet : s.Quiet) {w : Worker}
    (hw : w ∈ s.detector.workers) (retired : w.retired = true) : w.stage.connects = true := by
  have hidle : s.runWorker true w = none := (run_worker hd true hw).symm.trans (quiet true _)
  cases stage : w.stage with
  | connecting flight => rfl
  | _ => simp [runWorker, stage, retired] at hidle

/-- Where nothing can go on, nobody who has been told to stop has a ping under way. -/
theorem held?_of_quiet (hd : s.detector.Enrolled) (quiet : s.Quiet) {w : Worker}
    (hw : w ∈ s.detector.workers) (retired : w.retired = true) : w.held? = none := by
  have hconnects := connects_of_quiet hd quiet hw retired
  cases stage : w.stage <;> simp_all [Stage.connects, Worker.held?]

/-- An event takes effect before time passes, or the follower still awaits the reconnect of an
earlier event and has not taken this one up. -/
theorem Reachable.disconnect_event_in_turn (h : s.Reachable)
    (follows : s.detector.settings.followDisconnects = true) {c : Cycle}
    (hc : c ∈ s.detector.monitored.entries) {node : Node} (hnode : c.node.id = node.id)
    {actions : List Action} (keepsUp : s.keepsUp (.disconnectEvent node :: actions) = true)
    (hacts : s.acts (.disconnectEvent node :: actions) = some t) (alive : t.alive = true)
    (quiet : t.Quiet) :
    (Unregistered t.detector.monitored c.generation ∧
      ∀ w ∈ t.detector.workers, w.generation = c.generation → w.held? = none) ∨
    t.HeldUp node s.feed.events := by
  have ht : t.Reachable := h.acts hacts
  have hbegun : .installed c.node c.generation ∈ s.past := h.enrolled.entry c hc
  simp only [Station.keepsUp, Bool.and_eq_true, decide_eq_true_eq] at keepsUp
  have hon : s.feed.stage ≠ .off := h.listens (alive_of_acts hacts alive) follows
  have hwaits : (s.disconnectEvent node).feed.Waits node s.feed.events := by
    rw [disconnectEvent_of_on hon]
    exact DisconnectFeed.waits_offer hon keepsUp.1
  have hevent : s.act (.disconnectEvent node) = some (s.disconnectEvent node) := rfl
  have hnext : (s.disconnectEvent node).Reachable := h.act hevent
  have hbegun' := (act_continues h.permitted hevent).past.mem hbegun
  rcases acts_waits hnext hbegun' hnode (Or.inr hwaits) keepsUp.2 hacts alive with ended | waits
  · left
    obtain ⟨n, cause, hremoved⟩ := ended
    obtain ⟨hd, hattendance⟩ := ht.attended alive
    have hnone : Unregistered t.detector.monitored c.generation := fun b hb hg =>
      hd.present b hb n cause (hg ▸ hremoved)
    refine ⟨hnone, fun w hw hg => held?_of_quiet hd quiet hw ?_⟩
    exact (hattendance.told w hw).2 (hg ▸ hnone)
  · exact Or.inr (heldUp_of_quiet ht.permitted alive quiet waits)

/-- Disconnect events are followed, no ping is answered, and the reconnect to the peer, which has
been lost, takes a while. -/
def peerLost : Station :=
  Trial.after { reconnecting with followDisconnects := true }
    (Link.silent.setConnects Trial.peer.id [.after 100 .done]) [
      .reconcile (Trial.together.withNode Trial.other), .run true (.worker ⟨1⟩),
      .run true (.worker ⟨1⟩), .run true (.worker ⟨2⟩), .run true (.worker ⟨2⟩),
      .disconnectEvent Trial.peer, .run true .feed, .run true (.worker ⟨2⟩)] (by decide)

/-- While that reconnect is under way, the connection to the other member is lost as well. -/
def bothLost : Station := peerLost.disconnectEvent Trial.other

theorem bothLost_quiet : bothLost.Quiet := quiet_iff.2 (by decide)

theorem disconnect_event_in_turn_both_lost :
    peerLost.keepsUp [.disconnectEvent Trial.other] = true ∧ bothLost.Quiet ∧
      ((Unregistered bothLost.detector.monitored ⟨1⟩ ∧
        ∀ w ∈ bothLost.detector.workers, w.generation = ⟨1⟩ → w.held? = none) ∨
      bothLost.HeldUp Trial.other []) :=
  ⟨by decide, bothLost_quiet, Reachable.disconnect_event_in_turn (s := peerLost)
    (c := ⟨Trial.other, ⟨1⟩, 0, .awaiting⟩) (Trial.reachable (by decide)) (by decide) (by decide)
    (by decide) (by decide) (show peerLost.acts [.disconnectEvent Trial.other] = some bothLost from
      rfl) (by decide) bothLost_quiet⟩

/-- Time may pass before an event takes effect. -/
theorem disconnect_event_may_wait :
    ¬ ∀ (s t : Station) (c : Cycle) (node : Node) (actions : List Action), s.Reachable →
      s.detector.settings.followDisconnects = true → c ∈ s.detector.monitored.entries →
      c.node.id = node.id → s.keepsUp (.disconnectEvent node :: actions) = true →
      s.acts (.disconnectEvent node :: actions) = some t → t.alive = true → t.Quiet →
      Unregistered t.detector.monitored c.generation := by
  intro h
  have hreachable : peerLost.Reachable := Trial.reachable (by decide)
  have hover := h peerLost bothLost ⟨Trial.other, ⟨1⟩, 0, .awaiting⟩ Trial.other [] hreachable
    (by decide) (by decide) (by decide) (by decide) rfl (by decide) bothLost_quiet
  have hentry : ⟨Trial.other, ⟨1⟩, 0, .awaiting⟩ ∈ bothLost.detector.monitored.entries := by decide
  exact hover _ hentry rfl

end Station

end ClusterWatch
