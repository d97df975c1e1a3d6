import ClusterWatch.Proofs.Detector.FacetWork

/-!
Whom a node has to do with. Of all that may be running, the node's own workers and the followers
of the supplier have a seat at its facet, and the facet knows who of them can go on and what comes
of it. Everybody else, and every request that is not about all nodes, leaves the facet alone,
provided that no loss of connection is told of.
-/
namespace ClusterWatch

open Detector Past

/-- What the action tells all nodes. -/
def Action.tidings? : Action → Option Tidings
  | .reconcile _ => some .reconciled
  | .stop => some .stopped
  | .close => some .closed
  | .follow => some .followed
  | .publish snapshot => some (.published snapshot.version)
  | .closeSupplier => some .supplierClosed
  | _ => none

/-- The action is a request, and not one that tells of a loss of connection. -/
def Action.asks : Action → Bool
  | .disconnect _ => false
  | .disconnectEvent _ => false
  | .answer .. => false
  | .run .. => false
  | .elapse _ => false
  | _ => true

/-- The seat of the activity at the facet of the node, if it has one. -/
def Past.seat? (past : Past) (id : NodeId) : Activity → Option Seat
  | .worker g => if g ∈ past.cyclesOf id then some (.hand ((past.cyclesOf id).idxOf g)) else none
  | .follower index => some (.follower index)
  | _ => none

section Seats

variable {past : Past} {id : NodeId} {seat : Seat}

theorem seat?_worker (g : Generation) : past.seat? id (.worker g) =
    if g ∈ past.cyclesOf id then some (.hand ((past.cyclesOf id).idxOf g)) else none := rfl

theorem seat?_worker_eq_some {g : Generation} (h : past.seat? id (.worker g) = some seat) :
    g ∈ past.cyclesOf id ∧ seat = .hand ((past.cyclesOf id).idxOf g) := by
  rw [seat?_worker] at h
  split at h
  next hg => exact ⟨hg, (Option.some.inj h).symm⟩
  next => simp at h

end Seats

namespace Detector

variable {d : Detector} {id : NodeId} {g : Generation}

theorem mem_cyclesOf_iff (hd : d.Enrolled) {w : Worker} (hw : w ∈ d.workers) :
    w.generation ∈ d.past.cyclesOf id ↔ w.node.id = id := by
  rw [mem_cyclesOf]
  constructor
  · rintro ⟨node, hid, hmem⟩
    exact hd.unique hmem (hd.worker w hw) ▸ hid
  · intro hid
    exact ⟨w.node, hid, hd.worker w hw⟩

/-- Among the hands a worker of the node is found by its rank. -/
theorem find?_hands (hd : d.Enrolled) (hg : g ∈ d.past.cyclesOf id) :
    ((d.view id).hands.find? fun h => h.rank = (d.past.cyclesOf id).idxOf g) =
      (d.workers.find? fun w => w.generation = g).map (d.hand id) := by
  have hrank {v : Worker} (hv : v ∈ d.workersOf id) :
      (d.hand id v).rank = (d.past.cyclesOf id).idxOf g ↔ v.generation = g :=
    List.idxOf_inj (mem_cyclesOf_of_worker hd hv)
  cases hfound : d.workers.find? fun w => w.generation = g with
  | none =>
    refine List.find?_eq_none.2 fun h hh => ?_
    obtain ⟨v, hv, rfl⟩ := List.mem_map.1 hh
    have hother := List.find?_eq_none.1 hfound v (mem_workersOf.1 hv).1
    simpa [hrank hv] using hother
  | some w =>
    have hw := List.mem_of_find?_eq_some hfound
    have hwg : w.generation = g := by simpa using List.find?_some hfound
    have hmine : w ∈ d.workersOf id :=
      mem_workersOf.2 ⟨hw, (mem_cyclesOf_iff hd hw).1 (hwg ▸ hg)⟩
    have hsome : ((d.view id).hands.find?
        fun h => h.rank = (d.past.cyclesOf id).idxOf g).isSome = true :=
      List.find?_isSome.2
        ⟨d.hand id w, List.mem_map_of_mem hmine, by simpa using (hrank hmine).2 hwg⟩
    obtain ⟨h, hh⟩ := Option.isSome_iff_exists.1 hsome
    obtain ⟨v, hv, rfl⟩ := List.mem_map.1 (List.mem_of_find?_eq_some hh)
    have hvg : v.generation = g := (hrank hv).1 (by simpa using List.find?_some hh)
    rw [hh, hd.worker_unique (mem_workersOf.1 hv).1 hw (hvg.trans hwg.symm)]
    rfl

theorem memberships_reconcile (d : Detector) (s : Snapshot) :
    (d.reconcile s).past.memberships = s.nodes :: d.past.memberships := by
  refine reconcile_keep (P := fun e => e.past.memberships = s.nodes :: d.past.memberships) rfl
    (fun _ _ he _ => he) fun e node he _ _ => ?_
  rcases e.install_eq node with ⟨-, heq⟩ | ⟨-, heq⟩
  · rw [heq]
    exact he
  · rw [heq]
    exact he

/-- News that is handed over is nothing to the node. -/
theorem view_deliver {e : Detector} (h : d.deliver? = some e) : e.view id = d.view id := by
  obtain ⟨⟨notice, bulletin⟩, hnext, rfl⟩ := Option.map_eq_some_iff.1 h
  refine List.foldlRecOn (motive := fun e : Detector => e.view id = d.view id) _ _ ?_
    fun e he _ _ => (view_record rfl).trans he
  have hshut : bulletin.shut = d.bulletin.shut := by
    unfold Bulletin.next? at hnext
    split at hnext
    next => simp at hnext
    next =>
      obtain ⟨-, rfl⟩ := Prod.mk.inj (Option.some.inj hnext)
      rfl
  exact congrArg (fun shut => { d.view id with shut }) hshut

end Detector

namespace Station

variable {s t : Station} {id : NodeId} {a : Activity} {seat : Seat} {answers : Answers} {heed : Bool}

/-- Nobody is told of a loss of connection, apart from workers by their own pings. -/
structure Calm (s : Station) : Prop where
  handlers : s.handlers = []
  events : s.feed.events = []
  errand : s.feed.stage.errand? = none

theorem Calm.runFeed (h : s.Calm) : s.runFeed = none := by
  have herrand := h.errand
  unfold Station.runFeed
  cases hstage : s.feed.stage with
  | off => rfl
  | listening => simp [h.events]
  | connecting => simp [hstage, FeedStage.errand?] at herrand

theorem Calm.runHandler (h : s.Calm) (number : Nat) : s.run heed (.handler number) = none := by
  simp [Station.run, h.handlers]

theorem runFollower_isSome {index : Nat} {follower : Follower} :
    (s.runFollower index follower).isSome =
      ((s.facet id).runFollower answers index follower).isSome := by
  have hshared : (s.facet id).accepted = s.supplier.accepted ∧
      (s.facet id).closed = s.supplier.closed := ⟨rfl, rfl⟩
  unfold runFollower Facet.runFollower Supplier.poll
  rw [hshared.1, hshared.2]
  cases follower.stage with
  | fresh | ended => rfl
  | watching =>
    dsimp only
    by_cases hseen : follower.subscription.seen < s.supplier.accepted
    · simp [hseen]
    · by_cases hclosed : s.supplier.closed = true <;> simp [hseen, hclosed]

/-- The worker of a cycle of the node is asked for at the facet by its rank. -/
theorem facet_run_hand {g : Generation} (hd : s.detector.Enrolled) (hg : g ∈ s.past.cyclesOf id) :
    (s.facet id).run answers heed (.hand ((s.past.cyclesOf id).idxOf g)) =
      ((s.detector.workers.find? fun w => w.generation = g).bind fun w =>
        (s.detector.view id).runHand answers s.supplier.current.version heed
          (s.detector.hand id w)).map fun view => { s.facet id with view } := by
  have hfind : ((s.facet id).view.hands.find? fun h => h.rank = (s.past.cyclesOf id).idxOf g) =
      (s.detector.workers.find? fun w => w.generation = g).map (s.detector.hand id) :=
    find?_hands hd hg
  simp only [Facet.run, hfind, Option.bind_map]
  rfl

theorem mem_workersOf_of_find? {g : Generation} (hd : s.detector.Enrolled)
    (hg : g ∈ s.past.cyclesOf id) {w : Worker}
    (hfound : (s.detector.workers.find? fun w => w.generation = g) = some w) :
    w ∈ s.detector.workersOf id := by
  have hw := List.mem_of_find?_eq_some hfound
  have hwg : w.generation = g := by simpa using List.find?_some hfound
  exact mem_workersOf.2 ⟨hw, (mem_cyclesOf_iff hd hw).1 (hwg ▸ hg)⟩

/-- Who can go on is settled by the facet. -/
theorem run_isSome (answers : Answers) (h : s.Reachable) (alive : s.alive = true)
    (hseat : s.past.seat? id a = some seat) :
    (s.run heed a).isSome = ((s.facet id).run answers heed seat).isSome := by
  cases a with
  | worker g =>
    obtain ⟨hg, rfl⟩ := seat?_worker_eq_some hseat
    rw [facet_run_hand h.enrolled hg, Option.isSome_map]
    show (Option.bind _ _).isSome = _
    cases hfound : s.detector.workers.find? fun w => w.generation = g with
    | none => rfl
    | some w =>
      exact runWorker_isSome h (h.attended alive) (mem_workersOf_of_find? h.enrolled hg hfound) _ _
  | follower index =>
    obtain rfl := Option.some.inj hseat
    show (s.followers[index]?.bind _).isSome = (s.followers[index]?.bind _).isSome
    cases s.followers[index]? with
    | none => rfl
    | some follower => exact runFollower_isSome
  | handler | feed | delivery => simp [Past.seat?] at hseat

/-- Everybody who can go on at the facet has got the seat at the station. -/
theorem exists_seat {f : Facet} (h : s.Reachable)
    (goes : (s.facet id).run answers heed seat = some f) :
    ∃ a, s.past.seat? id a = some seat := by
  cases seat with
  | follower index => exact ⟨.follower index, rfl⟩
  | hand rank =>
    simp only [Facet.run, Option.map_eq_some_iff, Option.bind_eq_some_iff] at goes
    obtain ⟨-, ⟨hand, hfound, -⟩, -⟩ := goes
    obtain ⟨w, hw, rfl⟩ := List.mem_map.1 (List.mem_of_find?_eq_some hfound)
    have hrank : (s.detector.hand id w).rank = rank := by simpa using List.find?_some hfound
    have hcycle : w.generation ∈ s.past.cyclesOf id := mem_cyclesOf_of_worker h.enrolled hw
    refine ⟨.worker w.generation, ?_⟩
    rw [seat?_worker, if_pos hcycle, ← hrank]
    rfl

/-- Where nothing is left to do at the station, the facet is idle. -/
theorem idle_of_quiet (answers : Answers) (h : s.Reachable) (alive : s.alive = true)
    (quiet : s.Quiet) : (s.facet id).Idle answers := by
  intro heed seat
  cases goes : (s.facet id).run answers heed seat with
  | none => rfl
  | some f =>
    obtain ⟨a, hseat⟩ := exists_seat h goes
    have hsome : (s.run heed a).isSome = ((s.facet id).run answers heed seat).isSome :=
      run_isSome answers h alive hseat
    simp [quiet heed a, goes] at hsome

theorem followTo_mine {index : Nat} {subscription : Subscription} (h : s.Reachable)
    (alive : s.alive = true) (answered : Answered answers id s
      (s.followTo index (s.supplier.catchUp subscription) s.supplier.current)) :
    (s.followTo index (s.supplier.catchUp subscription) s.supplier.current).facet id =
      (s.facet id).followTo answers index := by
  unfold followTo at answered ⊢
  rw [if_pos alive] at answered ⊢
  have hview := view_reconcile answers (h.attended alive)
    (answered.listed _ (memberships_reconcile s.detector s.supplier.current))
  exact congrArg (fun view => Facet.setFollower { s.facet id with view } index
    ⟨s.supplier.catchUp subscription, .watching⟩) hview

theorem runFollower_mine {index : Nat} {follower : Follower} (h : s.Reachable)
    (alive : s.alive = true) (hrun : s.runFollower index follower = some t)
    (answered : Answered answers id s t) :
    (s.facet id).runFollower answers index follower = some (t.facet id) := by
  have hshared : (s.facet id).accepted = s.supplier.accepted ∧
      (s.facet id).closed = s.supplier.closed := ⟨rfl, rfl⟩
  unfold runFollower at hrun
  unfold Facet.runFollower
  rw [hshared.1, hshared.2]
  cases stage : follower.stage with
  | fresh =>
    simp only [stage, Option.some.injEq] at hrun
    subst hrun
    exact congrArg some (followTo_mine h alive answered).symm
  | watching =>
    simp only [stage] at hrun
    unfold Supplier.poll at hrun
    by_cases hseen : follower.subscription.seen < s.supplier.accepted
    · simp only [hseen, ↓reduceIte, Option.some.injEq] at hrun
      subst hrun
      rw [if_pos hseen]
      exact congrArg some (followTo_mine h alive answered).symm
    · by_cases hclosed : s.supplier.closed = true
      · simp only [hseen, hclosed, alive, ↓reduceIte, Option.some.injEq] at hrun
        subst hrun
        rw [if_neg hseen, if_pos hclosed]
        have hview : s.detector.stop.view id = _ := view_stop (h.attended alive)
        exact congrArg (fun view => some (Facet.setFollower { s.facet id with view } index
          ⟨follower.subscription, .ended⟩)) hview.symm
      · simp [hseen, hclosed] at hrun
  | ended => simp [stage] at hrun

/-- Those who have a seat do to the facet what it does by itself. -/
theorem run_mine (h : s.Reachable) (hseat : s.past.seat? id a = some seat)
    (hrun : s.run heed a = some t) (before : s.alive = true) (after : t.alive = true)
    (answered : Answered answers id s t) :
    (s.facet id).run answers heed seat = some (t.facet id) := by
  cases a with
  | worker g =>
    obtain ⟨hg, rfl⟩ := seat?_worker_eq_some hseat
    obtain ⟨w, hfound, hstep⟩ := Option.bind_eq_some_iff.1 hrun
    have hw := List.mem_of_find?_eq_some hfound
    have hmine := mem_workersOf_of_find? h.enrolled hg hfound
    have hview := runWorker_mine h (h.attended before) hmine hstep before after answered
    obtain ⟨d, link, -, rfl⟩ := runWorker_turn hw h.permitted hstep
    rw [facet_run_hand h.enrolled hg, hfound, Option.bind_some, hview]
    rfl
  | follower index =>
    obtain rfl := Option.some.inj hseat
    obtain ⟨follower, hfound, hstep⟩ := Option.bind_eq_some_iff.1 hrun
    show s.followers[index]?.bind _ = _
    rw [hfound]
    exact runFollower_mine h before hstep answered
  | handler | feed | delivery => simp [Past.seat?] at hseat

/-- Those who have no seat are nothing to the node. -/
theorem run_others (h : s.Reachable) (calm : s.Calm) (hseat : s.past.seat? id a = none)
    (hrun : s.run heed a = some t) : t.facet id = s.facet id := by
  cases a with
  | worker g =>
    obtain ⟨w, hfound, hstep⟩ := Option.bind_eq_some_iff.1 hrun
    have hw := List.mem_of_find?_eq_some hfound
    have hwg : w.generation = g := by simpa using List.find?_some hfound
    have hid : w.node.id ≠ id := fun hid => by
      have hg : g ∈ s.past.cyclesOf id := hwg ▸ (mem_cyclesOf_iff h.enrolled hw).2 hid
      rw [seat?_worker, if_pos hg] at hseat
      simp at hseat
    have hview := (runWorker_others h.enrolled hw hid hstep).view
    obtain ⟨d, link, -, rfl⟩ := runWorker_turn hw h.permitted hstep
    exact congrArg (fun view => { s.facet id with view }) hview
  | handler number => simp [calm.runHandler] at hrun
  | feed => simp [run, calm.runFeed] at hrun
  | follower index => simp [Past.seat?] at hseat
  | delivery =>
    obtain ⟨d, hd, rfl⟩ := Option.map_eq_some_iff.1 hrun
    exact congrArg (fun view => { s.facet id with view }) (view_deliver hd)

/-- Workers, followers and the delivery of news tell nobody of a loss of connection. -/
theorem Calm.run (calm : s.Calm) (h : s.Reachable) (hrun : s.run heed a = some t) : t.Calm := by
  cases a with
  | worker g =>
    obtain ⟨w, hfound, hstep⟩ := Option.bind_eq_some_iff.1 hrun
    obtain ⟨d, link, -, rfl⟩ := runWorker_turn (List.mem_of_find?_eq_some hfound) h.permitted hstep
    exact ⟨calm.handlers, calm.events, calm.errand⟩
  | handler number => simp [calm.runHandler] at hrun
  | feed => simp [Station.run, calm.runFeed] at hrun
  | follower index =>
    obtain ⟨follower, -, hstep⟩ := Option.bind_eq_some_iff.1 hrun
    have hfollowed (subscription : Subscription) (snapshot : Snapshot) :
        (s.followTo index subscription snapshot).Calm := by
      unfold followTo
      split <;> exact ⟨calm.handlers, calm.events, calm.errand⟩
    unfold runFollower at hstep
    split at hstep
    next => exact Option.some.inj hstep ▸ hfollowed _ _
    next =>
      split at hstep
      next => exact Option.some.inj hstep ▸ hfollowed _ _
      next => simp at hstep
      next =>
        obtain rfl := Option.some.inj hstep
        split <;> exact ⟨calm.handlers, calm.events, calm.errand⟩
    next => simp at hstep
  | delivery =>
    obtain ⟨d, -, rfl⟩ := Option.map_eq_some_iff.1 hrun
    exact ⟨calm.handlers, calm.events, calm.errand⟩

/-- A publication tells the node of its version, whatever it lists. -/
theorem publish_told (answers : Answers) {snapshot : Snapshot} (calm : s.Calm)
    (hact : s.act (.publish snapshot) = some t) :
    t.Calm ∧ t.facet id = (s.facet id).learn answers (.published snapshot.version) := by
  have hshared : (s.facet id).version = s.supplier.current.version ∧
      (s.facet id).closed = s.supplier.closed := ⟨rfl, rfl⟩
  have hcalm (supplier : Supplier) : Calm { s with supplier } :=
    ⟨calm.handlers, calm.events, calm.errand⟩
  simp only [act, Station.publish, Supplier.publish] at hact
  simp only [Facet.learn, hshared.1, hshared.2]
  by_cases hclosed : s.supplier.closed = true
  · simp only [hclosed, ↓reduceIte, Except.map, Option.some.injEq] at hact ⊢
    subst hact
    exact ⟨calm, rfl⟩
  · by_cases hstale : snapshot.version ≤ s.supplier.current.version
    · simp only [hclosed, hstale, Bool.false_eq_true, ↓reduceIte, Except.map,
        Option.some.injEq] at hact ⊢
      subst hact
      exact ⟨calm, rfl⟩
    · simp only [hclosed, hstale, Bool.false_eq_true, ↓reduceIte, Except.map,
        Option.some.injEq] at hact ⊢
      subst hact
      exact ⟨hcalm _, rfl⟩

/-- What a request tells is all that it is to the node. -/
theorem act_asks {action : Action} (h : s.Reachable) (calm : s.Calm) (before : s.alive = true)
    (asks : action.asks = true) (hact : s.act action = some t)
    (answered : Answered answers id s t) : t.Calm ∧ t.facet id =
      (action.tidings?.map ((s.facet id).learn answers)).getD (s.facet id) := by
  have hd := h.attended before
  have hcalm : s.handlers = [] ∧ s.feed.events = [] ∧ s.feed.stage.errand? = none :=
    ⟨calm.handlers, calm.events, calm.errand⟩
  cases action with
  | reconcile snapshot =>
    obtain rfl := of_owned hact
    have hview := view_reconcile answers hd
      (answered.listed _ (memberships_reconcile s.detector snapshot))
    exact ⟨⟨hcalm.1, hcalm.2.1, hcalm.2.2⟩, congrArg (fun view => { s.facet id with view }) hview⟩
  | stop =>
    obtain rfl := of_owned hact
    exact ⟨⟨hcalm.1, hcalm.2.1, hcalm.2.2⟩,
      congrArg (fun view => { s.facet id with view }) (view_stop hd)⟩
  | close =>
    obtain rfl := of_owned hact
    exact ⟨⟨hcalm.1, hcalm.2.1, hcalm.2.2⟩,
      congrArg (fun view => { s.facet id with view }) (view_close hd)⟩
  | follow =>
    obtain rfl := of_owned hact
    have hfollowers : s.followers ++ [⟨s.supplier.subscribe, .fresh⟩] =
        s.followers ++ [⟨⟨s.supplier.accepted⟩, .fresh⟩] := by rw [s.supplier.subscribe_eq]
    exact ⟨⟨hcalm.1, hcalm.2.1, hcalm.2.2⟩,
      congrArg (fun followers => { s.facet id with followers }) hfollowers⟩
  | addListener listener =>
    obtain rfl := of_owned hact
    exact ⟨⟨hcalm.1, hcalm.2.1, hcalm.2.2⟩, rfl⟩
  | release | closeSupplier | setScript | setReply | setConnects =>
    obtain rfl := Option.some.inj hact
    exact ⟨⟨hcalm.1, hcalm.2.1, hcalm.2.2⟩, rfl⟩
  | removeListener listener =>
    obtain rfl := of_owned hact
    unfold removeListener?
    cases s.detector.registry.remove? listener <;> exact ⟨⟨hcalm.1, hcalm.2.1, hcalm.2.2⟩, rfl⟩
  | publish snapshot => exact publish_told answers calm hact
  | ping request =>
    obtain ⟨bulletin, hshut, rfl⟩ := act_ping hact
    exact ⟨⟨hcalm.1, hcalm.2.1, hcalm.2.2⟩,
      congrArg (fun shut => { s.facet id with view := { (s.facet id).view with shut } }) hshut⟩
  | disconnect | disconnectEvent | answer | run | elapse => simp [Action.asks] at asks

/-- The node's own waits are among those of the station. -/
theorem mem_wakeTimes {time : Nat} (h : time ∈ (s.facet id).wakeTimes) : time ∈ s.wakeTimes := by
  obtain ⟨hand, hmem, htime⟩ := List.mem_flatMap.1 h
  obtain ⟨w, hw, rfl⟩ := List.mem_map.1 hmem
  refine List.mem_append_left _ (List.mem_append_left _ ?_)
  refine List.mem_flatMap.2 ⟨w, (mem_workersOf.1 hw).1, ?_⟩
  unfold Worker.wakeTimes
  cases stage : w.stage <;>
    simp_all [Detector.hand, Stage.pose, Pose.wakeTimes, Flight.wakeTimes_plain]

end Station

end ClusterWatch
