import Mathlib.Data.List.Perm.Subperm
import ClusterWatch.Proofs.Detector.Lifetime

/-!
What is submitted to the listeners. Whatever is asked of a station, and whatever a stretch of an
activity does, some news is submitted to the bulletin, and the failures among it are those that are
reported. With it goes what becomes of the connections that are said to be lost: one is said to be
lost, or one that was is taken up and ends the cycle of its node.
-/
namespace ClusterWatch

def Notice.isFailure : Notice → Bool
  | .nodeFailed .. => true
  | .pingReceived _ => false

namespace Bulletin

/-- The bulletin after news that is submitted; one that has been shut takes none. -/
def offer (b : Bulletin) (notices : List Notice) : Bulletin :=
  { b with waiting := b.waiting ++ if b.shut then [] else notices }

theorem offer_nil (b : Bulletin) : b.offer [] = b := by
  simp [offer]

theorem offer_offer (b : Bulletin) (earlier later : List Notice) :
    (b.offer earlier).offer later = b.offer (earlier ++ later) := by
  cases hshut : b.shut <;> simp [offer, hshut]

theorem offer_singleton (b : Bulletin) (notice : Notice) :
    b.offer [notice] = (b.submit? notice).getD b := by
  obtain ⟨waiting, shut⟩ := b
  cases shut <;> simp [offer, submit?]

end Bulletin

namespace Event

/-- Who is told what by the event, if it is that a listener is told something. -/
def told? : Event → Option (Listener × Notice)
  | .told listener notice => some (listener, notice)
  | _ => none

/-- What is handed over by the event. -/
def handed? : Event → Option Notice
  | .handed notice => some notice
  | _ => none

/-- The failure that is submitted by the event, and whether it is taken. -/
def report? : Event → Option (Notice × Bool)
  | .reported node _ reason taken => some (.nodeFailed node reason, taken)
  | _ => none

/-- The event is about a connection that is said to be lost. -/
def hears : Event → Bool
  | .disconnected _ => true
  | .removed _ _ .lostByEvent => true
  | _ => false

/-- The event is about news, or about a connection that is said to be lost. -/
def telling (e : Event) : Bool :=
  e.told?.isSome || e.handed?.isSome || e.report?.isSome || e.hears

end Event

/-- Whether an action does no more to the news than submit some, and leaves the clock alone. -/
def Action.aside : Action → Bool
  | .close => false
  | .addListener _ => false
  | .removeListener _ => false
  | .run _ .delivery => false
  | .elapse _ => false
  | _ => true

namespace Detector

variable {d e f : Detector} {heard later : List Event}

/-- News may have been submitted, and the failures among it have been reported. The clock has not
moved, nothing has been handed over, and who is to be told has not changed. Of connections said to
be lost there is no more than has been heard. -/
structure Submits (d e : Detector) (heard : List Event) : Prop where
  now : e.now = d.now
  registry : e.registry = d.registry
  submitted : ∃ notices, e.bulletin = d.bulletin.offer notices ∧
    e.past.filterMap Event.report? =
      ((notices.filter Notice.isFailure).map (·, !d.bulletin.shut)).reverse ++
        d.past.filterMap Event.report?
  unhanded : e.past.filterMap Event.handed? = d.past.filterMap Event.handed?
  untold : e.past.filterMap Event.told? = d.past.filterMap Event.told?
  heard : e.past.filter Event.hears = heard ++ d.past.filter Event.hears

section Submits

theorem Submits.trans (h : d.Submits e heard) (hnext : e.Submits f later) :
    d.Submits f (later ++ heard) := by
  obtain ⟨earlier, hearlier, hreported⟩ := h.submitted
  obtain ⟨last, hlast, hnews⟩ := hnext.submitted
  constructor
  case now => exact hnext.now.trans h.now
  case registry => exact hnext.registry.trans h.registry
  case submitted =>
    refine ⟨earlier ++ last, ?_, ?_⟩
    · rw [hlast, hearlier, Bulletin.offer_offer]
    · have hshut : e.bulletin.shut = d.bulletin.shut := by rw [hearlier, Bulletin.offer]
      rw [hnews, hreported, hshut, List.filter_append, List.map_append, List.reverse_append,
        List.append_assoc]
  case unhanded => exact hnext.unhanded.trans h.unhanded
  case untold => exact hnext.untold.trans h.untold
  case heard => rw [hnext.heard, h.heard, List.append_assoc]

/-- Nothing more is heard afterwards. -/
theorem Submits.next (h : d.Submits e heard) (hnext : e.Submits f []) : d.Submits f heard :=
  h.trans hnext

/-- Nothing is lost of a past by leaving out the events that have nothing to show. -/
theorem filterMap_telling {α : Type} {f : Event → Option α}
    (hf : ∀ e, (f e).isSome = true → e.telling = true) (past : Past) :
    (past.filter Event.telling).filterMap f = past.filterMap f := by
  induction past with
  | nil => rfl
  | cons e past ih =>
    cases htelling : e.telling with
    | true => rw [List.filter_cons_of_pos htelling, List.filterMap_cons, List.filterMap_cons, ih]
    | false =>
      have hnone : f e = none := by
        cases hfound : f e with
        | none => rfl
        | some a => simp [hf e (by simp [hfound])] at htelling
      rw [List.filter_cons_of_neg (by simp [htelling]), List.filterMap_cons_none hnone, ih]

/-- Nothing has been submitted either, and nothing has been heard. -/
theorem Submits.still (now : e.now = d.now) (registry : e.registry = d.registry)
    (bulletin : e.bulletin = d.bulletin)
    (silent : e.past.filter Event.telling = d.past.filter Event.telling) : d.Submits e [] := by
  have hsame {α : Type} {f : Event → Option α} (hf : ∀ e, (f e).isSome = true → e.telling = true) :
      e.past.filterMap f = d.past.filterMap f := by
    rw [← filterMap_telling hf, silent, filterMap_telling hf]
  have hheard := congrArg (List.filter Event.hears) silent
  simp only [List.filter_filter] at hheard
  have htelling : (fun e : Event => e.hears && e.telling) = Event.hears := by
    funext e
    cases hhears : e.hears <;> simp [Event.telling, hhears]
  rw [htelling] at hheard
  refine ⟨now, registry, ⟨[], ?_, ?_⟩, hsame ?_, hsame ?_, hheard⟩
  · rw [bulletin, Bulletin.offer_nil]
  · exact hsame fun e h => by simp [Event.telling, h]
  · exact fun e h => by simp [Event.telling, h]
  · exact fun e h => by simp [Event.telling, h]

theorem Submits.refl (d : Detector) : d.Submits d [] := .still rfl rfl rfl rfl

theorem report_submits (d : Detector) (node : Node) (g : Generation) (reason : FailureReason) :
    d.Submits (d.report node g reason) [] := by
  rw [report_eq]
  exact ⟨rfl, rfl, ⟨[.nodeFailed node reason], (d.bulletin.offer_singleton _).symm, rfl⟩, rfl, rfl,
    rfl⟩

theorem removeCycle_submits (d : Detector) (cause : Removal) (hcause : cause ≠ .lostByEvent)
    (c : Cycle) : d.Submits (d.removeCycle cause c) [] := by
  cases cause with
  | lostByEvent => exact absurd rfl hcause
  | _ => exact .still rfl rfl rfl rfl

/-- A disconnect that is taken up ends the cycle. -/
theorem removeCycle_hears (d : Detector) (c : Cycle) :
    d.Submits (d.removeCycle .lostByEvent c) [.removed c.node c.generation .lostByEvent] :=
  ⟨rfl, rfl, ⟨[], d.bulletin.offer_nil.symm, rfl⟩, rfl, rfl, rfl⟩

theorem record_hears (d : Detector) (node : Node) :
    d.Submits (d.record (.disconnected node)) [.disconnected node] :=
  ⟨rfl, rfl, ⟨[], d.bulletin.offer_nil.symm, rfl⟩, rfl, rfl, rfl⟩

theorem install_submits (d : Detector) (node : Node) : d.Submits (d.install node) [] := by
  rcases d.install_eq node with ⟨-, heq⟩ | ⟨-, heq⟩
  · rw [heq]
    exact .refl d
  · rw [heq]
    exact .still rfl rfl rfl rfl

theorem reconcile_submits (d : Detector) (s : Snapshot) : d.Submits (d.reconcile s) [] := by
  apply reconcile_keep (P := fun e => d.Submits e [])
  · exact .still rfl rfl rfl rfl
  · intro e c he _
    exact he.next (e.removeCycle_submits .left nofun c)
  · intro e node he _ _
    exact he.next (e.install_submits node)

theorem stop_submits (d : Detector) : d.Submits d.stop [] := by
  apply stop_keep (P := fun e => d.Submits e [])
  · exact .still rfl rfl rfl rfl
  · intro e c he _
    exact he.next (e.removeCycle_submits .stopped nofun c)

theorem endReconnect_submits (d : Detector) (node : Node) (lost : Generation)
    (outcome : Outcome) : d.Submits (d.endReconnect node lost outcome) [] := by
  have hrecord (outcome : Outcome) : d.Submits (d.record (.connected node lost outcome)) [] :=
    .still rfl rfl rfl rfl
  apply endReconnect_keep (P := fun e => d.Submits e [])
  · exact (hrecord .done).next (install_submits _ node)
  · intro error
    exact (hrecord (.failed error)).next (report_submits _ node lost .unreachable)

theorem gateFor_submits (d : Detector) (id : NodeId) : d.Submits (d.gateFor id).2 [] := by
  obtain ⟨gates, made, heq⟩ := d.gateFor_eq id
  rw [heq]
  exact .still rfl rfl rfl rfl

end Submits

end Detector

open Detector

/-- What the disconnect of which somebody is told directly is of, until it is taken up. -/
def HandlerStage.tiding? : HandlerStage → Option NodeId
  | .fresh node => some node.id
  | .connecting .. => none

/-- A disconnect of the node that is taken up concerns nobody, or it ends a cycle of the node. -/
def TakesUp (id : NodeId) (heard : List Event) : Prop :=
  heard = [] ∨ ∃ node g, node.id = id ∧ heard = [.removed node g .lostByEvent]

/-- What is heard of connections that are said to be lost, between the disconnects to be taken up
before and those to be taken up afterwards. -/
inductive Hearing : List NodeId → List Event → List NodeId → Prop
  | nothing {before after : List NodeId} (fewer : after.Subperm before) : Hearing before [] after
  | told {before after : List NodeId} (node : Node) (more : after.Subperm (node.id :: before)) :
      Hearing before [.disconnected node] after
  | ended {before after : List NodeId} (node : Node) (g : Generation)
      (less : (node.id :: after).Subperm before) :
      Hearing before [.removed node g .lostByEvent] after

theorem TakesUp.hearing {id : NodeId} {heard : List Event} {before after : List NodeId}
    (h : TakesUp id heard) (less : (id :: after).Subperm before) : Hearing before heard after := by
  rcases h with rfl | ⟨node, g, rfl, rfl⟩
  · exact .nothing ((List.sublist_cons_self id after).subperm.trans less)
  · exact .ended node g less

namespace Station

variable {s t : Station}

/-- The disconnects that have not been taken up yet. -/
def tidings (s : Station) : List NodeId :=
  s.handlers.filterMap (·.stage.tiding?) ++ s.feed.events.map Node.id

/-- News is submitted, and what is heard fits the disconnects that are to be taken up. -/
def Hears (s t : Station) : Prop :=
  ∃ heard, s.detector.Submits t.detector heard ∧ Hearing s.tidings heard t.tidings

theorem hears_of_submits (h : s.detector.Submits t.detector []) (same : t.tidings = s.tidings) :
    s.Hears t :=
  ⟨[], h, .nothing (same ▸ List.Subperm.refl _)⟩

section Submits

variable {d : Detector} {heard : List Event}

theorem endWorker_submits (h : d.Submits s.detector heard) (w : Worker) :
    d.Submits (s.endWorker w).detector heard := by
  obtain ⟨alive, -, heq⟩ := endWorker_eq s w
  obtain ⟨gates, hleft⟩ := s.detector.leave_eq alive w
  rw [heq, hleft]
  exact h.next (.still rfl rfl rfl rfl)

theorem afterDisconnect_submits (h : d.Submits s.detector heard) (node : Node) (lost : Generation) :
    d.Submits (s.afterDisconnect node lost).1.detector heard := by
  obtain ⟨link, heq, -⟩ := afterDisconnect_eq s node lost
  rw [heq]
  dsimp only
  split
  · exact h.next (.still rfl rfl rfl rfl)
  · exact h.next (report_submits _ node lost .disconnected)

/-- The disconnect concerns nobody, or a cycle of the node ends. -/
theorem loseConnection_submits (s : Station) (node : Node) :
    ∃ heard, s.detector.Submits (s.loseConnection node).1.detector heard ∧ TakesUp node.id heard := by
  unfold loseConnection
  split
  next => exact ⟨[], .refl _, Or.inl rfl⟩
  next c found =>
    obtain ⟨-, hid⟩ := cycle?_eq_some found
    exact ⟨_, afterDisconnect_submits (s.detector.removeCycle_hears c) node c.generation,
      Or.inr ⟨c.node, c.generation, hid, rfl⟩⟩

theorem loseByPing_submits (h : d.Submits s.detector heard) (w : Worker) (c : Cycle) :
    d.Submits (s.loseByPing w c).detector heard := by
  have hremoved := h.next (s.detector.removeCycle_submits .lostByPing nofun c)
  have hlost := afterDisconnect_submits
    (s := { s with detector := s.detector.removeCycle .lostByPing c }) hremoved w.node w.generation
  unfold loseByPing
  split
  next heq =>
    rw [heq] at hlost
    exact hlost.next (.still rfl rfl rfl rfl)
  next heq =>
    rw [heq] at hlost
    exact endWorker_submits hlost w

theorem countFailure_submits (h : d.Submits s.detector heard) (w : Worker) (c : Cycle) :
    d.Submits (s.countFailure w c).detector heard := by
  have hremoved := h.next (s.detector.removeCycle_submits .unresponsive nofun c)
  unfold countFailure
  dsimp only
  split
  · exact h.next (.still rfl rfl rfl rfl)
  · exact endWorker_submits (hremoved.next (report_submits _ _ _ _)) w

theorem acknowledge_submits (h : d.Submits s.detector heard) (w : Worker) (c : Cycle) :
    d.Submits (s.acknowledge w c).detector heard := by
  let cleared : Station :=
    { s with detector := s.detector.putCycle { c with failures := 0 } }.setStage w .ready
  have hcleared : d.Submits cleared.detector heard := h.next (.still rfl rfl rfl rfl)
  unfold acknowledge
  dsimp only
  split
  · exact h.next (.still rfl rfl rfl rfl)
  · exact endWorker_submits hcleared w

theorem settlePing_submits (s : Station) (w : Worker) (outcome : Outcome) :
    s.detector.Submits (s.settlePing w outcome).detector [] := by
  have hanswered : s.detector.Submits
      (s.detector.record (.answered w.node.id w.generation outcome)) [] := .still rfl rfl rfl rfl
  unfold settlePing
  dsimp only
  split
  next => exact endWorker_submits hanswered w
  next c _ =>
    split
    next => exact acknowledge_submits hanswered w c
    next =>
      split
      · exact loseByPing_submits hanswered w c
      · exact countFailure_submits hanswered w c

theorem abandonPing_submits (s : Station) (w : Worker) :
    s.detector.Submits (s.abandonPing w).detector [] := by
  have hrecord : s.detector.Submits (s.detector.record (.abandoned w.node.id w.generation)) [] :=
    .still rfl rfl rfl rfl
  exact endWorker_submits
    (s := { s with detector := s.detector.record (.abandoned w.node.id w.generation) }) hrecord w

theorem runWorker_submits {heed : Bool} {w : Worker} (h : s.runWorker heed w = some t) :
    s.detector.Submits t.detector [] := by
  unfold runWorker at h
  split at h
  next =>
    obtain rfl := Option.some.inj h
    split
    · exact (s.detector.gateFor_submits w.node.id).next (.still rfl rfl rfl rfl)
    · exact endWorker_submits (.refl _) w
  next =>
    split at h
    · obtain rfl := Option.some.inj h
      exact endWorker_submits (.refl _) w
    · split at h
      · simp at h
      · split at h <;> obtain rfl := Option.some.inj h
        · exact endWorker_submits (.refl _) w
        · exact .still rfl rfl rfl rfl
  next =>
    split at h
    · obtain rfl := Option.some.inj h
      exact abandonPing_submits s w
    · split at h
      · obtain rfl := Option.some.inj h
        exact settlePing_submits s w _
      · split at h
        · obtain rfl := Option.some.inj h
          exact abandonPing_submits s w
        · simp at h
  next =>
    split at h
    · obtain rfl := Option.some.inj h
      exact endWorker_submits (.refl _) w
    · split at h
      · simp at h
      · obtain rfl := Option.some.inj h
        exact .still rfl rfl rfl rfl
  next =>
    obtain ⟨outcome, -, rfl⟩ := Option.map_eq_some_iff.1 h
    exact endWorker_submits (endReconnect_submits _ _ _ _) w

theorem followTo_hears (s : Station) (index : Nat) (subscription : Subscription)
    (snapshot : Snapshot) : s.Hears (s.followTo index subscription snapshot) := by
  unfold followTo
  split
  · exact hears_of_submits (reconcile_submits _ snapshot) rfl
  · exact hears_of_submits (.refl _) rfl

theorem tidings_endHandler {h : DisconnectHandler} (member : h ∈ s.handlers)
    (permitted : s.Permitted) :
    s.tidings.Perm (h.stage.tiding?.toList ++ (s.endHandler h).tidings) := by
  unfold tidings endHandler
  rw [← List.append_assoc]
  exact List.Perm.append_right _ (filterMap_perm_others member permitted.distinct)

theorem tidings_setHandler {h : DisconnectHandler} (member : h ∈ s.handlers)
    (permitted : s.Permitted) (stage : HandlerStage) :
    (s.setHandler h stage).tidings.Perm (stage.tiding?.toList ++ (s.endHandler h).tidings) := by
  unfold tidings setHandler endHandler
  rw [← List.append_assoc]
  exact List.Perm.append_right _
    (filterMap_perm_changed member permitted.distinct fun other => { other with stage })

/-- Whoever was told of a disconnect takes it up, or is done with the reconnect. -/
theorem runHandler_hears {h : DisconnectHandler} (member : h ∈ s.handlers)
    (permitted : s.Permitted) (hrun : s.runHandler h = some t) : s.Hears t := by
  have hend := tidings_endHandler member permitted
  unfold runHandler at hrun
  cases stage : h.stage with
  | fresh node =>
    simp only [stage] at hrun hend
    obtain ⟨heard, hlost, takesUp⟩ := s.loseConnection_submits node
    obtain ⟨link, d, -, hstation⟩ := s.loseConnection_turn node
    rcases hlose : s.loseConnection node with ⟨u, attempt?⟩
    rw [hlose] at hrun hlost hstation
    dsimp only at hlost hstation
    subst hstation
    cases attempt? with
    | none =>
      obtain rfl := Option.some.inj hrun
      exact ⟨heard, hlost, takesUp.hearing hend.symm.subperm⟩
    | some attempt =>
      obtain rfl := Option.some.inj hrun
      have hset := tidings_setHandler member permitted (.connecting node attempt.1 attempt.2)
      exact ⟨heard, hlost, takesUp.hearing ((hset.cons node.id).trans hend.symm).subperm⟩
  | connecting node lost flight =>
    simp only [stage] at hrun hend
    obtain ⟨outcome, -, rfl⟩ := Option.map_eq_some_iff.1 hrun
    exact ⟨[], endReconnect_submits _ _ _ _, .nothing hend.symm.subperm⟩

/-- The follower takes up the next disconnect, or is done with the reconnect. -/
theorem runFeed_hears (hrun : s.runFeed = some t) : s.Hears t := by
  unfold runFeed at hrun
  split at hrun
  next => simp at hrun
  next =>
    split at hrun
    next => simp at hrun
    next node rest hevents =>
      have hless : s.tidings.Perm
          (node.id :: (s.handlers.filterMap (·.stage.tiding?) ++ rest.map Node.id)) := by
        rw [tidings, hevents]
        exact List.perm_middle
      split at hrun
      · let taken : Station := { s with feed := ⟨rest, .listening⟩ }
        obtain ⟨heard, hlost, takesUp⟩ := taken.loseConnection_submits node
        obtain ⟨link, d, -, hstation⟩ := taken.loseConnection_turn node
        rcases hlose : taken.loseConnection node with ⟨u, attempt?⟩
        rw [hlose] at hrun hlost hstation
        dsimp only at hlost hstation
        subst hstation
        cases attempt? <;> obtain rfl := Option.some.inj hrun <;>
          exact ⟨heard, hlost, takesUp.hearing hless.symm.subperm⟩
      · obtain rfl := Option.some.inj hrun
        refine ⟨[], .refl _, .nothing (List.Sublist.subperm ?_)⟩
        exact (List.Sublist.refl _).append (List.nil_sublist _)
  next =>
    obtain ⟨outcome, -, rfl⟩ := Option.map_eq_some_iff.1 hrun
    exact hears_of_submits (endReconnect_submits _ _ _ _) rfl

theorem runFollower_hears {index : Nat} {follower : Follower}
    (hrun : s.runFollower index follower = some t) : s.Hears t := by
  unfold runFollower at hrun
  split at hrun
  next =>
    obtain rfl := Option.some.inj hrun
    exact followTo_hears s index _ _
  next =>
    split at hrun
    next =>
      obtain rfl := Option.some.inj hrun
      exact followTo_hears s index _ _
    next => simp at hrun
    next =>
      obtain rfl := Option.some.inj hrun
      split
      · exact hears_of_submits (stop_submits _) rfl
      · exact hears_of_submits (.refl _) rfl
  next => simp at hrun

/-- A ping that comes in is news if it is acknowledged. -/
theorem ping_hears {request : PingRequest} (h : s.act (.ping request) = some t) : s.Hears t := by
  simp only [act] at h
  split at h
  next next hnext =>
    obtain rfl := Option.some.inj h
    unfold receivePing at hnext
    split at hnext
    next =>
      unfold Detector.receivePing at hnext
      split at hnext
      next => simp [Except.map] at hnext
      next =>
        split at hnext
        next bulletin hsubmit =>
          obtain rfl := Except.ok.inj hnext
          have hbulletin : bulletin = s.detector.bulletin.offer [.pingReceived request] := by
            rw [Bulletin.offer_singleton, hsubmit, Option.getD_some]
          exact hears_of_submits ⟨rfl, rfl, ⟨_, hbulletin, rfl⟩, rfl, rfl, rfl⟩ rfl
        next =>
          obtain rfl := Except.ok.inj hnext
          exact hears_of_submits (.refl _) rfl
    next => simp at hnext
  next =>
    obtain rfl := Option.some.inj h
    exact hears_of_submits (.refl _) rfl

/-- The transport tells its follower of a disconnect; a follower that falls behind loses others. -/
theorem disconnectEvent_hears (s : Station) (node : Node) : s.Hears (s.disconnectEvent node) := by
  rcases s.disconnectEvent_cases node with heq | ⟨-, heq⟩ <;> rw [heq]
  · exact hears_of_submits (.refl _) rfl
  · refine ⟨_, s.detector.record_hears node, .told node ?_⟩
    have hkept : ((s.feed.offer s.link.backlog node).events.map Node.id).Subperm
        (node.id :: s.feed.events.map Node.id) := by
      refine ((List.drop_sublist _ _).map _).subperm.trans ?_
      rw [List.map_append]
      exact (List.perm_append_singleton _ _).subperm
    exact ((List.subperm_append_left _).2 hkept).trans List.perm_middle.subperm

theorem act_hears {action : Action} (permitted : s.Permitted) (h : s.act action = some t)
    (haside : action.aside = true) : s.Hears t := by
  cases action with
  | reconcile snapshot =>
    obtain rfl := of_owned h
    exact hears_of_submits (reconcile_submits _ snapshot) rfl
  | stop =>
    obtain rfl := of_owned h
    exact hears_of_submits (stop_submits _) rfl
  | follow =>
    obtain rfl := of_owned h
    exact hears_of_submits (.refl _) rfl
  | disconnect node =>
    obtain rfl := of_owned h
    refine ⟨_, s.detector.record_hears node, .told node (List.Perm.subperm ?_)⟩
    simp only [tidings, disconnect, List.filterMap_append, List.append_assoc]
    exact List.perm_middle
  | publish snapshot =>
    obtain ⟨supplier, rfl⟩ := act_publish h
    exact hears_of_submits (.refl _) rfl
  | ping request => exact ping_hears h
  | disconnectEvent node =>
    obtain rfl := Option.some.inj h
    exact s.disconnectEvent_hears node
  | release | closeSupplier | setScript | setReply | setConnects | answer =>
    obtain rfl := Option.some.inj h
    exact hears_of_submits (.still rfl rfl rfl rfl) rfl
  | run heed activity =>
    cases activity with
    | worker g =>
      obtain ⟨w, hw, hstep⟩ := Option.bind_eq_some_iff.1 h
      have hsubmits := runWorker_submits hstep
      obtain ⟨d, link, -, rfl⟩ := runWorker_turn (List.mem_of_find?_eq_some hw) permitted hstep
      exact hears_of_submits hsubmits rfl
    | handler number =>
      obtain ⟨k, hk, hstep⟩ := Option.bind_eq_some_iff.1 h
      exact runHandler_hears (List.mem_of_find?_eq_some hk) permitted hstep
    | feed => exact runFeed_hears h
    | follower index =>
      obtain ⟨follower, -, hstep⟩ := Option.bind_eq_some_iff.1 h
      exact runFollower_hears hstep
    | delivery => cases haside
  | close | addListener | removeListener | elapse => cases haside

end Submits

end Station
end ClusterWatch
