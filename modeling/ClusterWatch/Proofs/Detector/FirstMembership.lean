import ClusterWatch.Proofs.Detector.OneTurn
import ClusterWatch.Proofs.Detector.Reconciling

/-!
How watching begins. Nobody is watched of one's own accord: until a membership is taken up there
are no entries and no workers, and with nobody watched no loss of a connection means anything. The
first membership that a follower takes up therefore settles all that is watched, and every node of
it but the detector's own begins one cycle.
-/
namespace ClusterWatch

open Detector

/-- Whether the action may settle what is watched: it takes up a membership, lets the followers do
so, puts another in place of the one they are to take up, or lets go of the detector. -/
def Action.settles : Action → Bool
  | .reconcile _ => true
  | .release => true
  | .publish _ => true
  | .run _ (.follower _) => true
  | _ => false

namespace Detector

variable {d e : Detector} {nodes : List Node} {snapshot : Snapshot}

/-- Nobody is watched, and nobody is at work. -/
structure Unoccupied (d : Detector) : Prop where
  unwatched : d.monitored.entries = []
  unmanned : d.workers = []

theorem Unoccupied.stop (h : d.Unoccupied) : d.stop.Unoccupied :=
  stop_keep (P := Unoccupied) ⟨h.unwatched, h.unmanned⟩ fun _ c he hc => by
    rw [he.unwatched] at hc
    exact absurd hc List.not_mem_nil

theorem Unoccupied.cycle?_eq_none (h : d.Unoccupied) (id : NodeId) : d.cycle? id = none := by
  simp [cycle?, Table.find?, h.unwatched]

/-- All cycles are about to begin, and they are those that the workers drive. -/
structure Beginning (d : Detector) : Prop where
  entry : ∀ c ∈ d.monitored.entries, ∃ w ∈ d.workers, c = Cycle.begin w.node w.generation
  worker : ∀ w ∈ d.workers, w = ⟨w.node, w.generation, false, .ready⟩ ∧
    Cycle.begin w.node w.generation ∈ d.monitored.entries

theorem Unoccupied.beginning (h : d.Unoccupied) : d.Beginning where
  entry c hc := by simp [h.unwatched] at hc
  worker w hw := by simp [h.unmanned] at hw

theorem Beginning.install (h : d.Beginning) (node : Node) : (d.install node).Beginning := by
  rcases d.install_eq node with ⟨-, heq⟩ | ⟨hnew, heq⟩
  · rw [heq]
    exact h
  · rw [heq]
    constructor
    case entry =>
      intro c hc
      rcases Table.mem_insert.1 hc with rfl | ⟨hbefore, -⟩
      · exact ⟨_, List.mem_append_right _ List.mem_cons_self, rfl⟩
      · obtain ⟨w, hw, heq⟩ := h.entry c hbefore
        exact ⟨w, List.mem_append_left _ hw, heq⟩
    case worker =>
      intro w hw
      rcases List.mem_append.1 hw with hbefore | hw
      · obtain ⟨hready, hentry⟩ := h.worker w hbefore
        have hkey := Table.key_ne_of_contains_eq_false hnew hentry
        exact ⟨hready, Table.mem_insert.2 (.inr ⟨hentry, hkey⟩)⟩
      · obtain rfl := List.mem_singleton.1 hw
        exact ⟨rfl, Table.mem_insert_self⟩

theorem Unoccupied.pruned (h : d.Unoccupied) (snapshot : Snapshot) :
    (d.pruned snapshot).Unoccupied := by
  rw [pruned_eq_record fun c hc => by simp [h.unwatched] at hc]
  exact ⟨h.unwatched, h.unmanned⟩

theorem Unoccupied.reconcile (h : d.Unoccupied) (snapshot : Snapshot) :
    (d.reconcile snapshot).Beginning :=
  List.foldlRecOn (motive := Beginning) _ _ (h.pruned snapshot).beginning
    fun _ he node _ => he.install node

/-- The nodes under watch are those that are wanted. There is one cycle for each of them, which is
about to begin, and one worker to drive it. -/
structure WatchesAnew (d : Detector) (wanted : Node → Prop) : Prop where
  nodes : ∀ node, (∃ c ∈ d.monitored.entries, c.node = node) ↔ wanted node
  once : ∀ b ∈ d.monitored.entries, ∀ c ∈ d.monitored.entries, b.node.id = c.node.id → b = c
  driven : ∀ c ∈ d.monitored.entries, ∃ w ∈ d.workers, c = Cycle.begin w.node w.generation ∧
    ∀ v ∈ d.workers, v.node.id = c.node.id → v = w
  drives : ∀ w ∈ d.workers, wanted w.node ∧ w.retired = false ∧ w.stage = .ready
  distinct : d.workers.Nodup

theorem Unoccupied.watchesAnew (h : d.Unoccupied) (henrolled : d.Enrolled) (snapshot : Snapshot) :
    (d.reconcile snapshot).WatchesAnew fun node =>
      node ∈ snapshot.nodes.entries ∧ node.id ≠ d.self.id := by
  have hbeginning := h.reconcile snapshot
  have hentry : ∀ c ∈ (d.reconcile snapshot).monitored.entries,
      c.node ∈ snapshot.nodes.entries ∧ c.node.id ≠ d.self.id := fun c hc => by
    have habsent : c ∉ (d.pruned snapshot).monitored.entries := by
      simp [(h.pruned snapshot).unwatched]
    obtain ⟨hnode, -, -⟩ := (d.enlarged_reconcile snapshot).begun c hc habsent
    obtain ⟨hlisted, hother⟩ := List.mem_filter.1 hnode
    exact ⟨hlisted, of_decide_eq_true hother⟩
  have hone : ∀ b ∈ (d.reconcile snapshot).monitored.entries,
      ∀ c ∈ (d.reconcile snapshot).monitored.entries, b.node.id = c.node.id → b = c :=
    fun b hb c hc hid => Table.eq_of_key_eq hb hc (Cycle.key_eq_text.2 hid)
  have turn : Turn true d .nothing (d.reconcile snapshot) := .reconcile snapshot
  constructor
  case nodes =>
    intro node
    constructor
    · rintro ⟨c, hc, rfl⟩
      exact hentry c hc
    · rintro ⟨hnode, hother⟩
      obtain ⟨c, hc, hkey⟩ := Table.contains_iff.1 (contains_reconcile hnode hother)
      exact ⟨c, hc, Table.eq_of_key_eq (hentry c hc).1 hnode hkey⟩
  case once => exact hone
  case driven =>
    intro c hc
    obtain ⟨w, hw, rfl⟩ := hbeginning.entry c hc
    refine ⟨w, hw, rfl, fun v hv hid => ?_⟩
    obtain ⟨hready, hdriven⟩ := hbeginning.worker v hv
    have hsame := hone _ hdriven _ hc hid
    obtain ⟨hnode, hgeneration, -, -⟩ := Cycle.mk.inj hsame
    rw [hready, (hbeginning.worker w hw).1, hnode, hgeneration]
  case drives =>
    intro w hw
    obtain ⟨hready, hdriven⟩ := hbeginning.worker w hw
    exact ⟨hentry _ hdriven, congrArg Worker.retired hready, congrArg Worker.stage hready⟩
  case distinct => exact (turn.enrolled henrolled).distinct.of_map _

end Detector

namespace Station

/-- Whoever follows the membership has yet to take up the first one, and until then there is
nothing to be done. -/
structure Awaiting (s : Station) (initial : Snapshot) : Prop where
  owned : s.owned = true
  current : s.supplier.current = initial
  fresh : ∀ follower ∈ s.followers, follower.stage = .fresh
  unoccupied : s.detector.Unoccupied
  handlers : ∀ k ∈ s.handlers, k.stage.errand? = none
  feed : s.feed.stage.errand? = none

variable {s t : Station} {initial : Snapshot}

theorem start_awaiting (self : Node) (cluster : ClusterName) (settings : DetectionSettings)
    (initial : Snapshot) (link : Link) :
    (start self cluster settings initial link).Awaiting initial where
  owned := rfl
  current := rfl
  fresh _ hfollower := absurd hfollower List.not_mem_nil
  unoccupied := ⟨rfl, rfl⟩
  handlers _ hk := absurd hk List.not_mem_nil
  feed := by cases h : settings.followDisconnects <;> simp [start, h, FeedStage.errand?]

namespace Awaiting

theorem loseConnection (h : s.Awaiting initial) (node : Node) :
    s.loseConnection node = (s, none) :=
  loseConnection_of_none (h.unoccupied.cycle?_eq_none node.id)

theorem endHandler (h : s.Awaiting initial) (k : DisconnectHandler) :
    (s.endHandler k).Awaiting initial :=
  { h with handlers := fun other hother => h.handlers other (List.mem_filter.1 hother).1 }

theorem runHandler (h : s.Awaiting initial) {k : DisconnectHandler} (hk : k ∈ s.handlers)
    (hrun : s.runHandler k = some t) : t.Awaiting initial := by
  have hstage := h.handlers k hk
  unfold Station.runHandler at hrun
  cases stage : k.stage with
  | fresh node =>
    simp only [stage, h.loseConnection, Option.some.injEq] at hrun
    exact hrun ▸ h.endHandler k
  | connecting node lost flight => simp [stage, HandlerStage.errand?] at hstage

theorem runFeed (h : s.Awaiting initial) (hrun : s.runFeed = some t) :
    t.Awaiting initial := by
  have hfeed := h.feed
  unfold Station.runFeed at hrun
  cases stage : s.feed.stage with
  | off => simp [stage] at hrun
  | listening =>
    simp only [stage] at hrun
    split at hrun
    next => cases hrun
    next node rest _ =>
      have htaken : Awaiting { s with feed := ⟨rest, .listening⟩ } initial :=
        { h with feed := rfl }
      simp only [htaken.loseConnection] at hrun
      split at hrun
      · exact Option.some.inj hrun ▸ htaken
      · exact Option.some.inj hrun ▸ { h with feed := rfl }
  | connecting node lost flight => simp [stage, FeedStage.errand?] at hfeed

/-- Whatever happens short of settling what is watched, the first membership is still to come. -/
theorem act (h : s.Awaiting initial) {action : Action} (hopen : action.settles = false)
    (hact : s.act action = some t) : t.Awaiting initial := by
  cases action with
  | reconcile | publish | release => cases hopen
  | stop =>
    obtain rfl := of_owned hact
    exact { h with unoccupied := h.unoccupied.stop }
  | close =>
    obtain rfl := of_owned hact
    have hstopped := h.unoccupied.stop
    exact { h with unoccupied := ⟨hstopped.unwatched, hstopped.unmanned⟩ }
  | follow =>
    obtain rfl := of_owned hact
    exact { h with fresh := List.forall_mem_append.2 ⟨h.fresh, List.forall_mem_singleton.2 rfl⟩ }
  | disconnect node =>
    obtain rfl := of_owned hact
    have hnew : ∀ k ∈ [(⟨s.handlersMade, .fresh node⟩ : DisconnectHandler)],
        k.stage.errand? = none := List.forall_mem_singleton.2 rfl
    exact { h with
      unoccupied := ⟨h.unoccupied.unwatched, h.unoccupied.unmanned⟩
      handlers := List.forall_mem_append.2 ⟨h.handlers, hnew⟩ }
  | addListener =>
    obtain rfl := of_owned hact
    exact { h with unoccupied := ⟨h.unoccupied.unwatched, h.unoccupied.unmanned⟩ }
  | removeListener listener =>
    obtain rfl := of_owned hact
    unfold removeListener?
    cases s.detector.registry.remove? listener with
    | none => exact h
    | some registry =>
      exact { h with unoccupied := ⟨h.unoccupied.unwatched, h.unoccupied.unmanned⟩ }
  | closeSupplier | setScript | setReply | setConnects =>
    obtain rfl := Option.some.inj hact
    exact { h with }
  | disconnectEvent node =>
    obtain rfl := Option.some.inj hact
    rcases s.disconnectEvent_cases node with heq | ⟨-, heq⟩ <;> rw [heq]
    · exact h
    · exact { h with unoccupied := ⟨h.unoccupied.unwatched, h.unoccupied.unmanned⟩ }
  | ping request =>
    obtain ⟨bulletin, -, rfl⟩ := act_ping hact
    exact { h with unoccupied := ⟨h.unoccupied.unwatched, h.unoccupied.unmanned⟩ }
  | answer g outcome =>
    obtain rfl := Option.some.inj hact
    have hunmanned : (s.answer g outcome).detector.workers = [] :=
      List.map_eq_nil_iff.2 h.unoccupied.unmanned
    exact { h with unoccupied := ⟨h.unoccupied.unwatched, hunmanned⟩ }
  | run heed activity =>
    cases activity with
    | worker g =>
      obtain ⟨w, hw, -⟩ := Option.bind_eq_some_iff.1 hact
      have hmem := List.mem_of_find?_eq_some hw
      simp [h.unoccupied.unmanned] at hmem
    | handler number =>
      obtain ⟨k, hk, hstep⟩ := Option.bind_eq_some_iff.1 hact
      exact h.runHandler (List.mem_of_find?_eq_some hk) hstep
    | feed => exact h.runFeed hact
    | follower => cases hopen
    | delivery =>
      obtain ⟨d, hd, rfl⟩ := Option.map_eq_some_iff.1 hact
      have hinforms := informs_of_deliver? hd
      have hunoccupied : d.Unoccupied :=
        ⟨hinforms.monitored ▸ h.unoccupied.unwatched, hinforms.workers ▸ h.unoccupied.unmanned⟩
      exact { h with unoccupied := hunoccupied }
  | elapse time =>
    obtain rfl := Option.some.inj hact
    exact { h with unoccupied := ⟨h.unoccupied.unwatched, h.unoccupied.unmanned⟩ }

theorem acts (h : s.Awaiting initial) {actions : List Action}
    (hopen : ∀ action ∈ actions, action.settles = false) (hacts : s.acts actions = some t) :
    t.Awaiting initial := by
  induction actions generalizing s with
  | nil =>
    obtain rfl := Option.some.inj hacts
    exact h
  | cons action rest ih =>
    obtain ⟨u, hact, hrest⟩ := Option.bind_eq_some_iff.1 hacts
    obtain ⟨hfirst, hopen⟩ := List.forall_mem_cons.1 hopen
    exact ih (h.act hfirst hact) hopen hrest

/-- The first follower that gets to it brings the detector in line. -/
theorem run_follower (h : s.Awaiting initial) {index : Nat} (hindex : index < s.followers.length)
    (heed : Bool) : ∃ t, s.run heed (.follower index) = some t ∧
      t.detector = s.detector.reconcile initial := by
  have hfresh := h.fresh _ (List.getElem_mem hindex)
  have halive : s.alive = true := by simp [alive, h.owned]
  refine ⟨s.followTo index (s.supplier.catchUp s.followers[index].subscription) s.supplier.current,
    ?_, ?_⟩
  · simp [run, List.getElem?_eq_getElem hindex, runFollower, hfresh]
  · rw [h.current, followTo, if_pos halive]
    rfl

end Awaiting

end Station
end ClusterWatch
