import ClusterWatch.Proofs.Detector.FacetActions
import ClusterWatch.Proofs.Detector.Punctuality

/-!
What becomes of a node is a matter between the node and what all nodes are told. On a run that
carries out all work that is due before anything else is asked for and before time passes, what
becomes of the node's facet is a course of its own: what other nodes do comes in between, in any
order, and leaves no mark. So two such runs in which the node answers alike, the same is told at
the same times and the node's own work is put in order by the same rule send it the same pings and
report it for the same reasons, for as long as the detector is there in both.
-/
namespace ClusterWatch

open Detector Past

/-- What all nodes are told on the run, and when. -/
def announcements (now : Nat) : List Action → List (Nat × Tidings)
  | [] => []
  | .elapse time :: rest => announcements (now + time) rest
  | action :: rest => (action.tidings?.map (now, ·)).toList ++ announcements now rest

/-- The notice is that the node has failed. -/
def Notice.fails (id : NodeId) : Notice → Bool
  | .nodeFailed node _ => node.id = id
  | .pingReceived _ => false

namespace Station

/-- The failures of the node that have been submitted to the listeners, in order. -/
def submittedOf (s : Station) (id : NodeId) : List Notice := s.submitted.filter (Notice.fails id)

/-- Nothing is asked for and no time passes before all work that is due has been carried out, and
time stops at whatever is awaited next. Nobody but the workers tells of a loss of connection. -/
def Prompt (s : Station) : Action → Prop
  | .run .. => True
  | .elapse time => s.Timely (.elapse time)
  | action => action.asks = true ∧ s.Quiet

instance (s : Station) : (action : Action) → Decidable (s.Prompt action)
  | .run .. => isTrue trivial
  | .elapse time => inferInstanceAs (Decidable (s.Timely (.elapse time)))
  | .reconcile _ | .stop | .close | .release | .follow | .disconnect _ | .addListener _
  | .removeListener _ | .publish _ | .closeSupplier | .disconnectEvent _ | .ping _ | .setScript ..
  | .setReply .. | .setConnects .. | .answer .. => inferInstanceAs (Decidable (_ ∧ s.Quiet))

/-- Whose turn it is, if it is someone's who has a seat at the facet of the node. -/
def turn? (s : Station) (id : NodeId) : Action → Option (Bool × Seat)
  | .run heed a => (s.past.seat? id a).map (heed, ·)
  | _ => none

/-- What has become of the facet, latest first, each time before somebody at it goes on or is told
something. -/
def trailAfter (s : Station) (id : NodeId) (trail : List Facet) (action : Action) : List Facet :=
  if (s.turn? id action).isSome || action.tidings?.isSome then s.facet id :: trail else trail

/-- Every action is prompt when its turn comes, and what is asked about the node is answered as
settled. -/
def RunsPromptly (answers : Answers) (id : NodeId) (s : Station) : List Action → Prop
  | [] => True
  | action :: rest => s.Prompt action ∧
      ∀ t ∈ s.act action, s.Answered answers id t ∧ RunsPromptly answers id t rest

/-- The work at the facet of the node is done in the order of the rule. What is done in between
may come in any order. -/
def RunsInOrder (id : NodeId) (rule : Facet.Rule) (trail : List Facet) (s : Station) :
    List Action → Prop
  | [] => True
  | action :: rest => (∀ turn ∈ s.turn? id action, turn = rule (s.facet id :: trail)) ∧
      ∀ t ∈ s.act action, RunsInOrder id rule (s.trailAfter id trail action) t rest

instance decidableRunsPromptly (answers : Answers) (id : NodeId) :
    (s : Station) → (actions : List Action) → Decidable (s.RunsPromptly answers id actions)
  | _, [] => isTrue trivial
  | s, action :: rest =>
      have (t : Station) : Decidable (t.RunsPromptly answers id rest) :=
        decidableRunsPromptly answers id t rest
      inferInstanceAs (Decidable (s.Prompt action ∧ ∀ t ∈ s.act action, _))

instance decidableRunsInOrder (id : NodeId) (rule : Facet.Rule) : (trail : List Facet) →
    (s : Station) → (actions : List Action) → Decidable (s.RunsInOrder id rule trail actions)
  | _, _, [] => isTrue trivial
  | trail, s, action :: rest =>
      have (t : Station) : Decidable (t.RunsInOrder id rule (s.trailAfter id trail action) rest) :=
        decidableRunsInOrder id rule _ t rest
      inferInstanceAs (Decidable ((∀ turn ∈ s.turn? id action, _) ∧ ∀ t ∈ s.act action, _))

/-- A run that leaves nothing to do, with the detector there to the end. -/
structure PromptRun (answers : Answers) (id : NodeId) (s : Station) (actions : List Action)
    (t : Station) : Prop where
  acts : s.acts actions = some t
  promptly : s.RunsPromptly answers id actions
  quiet : t.Quiet
  alive : t.alive = true

/-- What an action is to the facet of the node. -/
inductive Impact (answers : Answers) (id : NodeId) (s : Station) (action : Action) (t : Station) :
    Prop
  | work (heed : Bool) (seat : Seat) (turn : s.turn? id action = some (heed, seat))
      (goes : (s.facet id).run answers heed seat = some (t.facet id))
  | told (news : Tidings) (told : action.tidings? = some news) (quiet : s.Quiet)
      (facet : t.facet id = (s.facet id).learn answers news)
  | passed (time : Nat) (passes : action = .elapse time) (quiet : s.Quiet)
      (awaited : ∀ wake ∈ s.wakeTimes, s.now + time ≤ wake)
      (facet : t.facet id = (s.facet id).moveTo (s.now + time))
  | nothing (still : ∀ time, action ≠ .elapse time) (turn : s.turn? id action = none)
      (told : action.tidings? = none) (facet : t.facet id = s.facet id)

variable {s t u : Station} {id : NodeId} {answers : Answers} {action : Action}
  {actions : List Action} {rule : Facet.Rule} {trail : List Facet}

theorem elapse_facet (time : Nat) :
    (s.elapse time).facet id = (s.facet id).moveTo (s.now + time) := by
  have hnow : s.now + time = s.now + (s.now + time - s.now) := by omega
  exact congrArg (fun now => { s.facet id with view := { (s.facet id).view with now } }) hnow

/-- An action is somebody's turn at the facet, tidings, the passing of time or nothing to it. -/
theorem act_impact (h : s.Reachable) (calm : s.Calm) (prompt : s.Prompt action)
    (hact : s.act action = some t) (before : s.alive = true) (after : t.alive = true)
    (answered : Answered answers id s t) : t.Calm ∧ s.Impact answers id action t := by
  have hasks (still : ∀ time, action ≠ .elapse time) (turn : s.turn? id action = none)
      (asks : action.asks = true) (quiet : s.Quiet) : t.Calm ∧ s.Impact answers id action t := by
    obtain ⟨hcalm, hfacet⟩ := act_asks h calm before asks hact answered
    refine ⟨hcalm, ?_⟩
    cases told : action.tidings? with
    | none => exact .nothing still turn told (by simpa [told] using hfacet)
    | some news => exact .told news told quiet (by simpa [told] using hfacet)
  cases action with
  | run heed a =>
    have hrun : s.run heed a = some t := hact
    refine ⟨calm.run h hrun, ?_⟩
    cases hseat : s.past.seat? id a with
    | none => exact .nothing nofun (by simp [turn?, hseat]) rfl (run_others h calm hseat hrun)
    | some seat =>
      exact .work heed seat (by simp [turn?, hseat])
        (run_mine h hseat hrun before after answered)
  | elapse time =>
    obtain ⟨quiet, awaited⟩ := prompt time rfl
    obtain rfl := Option.some.inj hact
    exact ⟨⟨calm.handlers, calm.events, calm.errand⟩,
      .passed time rfl quiet awaited (elapse_facet time)⟩
  | reconcile | stop | close | release | follow | disconnect | addListener | removeListener
  | publish | closeSupplier | disconnectEvent | ping | setScript | setReply | setConnects | answer =>
    exact hasks nofun rfl prompt.1 prompt.2

theorem le_of_mem_announcements {now : Nat} {entry : Nat × Tidings} (h : entry ∈ announcements now actions) :
    now ≤ entry.1 := by
  fun_induction announcements now actions with
  | case1 => simp at h
  | case2 now time rest ih => exact Nat.le_of_add_right_le (ih h)
  | case3 now action rest still ih =>
    rcases List.mem_append.1 h with hhead | hrest
    · obtain ⟨news, -, rfl⟩ := Option.map_eq_some_iff.1 (Option.mem_toList.1 hhead)
      exact Nat.le_refl _
    · exact ih hrest

theorem announcements_of_still {now : Nat} (still : ∀ time, action ≠ .elapse time) :
    announcements now (action :: actions) =
      (action.tidings?.map (now, ·)).toList ++ announcements now actions := by
  cases action <;> first | rfl | exact absurd rfl (still _)

theorem act_now_le (h : s.Reachable) (hact : s.act action = some t) : s.now ≤ t.now := by
  by_cases passes : ∃ time, action = .elapse time
  · obtain ⟨time, rfl⟩ := passes
    obtain rfl := Option.some.inj hact
    exact Nat.le_add_right _ _
  · exact Nat.le_of_eq (act_now h.permitted hact fun time heq => passes ⟨time, heq⟩).symm

theorem acts_now_le (h : s.Reachable) (hacts : s.acts actions = some t) : s.now ≤ t.now := by
  induction actions generalizing s with
  | nil =>
    obtain rfl := Option.some.inj hacts
    exact Nat.le_refl _
  | cons action rest ih =>
    obtain ⟨u, hact, hrest⟩ := runs_cons.1 hacts
    exact Nat.le_trans (act_now_le h hact) (ih (h.act hact) hrest)

/-- Since it was like this the facet has rested, up to the present. -/
structure Rested (answers : Answers) (id : NodeId) (f : Facet) (s : Station) : Prop where
  later : f.view.now ≤ s.now
  same : s.facet id = f.moveTo s.now
  rests : f.RestsUntil answers s.now

namespace Rested

variable {f : Facet} {time : Nat}

theorem refl (answers : Answers) (id : NodeId) (s : Station) : Rested answers id (s.facet id) s where
  later := Nat.le_refl _
  same := (Facet.moveTo_of_le (Nat.le_refl _)).symm
  rests _ hfrom hto := absurd hfrom (Nat.not_le.2 hto)

/-- Between what is awaited at the station the facet goes on resting. -/
theorem until_elapse (rested : Rested answers id f s) (h : s.Reachable) (alive : s.alive = true)
    (quiet : s.Quiet) (awaited : ∀ wake ∈ s.wakeTimes, s.now + time ≤ wake) :
    f.RestsUntil answers (s.now + time) := by
  intro moment hfrom hto
  rcases Nat.lt_or_ge moment s.now with hearly | hlate
  · exact rested.rests moment hfrom hearly
  · have hidle : ((s.facet id).moveTo moment).Idle answers :=
      Facet.idle_moveTo (idle_of_quiet answers h alive quiet) fun wake hwake _ =>
        Nat.lt_of_lt_of_le hto (awaited wake (mem_wakeTimes hwake))
    rwa [rested.same, Facet.moveTo_moveTo hlate] at hidle

/-- Where nothing is left to do, it rests a moment longer. -/
theorem until_quiet (rested : Rested answers id f s) (h : s.Reachable) (alive : s.alive = true)
    (quiet : s.Quiet) : f.RestsUntil answers (s.now + 1) := by
  intro moment hfrom hto
  rcases Nat.lt_or_ge moment s.now with hearly | hlate
  · exact rested.rests moment hfrom hearly
  · obtain rfl : moment = s.now := by omega
    exact rested.same ▸ idle_of_quiet answers h alive quiet

theorem elapse (rested : Rested answers id f s) (h : s.Reachable) (alive : s.alive = true)
    (quiet : s.Quiet) (awaited : ∀ wake ∈ s.wakeTimes, s.now + time ≤ wake) :
    Rested answers id f (s.elapse time) where
  later := Nat.le_trans rested.later (Nat.le_add_right _ _)
  same := by
    rw [elapse_facet, rested.same]
    exact Facet.moveTo_moveTo (Nat.le_add_right _ _)
  rests := rested.until_elapse h alive quiet awaited

end Rested

/-- What a prompt run is to the node is a course of its facet. -/
theorem facet_course {f : Facet} (h : s.Reachable) (calm : s.Calm)
    (run : PromptRun answers id s actions t) (ordered : s.RunsInOrder id rule trail actions)
    (rested : Rested answers id f s) :
    Facet.Course answers rule t.now trail f (announcements s.now actions) (t.facet id) := by
  obtain ⟨hacts, promptly, quiet, alive⟩ := run
  induction actions generalizing s f trail with
  | nil =>
    obtain rfl := Option.some.inj hacts
    exact rested.same ▸ .finish rested.later (rested.until_quiet h alive quiet)
  | cons action rest ih =>
    obtain ⟨u, hact, hrest⟩ := runs_cons.1 hacts
    obtain ⟨prompt, promptly⟩ := promptly
    obtain ⟨answered, promptly⟩ := promptly u hact
    obtain ⟨hturn, ordered⟩ := ordered
    have after := alive_of_acts hrest alive
    have before := alive_of_act hact after
    have hu := h.act hact
    obtain ⟨hcalm, impact⟩ := act_impact h calm prompt hact before after answered
    have course {g : Facet} (rested : Rested answers id g u) :=
      ih hu hcalm (ordered u hact) rested hrest promptly
    cases impact with
    | work heed seat turn goes =>
      obtain ⟨a, rfl⟩ : ∃ a, action = .run heed a := by
        cases action <;> simp_all [turn?]
      have hnow : u.now = s.now := act_now h.permitted hact nofun
      have htrail : s.trailAfter id trail (.run heed a) = f.moveTo s.now :: trail := by
        simp [trailAfter, turn, rested.same]
      have hcourse := course (.refl answers id u)
      rw [htrail, hnow] at hcourse
      rw [rested.same] at goes hturn
      exact .work rested.later (hnow ▸ acts_now_le hu hrest)
        (fun entry hentry => le_of_mem_announcements hentry) rested.rests
        (hturn _ turn).symm goes hcourse
    | told news told squiet facet =>
      have still : ∀ time, action ≠ .elapse time := by
        rintro time rfl
        cases told
      have hnow : u.now = s.now := act_now h.permitted hact still
      have htrail : s.trailAfter id trail action = f.moveTo s.now :: trail := by
        simp [trailAfter, told, rested.same]
      have hcourse := course (.refl answers id u)
      rw [htrail, hnow, facet, rested.same] at hcourse
      rw [announcements_of_still still, told]
      exact .tell rested.later (rested.until_quiet h before squiet) hcourse
    | passed time passes squiet awaited facet =>
      subst passes
      obtain rfl := Option.some.inj hact
      exact course (rested.elapse h before squiet awaited)
    | nothing still turn told facet =>
      have hnow : u.now = s.now := act_now h.permitted hact still
      have htrail : s.trailAfter id trail action = trail := by simp [trailAfter, turn, told]
      have hcourse := course ⟨hnow ▸ rested.later, by rw [facet, hnow]; exact rested.same,
        hnow ▸ rested.rests⟩
      rw [htrail, hnow] at hcourse
      rwa [announcements_of_still still, told]

/-- The failure that becomes news by a report, if it is taken. -/
def newsOfReport? : Nat × Node × FailureReason × Bool → Option Notice
  | (_, node, reason, true) => some (.nodeFailed node reason)
  | _ => none

/-- The reports of the node tell which of its failures have been submitted. -/
theorem Reachable.submittedOf_eq (h : s.Reachable) (id : NodeId) :
    s.submittedOf id = (s.detector.history.reportsOf id).reverse.filterMap newsOfReport? := by
  have hnews : (s.past.filterMap Event.news?).filter (Notice.fails id) =
      (s.detector.history.reportsOf id).filterMap newsOfReport? := by
    show ((List.map Prod.snd s.detector.history).filterMap _).filter _ = _
    rw [History.reportsOf, List.filterMap_map, List.filterMap_filterMap, List.filter_filterMap]
    refine List.filterMap_congr fun entry _ => ?_
    obtain ⟨time, e⟩ := entry
    cases e with
    | reported node g reason taken =>
      cases taken <;> by_cases hid : node.id = id <;>
        simp [Event.news?, newsOfReport?, Notice.fails, hid, Option.filter]
    | _ => rfl
  rw [submittedOf, ← h.reports_submitted.queued, inOrder, List.filterMap_reverse,
    List.filter_reverse, hnews, List.filterMap_reverse]

theorem start_calm (self : Node) (cluster : ClusterName) (settings : DetectionSettings)
    (initial : Snapshot) (link : Link) : (start self cluster settings initial link).Calm := by
  refine ⟨rfl, rfl, ?_⟩
  unfold start
  cases settings.followDisconnects <;> rfl

/-- At the start there is nothing of the node, and of the first snapshot only the version counts. -/
theorem facet_start {self : Node} {cluster : ClusterName} {settings : DetectionSettings}
    {initial other : Snapshot} {link link' : Link} (version : initial.version = other.version) :
    (start self cluster settings initial link).facet id =
      (start self cluster settings other link').facet id :=
  congrArg (fun version => { (start self cluster settings initial link).facet id with
    version }) version

/-- Two prompt runs in which a node answers alike, the same is told to all nodes at the same times
and the node's own work is put in order by the same rule, whatever becomes of the other nodes and
whenever their work is done: as long as the detector is there in both, the node is sent the same
pings, and the same is reported of it. -/
theorem PromptRun.isolated {self : Node} {cluster : ClusterName} {settings : DetectionSettings}
    {initial initial' : Snapshot} {link link' : Link} {actions' : List Action}
    (run : PromptRun answers id (start self cluster settings initial link) actions s)
    (run' : PromptRun answers id (start self cluster settings initial' link') actions' t)
    (ordered : (start self cluster settings initial link).RunsInOrder id rule [] actions)
    (ordered' : (start self cluster settings initial' link').RunsInOrder id rule [] actions')
    (version : initial.version = initial'.version)
    (alike : announcements 0 actions = announcements 0 actions') (last : s.now = t.now) :
    s.detector.history.pingsOf id = t.detector.history.pingsOf id ∧
      s.detector.history.reportsOf id = t.detector.history.reportsOf id ∧
      s.submittedOf id = t.submittedOf id := by
  have hcourse := facet_course ⟨_, _, _, _, _, [], rfl⟩ (start_calm ..) run ordered (.refl ..)
  have hcourse' := facet_course ⟨_, _, _, _, _, [], rfl⟩ (start_calm ..) run' ordered' (.refl ..)
  have hstart : (start self cluster settings initial link).now = 0 := rfl
  have hstart' : (start self cluster settings initial' link').now = 0 := rfl
  rw [hstart, facet_start version, alike, last] at hcourse
  rw [hstart'] at hcourse'
  have hfacet := hcourse.unique hcourse'
  have hreports : s.detector.history.reportsOf id = t.detector.history.reportsOf id :=
    congrArg (fun f : Facet => f.view.reports) hfacet
  have hs : s.Reachable := ⟨_, _, _, _, _, actions, run.acts⟩
  have ht : t.Reachable := ⟨_, _, _, _, _, actions', run'.acts⟩
  refine ⟨congrArg (fun f : Facet => f.view.pings) hfacet, hreports, ?_⟩
  rw [hs.submittedOf_eq, ht.submittedOf_eq, hreports]

end Station

namespace Trial

/-- The first ping to the peer finds the connection lost, a reconnect takes very long, and later
pings are not answered at all. -/
def moody : Answers where
  ping k := if k = 0 then (Reply.after 0 (.failed (.connectFailed peer.id ""))).plain else .never
  connect _ := .after 100 .done
  listed _ := some peer

def moodyStart (detail : String) : Station :=
  station ⟨30, 50, 1, true, false⟩ <|
    (Link.silent.setScript peer.id [.after 0 (.failed (.connectFailed peer.id detail))]).setConnects
      peer.id [.after 100 .done]

/-- Workers go on, each told by the number of its cycle. -/
def turns (generations : List Nat) : List Action :=
  generations.map fun g => .run true (.worker ⟨g⟩)

/-- Nobody but the peer is watched. At the end its second ping times out just when the reconnect
succeeds. -/
def byItself (late : List Nat) : List Action :=
  .reconcile together :: turns [1, 1, 1] ++ .elapse 50 :: .reconcile together :: turns [2, 2] ++
    .elapse 50 :: turns late ++ [.run true .delivery]

/-- Another member is watched besides, and fails in between. -/
def inCrowd (late : List Nat) : List Action :=
  .reconcile (together.withNode other) :: turns [1, 2, 2, 1, 2] ++ .elapse 50 :: turns [1] ++
    .run true .delivery :: .reconcile together :: turns [3, 3] ++
    .elapse 50 :: turns late ++ [.run true .delivery]

/-- The worker of the latest cycle comes first. -/
def latest : Facet.Rule := fun trail =>
  (true, .hand ((trail.head?.bind fun f => f.view.hands.getLast?).elim 0 Hand.rank))

def endOf (detail : String) (actions : List Action)
    (h : ((moodyStart detail).acts actions).isSome) : Station :=
  ((moodyStart detail).acts actions).get h

theorem promptRun {detail : String} {actions : List Action}
    (h : ((moodyStart detail).acts actions).isSome)
    (promptly : (moodyStart detail).RunsPromptly moody peer.id actions)
    (quiet : (endOf detail actions h).Quiet) (alive : (endOf detail actions h).alive = true) :
    Station.PromptRun moody peer.id (moodyStart detail) actions (endOf detail actions h) :=
  ⟨(Option.some_get h).symm, promptly, quiet, alive⟩

def byItselfEnd : Station := endOf "reset" (byItself [2, 1, 3, 3]) (by decide)

def inCrowdEnd : Station := endOf "refused" (inCrowd [3, 2, 4, 4]) (by decide)

/-- The peer is found unresponsive, and is watched again when the reconnect succeeds. -/
theorem isolated_crowded :
    (byItselfEnd.detector.history.pingsOf peer.id).map Prod.fst = [100, 50, 0] ∧
      (byItselfEnd.detector.history.reportsOf peer.id).map Prod.fst = [100] ∧
      (inCrowdEnd.detector.history.reportsOf other.id).map Prod.fst = [50] ∧
      byItselfEnd.detector.history.pingsOf peer.id = inCrowdEnd.detector.history.pingsOf peer.id ∧
      byItselfEnd.detector.history.reportsOf peer.id =
        inCrowdEnd.detector.history.reportsOf peer.id ∧
      byItselfEnd.submittedOf peer.id = inCrowdEnd.submittedOf peer.id := by
  have byItselfOrdered : (moodyStart "reset").RunsInOrder peer.id latest []
      (byItself [2, 1, 3, 3]) := by decide
  have inCrowdOrdered : (moodyStart "refused").RunsInOrder peer.id latest []
      (inCrowd [3, 2, 4, 4]) := by decide
  refine ⟨by decide, by decide, by decide, ?_⟩
  exact Station.PromptRun.isolated (promptRun (by decide) (by decide) (by decide) (by decide))
    (promptRun (by decide) (by decide) (by decide) (by decide)) byItselfOrdered inCrowdOrdered rfl
    (by decide) (by decide)

/-- The worker of the earliest cycle comes first, and finds that the peer is still watched. -/
def earliestEnd : Station := endOf "reset" (byItself [1, 2]) (by decide)

/-- Two of the node's own workers may have something to do at one time. It then depends on who
comes first whether the node goes on being watched. -/
theorem not_isolated_disordered :
    ¬ ∀ (answers : Answers) (id : NodeId) (self : Node) (cluster : ClusterName)
      (settings : DetectionSettings) (initial initial' : Snapshot) (link link' : Link)
      (actions actions' : List Action) (s t : Station),
      Station.PromptRun answers id (.start self cluster settings initial link) actions s →
      Station.PromptRun answers id (.start self cluster settings initial' link') actions' t →
      initial.version = initial'.version →
      announcements 0 actions = announcements 0 actions' → s.now = t.now →
      s.detector.history.pingsOf id = t.detector.history.pingsOf id ∧
        s.detector.history.reportsOf id = t.detector.history.reportsOf id ∧
        s.submittedOf id = t.submittedOf id := by
  intro h
  have hpings := (h moody peer.id home ⟨"trial"⟩ ⟨30, 50, 1, true, false⟩ _ _ _ _ _ _ byItselfEnd earliestEnd
    (promptRun (by decide) (by decide) (by decide) (by decide))
    (promptRun (by decide) (by decide) (by decide) (by decide))
    rfl (by decide) (by decide)).1
  have hdiffer : (byItselfEnd.detector.history.pingsOf peer.id).length ≠
      (earliestEnd.detector.history.pingsOf peer.id).length := by decide
  exact hdiffer (congrArg List.length hpings)

end Trial

end ClusterWatch
