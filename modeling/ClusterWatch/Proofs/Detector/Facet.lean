import ClusterWatch.Detector.Action

/-!
What there is of one node at a station, and how it goes on by itself. A facet knows the node's
own workers by the order in which their cycles began, the failures of its entry, what has been
sent to it and reported of it, and of the rest only what all nodes have in common: the clock, the
settings, the followers, and what the supplier says. What becomes of it is settled once it is
settled how the node answers, what all nodes are told and when, and in which order the work is done
that is due at one time; between the times at which one of its own waits is over it rests.
-/
namespace ClusterWatch

/-! What comes of a ping or of an attempt to connect, but for the details of errors. -/

def Outcome.plain : Outcome → Outcome
  | .done => .done
  | .failed error => .failed (if error.isDisconnect then .connectFailed ⟨""⟩ "" else .closed)

def Reply.plain : Reply → Reply
  | .never => .never
  | .after delay outcome => .after delay outcome.plain

def Flight.plain (flight : Flight) : Flight :=
  ⟨flight.landing.map fun (time, outcome) => (time, outcome.plain),
    flight.limit.map fun (time, outcome) => (time, outcome.plain)⟩

namespace Flight

theorem plain_launch (now : Nat) (reply : Reply) (limit : Option (Nat × Outcome)) :
    (launch now reply limit).plain =
      launch now reply.plain (limit.map fun (time, outcome) => (time, outcome.plain)) := by
  cases reply <;> rfl

theorem outcome?_plain (flight : Flight) (now : Nat) :
    flight.plain.outcome? now = (flight.outcome? now).map Outcome.plain := by
  have hlimit (limit : Option (Nat × Outcome)) :
      ((limit.map fun (time, outcome) => (time, outcome.plain)).filter (·.1 ≤ now)).map Prod.snd =
        ((limit.filter (·.1 ≤ now)).map Prod.snd).map Outcome.plain := by
    obtain _ | ⟨time, outcome⟩ := limit
    · rfl
    · by_cases hdue : time ≤ now <;> simp [Option.filter, hdue]
  obtain ⟨_ | ⟨time, outcome⟩, limit⟩ := flight
  · exact hlimit limit
  · by_cases hdue : time ≤ now
    · simp [plain, outcome?, Option.filter, hdue]
    · simpa [plain, outcome?, Option.filter, hdue] using hlimit limit

theorem wakeTimes_plain (flight : Flight) : flight.plain.wakeTimes = flight.wakeTimes := by
  obtain ⟨_ | landing, _ | limit⟩ := flight <;> rfl

end Flight

/-- Where a worker stands, whatever the number of its gate. -/
inductive Pose where
  | ready
  | queued
  | pinging (flight : Flight)
  | resting (wake : Nat)
  | connecting (flight : Flight)

def Stage.pose : Stage → Pose
  | .ready => .ready
  | .queued _ => .queued
  | .pinging _ flight => .pinging flight.plain
  | .resting wake => .resting wake
  | .connecting flight => .connecting flight.plain

theorem Flight.outcome?_eq_none {flight : Flight} {now : Nat} :
    flight.outcome? now = none ↔ ∀ t ∈ flight.wakeTimes, now < t := by
  obtain ⟨landing, limit⟩ := flight
  cases landing with
  | none => cases limit <;> simp [outcome?, wakeTimes, Option.filter]
  | some landing =>
    by_cases hdue : landing.1 ≤ now
    · have hnow : ¬ now < landing.1 := Nat.not_lt.2 hdue
      simp [outcome?, wakeTimes, Option.filter, hdue, hnow]
    · have hnow : now < landing.1 := Nat.lt_of_not_le hdue
      cases limit <;> simp [outcome?, wakeTimes, Option.filter, hdue, hnow]

def Pose.pings : Pose → Bool
  | .pinging _ => true
  | _ => false

def Pose.wakeTimes : Pose → List Nat
  | .pinging flight => flight.wakeTimes
  | .resting wake => [wake]
  | .connecting flight => flight.wakeTimes
  | _ => []

/-- A worker of the node. -/
structure Hand where
  /-- How many cycles of the node had begun before its own. -/
  rank : Nat
  node : Node
  retired : Bool
  pose : Pose

/-- What there is of the node at the detector. -/
structure View where
  id : NodeId
  self : Node
  cluster : ClusterName
  settings : DetectionSettings
  now : Nat
  /-- How many memberships have been given. -/
  heard : Nat
  /-- The failures of its entry, if it has one. -/
  failures : Option Nat
  /-- How many cycles of it have begun. -/
  begun : Nat
  hands : List Hand
  shut : Bool
  pings : List (Nat × Node × PingRequest)
  connects : Nat
  reports : List (Nat × Node × FailureReason × Bool)

/-- What there is of the node at the station. -/
structure Facet where
  view : View
  version : Int
  accepted : Nat
  closed : Bool
  followers : List Follower

/-- How the node answers pings and attempts to connect, and what the memberships that are given
say of it. -/
structure Answers where
  ping : Nat → Reply
  connect : Nat → Reply
  listed : Nat → Option Node

namespace View

def setPose (v : View) (rank : Nat) (pose : Pose) : View :=
  { v with hands := v.hands.map fun h => if h.rank = rank then { h with pose } else h }

theorem setPose_setPose (v : View) (rank : Nat) (before after : Pose) :
    (v.setPose rank before).setPose rank after = v.setPose rank after := by
  unfold setPose
  simp only [List.map_map]
  congr 2
  funext h
  by_cases hrank : h.rank = rank <;> simp [hrank]

def drop (v : View) (rank : Nat) : View :=
  { v with hands := v.hands.filter fun h => h.rank ≠ rank }

/-- The entry is taken away, and whoever has not been told to stop is told. -/
def remove (v : View) : View :=
  match v.failures with
  | none => v
  | some _ => { v with
      failures := none
      hands := v.hands.map fun h => { h with retired := true } }

def install (v : View) (node : Node) : View :=
  match v.failures with
  | some _ => v
  | none => { v with
      failures := some 0
      begun := v.begun + 1
      hands := v.hands ++ [⟨v.begun, node, false, .ready⟩] }

@[simp] theorem remove_remove (v : View) : v.remove.remove = v.remove := by
  cases hfailures : v.failures <;> simp [remove, hfailures]

@[simp] theorem install_install (v : View) (node other : Node) :
    (v.install node).install other = v.install node := by
  cases hfailures : v.failures <;> simp [install, hfailures]

def report (v : View) (node : Node) (reason : FailureReason) : View :=
  { v with reports := (v.now, node, reason, !v.shut) :: v.reports }

/-- Someone has a ping to the node under way. -/
def busy (v : View) : Bool := v.hands.any fun h => h.pose.pings

variable (answers : Answers)

def reconcile (v : View) : View :=
  let heard := { v with heard := v.heard + 1 }
  match answers.listed v.heard with
  | none => heard.remove
  | some node => if v.id = v.self.id then heard else heard.install node

def send (v : View) (version : Int) (h : Hand) : View :=
  { v with
    pings := (v.now, h.node, ⟨h.node.id, some v.cluster, v.self.id, version⟩) :: v.pings
    }.setPose h.rank (.pinging (.launch v.now (answers.ping v.pings.length)
      (some (v.now + v.settings.timeout, .failed .closed))))

def lose (v : View) (h : Hand) : View :=
  if v.settings.reconnect then
    { v.remove with connects := v.connects + 1 }.setPose h.rank
      (.connecting (.launch v.now (answers.connect v.connects) none))
  else (v.remove.report h.node .disconnected).drop h.rank

def countFailure (v : View) (h : Hand) : View :=
  let failures := v.failures.getD 0 + 1
  if failures < v.settings.retries then
    { v with failures := some failures }.setPose h.rank .ready
  else
    (v.remove.report h.node
      (.unresponsive v.settings.retries v.settings.timeoutDuration)).drop h.rank

def settle (v : View) (h : Hand) : Outcome → View
  | .done =>
      { v with failures := some 0 }.setPose h.rank (.resting (v.now + v.settings.interval))
  | .failed error => if error.isDisconnect then v.lose answers h else v.countFailure h

def endReconnect (v : View) (h : Hand) : Outcome → View
  | .done => (v.install h.node).drop h.rank
  | .failed _ => (v.report h.node .unreachable).drop h.rank

/-- One stretch of a worker. One that is to stop and whose rest is over may notice either first. -/
def runHand (v : View) (version : Int) (heed : Bool) (h : Hand) : Option View :=
  match h.pose with
  | .ready => some (v.setPose h.rank .queued)
  | .queued =>
      if h.retired then some (v.drop h.rank)
      else if v.busy then none
      else some (v.send answers version h)
  | .pinging flight =>
      if h.retired then some (v.drop h.rank)
      else (flight.outcome? v.now).map (v.settle answers h)
  | .resting wake =>
      if h.retired && (heed || v.now < wake) then some (v.drop h.rank)
      else if v.now < wake then none
      else some (v.setPose h.rank .ready)
  | .connecting flight => (flight.outcome? v.now).map (v.endReconnect h)

end View

/-- Who may go on. -/
inductive Seat where
  | hand (rank : Nat)
  | follower (index : Nat)
deriving DecidableEq

/-- What all nodes are told, as far as the node is concerned. -/
inductive Tidings where
  | reconciled
  | stopped
  | closed
  | followed
  | published (version : Int)
  | supplierClosed
deriving DecidableEq

namespace Facet

def setFollower (f : Facet) (index : Nat) (follower : Follower) : Facet :=
  { f with followers := f.followers.set index follower }

variable (answers : Answers)

def followTo (f : Facet) (index : Nat) : Facet :=
  { f with view := f.view.reconcile answers }.setFollower index ⟨⟨f.accepted⟩, .watching⟩

def runFollower (f : Facet) (index : Nat) (follower : Follower) : Option Facet :=
  match follower.stage with
  | .fresh => some (f.followTo answers index)
  | .watching =>
      if follower.subscription.seen < f.accepted then some (f.followTo answers index)
      else if f.closed then
        some ({ f with view := f.view.remove }.setFollower index ⟨follower.subscription, .ended⟩)
      else none
  | .ended => none

def run (f : Facet) (heed : Bool) : Seat → Option Facet
  | .hand rank =>
      ((f.view.hands.find? fun h => h.rank = rank).bind
        (f.view.runHand answers f.version heed)).map fun view => { f with view }
  | .follower index => f.followers[index]?.bind (f.runFollower answers index)

/-- Time has passed, if the time is not over already. -/
def moveTo (f : Facet) (time : Nat) : Facet :=
  { f with view := { f.view with now := f.view.now + (time - f.view.now) } }

def wakeTimes (f : Facet) : List Nat := f.view.hands.flatMap fun h => h.pose.wakeTimes

def learn (f : Facet) : Tidings → Facet
  | .reconciled => { f with view := f.view.reconcile answers }
  | .stopped => { f with view := f.view.remove }
  | .closed => { f with view := { f.view.remove with shut := true } }
  | .followed => { f with followers := f.followers ++ [⟨⟨f.accepted⟩, .fresh⟩] }
  | .published version =>
      if f.closed then f
      else if version ≤ f.version then f
      else { f with version, accepted := f.accepted + 1 }
  | .supplierClosed => { f with closed := true }

/-- Nobody can go on before time passes or there are tidings. -/
def Idle (f : Facet) : Prop := ∀ heed seat, f.run answers heed seat = none

/-- Nobody is able to go on before that time. -/
def RestsUntil (f : Facet) (time : Nat) : Prop :=
  ∀ t, f.view.now ≤ t → t < time → (f.moveTo t).Idle answers

variable {answers} {f g h : Facet} {time target : Nat}

theorem runHand_later {v : View} {version : Int} {heed : Bool} {hand : Hand}
    (idle : v.runHand answers version heed hand = none)
    (quiet : ∀ t ∈ hand.pose.wakeTimes, v.now < t → time < t) :
    View.runHand answers { v with now := v.now + (time - v.now) } version heed hand = none := by
  have hflight {flight : Flight} (hwakes : hand.pose.wakeTimes = flight.wakeTimes)
      (hnone : flight.outcome? v.now = none) :
      flight.outcome? (v.now + (time - v.now)) = none := by
    refine Flight.outcome?_eq_none.2 fun t ht => ?_
    have hnow := Flight.outcome?_eq_none.1 hnone t ht
    have htime := quiet t (hwakes ▸ ht) hnow
    omega
  unfold View.runHand at idle ⊢
  cases pose : hand.pose with
  | ready => simp [pose] at idle
  | queued =>
    simp only [pose] at idle ⊢
    split
    next retired => simp [retired] at idle
    next retired =>
      rw [if_neg retired] at idle
      split at idle
      next busy => exact if_pos busy
      next => simp at idle
  | pinging flight =>
    simp only [pose] at idle ⊢
    split
    next retired => simp [retired] at idle
    next retired =>
      rw [if_neg retired, Option.map_eq_none_iff] at idle
      simp only [Option.map_eq_none_iff]
      exact hflight (by rw [pose]; rfl) idle
  | resting wake =>
    simp only [pose] at idle ⊢
    by_cases hnow : v.now < wake
    · have hunretired : ¬ hand.retired = true := fun retired => by simp [retired, hnow] at idle
      have htime := quiet wake (by simp [pose, Pose.wakeTimes]) hnow
      have hlater : v.now + (time - v.now) < wake := by omega
      simp [hunretired, hlater]
    · cases hretired : hand.retired <;> cases heed <;> simp [hretired, hnow] at idle
  | connecting flight =>
    simp only [pose, Option.map_eq_none_iff] at idle ⊢
    exact hflight (by rw [pose]; rfl) idle

theorem runFollower_later {index : Nat} {follower : Follower}
    (idle : f.runFollower answers index follower = none) :
    (f.moveTo time).runFollower answers index follower = none := by
  unfold runFollower at idle ⊢
  cases stage : follower.stage with
  | fresh => simp [stage] at idle
  | ended => rfl
  | watching =>
    simp only [stage] at idle ⊢
    split at idle
    next => simp at idle
    next hseen =>
      split at idle
      next => simp at idle
      next hopen => simp [moveTo, hseen, hopen]

/-- Between its wake times nobody becomes able to go on. -/
theorem idle_moveTo (idle : f.Idle answers)
    (quiet : ∀ t ∈ f.wakeTimes, f.view.now < t → time < t) : (f.moveTo time).Idle answers := by
  intro heed seat
  cases seat with
  | follower index =>
    have hidle := idle heed (.follower index)
    unfold run at hidle ⊢
    rw [Option.bind_eq_none_iff] at hidle ⊢
    exact fun follower hfollower => runFollower_later (hidle follower hfollower)
  | hand rank =>
    have hidle := idle heed (.hand rank)
    simp only [run, Option.map_eq_none_iff, Option.bind_eq_none_iff] at hidle ⊢
    intro hand hfound
    refine runHand_later (hidle hand hfound) fun t ht => quiet t ?_
    exact List.mem_flatMap.2 ⟨hand, List.mem_of_find?_eq_some hfound, ht⟩

theorem moveTo_of_le (h : time ≤ f.view.now) : f.moveTo time = f := by
  have hnow : f.view.now + (time - f.view.now) = f.view.now := by omega
  simp only [moveTo, hnow]

theorem moveTo_moveTo (h : time ≤ target) : (f.moveTo time).moveTo target = f.moveTo target := by
  have hnow : f.view.now + (time - f.view.now) + (target - (f.view.now + (time - f.view.now))) =
      f.view.now + (target - f.view.now) := by omega
  simp only [moveTo, hnow]

/-- A rule by which the work of the node that is due at one time is put in order. It may go by all
that has become of the node, latest first, and says who is next, and whether that one notices first
that it is to stop. -/
abbrev Rule := List Facet → Bool × Seat

/-- The facet goes on up to a given time. Work is done in the order of the rule as soon as it is
due, and tidings come at times of their own, when nobody can go on. -/
inductive Course (answers : Answers) (rule : Rule) (last : Nat) :
    List Facet → Facet → List (Nat × Tidings) → Facet → Prop
  | finish {trail : List Facet} {f : Facet} (later : f.view.now ≤ last)
      (rests : f.RestsUntil answers (last + 1)) :
      Course answers rule last trail f [] (f.moveTo last)
  | work {trail : List Facet} {f g final : Facet} {told : List (Nat × Tidings)} {time : Nat}
      {heed : Bool} {seat : Seat} (later : f.view.now ≤ time) (within : time ≤ last)
      (before : ∀ entry ∈ told, time ≤ entry.1) (rests : f.RestsUntil answers time)
      (ruled : rule (f.moveTo time :: trail) = (heed, seat))
      (goes : (f.moveTo time).run answers heed seat = some g)
      (rest : Course answers rule last (f.moveTo time :: trail) g told final) :
      Course answers rule last trail f told final
  | tell {trail : List Facet} {f final : Facet} {told : List (Nat × Tidings)} {time : Nat}
      {tidings : Tidings} (later : f.view.now ≤ time) (rests : f.RestsUntil answers (time + 1))
      (rest : Course answers rule last (f.moveTo time :: trail)
        ((f.moveTo time).learn answers tidings) told final) :
      Course answers rule last trail f ((time, tidings) :: told) final

variable {rule : Rule} {last : Nat} {trail : List Facet} {told : List (Nat × Tidings)}

/-- Nobody goes on while the facet rests. -/
theorem RestsUntil.le_of_run {heed : Bool} {seat : Seat} (rests : f.RestsUntil answers target)
    (later : f.view.now ≤ time) (goes : (f.moveTo time).run answers heed seat = some g) :
    target ≤ time := by
  refine Nat.not_lt.1 fun hearly => ?_
  rw [rests time later hearly heed seat] at goes
  cases goes

/-- What becomes of the facet is settled by what is told and by the rule. -/
theorem Course.unique (hg : Course answers rule last trail f told g)
    (hh : Course answers rule last trail f told h) : g = h := by
  induction hg with
  | finish later rests =>
    cases hh with
    | finish => rfl
    | work later' within _ _ _ goes =>
      have hlate := rests.le_of_run later' goes
      omega
  | @work trail f g final told time heed seat later within before rests ruled goes _ ih =>
    cases hh with
    | finish _ rests' =>
      have hlate := rests'.le_of_run later goes
      omega
    | @work _ _ g' _ _ time' heed' seat' later' _ _ rests' ruled' goes' rest' =>
      -- Both are the first time at which somebody can go on.
      obtain rfl : time = time' :=
        Nat.le_antisymm (rests.le_of_run later' goes') (rests'.le_of_run later goes)
      obtain ⟨rfl, rfl⟩ := Prod.mk.inj (ruled.symm.trans ruled')
      obtain rfl := Option.some.inj (goes.symm.trans goes')
      exact ih rest'
    | tell _ rests' =>
      have hlate := rests'.le_of_run later goes
      have htold := before _ List.mem_cons_self
      omega
  | tell later rests _ ih =>
    cases hh with
    | work later' _ before _ _ goes =>
      have hlate := rests.le_of_run later' goes
      have htold := before _ List.mem_cons_self
      omega
    | tell _ _ rest' => exact ih rest'

end Facet

end ClusterWatch
