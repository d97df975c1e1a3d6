import ClusterWatch.Cluster.Vigil
import ClusterWatch.Proofs.Chronicle
import ClusterWatch.Proofs.Trial

/-!
What an observer finds out. A wait ends with a snapshot only if that one is current, meets the
condition and is newer than all the observer knew when the wait began; it ends without one only if
the supplier has closed or the time is up, and then all there was to see has been seen in vain.
Either way the observer has seen the current snapshot in the end, so that the next wait begins where
this one ended.
-/
namespace ClusterWatch

namespace Supplier

variable {supplier : Supplier} {subscription : Subscription}

theorem poll_of_lt (behind : subscription.seen < supplier.accepted) :
    supplier.poll subscription = (.changed supplier.current, supplier.catchUp subscription) :=
  if_pos behind

theorem poll_of_closed (abreast : supplier.accepted ≤ subscription.seen)
    (closed : supplier.closed = true) : supplier.poll subscription = (.closed, subscription) := by
  rw [poll, if_neg (Nat.not_lt.2 abreast), if_pos closed]

theorem poll_of_open (abreast : supplier.accepted ≤ subscription.seen)
    (opened : supplier.closed = false) :
    supplier.poll subscription = (.nothing, subscription) := by
  rw [poll, if_neg (Nat.not_lt.2 abreast), if_neg (Bool.eq_false_iff.1 opened)]

end Supplier

namespace Vigil

namespace Event

def accepted? : Event → Option Snapshot
  | .accepted s => some s
  | _ => none

def saw? : Event → Option Snapshot
  | .saw s => some s
  | _ => none

def matched? : Event → Option Snapshot
  | .ended _ (.matched s) => some s
  | _ => none

/-- A wait begins or is over. -/
def bounds : Event → Bool
  | .began .. => true
  | .ended .. => true
  | .leftOff => true
  | _ => false

end Event

/-- The snapshots that have been accepted, latest first. -/
def accepted (past : List Event) : List Snapshot := past.filterMap Event.accepted?

/-- Those that the observer has been shown. -/
def seen (past : List Event) : List Snapshot := past.filterMap Event.saw?

/-- Those that waits ended with. -/
def matched (past : List Event) : List Snapshot := past.filterMap Event.matched?

/-- The current snapshot, where the observer came to the supplier `first`. -/
def currentAfter (first : Supplier) (past : List Event) : Snapshot :=
  (accepted past).headD first.current

/-- What the observer has seen last. -/
def observedAfter (first : Supplier) (past : List Event) : Snapshot :=
  (seen past).headD first.current

/-- What has been accepted since the observer was last shown anything, latest first. -/
def unseen (past : List Event) : List Snapshot :=
  accepted (past.takeWhile fun e => e.saw?.isNone)

def ClosedAfter (first : Supplier) (past : List Event) : Prop :=
  first.closed = true ∨ .closed ∈ past

/-- The wait that is under way after a past: what came before it, how it began, and what has come
since. -/
structure Spell (past : List Event) where
  before : List Event
  began : Nat
  condition : Snapshot → Bool
  timeout : Option Nat
  during : List Event
  split : past = during ++ .began began condition timeout :: before
  unbroken : ∀ e ∈ during, e.bounds = false

variable {first : Supplier} {v next last : Vigil} {w : Wait} {action : Action}
  {actions : List Action} {past later earlier : List Event} {e : Event} {s : Snapshot}

namespace Spell

def deadline (spell : Spell past) : Option Nat := spell.timeout.map (spell.began + ·)

/-- All there is to see has been seen, and did not meet the condition, unless it was seen before the
wait began. -/
structure InVain (first : Supplier) (spell : Spell past) : Prop where
  seenAll : unseen past = []
  unmet : ∀ s, .saw s ∈ spell.during → spell.condition s = false
  last : (∀ s, .saw s ∉ spell.during) ∨ spell.condition (observedAfter first past) = false

def fresh (past : List Event) (began : Nat) (condition : Snapshot → Bool) (timeout : Option Nat) :
    Spell (.began began condition timeout :: past) :=
  ⟨past, began, condition, timeout, [], rfl, nofun⟩

/-- The wait goes on. -/
def more (spell : Spell past) (h : e.bounds = false) : Spell (e :: past) :=
  { spell with
    during := e :: spell.during
    split := congrArg (e :: ·) spell.split
    unbroken := by
      intro f hf
      rcases List.mem_cons.1 hf with rfl | hf
      · exact h
      · exact spell.unbroken f hf }

end Spell

/-! ### What the events of a past say -/

/-- What an event says, given what came before it. -/
def Warranted (first : Supplier) (earlier : List Event) : Event → Prop
  | .accepted s => (currentAfter first earlier).version < s.version
  | .saw s => unseen earlier ≠ [] ∧ s = currentAfter first earlier
  | .ended _ (.matched s) => ∃ spell : Spell earlier, spell.condition s = true ∧
      (observedAfter first spell.before).version < s.version ∧ s = observedAfter first earlier ∧
      unseen earlier = []
  | .ended time .timedOut => ∃ spell : Spell earlier,
      (∃ limit, spell.deadline = some limit ∧ limit ≤ time) ∧ spell.InVain first
  | .ended _ .closed => ClosedAfter first earlier ∧ ∃ spell : Spell earlier, spell.InVain first
  | .ended _ .waiting => False
  | _ => True

theorem unseen_cons (e : Event) (past : List Event) :
    unseen (e :: past) =
      if e.saw?.isSome then [] else e.accepted?.toList ++ unseen past := by
  unfold unseen accepted
  rw [List.takeWhile_cons]
  cases hsaw : e.saw? with
  | some s => simp
  | none => cases haccepted : e.accepted? <;> simp [haccepted]

/-- The first of what has not been seen is the current snapshot. -/
theorem head?_unseen (first : Supplier) (h : unseen past ≠ []) :
    (unseen past).head? = some (currentAfter first past) := by
  have hprefix : unseen past <+: accepted past := (List.takeWhile_prefix _).filterMap _
  unfold currentAfter
  cases hunseen : unseen past with
  | nil => exact absurd hunseen h
  | cons s rest =>
    rw [hunseen] at hprefix
    obtain ⟨older, holder⟩ := hprefix
    rw [← holder]
    rfl

section Warranted

/-- Whoever has nothing left to see has seen the current snapshot. -/
theorem observed_eq_current (warranted : Throughout (Warranted first) past)
    (h : unseen past = []) : observedAfter first past = currentAfter first past := by
  induction past with
  | nil => rfl
  | cons e earlier ih =>
    rw [unseen_cons] at h
    cases e with
    | accepted s => cases h
    | saw s => exact warranted.head.2
    | closed | began | ended | leftOff => exact ih warranted.tail h

theorem observed_lt (warranted : Throughout (Warranted first) past) :
    ∀ s ∈ unseen past, (observedAfter first past).version < s.version := by
  induction past with
  | nil => exact nofun
  | cons e earlier ih =>
    intro s hs
    have hearlier := ih warranted.tail
    rw [unseen_cons] at hs
    cases e with
    | saw t => cases hs
    | closed | began | ended | leftOff => exact hearlier s hs
    | accepted t =>
      rcases List.mem_cons.1 hs with rfl | hs
      · have hnewer : (currentAfter first earlier).version < s.version := warranted.head
        refine Int.lt_of_le_of_lt ?_ hnewer
        show (observedAfter first earlier).version ≤ _
        by_cases hnone : unseen earlier = []
        · have hcurrent := observed_eq_current warranted.tail hnone
          exact Int.le_of_eq (congrArg Snapshot.version hcurrent)
        · have hcurrent := List.mem_of_head? (head?_unseen first hnone)
          exact Int.le_of_lt (hearlier _ hcurrent)
      · exact hearlier s hs

/-- What is shown is newer than what was shown before. -/
theorem observed_lt_saw (warranted : Throughout (Warranted first) (.saw s :: past)) :
    (observedAfter first past).version < s.version := by
  obtain ⟨hsome, rfl⟩ := warranted.head
  exact observed_lt warranted.tail _ (List.mem_of_head? (head?_unseen first hsome))

theorem observed_le (warranted : Throughout (Warranted first) (later ++ earlier)) :
    (observedAfter first earlier).version ≤ (observedAfter first (later ++ earlier)).version := by
  induction later with
  | nil => exact Int.le_refl _
  | cons e later ih =>
    have hle := ih warranted.tail
    cases e with
    | saw s => exact Int.le_of_lt (Int.lt_of_le_of_lt hle (observed_lt_saw warranted))
    | accepted | closed | began | ended | leftOff => exact hle

theorem rising (warranted : Throughout (Warranted first) past) :
    (seen past ++ [first.current]).Pairwise (·.version > ·.version) := by
  induction past with
  | nil => exact List.pairwise_singleton _ _
  | cons e earlier ih =>
    have hearlier := ih warranted.tail
    cases e with
    | saw s => exact pairwise_cons_of_headD hearlier (observed_lt_saw warranted)
    | accepted | closed | began | ended | leftOff => exact hearlier

/-- No wait ended while another was under way. -/
theorem Spell.matched_before (spell : Spell past) : matched past = matched spell.before := by
  have hduring : matched spell.during = [] := by
    refine List.filterMap_eq_nil_iff.2 fun e he => ?_
    have hunbroken := spell.unbroken e he
    cases e with
    | ended => cases hunbroken
    | accepted | closed | began | saw | leftOff => rfl
  calc
    matched past = matched (spell.during ++
        .began spell.began spell.condition spell.timeout :: spell.before) :=
      congrArg matched spell.split
    _ = matched spell.during ++ matched spell.before := List.filterMap_append
    _ = matched spell.before := by rw [hduring, List.nil_append]

/-- What has been observed was shown during the wait, if anything was. -/
theorem Spell.saw_observed (spell : Spell past) (h : .saw s ∈ spell.during) :
    .saw (observedAfter first past) ∈ spell.during := by
  have hmem (t : Snapshot) : t ∈ seen spell.during ↔ .saw t ∈ spell.during := by
    rw [seen, List.mem_filterMap]
    refine ⟨?_, fun ht => ⟨_, ht, rfl⟩⟩
    rintro ⟨e, he, hsaw⟩
    cases e with
    | saw u =>
      cases hsaw
      exact he
    | accepted | closed | began | ended | leftOff => cases hsaw
  have hsplit : seen past = seen spell.during ++ seen spell.before :=
    (congrArg seen spell.split).trans List.filterMap_append
  rw [← hmem, observedAfter, hsplit]
  cases hduring : seen spell.during with
  | nil => exact absurd ((hmem s).2 h) (hduring ▸ List.not_mem_nil)
  | cons t rest => exact List.mem_cons_self

/-- During a wait the observer gets no further back than it was. -/
theorem Spell.observed_le (spell : Spell past) (warranted : Throughout (Warranted first) past) :
    (observedAfter first spell.before).version ≤ (observedAfter first past).version := by
  obtain ⟨before, began, condition, timeout, during, rfl, -⟩ := spell
  exact Vigil.observed_le warranted

theorem matched_le (warranted : Throughout (Warranted first) past) :
    ∀ s ∈ matched past, s.version ≤ (observedAfter first past).version := by
  induction past with
  | nil => exact nofun
  | cons e earlier ih =>
    intro s hs
    have hearlier := ih warranted.tail
    have hle : (observedAfter first earlier).version ≤
        (observedAfter first ([e] ++ earlier)).version := observed_le warranted
    cases e with
    | accepted | closed | began | saw | leftOff => exact Int.le_trans (hearlier s hs) hle
    | ended time sighting =>
      cases sighting with
      | timedOut | closed | waiting => exact hearlier s hs
      | matched t =>
        rcases List.mem_cons.1 hs with rfl | hs
        · obtain ⟨-, -, -, hobserved, -⟩ := warranted.head
          exact Int.le_of_eq (congrArg Snapshot.version hobserved)
        · exact hearlier s hs

/-- Each wait ends with a later snapshot than the waits before it. -/
theorem distinct (warranted : Throughout (Warranted first) past) :
    (matched past).Pairwise (·.version > ·.version) := by
  induction past with
  | nil => exact List.Pairwise.nil
  | cons e earlier ih =>
    have hearlier := ih warranted.tail
    cases e with
    | accepted | closed | began | saw | leftOff => exact hearlier
    | ended time sighting =>
      cases sighting with
      | timedOut | closed | waiting => exact hearlier
      | matched s =>
        obtain ⟨spell, -, hnewer, -⟩ := warranted.head
        refine List.pairwise_cons.2 ⟨fun t ht => ?_, hearlier⟩
        have hbefore : Throughout (Warranted first) spell.before := by
          have hsplit := spell.split ▸ warranted.tail
          exact hsplit.of_append.tail
        have ht : t ∈ matched spell.before := spell.matched_before ▸ ht
        exact Int.lt_of_le_of_lt (matched_le hbefore t ht) hnewer

end Warranted

/-! ### What an action does -/

/-- What there is to tell when nothing is left to see. -/
def verdict (v : Vigil) (w : Wait) : Sighting :=
  if v.supplier.closed then .closed
  else if w.deadline.any (decide <| · ≤ v.now) then .timedOut else .waiting

/-- The observer once it has been shown the current snapshot. -/
def shown (v : Vigil) : Vigil :=
  { v with observer := .start v.supplier, past := .saw v.supplier.current :: v.past }

theorem glance_of_behind (waits : v.wait = some w)
    (behind : v.observer.subscription.seen < v.supplier.accepted) :
    v.act .glance = some (if w.condition v.supplier.current then
      v.shown.conclude (.matched v.supplier.current) else v.shown) := by
  have hact : v.act .glance = v.glance w := congrArg (Option.bind · v.glance) waits
  rw [hact, glance, Supplier.poll_of_lt behind]
  rfl

theorem glance_of_abreast (waits : v.wait = some w)
    (abreast : v.supplier.accepted ≤ v.observer.subscription.seen) :
    v.act .glance =
      if v.verdict w = .waiting then none else some (v.conclude (v.verdict w)) := by
  have hact : v.act .glance = v.glance w := congrArg (Option.bind · v.glance) waits
  rw [hact, glance, verdict]
  cases closed : v.supplier.closed with
  | true =>
    rw [Supplier.poll_of_closed abreast closed]
    rfl
  | false =>
    rw [Supplier.poll_of_open abreast closed]
    cases w.deadline.any (decide <| · ≤ v.now) <;> rfl

inductive Step (v : Vigil) : Action → Vigil → Prop
  | accept {s : Snapshot} (newer : v.supplier.current.version < s.version) :
      Step v (.publish s) { v with
        supplier := { v.supplier with current := s, accepted := v.supplier.accepted + 1 }
        past := .accepted s :: v.past }
  | refuse {s : Snapshot} : Step v (.publish s) v
  | close : Step v .close v.close
  | elapse (time : Nat) : Step v (.elapse time) { v with now := v.now + time }
  | begin (condition : Snapshot → Bool) (timeout : Option Nat) :
      Step v (.begin condition timeout) (v.begin condition timeout)
  | see {w : Wait} (waits : v.wait = some w)
      (behind : v.observer.subscription.seen < v.supplier.accepted)
      (unmet : w.condition v.supplier.current = false) :
      Step v .glance v.shown
  | meet {w : Wait} (waits : v.wait = some w)
      (behind : v.observer.subscription.seen < v.supplier.accepted)
      (met : w.condition v.supplier.current = true) :
      Step v .glance (v.shown.conclude (.matched v.supplier.current))
  | shut {w : Wait} (waits : v.wait = some w)
      (abreast : v.supplier.accepted ≤ v.observer.subscription.seen)
      (closed : v.supplier.closed = true) : Step v .glance (v.conclude .closed)
  | expire {w : Wait} {limit : Nat} (waits : v.wait = some w)
      (abreast : v.supplier.accepted ≤ v.observer.subscription.seen)
      (deadline : w.deadline = some limit) (late : limit ≤ v.now) :
      Step v .glance (v.conclude .timedOut)
  | leaveOff : Step v .leaveOff { v with wait := none, past := .leftOff :: v.past }

theorem act_step (h : v.act action = some next) : v.Step action next := by
  cases action with
  | publish s =>
    obtain rfl := Option.some.inj h
    unfold publish
    cases hpublish : v.supplier.publish s with
    | ok supplier =>
      obtain ⟨-, newer, rfl⟩ := Supplier.publish_eq_ok hpublish
      exact .accept newer
    | error refusal => exact .refuse
  | close =>
    obtain rfl := Option.some.inj h
    exact .close
  | elapse time =>
    obtain rfl := Option.some.inj h
    exact .elapse time
  | begin condition timeout =>
    obtain ⟨-, heq⟩ := Option.ite_none_right_eq_some.1 h
    obtain rfl := Option.some.inj heq
    exact .begin condition timeout
  | glance =>
    obtain ⟨w, waits, -⟩ := Option.bind_eq_some_iff.1 h
    by_cases behind : v.observer.subscription.seen < v.supplier.accepted
    · rw [glance_of_behind waits behind] at h
      obtain rfl := Option.some.inj h
      split
      next met => exact .meet waits behind met
      next unmet => exact .see waits behind (Bool.eq_false_iff.2 unmet)
    · have abreast := Nat.not_lt.1 behind
      rw [glance_of_abreast waits abreast] at h
      obtain ⟨hends, heq⟩ := Option.ite_none_left_eq_some.1 h
      obtain rfl := Option.some.inj heq
      unfold verdict at hends ⊢
      split
      next closed => exact .shut waits abreast closed
      next hopen =>
        rw [if_neg hopen] at hends
        split
        next late =>
          obtain ⟨limit, deadline, hle⟩ := (Option.any_eq_true _ _).1 late
          exact .expire waits abreast deadline (decide_eq_true_iff.1 hle)
        next hearly => exact absurd (if_neg hearly) hends
  | leaveOff =>
    obtain ⟨w, waits, rfl⟩ := Option.map_eq_some_iff.1 h
    exact .leaveOff

/-- The wait under way, read off the past: when it is given up, and that it has met nothing yet. -/
def Spell.Is (spell : Spell past) (w : Wait) : Prop :=
  spell.condition = w.condition ∧ spell.deadline = w.deadline ∧
    ∀ s, .saw s ∈ spell.during → spell.condition s = false

/-- The state of the supplier, the observer and the wait, read off the past. -/
structure Sound (first : Supplier) (v : Vigil) : Prop where
  current : v.supplier.current = currentAfter first v.past
  closed : v.supplier.closed = true ↔ ClosedAfter first v.past
  observed : v.observer.observed = observedAfter first v.past
  /-- What the observer has seen and what it has not is all that has been accepted. -/
  seen : v.observer.subscription.seen + (unseen v.past).length = v.supplier.accepted
  wait : ∀ w, v.wait = some w → ∃ spell : Spell v.past, spell.Is w
  warranted : Throughout (Warranted first) v.past

theorem sound_start (first : Supplier) : Sound first (start first) where
  current := rfl
  closed := by simp [start, ClosedAfter]
  observed := rfl
  seen := rfl
  wait := nofun
  warranted := .nil

namespace Sound

theorem unseen_eq_nil (sound : Sound first v)
    (abreast : v.supplier.accepted ≤ v.observer.subscription.seen) : unseen v.past = [] := by
  have hseen := sound.seen
  exact List.length_eq_zero_iff.1 (by omega)

theorem unseen_ne_nil (sound : Sound first v)
    (behind : v.observer.subscription.seen < v.supplier.accepted) : unseen v.past ≠ [] := by
  have hseen := sound.seen
  exact List.length_pos_iff.1 (by omega)

/-- A wait goes on over what is not the beginning or the end of one. -/
theorem more (sound : Sound first v) (hbounds : e.bounds = false)
    (unmet : ∀ w s, v.wait = some w → e = .saw s → w.condition s = false) :
    ∀ w, v.wait = some w → ∃ spell : Spell (e :: v.past), spell.Is w := by
  intro w waits
  obtain ⟨spell, hcondition, hdeadline, hunmet⟩ := sound.wait w waits
  refine ⟨spell.more hbounds, hcondition, hdeadline, fun s hs => ?_⟩
  rcases List.mem_cons.1 hs with heq | hs
  · exact hcondition ▸ unmet w s waits heq.symm
  · exact hunmet s hs

/-- Nothing has come of the wait under way when there is nothing left to see. -/
theorem inVain (sound : Sound first v) (waits : v.wait = some w)
    (abreast : v.supplier.accepted ≤ v.observer.subscription.seen) :
    ∃ spell : Spell v.past, spell.deadline = w.deadline ∧ spell.InVain first := by
  obtain ⟨spell, -, hdeadline, hunmet⟩ := sound.wait w waits
  refine ⟨spell, hdeadline, sound.unseen_eq_nil abreast, hunmet, ?_⟩
  by_cases hnone : ∀ s, .saw s ∉ spell.during
  · exact .inl hnone
  · obtain ⟨s, hs⟩ := not_forall_not.1 hnone
    exact .inr (hunmet _ (spell.saw_observed hs))

theorem closed_more (sound : Sound first v) (h : e ≠ .closed) :
    v.supplier.closed = true ↔ ClosedAfter first (e :: v.past) := by
  rw [sound.closed, ClosedAfter, ClosedAfter, List.mem_cons, or_iff_right (Ne.symm h)]

end Sound

theorem Step.sound (step : v.Step action next) (sound : Sound first v) : Sound first next := by
  cases step with
  | accept newer =>
    refine ⟨rfl, sound.closed_more (by nofun), sound.observed, ?_, sound.more rfl nofun,
      sound.warranted.cons ?_⟩
    · show v.observer.subscription.seen + _ = v.supplier.accepted + 1
      rw [unseen_cons]
      exact congrArg (· + 1) sound.seen
    · rw [Warranted, ← sound.current]
      exact newer
  | refuse => exact sound
  | close =>
    refine ⟨sound.current, ?_, sound.observed, sound.seen, sound.more rfl nofun,
      sound.warranted.cons trivial⟩
    exact iff_of_true rfl (.inr List.mem_cons_self)
  | elapse time => exact { sound with }
  | begin condition timeout =>
    refine ⟨sound.current, sound.closed_more (by nofun), sound.observed, sound.seen, ?_,
      sound.warranted.cons trivial⟩
    intro w waits
    obtain rfl := Option.some.inj waits
    exact ⟨.fresh v.past v.now condition timeout, rfl, rfl, nofun⟩
  | see waits behind unmet =>
    refine ⟨sound.current, sound.closed_more (by nofun), rfl, rfl, sound.more rfl ?_,
      sound.warranted.cons ⟨sound.unseen_ne_nil behind, sound.current⟩⟩
    intro w s hw heq
    cases heq
    exact Option.some.inj (waits.symm.trans hw) ▸ unmet
  | @meet w waits behind met =>
    have hsaw : Warranted first v.past (.saw v.supplier.current) :=
      ⟨sound.unseen_ne_nil behind, sound.current⟩
    have hshown := sound.warranted.cons hsaw
    have hclosed : ClosedAfter first (.ended v.now (.matched v.supplier.current) ::
        .saw v.supplier.current :: v.past) ↔ ClosedAfter first v.past := by simp [ClosedAfter]
    refine ⟨sound.current, sound.closed.trans hclosed.symm, rfl, rfl, nofun, hshown.cons ?_⟩
    obtain ⟨spell, hcondition, -, -⟩ := sound.wait w waits
    have hnewer := Int.lt_of_le_of_lt (spell.observed_le sound.warranted) (observed_lt_saw hshown)
    exact ⟨spell.more rfl, (congrFun hcondition _).trans met, hnewer, rfl, rfl⟩
  | shut waits abreast closed =>
    obtain ⟨spell, -, hvain⟩ := sound.inVain waits abreast
    exact ⟨sound.current, sound.closed_more (by nofun), sound.observed, sound.seen, nofun,
      sound.warranted.cons ⟨sound.closed.1 closed, spell, hvain⟩⟩
  | @expire w limit waits abreast deadline late =>
    obtain ⟨spell, hdeadline, hvain⟩ := sound.inVain waits abreast
    exact ⟨sound.current, sound.closed_more (by nofun), sound.observed, sound.seen, nofun,
      sound.warranted.cons ⟨spell, ⟨limit, hdeadline.trans deadline, late⟩, hvain⟩⟩
  | leaveOff =>
    exact ⟨sound.current, sound.closed_more (by nofun), sound.observed, sound.seen, nofun,
      sound.warranted.cons trivial⟩

theorem acts_sound (sound : Sound first v) (hacts : v.acts actions = some last) :
    Sound first last := by
  induction actions generalizing v with
  | nil =>
    obtain rfl := Option.some.inj hacts
    exact sound
  | cons action rest ih =>
    obtain ⟨next, hact, hrest⟩ := Option.bind_eq_some_iff.1 hacts
    exact ih ((act_step hact).sound sound) hrest

/-! ### Glances make up a look -/

/-- The wait is over, or it goes on and there is nothing to see. -/
structure Rests (v : Vigil) (w : Wait) (sighting : Sighting) (observer : Observer) (next : Vigil) :
    Prop where
  observer : next.observer = observer
  waits : sighting = .waiting → next.wait = some w ∧ next.act .glance = none
  ends : sighting ≠ .waiting → next.wait = none ∧ next.past.head? = some (.ended v.now sighting)

theorem rests_of_abreast (waits : v.wait = some w)
    (abreast : v.supplier.accepted ≤ v.observer.subscription.seen) :
    ∃ n next, v.acts (List.replicate n .glance) = some next ∧
      v.Rests w (v.verdict w) v.observer next := by
  have hglance := glance_of_abreast waits abreast
  by_cases hwaiting : v.verdict w = .waiting
  · rw [if_pos hwaiting] at hglance
    exact ⟨0, v, rfl, rfl, fun _ => ⟨waits, hglance⟩, fun h => absurd hwaiting h⟩
  · rw [if_neg hwaiting] at hglance
    refine ⟨1, _, Option.bind_eq_some_iff.2 ⟨_, hglance, rfl⟩, rfl, ?_, fun _ => ⟨rfl, rfl⟩⟩
    exact fun h => absurd h hwaiting

theorem look_of_abreast (w : Wait)
    (abreast : v.supplier.accepted ≤ v.observer.subscription.seen) :
    v.observer.look v.supplier w.condition (w.deadline.any (decide <| · ≤ v.now)) =
      (v.verdict w, v.observer) := by
  unfold Observer.look
  cases closed : v.supplier.closed with
  | true =>
    rw [Supplier.poll_of_closed abreast closed]
    rfl
  | false =>
    rw [Supplier.poll_of_open abreast closed]
    rfl

theorem look_of_behind (w : Wait)
    (behind : v.observer.subscription.seen < v.supplier.accepted) :
    v.observer.look v.supplier w.condition (w.deadline.any (decide <| · ≤ v.now)) =
      (if w.condition v.supplier.current then .matched v.supplier.current else v.verdict w,
        .start v.supplier) := by
  unfold Observer.look
  rw [Supplier.poll_of_lt behind]
  rfl

/-- A wait that is run for as long as there is something to do comes to what one look tells. -/
theorem rests_of_look (waits : v.wait = some w) :
    ∃ n next, v.acts (List.replicate n .glance) = some next ∧
      v.Rests w
        (v.observer.look v.supplier w.condition (w.deadline.any (decide <| · ≤ v.now))).1
        (v.observer.look v.supplier w.condition (w.deadline.any (decide <| · ≤ v.now))).2 next := by
  by_cases behind : v.observer.subscription.seen < v.supplier.accepted
  · have hglance := glance_of_behind waits behind
    rw [look_of_behind w behind]
    cases met : w.condition v.supplier.current with
    | true =>
      rw [if_pos met] at hglance
      exact ⟨1, _, Option.bind_eq_some_iff.2 ⟨_, hglance, rfl⟩, rfl, nofun, fun _ => ⟨rfl, rfl⟩⟩
    | false =>
      rw [if_neg (Bool.eq_false_iff.1 met)] at hglance
      obtain ⟨n, next, hacts, hrests⟩ := rests_of_abreast (v := v.shown) waits (Nat.le_refl _)
      refine ⟨n + 1, next, Option.bind_eq_some_iff.2 ⟨v.shown, hglance, hacts⟩, ?_⟩
      exact ⟨hrests.observer, hrests.waits, hrests.ends⟩
  · have abreast := Nat.not_lt.1 behind
    rw [look_of_abreast w abreast]
    exact rests_of_abreast waits abreast

/-! ### A clock that stops at every deadline -/

def Action.elapses? : Action → Option Nat
  | .elapse time => some time
  | _ => none

/-- The clock does not go past the deadline of the wait that is under way. -/
def Stops (v : Vigil) (action : Action) : Prop :=
  ∀ time ∈ action.elapses?, ∀ w ∈ v.wait, ∀ limit ∈ w.deadline, v.now + time ≤ limit

def KeepsTime (v : Vigil) : List Action → Prop
  | [] => True
  | action :: rest => v.Stops action ∧ ∀ next ∈ v.act action, next.KeepsTime rest

instance (v : Vigil) (action : Action) : Decidable (v.Stops action) :=
  inferInstanceAs (Decidable (∀ time ∈ action.elapses?, ∀ w ∈ v.wait, ∀ limit ∈ w.deadline, _))

instance decidableKeepsTime :
    (v : Vigil) → (actions : List Action) → Decidable (v.KeepsTime actions)
  | _, [] => isTrue trivial
  | v, action :: rest =>
      have (next : Vigil) : Decidable (next.KeepsTime rest) := decidableKeepsTime next rest
      inferInstanceAs (Decidable (v.Stops action ∧ ∀ next ∈ v.act action, _))

/-- Whoever runs out of time does so at the deadline. -/
def OnTime (earlier : List Event) (e : Event) : Prop :=
  ∀ time, e = .ended time .timedOut → ∃ spell : Spell earlier, spell.deadline = some time

structure Punctual (v : Vigil) : Prop where
  inTime : ∀ w ∈ v.wait, ∀ limit ∈ w.deadline, v.now ≤ limit
  onTime : Throughout OnTime v.past

theorem punctual_start (first : Supplier) : (start first).Punctual :=
  ⟨fun _ hw => absurd hw (Option.not_mem_none _), .nil⟩

theorem Step.punctual (step : v.Step action next) (sound : Sound first v) (stops : v.Stops action)
    (punctual : v.Punctual) : next.Punctual := by
  have inTime := punctual.inTime
  cases step with
  | accept | close | see => exact ⟨inTime, punctual.onTime.cons nofun⟩
  | refuse => exact punctual
  | elapse time => exact ⟨stops time rfl, punctual.onTime⟩
  | begin condition timeout =>
    refine ⟨fun w hw limit hlimit => ?_, punctual.onTime.cons nofun⟩
    obtain rfl := Option.some.inj hw
    obtain ⟨time, -, rfl⟩ := Option.map_eq_some_iff.1 hlimit
    exact Nat.le_add_right _ _
  | meet =>
    have hshown : Throughout OnTime v.shown.past := punctual.onTime.cons nofun
    exact ⟨nofun, hshown.cons nofun⟩
  | shut | leaveOff => exact ⟨nofun, punctual.onTime.cons nofun⟩
  | @expire w limit waits abreast deadline late =>
    refine ⟨nofun, punctual.onTime.cons fun time htime => ?_⟩
    cases htime
    obtain ⟨spell, hdeadline, -⟩ := sound.inVain waits abreast
    have hnow := Nat.le_antisymm (inTime w waits limit deadline) late
    exact ⟨spell, hdeadline.trans (hnow ▸ deadline)⟩

theorem acts_punctual (sound : Sound first v) (punctual : v.Punctual)
    (keepsTime : v.KeepsTime actions) (hacts : v.acts actions = some last) : last.Punctual := by
  induction actions generalizing v with
  | nil =>
    obtain rfl := Option.some.inj hacts
    exact punctual
  | cons action rest ih =>
    obtain ⟨next, hact, hrest⟩ := Option.bind_eq_some_iff.1 hacts
    have step := act_step hact
    exact ih (step.sound sound) (step.punctual sound keepsTime.1 punctual)
      (keepsTime.2 next hact) hrest

/-! ### What is promised of waits -/

/-- What the waits of an observer have come to in the course of a run that ends here. -/
structure Attentive (first : Supplier) (actions : List Action) (v : Vigil) : Prop where
  current : v.supplier.current = currentAfter first v.past
  isClosed : v.supplier.closed = true ↔ ClosedAfter first v.past
  observed : v.observer.observed = observedAfter first v.past
  /-- A wait that ends with a snapshot ends with one that is current, that meets the condition, and
  that is newer than what had been observed when the wait began. -/
  matched : ∀ {later earlier time s}, v.past = later ++ .ended time (.matched s) :: earlier →
    ∃ spell : Spell earlier, spell.condition s = true ∧
      (observedAfter first spell.before).version < s.version ∧ s = currentAfter first earlier
  timedOut : ∀ {later earlier time}, v.past = later ++ .ended time .timedOut :: earlier →
    ∃ spell : Spell earlier, (∃ limit, spell.deadline = some limit ∧ limit ≤ time) ∧
      spell.InVain first
  closed : ∀ {later earlier time}, v.past = later ++ .ended time .closed :: earlier →
    ClosedAfter first earlier ∧ ∃ spell : Spell earlier, spell.InVain first
  /-- No wait ends in another way, and the observer has seen the current snapshot then. -/
  ended : ∀ {later earlier time sighting}, v.past = later ++ .ended time sighting :: earlier →
    sighting ≠ .waiting ∧ observedAfter first earlier = currentAfter first earlier ∧
      ∀ s, sighting = .matched s → observedAfter first earlier = s
  /-- What the observer is shown is ever newer. -/
  rising : (seen v.past ++ [first.current]).Pairwise (·.version > ·.version)
  forward : ∀ {action next}, v.act action = some next →
    v.observer.observed.version ≤ next.observer.observed.version
  /-- No two waits end with the same snapshot, or with two of one version. -/
  distinct : (Vigil.matched v.past).Pairwise (·.version > ·.version)
  /-- Where the clock stops at deadlines, the time is up at the deadline. -/
  punctual : (start first).KeepsTime actions → ∀ {later earlier time},
    v.past = later ++ .ended time .timedOut :: earlier →
    ∃ spell : Spell earlier, spell.deadline = some time
  /-- A wait that is run for as long as there is something to do comes to what one look tells. -/
  look : ∀ {w}, v.wait = some w → ∃ n next, v.acts (List.replicate n .glance) = some next ∧
    v.Rests w
      (v.observer.look v.supplier w.condition (w.deadline.any (decide <| · ≤ v.now))).1
      (v.observer.look v.supplier w.condition (w.deadline.any (decide <| · ≤ v.now))).2 next

theorem Step.adds (step : v.Step action next) : ∃ more, next.past = more ++ v.past := by
  cases step with
  | refuse | elapse => exact ⟨[], rfl⟩
  | accept | close | begin | see | shut | expire | leaveOff => exact ⟨[_], rfl⟩
  | meet => exact ⟨[_, _], rfl⟩

/-- An observer tells of every wait what there was to tell, whatever is published and whenever the
supplier closes. -/
theorem observer_attentive (hacts : (start first).acts actions = some last) :
    Attentive first actions last := by
  have sound := acts_sound (sound_start first) hacts
  have warranted := sound.warranted
  constructor
  case current => exact sound.current
  case isClosed => exact sound.closed
  case observed => exact sound.observed
  case matched =>
    intro later earlier time s hpast
    obtain ⟨spell, hmet, hnewer, hobserved, hunseen⟩ := warranted later _ earlier hpast
    have hearlier := (hpast ▸ warranted).of_append.tail
    exact ⟨spell, hmet, hnewer, hobserved.trans (observed_eq_current hearlier hunseen)⟩
  case timedOut =>
    intro later earlier time hpast
    exact warranted later _ earlier hpast
  case closed =>
    intro later earlier time hpast
    exact warranted later _ earlier hpast
  case ended =>
    intro later earlier time sighting hpast
    have hended := warranted later _ earlier hpast
    have hearlier := (hpast ▸ warranted).of_append.tail
    cases sighting with
    | matched s =>
      obtain ⟨-, -, -, hobserved, hunseen⟩ := hended
      refine ⟨nofun, observed_eq_current hearlier hunseen, fun t ht => ?_⟩
      cases ht
      exact hobserved.symm
    | timedOut =>
      obtain ⟨_, _, hvain⟩ := hended
      exact ⟨nofun, observed_eq_current hearlier hvain.seenAll, nofun⟩
    | closed =>
      obtain ⟨_, _, hvain⟩ := hended
      exact ⟨nofun, observed_eq_current hearlier hvain.seenAll, nofun⟩
    | waiting => exact hended.elim
  case rising => exact rising warranted
  case forward =>
    intro action next hact
    have step := act_step hact
    have hnext := step.sound sound
    obtain ⟨more, hpast⟩ := step.adds
    rw [sound.observed, hnext.observed, hpast]
    exact observed_le (hpast ▸ hnext.warranted)
  case distinct => exact distinct warranted
  case punctual =>
    intro keepsTime later earlier time hpast
    have punctual := acts_punctual (sound_start first) (punctual_start first) keepsTime hacts
    exact punctual.onTime later _ earlier hpast time rfl
  case look =>
    intro w waits
    exact rests_of_look waits

section Trial

open Trial

/-- How the waits ended, with the times, latest first. -/
def endings (v : Vigil) : List (Nat × Sighting) :=
  v.past.filterMap fun
    | .ended time sighting => some (time, sighting)
    | _ => none

def reaches (n : Int) (s : Snapshot) : Bool := n ≤ s.version

/-- One wait passes a snapshot over and ends with the next but one, one runs out of time, and one is
shown a snapshot that came before the closing. -/
def watchfulActions : List Action :=
  [.publish (version 2), .begin (reaches 3) (some 50), .glance, .elapse 20, .publish (version 3),
    .publish (version 4), .glance, .begin (reaches 9) (some 30), .elapse 30, .glance,
    .begin (reaches 9) none, .publish (version 5), .close, .glance, .glance]

def watchful : Vigil := ((start (.start home (version 1))).acts watchfulActions).get (by decide)

theorem observer_attentive_watchful :
    (start (.start home (version 1))).acts watchfulActions = some watchful ∧
      Attentive (.start home (version 1)) watchfulActions watchful ∧
      (start (.start home (version 1))).KeepsTime watchfulActions ∧
      watchful.endings = [(50, .closed), (50, .timedOut), (20, .matched (version 4))] ∧
      watchful.observer.observed = version 5 := by
  have hacts : (start (.start home (version 1))).acts watchfulActions = some watchful :=
    (Option.some_get _).symm
  exact ⟨hacts, observer_attentive hacts, by decide, by decide, by decide⟩

end Trial

end Vigil

end ClusterWatch
