import ClusterWatch.Cluster.Circulation
import ClusterWatch.Proofs.Trial

/-!
What subscribers see. A subscriber is told of a change exactly if something has been accepted since
it came or was last told of one, and then of the latest that has been accepted; so it misses no more
than what has been overtaken, and never goes back. Of the closing it is told once nothing is left
that it has not seen, and from then on of nothing else.
-/
namespace ClusterWatch.Circulation

namespace Event

def accepted? : Event → Option Snapshot
  | .accepted s => some s
  | _ => none

def subscribed? : Event → Option Nat
  | .subscribed subscriber _ => some subscriber
  | _ => none

/-- The version that a subscriber is told of. -/
def tellsVersion? (n : Nat) : Event → Option Int
  | .told subscriber (.changed s) => if subscriber = n then some s.version else none
  | _ => none

/-- From here on the subscriber has seen all that was accepted before. -/
def catchesUp (n : Nat) : Event → Bool
  | .subscribed subscriber _ => subscriber = n
  | .told subscriber (.changed _) => subscriber = n
  | _ => false

end Event

/-- The snapshots that have been accepted, latest first. -/
def accepted (past : List Event) : List Snapshot := past.filterMap Event.accepted?

/-- The current snapshot, where the supplier began with `initial`. -/
def currentAfter (initial : Snapshot) (past : List Event) : Snapshot :=
  (accepted past).headD initial

/-- What has been accepted since the subscriber came or was last told of a change, latest first. -/
def unseenBy (n : Nat) (past : List Event) : List Snapshot :=
  accepted (past.takeWhile fun e => !e.catchesUp n)

/-- The versions that the subscriber has been told of, latest first. -/
def versionsTold (n : Nat) (past : List Event) : List Int := past.filterMap (Event.tellsVersion? n)

variable {initial : Snapshot} {c next last : Circulation} {action : Action}
  {actions : List Action} {n : Nat} {past : List Event} {e : Event}

theorem unseenBy_cons (n : Nat) (e : Event) (past : List Event) :
    unseenBy n (e :: past) =
      if e.catchesUp n then [] else e.accepted?.toList ++ unseenBy n past := by
  unfold unseenBy accepted
  rw [List.takeWhile_cons]
  cases hcatches : e.catchesUp n with
  | true => simp
  | false => cases haccepted : e.accepted? <;> simp [haccepted]

theorem unseenBy_prefix (n : Nat) (past : List Event) : unseenBy n past <+: accepted past :=
  (List.takeWhile_prefix _).filterMap _

/-- What has not been seen is no more than what came after an event that catches up. -/
theorem mem_accepted_of_unseen {later earlier : List Event} {s : Snapshot}
    (hcatches : e.catchesUp n = true) (hs : s ∈ unseenBy n (later ++ e :: earlier)) :
    .accepted s ∈ later := by
  induction later with
  | nil => simp [unseenBy_cons, hcatches] at hs
  | cons f later ih =>
    rw [List.cons_append, unseenBy_cons] at hs
    split at hs
    · cases hs
    · rcases List.mem_append.1 hs with hf | hlater
      · have hf : f.accepted? = some s := Option.mem_toList.1 hf
        cases f with
        | accepted t =>
          cases hf
          exact List.mem_cons_self
        | _ => cases hf
      · exact List.mem_cons_of_mem _ (ih hlater)

/-- If nothing has been accepted since, there is no more to see than there was. -/
theorem unseenBy_append {later earlier : List Event} (hlater : ∀ s, .accepted s ∉ later)
    (hnone : unseenBy n earlier = []) : unseenBy n (later ++ earlier) = [] := by
  induction later with
  | nil => exact hnone
  | cons f later ih =>
    rw [List.cons_append, unseenBy_cons]
    have hrest := ih fun s hs => hlater s (List.mem_cons_of_mem _ hs)
    cases f with
    | accepted s => exact absurd List.mem_cons_self (hlater s)
    | closed => exact hrest
    | subscribed m s =>
      split
      · rfl
      · exact hrest
    | told m news =>
      split
      · rfl
      · exact hrest

/-- All that an action does; each adds one event to the past, but for a publication that is
refused. -/
inductive Step (c : Circulation) : Action → Circulation → Prop
  | accept {s : Snapshot} (opened : c.supplier.closed = false)
      (newer : c.supplier.current.version < s.version) :
      Step c (.publish s) { c with
        supplier := { c.supplier with current := s, accepted := c.supplier.accepted + 1 }
        past := .accepted s :: c.past }
  | refuse {s : Snapshot} : Step c (.publish s) c
  | close : Step c .close c.close
  | subscribe : Step c .subscribe c.subscribe
  | change {n : Nat} {subscription : Subscription} (held : c.subscriptions[n]? = some subscription)
      (behind : subscription.seen < c.supplier.accepted) :
      Step c (.poll n) { c with
        subscriptions := c.subscriptions.set n (c.supplier.catchUp subscription)
        past := .told n (.changed c.supplier.current) :: c.past }
  | still {n : Nat} {subscription : Subscription} (held : c.subscriptions[n]? = some subscription)
      (abreast : c.supplier.accepted ≤ subscription.seen) :
      Step c (.poll n)
        { c with past := .told n (if c.supplier.closed then .closed else .nothing) :: c.past }

theorem act_step (h : c.act action = some next) : c.Step action next := by
  cases action with
  | publish s =>
    obtain rfl := Option.some.inj h
    unfold publish
    cases hpublish : c.supplier.publish s with
    | ok supplier =>
      obtain ⟨opened, newer, rfl⟩ := Supplier.publish_eq_ok hpublish
      exact .accept opened newer
    | error refusal => exact .refuse
  | close =>
    obtain rfl := Option.some.inj h
    exact .close
  | subscribe =>
    obtain rfl := Option.some.inj h
    exact .subscribe
  | poll n =>
    obtain ⟨subscription, held, rfl⟩ := Option.map_eq_some_iff.1 h
    by_cases behind : subscription.seen < c.supplier.accepted
    · have hpoll : c.supplier.poll subscription =
          (.changed c.supplier.current, c.supplier.catchUp subscription) := if_pos behind
      rw [tell, hpoll]
      exact .change held behind
    · have hpoll : c.supplier.poll subscription =
          (if c.supplier.closed then .closed else .nothing, subscription) := by
        unfold Supplier.poll
        rw [if_neg behind]
        split <;> rfl
      have hset : c.subscriptions.set n subscription = c.subscriptions := by
        obtain ⟨hlt, hget⟩ := List.getElem?_eq_some_iff.1 held
        rw [← hget]
        exact List.set_getElem_self hlt
      rw [tell, hpoll]
      simp only [hset]
      exact .still held (Nat.le_of_not_lt behind)

/-- The state of the supplier and of the subscriptions, read off the past. -/
structure Sound (initial : Snapshot) (c : Circulation) : Prop where
  current : c.supplier.current = currentAfter initial c.past
  closed : c.supplier.closed = true ↔ .closed ∈ c.past
  /-- What a subscription has seen and what it has not is all that has been accepted. -/
  seen : ∀ {n subscription}, c.subscriptions[n]? = some subscription →
    subscription.seen + (unseenBy n c.past).length = c.supplier.accepted
  subscribed : ∀ n, n < c.subscriptions.length ↔ ∃ s, .subscribed n s ∈ c.past
  distinct : (c.past.filterMap Event.subscribed?).Nodup
  increasing : ∀ n, (versionsTold n c.past).Pairwise (· > ·)
  told_le : ∀ n, ∀ v ∈ versionsTold n c.past, v ≤ c.supplier.current.version
  told_lt : ∀ n, ∀ v ∈ versionsTold n c.past, ∀ s ∈ unseenBy n c.past, v < s.version

theorem start_sound (localNode : Node) (initial : Snapshot) :
    Sound initial (start localNode initial) where
  current := rfl
  closed := by simp [start, Supplier.start]
  seen held := by cases held
  subscribed := by simp [start]
  distinct := List.nodup_nil
  increasing _ := List.Pairwise.nil
  told_le _ _ hv := by cases hv
  told_lt _ _ hv := by cases hv

/-- Whoever has not seen everything has the current snapshot still to see, before all others. -/
theorem Sound.head?_unseenBy (sound : Sound initial c) (hsome : unseenBy n c.past ≠ []) :
    (unseenBy n c.past).head? = some c.supplier.current := by
  have hprefix := unseenBy_prefix n c.past
  rw [sound.current, currentAfter]
  cases hunseen : unseenBy n c.past with
  | nil => exact absurd hunseen hsome
  | cons s rest =>
    rw [hunseen] at hprefix
    obtain ⟨older, holder⟩ := hprefix
    rw [← holder]
    rfl

/-- What is told to `n` while the subscription is behind is the latest that it has not seen. -/
theorem Sound.unseenBy_ne_nil_iff (sound : Sound initial c) {subscription : Subscription}
    (held : c.subscriptions[n]? = some subscription) :
    unseenBy n c.past ≠ [] ↔ subscription.seen < c.supplier.accepted := by
  have hseen := sound.seen held
  rw [← List.length_pos_iff]
  omega

/-! What each event leaves to see, and adds to what has been told. -/

theorem unseenBy_accepted (n : Nat) (s : Snapshot) (past : List Event) :
    unseenBy n (.accepted s :: past) = s :: unseenBy n past :=
  unseenBy_cons n _ past

theorem unseenBy_subscribed (n m : Nat) (s : Snapshot) (past : List Event) :
    unseenBy n (.subscribed m s :: past) = if m = n then [] else unseenBy n past := by
  rw [unseenBy_cons]
  simp [Event.catchesUp, Event.accepted?]

theorem unseenBy_changed (n m : Nat) (s : Snapshot) (past : List Event) :
    unseenBy n (.told m (.changed s) :: past) = if m = n then [] else unseenBy n past := by
  rw [unseenBy_cons]
  simp [Event.catchesUp, Event.accepted?]

theorem versionsTold_changed (n m : Nat) (s : Snapshot) (past : List Event) :
    versionsTold n (.told m (.changed s) :: past) =
      if m = n then s.version :: versionsTold n past else versionsTold n past := by
  unfold versionsTold
  rw [List.filterMap_cons]
  by_cases h : m = n <;> simp [Event.tellsVersion?, h]

namespace Sound

variable {s : Snapshot} {subscription : Subscription}

theorem accept (sound : Sound initial c) (newer : c.supplier.current.version < s.version) :
    Sound initial { c with
      supplier := { c.supplier with current := s, accepted := c.supplier.accepted + 1 }
      past := .accepted s :: c.past } where
  current := rfl
  closed := by simpa using sound.closed
  seen {n subscription} held := by
    have hseen := sound.seen held
    rw [unseenBy_accepted, List.length_cons]
    show _ = c.supplier.accepted + 1
    omega
  subscribed := by simpa using sound.subscribed
  distinct := sound.distinct
  increasing := sound.increasing
  told_le n v hv := by
    have hle := sound.told_le n v hv
    show v ≤ s.version
    omega
  told_lt n v hv t ht := by
    rw [unseenBy_accepted] at ht
    rcases List.mem_cons.1 ht with rfl | ht
    · have hle := sound.told_le n v hv
      omega
    · exact sound.told_lt n v hv t ht

theorem close (sound : Sound initial c) : Sound initial c.close where
  current := sound.current
  closed := by simp [Circulation.close, Supplier.close]
  seen := sound.seen
  subscribed := by simpa [Circulation.close] using sound.subscribed
  distinct := sound.distinct
  increasing := sound.increasing
  told_le := sound.told_le
  told_lt := sound.told_lt

/-- The number of a new subscriber is one that nobody had. -/
theorem fresh (sound : Sound initial c) :
    c.subscriptions.length ∉ c.past.filterMap Event.subscribed? := by
  intro hmem
  obtain ⟨e, he, heq⟩ := List.mem_filterMap.1 hmem
  cases e with
  | subscribed m s =>
    cases heq
    exact Nat.lt_irrefl _ ((sound.subscribed _).2 ⟨s, he⟩)
  | _ => cases heq

/-- Whoever comes has seen all that was accepted before. -/
theorem seen_subscribe (sound : Sound initial c)
    (held : c.subscribe.subscriptions[n]? = some subscription) :
    subscription.seen + (unseenBy n c.subscribe.past).length = c.supplier.accepted := by
  have hunseen : unseenBy n c.subscribe.past =
      if c.subscriptions.length = n then [] else unseenBy n c.past := unseenBy_subscribed ..
  rw [hunseen]
  by_cases hlt : n < c.subscriptions.length
  · have hold : c.subscriptions[n]? = some subscription := by
      rw [← held]
      exact (List.getElem?_append_left hlt).symm
    rw [if_neg (by omega)]
    exact sound.seen hold
  · have hnew : [c.supplier.subscribe][n - c.subscriptions.length]? = some subscription := by
      rw [← held]
      exact (List.getElem?_append_right (by omega)).symm
    obtain ⟨hplace, rfl⟩ : n - c.subscriptions.length = 0 ∧
        c.supplier.subscribe = subscription := by
      simpa [List.getElem?_singleton] using hnew
    rw [if_pos (by omega), c.supplier.subscribe_eq]
    rfl

theorem subscribed_subscribe (sound : Sound initial c) (n : Nat) :
    n < c.subscribe.subscriptions.length ↔ ∃ s, .subscribed n s ∈ c.subscribe.past := by
  have hlength : c.subscribe.subscriptions.length = c.subscriptions.length + 1 := by
    simp [Circulation.subscribe]
  rw [hlength]
  constructor
  · intro hlt
    rcases Nat.lt_succ_iff_lt_or_eq.1 hlt with hlt | rfl
    · obtain ⟨s, hs⟩ := (sound.subscribed n).1 hlt
      exact ⟨s, List.mem_cons_of_mem _ hs⟩
    · exact ⟨_, List.mem_cons_self⟩
  · rintro ⟨s, hs⟩
    rcases List.mem_cons.1 hs with heq | hs
    · cases heq
      omega
    · have hlt := (sound.subscribed n).2 ⟨s, hs⟩
      omega

theorem subscribe (sound : Sound initial c) : Sound initial c.subscribe where
  current := sound.current
  closed := by simpa [Circulation.subscribe] using sound.closed
  seen := sound.seen_subscribe
  subscribed := sound.subscribed_subscribe
  distinct := List.nodup_cons.2 ⟨sound.fresh, sound.distinct⟩
  increasing := sound.increasing
  told_le := sound.told_le
  told_lt n v hv s hs := by
    have hunseen : s ∈ if c.subscriptions.length = n then [] else unseenBy n c.past :=
      unseenBy_subscribed .. ▸ hs
    split at hunseen
    · cases hunseen
    · exact sound.told_lt n v hv s hunseen

/-- Whoever is told of a change has seen all that was accepted before; the others have not. -/
theorem seen_change (sound : Sound initial c) (held : c.subscriptions[n]? = some subscription)
    {m : Nat} {other : Subscription}
    (hother : (c.subscriptions.set n (c.supplier.catchUp subscription))[m]? = some other) :
    other.seen + (unseenBy m (.told n (.changed c.supplier.current) :: c.past)).length =
      c.supplier.accepted := by
  rw [unseenBy_changed]
  by_cases heq : n = m
  · have hnew : some (c.supplier.catchUp subscription) = some other := by
      subst heq
      rw [← hother]
      exact (List.getElem?_set_self (List.getElem?_eq_some_iff.1 held).1).symm
    cases hnew
    rw [if_pos heq]
    rfl
  · have hold : c.subscriptions[m]? = some other := by
      rw [← hother]
      exact (List.getElem?_set_ne heq).symm
    rw [if_neg heq]
    exact sound.seen hold

theorem change (sound : Sound initial c) (held : c.subscriptions[n]? = some subscription)
    (behind : subscription.seen < c.supplier.accepted) :
    Sound initial { c with
      subscriptions := c.subscriptions.set n (c.supplier.catchUp subscription)
      past := .told n (.changed c.supplier.current) :: c.past } where
  current := sound.current
  closed := by simpa using sound.closed
  seen := sound.seen_change held
  subscribed := by simpa using sound.subscribed
  distinct := sound.distinct
  increasing m := by
    have hcurrent : c.supplier.current ∈ unseenBy n c.past :=
      List.mem_of_head? (sound.head?_unseenBy ((sound.unseenBy_ne_nil_iff held).2 behind))
    rw [versionsTold_changed]
    split
    next heq =>
      subst heq
      exact List.pairwise_cons.2
        ⟨fun v hv => sound.told_lt n v hv _ hcurrent, sound.increasing n⟩
    · exact sound.increasing m
  told_le m v hv := by
    rw [versionsTold_changed] at hv
    split at hv
    · rcases List.mem_cons.1 hv with rfl | hv
      · exact Int.le_refl _
      · exact sound.told_le m v hv
    · exact sound.told_le m v hv
  told_lt m v hv s hs := by
    rw [unseenBy_changed] at hs
    rw [versionsTold_changed] at hv
    split at hs
    · cases hs
    next hne =>
      rw [if_neg hne] at hv
      exact sound.told_lt m v hv s hs

theorem still (sound : Sound initial c) (n : Nat) : Sound initial
    { c with past := .told n (if c.supplier.closed then .closed else .nothing) :: c.past } := by
  have hunseen (m : Nat) : unseenBy m
      (.told n (if c.supplier.closed then .closed else .nothing) :: c.past) =
        unseenBy m c.past := by
    rw [unseenBy_cons]
    cases c.supplier.closed <;> rfl
  have htold (m : Nat) : versionsTold m
      (.told n (if c.supplier.closed then .closed else .nothing) :: c.past) =
        versionsTold m c.past := by
    cases c.supplier.closed <;> rfl
  exact {
    current := sound.current
    closed := by simpa using sound.closed
    seen := fun {m} _ hother => by
      rw [hunseen m]
      exact sound.seen hother
    subscribed := by simpa using sound.subscribed
    distinct := sound.distinct
    increasing := fun m => by
      rw [htold m]
      exact sound.increasing m
    told_le := fun m => by
      rw [htold m]
      exact sound.told_le m
    told_lt := fun m => by
      rw [htold m, hunseen m]
      exact sound.told_lt m }

end Sound

theorem Step.sound (step : c.Step action next) (sound : Sound initial c) : Sound initial next := by
  cases step with
  | accept opened newer => exact sound.accept newer
  | refuse => exact sound
  | close => exact sound.close
  | subscribe => exact sound.subscribe
  | change held behind => exact sound.change held behind
  | still held abreast => exact sound.still _

/-- An action adds at most one event to the past. -/
theorem Step.adds (step : c.Step action next) :
    next.past = c.past ∨ ∃ e, next.past = e :: c.past := by
  cases step with
  | refuse => exact .inl rfl
  | accept | close | subscribe | change | still => exact .inr ⟨_, rfl⟩

theorem acts_sound (sound : Sound initial c) (hacts : c.acts actions = some last) :
    Sound initial last := by
  induction actions generalizing c with
  | nil =>
    obtain rfl := Option.some.inj hacts
    exact sound
  | cons action rest ih =>
    obtain ⟨next, hact, hrest⟩ := Option.bind_eq_some_iff.1 hacts
    exact ih ((act_step hact).sound sound) hrest

/-- Every event of the past was added by some action, to what the past was then. -/
theorem acts_event (sound : Sound initial c) (hacts : c.acts actions = some last)
    {later earlier : List Event} (hpast : last.past = later ++ e :: earlier) :
    (∃ before, c.past = before ++ e :: earlier) ∨
      ∃ mid action next, Sound initial mid ∧ mid.Step action next ∧ mid.past = earlier ∧
        next.past = e :: earlier := by
  induction actions generalizing c with
  | nil =>
    obtain rfl := Option.some.inj hacts
    exact .inl ⟨later, hpast⟩
  | cons action rest ih =>
    obtain ⟨next, hact, hrest⟩ := Option.bind_eq_some_iff.1 hacts
    have step := act_step hact
    rcases ih (step.sound sound) hrest with ⟨before, hbefore⟩ | hlater
    · rcases step.adds with hsame | ⟨f, hnew⟩
      · exact .inl ⟨before, hsame ▸ hbefore⟩
      · cases before with
        | nil =>
          obtain ⟨rfl, hearlier⟩ := List.cons.inj (hnew.symm.trans hbefore)
          exact .inr ⟨c, action, next, sound, step, hearlier, hearlier ▸ hnew⟩
        | cons g before =>
          obtain ⟨-, hearlier⟩ := List.cons.inj (hnew.symm.trans hbefore)
          exact .inl ⟨before, hearlier⟩
    · exact .inr hlater

/-- What a subscriber has to be told, given what came before. -/
def newsFor (n : Nat) (earlier : List Event) : News :=
  match unseenBy n earlier with
  | s :: _ => .changed s
  | [] => if .closed ∈ earlier then .closed else .nothing

theorem newsFor_eq_changed_iff (n : Nat) (earlier : List Event) (s : Snapshot) :
    newsFor n earlier = .changed s ↔ (unseenBy n earlier).head? = some s := by
  unfold newsFor
  cases unseenBy n earlier with
  | nil => by_cases hclosed : .closed ∈ earlier <;> simp [hclosed]
  | cons t rest => simp

theorem newsFor_eq_closed_iff (n : Nat) (earlier : List Event) :
    newsFor n earlier = .closed ↔ .closed ∈ earlier ∧ unseenBy n earlier = [] := by
  unfold newsFor
  cases unseenBy n earlier with
  | nil => by_cases hclosed : .closed ∈ earlier <;> simp [hclosed]
  | cons t rest => simp

/-- What an event says, given what came before it. -/
def Warranted (initial : Snapshot) (earlier : List Event) : Event → Prop
  | .accepted _ => .closed ∉ earlier
  | .closed => True
  | .subscribed _ s => s = currentAfter initial earlier
  | .told n news => (∃ s, .subscribed n s ∈ earlier) ∧ news = newsFor n earlier

theorem Step.warranted (sound : Sound initial c) (step : c.Step action next)
    (hpast : next.past = e :: c.past) : Warranted initial c.past e := by
  cases step with
  | accept opened newer =>
    obtain ⟨rfl, -⟩ := List.cons.inj hpast
    intro hclosed
    rw [sound.closed.2 hclosed] at opened
    cases opened
  | refuse => exact absurd hpast.symm (List.cons_ne_self e c.past)
  | close =>
    obtain ⟨rfl, -⟩ := List.cons.inj hpast
    trivial
  | subscribe =>
    obtain ⟨rfl, -⟩ := List.cons.inj hpast
    exact sound.current
  | @change n subscription held behind =>
    obtain ⟨rfl, -⟩ := List.cons.inj hpast
    have hplace := (List.getElem?_eq_some_iff.1 held).1
    have hhead := sound.head?_unseenBy ((sound.unseenBy_ne_nil_iff held).2 behind)
    exact ⟨(sound.subscribed n).1 hplace, ((newsFor_eq_changed_iff ..).2 hhead).symm⟩
  | @still n subscription held abreast =>
    obtain ⟨rfl, -⟩ := List.cons.inj hpast
    have hplace := (List.getElem?_eq_some_iff.1 held).1
    have hunseen : unseenBy n c.past = [] := by
      have hseen := sound.seen held
      exact List.length_eq_zero_iff.1 (by omega)
    refine ⟨(sound.subscribed n).1 hplace, ?_⟩
    rw [newsFor, hunseen]
    by_cases hclosed : c.supplier.closed = true
    · rw [if_pos hclosed, if_pos (sound.closed.1 hclosed)]
    · rw [if_neg hclosed, if_neg fun h => hclosed (sound.closed.2 h)]

section Run

variable {localNode : Node} {later earlier : List Event} {news : News}

theorem warranted_of_run (hacts : (start localNode initial).acts actions = some last)
    (hpast : last.past = later ++ e :: earlier) : Warranted initial earlier e := by
  rcases acts_event (start_sound localNode initial) hacts hpast with ⟨before, hstart⟩ | hadded
  · exact absurd hstart.symm (List.append_ne_nil_of_right_ne_nil before (List.cons_ne_nil e _))
  · obtain ⟨mid, action, next, sound, step, hmid, hnext⟩ := hadded
    subst hmid
    exact step.warranted sound hnext

/-- Nothing is accepted once the supplier has closed. -/
theorem not_accepted_of_run (hacts : (start localNode initial).acts actions = some last)
    (hpast : last.past = later ++ earlier) (hclosed : .closed ∈ earlier) (s : Snapshot) :
    .accepted s ∉ later := by
  intro hs
  obtain ⟨recent, between, hsplit⟩ := List.append_of_mem hs
  rw [hsplit, List.append_assoc, List.cons_append] at hpast
  exact warranted_of_run hacts hpast (List.mem_append_right between hclosed)

/-- A subscriber that has nothing left to see when the supplier has closed is told of the closing
and of nothing else. -/
theorem told_closed_of_run (hacts : (start localNode initial).acts actions = some last)
    (hpast : last.past = later ++ earlier) (hclosed : .closed ∈ earlier)
    (hnone : unseenBy n earlier = []) (hnews : .told n news ∈ later) : news = .closed := by
  have haccepted := not_accepted_of_run hacts hpast hclosed
  obtain ⟨recent, between, hsplit⟩ := List.append_of_mem hnews
  rw [hsplit, List.append_assoc, List.cons_append] at hpast
  obtain ⟨-, htold⟩ := warranted_of_run hacts hpast
  have hbetween : ∀ s, .accepted s ∉ between := by
    intro s hs
    apply haccepted s
    rw [hsplit]
    exact List.mem_append_right recent (List.mem_cons_of_mem _ hs)
  rw [htold, newsFor_eq_closed_iff]
  exact ⟨List.mem_append_right between hclosed, unseenBy_append hbetween hnone⟩

end Run

/-- What subscribers are told in the course of a run that ends here. -/
structure Informed (initial : Snapshot) (c : Circulation) : Prop where
  /-- Subscribers are told apart, and none is refused an answer. -/
  distinct : (c.past.filterMap Event.subscribed?).Nodup
  answered : ∀ {n s}, .subscribed n s ∈ c.past →
    ∃ next news, c.act (.poll n) = some next ∧ next.past = .told n news :: c.past
  /-- The versions that one subscriber is told of go up, latest first. -/
  increasing : ∀ n, (versionsTold n c.past).Pairwise (· > ·)
  /-- What it is told of was accepted after it had subscribed. -/
  accepted_since : ∀ {later earlier n s}, c.past = later ++ .told n (.changed s) :: earlier →
    ∃ between before current,
      earlier = between ++ .subscribed n current :: before ∧ .accepted s ∈ between
  changed_iff : ∀ {later earlier n news}, c.past = later ++ .told n news :: earlier →
    ((∃ s, news = .changed s) ↔ unseenBy n earlier ≠ [])
  /-- Of what it has not seen it is told the latest. -/
  latest : ∀ {later earlier n s}, c.past = later ++ .told n (.changed s) :: earlier →
    (accepted earlier).head? = some s
  closed_iff : ∀ {later earlier n news}, c.past = later ++ .told n news :: earlier →
    (news = .closed ↔ .closed ∈ earlier ∧ unseenBy n earlier = [])
  closed_for_good : ∀ {later earlier n news}, c.past = later ++ .told n .closed :: earlier →
    .told n news ∈ later → news = .closed
  /-- Whoever subscribes sees the current snapshot. -/
  current : ∀ {later earlier n s}, c.past = later ++ .subscribed n s :: earlier →
    s = currentAfter initial earlier
  /-- Whoever comes after the closing is told of the closing only. -/
  late : ∀ {later earlier n s news}, c.past = later ++ .subscribed n s :: earlier →
    .closed ∈ earlier → .told n news ∈ later → news = .closed

/-- Subscribers are told the latest of what they have not seen, and of the closing when nothing is
left, whatever they and the publishers do in between. -/
theorem subscribers_informed {localNode : Node}
    (hacts : (start localNode initial).acts actions = some last) : Informed initial last := by
  have sound := acts_sound (start_sound localNode initial) hacts
  constructor
  case distinct => exact sound.distinct
  case answered =>
    intro n s hsubscribed
    have hplace := (sound.subscribed n).2 ⟨s, hsubscribed⟩
    have held := List.getElem?_eq_getElem hplace
    exact ⟨_, _, congrArg (Option.map _) held, rfl⟩
  case increasing => exact sound.increasing
  case accepted_since =>
    intro later earlier n s hpast
    obtain ⟨⟨current, hsubscribed⟩, htold⟩ := warranted_of_run hacts hpast
    obtain ⟨between, before, hsplit⟩ := List.append_of_mem hsubscribed
    refine ⟨between, before, current, hsplit, ?_⟩
    have hhead := (newsFor_eq_changed_iff n earlier s).1 htold.symm
    have hunseen := List.mem_of_head? hhead
    rw [hsplit] at hunseen
    exact mem_accepted_of_unseen (by simp [Event.catchesUp]) hunseen
  case changed_iff =>
    intro later earlier n news hpast
    obtain ⟨-, htold⟩ := warranted_of_run hacts hpast
    simp only [htold, newsFor_eq_changed_iff]
    rw [← Option.isSome_iff_exists, List.isSome_head?]
  case latest =>
    intro later earlier n s hpast
    obtain ⟨-, htold⟩ := warranted_of_run hacts hpast
    have hhead := (newsFor_eq_changed_iff n earlier s).1 htold.symm
    obtain ⟨older, holder⟩ := unseenBy_prefix n earlier
    rw [← holder, List.head?_append, hhead]
    rfl
  case closed_iff =>
    intro later earlier n news hpast
    obtain ⟨-, htold⟩ := warranted_of_run hacts hpast
    rw [htold]
    exact newsFor_eq_closed_iff n earlier
  case closed_for_good =>
    intro later earlier n news hpast hnews
    obtain ⟨-, htold⟩ := warranted_of_run hacts hpast
    obtain ⟨hclosed, hnone⟩ := (newsFor_eq_closed_iff n earlier).1 htold.symm
    have hstill : unseenBy n (.told n .closed :: earlier) = [] := by
      rw [unseenBy_cons]
      exact hnone
    exact told_closed_of_run hacts hpast (List.mem_cons_of_mem _ hclosed) hstill hnews
  case current =>
    intro later earlier n s hpast
    exact warranted_of_run hacts hpast
  case late =>
    intro later earlier n s news hpast hclosed hnews
    have hnone : unseenBy n (.subscribed n s :: earlier) = [] := by
      rw [unseenBy_cons, if_pos (by simp [Event.catchesUp])]
    exact told_closed_of_run hacts hpast (List.mem_cons_of_mem _ hclosed) hnone hnews

section Trial

open Trial

/-- One subscriber falls behind, sees the latest of two snapshots after the closing and then the
closing; another one comes after the closing. -/
def belatedActions : List Action :=
  [.publish (version 1), .subscribe, .poll 0, .publish (version 2), .publish (version 2),
    .publish (version 4), .close, .publish (version 5), .subscribe, .poll 1, .poll 0, .poll 0]

def belated : Circulation :=
  ((start home (version 0)).acts belatedActions).get (by decide)

theorem subscribers_informed_belated :
    (start home (version 0)).acts belatedActions = some belated ∧
      Informed (version 0) belated ∧
      belated.past = [.told 0 .closed, .told 0 (.changed (version 4)), .told 1 .closed,
        .subscribed 1 (version 4), .closed, .accepted (version 4), .accepted (version 2),
        .told 0 .nothing, .subscribed 0 (version 1), .accepted (version 1)] := by
  have hacts : (start home (version 0)).acts belatedActions = some belated :=
    (Option.some_get _).symm
  exact ⟨hacts, subscribers_informed hacts, by decide⟩

end Trial

end ClusterWatch.Circulation
