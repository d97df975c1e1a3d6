import ClusterWatch.Listener.Newsroom
import ClusterWatch.Proofs.Chronicle

/-!
News is handed over once each and in order, and whoever is registered at that moment is told of it
once for each registration. What is left to be told can be read off the past, as can who is
registered and whether news is still taken; so every event is warranted by those before it, whatever
comes and goes in between and whoever panics.
-/
namespace ClusterWatch

namespace NewsEvent

def accepted? : NewsEvent → Option Notice
  | .submitted notice true => some notice
  | _ => none

def handed? : NewsEvent → Option Notice
  | .handed notice => some notice
  | _ => none

def called? : NewsEvent → Option (Listener × Notice)
  | .called listener notice _ => some (listener, notice)
  | _ => none

/-- What is done that the event comes of. -/
def action? : NewsEvent → Option Newsroom.Action
  | .added listener => some (.add listener)
  | .removed listener _ => some (.remove listener)
  | .submitted notice _ => some (.submit notice)
  | .shut => some .shut
  | .handed _ => some .hand
  | .called _ _ panicked => some (.call panicked)

end NewsEvent

theorem Bulletin.next?_eq_some {b rest : Bulletin} {notice : Notice}
    (h : b.next? = some (notice, rest)) :
    ∃ waiting, b.waiting = notice :: waiting ∧ rest = { b with waiting } := by
  unfold next? at h
  split at h
  · cases h
  next waiting hwaiting =>
    cases h
    exact ⟨waiting, hwaiting, rfl⟩

namespace Newsroom

open NewsEvent

variable {e : NewsEvent} {past : List NewsEvent}

/-- Who is registered, earliest first. -/
def registered : List NewsEvent → List Listener
  | [] => []
  | .added listener :: earlier => registered earlier ++ [listener]
  | .removed listener true :: earlier => (registered earlier).erase listener
  | _ :: earlier => registered earlier

/-- Who is still to be told of what was handed over last. -/
def due : List NewsEvent → List (Listener × Notice)
  | [] => []
  | .handed notice :: earlier => (registered earlier).map fun listener => (listener, notice)
  | .called .. :: earlier => (due earlier).tail
  | _ :: earlier => due earlier

/-- What an event says, given what came before it. -/
def Warranted (earlier : List NewsEvent) : NewsEvent → Prop
  | .removed listener found => found = true ↔ listener ∈ registered earlier
  | .submitted _ accepted => accepted = true ↔ .shut ∉ earlier
  | .handed _ => due earlier = []
  | .called listener notice _ => (due earlier).head? = some (listener, notice)
  | _ => True

section Warranted

/-- Until the next notice is handed over, the listeners are told one after another. -/
theorem told_of_warranted (later earlier : List NewsEvent)
    (h : Throughout Warranted (later ++ earlier)) (hnone : ∀ notice, .handed notice ∉ later) :
    inOrder called? later ++ due (later ++ earlier) = due earlier := by
  induction later with
  | nil => rfl
  | cons e later ih =>
    have hlater := ih h.tail fun notice hmem =>
      hnone notice (List.mem_cons_of_mem e hmem)
    cases e with
    | handed notice => exact absurd List.mem_cons_self (hnone notice)
    | called listener notice panicked =>
      have hhead : (due (later ++ earlier)).head? = some (listener, notice) := h.head
      obtain ⟨rest, hdue⟩ := List.head?_eq_some_iff.1 hhead
      have htail : due (.called listener notice panicked :: later ++ earlier) = rest :=
        congrArg List.tail hdue
      rw [inOrder_cons, htail, ← hlater, hdue, List.append_assoc]
      rfl
    | added | removed | submitted | shut =>
      rw [inOrder_cons_none rfl]
      exact hlater

/-- Registrations and removals add up. -/
theorem count_registered (h : Throughout Warranted past) (listener : Listener) :
    (registered past).count listener + past.count (.removed listener true) =
      past.count (.added listener) := by
  induction past with
  | nil => rfl
  | cons e past ih =>
    have hpast := ih h.tail
    cases e with
    | added other =>
      show (registered past ++ [other]).count listener + _ = _
      simp only [List.count_append, List.count_cons, List.count_nil, beq_iff_eq,
        NewsEvent.added.injEq, reduceCtorEq, ↓reduceIte]
      omega
    | removed other found =>
      cases found with
      | true =>
        have hmem : other ∈ registered past := (h.head).1 rfl
        have hpos := List.count_pos_iff.2 hmem
        show ((registered past).erase other).count listener + _ = _
        by_cases heq : other = listener
        · subst heq
          simp only [List.count_erase_self, List.count_cons, beq_iff_eq, reduceCtorEq, ↓reduceIte]
          omega
        · simpa [List.count_erase_of_ne (Ne.symm heq), List.count_cons, heq] using hpast
      | false =>
        show (registered past).count listener + _ = _
        simpa [List.count_cons] using hpast
    | submitted | shut | handed | called =>
      show (registered past).count listener + _ = _
      simpa [List.count_cons] using hpast

end Warranted

section Run

variable {n next last : Newsroom} {action : Action} {actions : List Action}

/-- What the past has to say of the present. -/
structure Sound (n : Newsroom) : Prop where
  listed : registered n.past = n.registry.listeners
  closed : n.bulletin.shut = true ↔ .shut ∈ n.past
  queue : inOrder accepted? n.past =
    inOrder handed? n.past ++ n.held.toList ++ n.bulletin.waiting
  due : due n.past = n.pending
  /-- What has been taken waits for nobody. -/
  free : n.held ≠ none → n.pending = []
  warranted : Throughout Warranted n.past

theorem sound_start : start.Sound where
  listed := rfl
  closed := iff_of_false Bool.false_ne_true List.not_mem_nil
  queue := rfl
  due := rfl
  free := nofun
  warranted := .nil

namespace Sound

/-- An event that is about neither end of the queue. -/
theorem queue_cons (sound : n.Sound) (haccepted : accepted? e = none) (hhanded : handed? e = none) :
    inOrder accepted? (e :: n.past) =
      inOrder handed? (e :: n.past) ++ n.held.toList ++ n.bulletin.waiting := by
  rw [inOrder_cons_none haccepted, inOrder_cons_none hhanded]
  exact sound.queue

theorem closed_cons (sound : n.Sound) (h : e ≠ .shut) :
    n.bulletin.shut = true ↔ .shut ∈ e :: n.past := by
  rw [List.mem_cons, or_iff_right h.symm]
  exact sound.closed

/-- News is refused only once the bulletin has been shut. -/
theorem shut_of_refused (sound : n.Sound) {notice : Notice}
    (h : .submitted notice false ∈ n.past) : n.bulletin.shut = true := by
  obtain ⟨later, earlier, heq⟩ := List.append_of_mem h
  have hwarranted : false = true ↔ .shut ∉ earlier := sound.warranted later _ earlier heq
  have hshut : .shut ∈ earlier := by simpa using hwarranted
  refine sound.closed.2 (heq ▸ ?_)
  exact List.mem_append_right _ (List.mem_cons_of_mem _ hshut)

theorem add (sound : n.Sound) (listener : Listener) : (n.add listener).Sound where
  listed := congrArg (· ++ [listener]) sound.listed
  closed := sound.closed_cons nofun
  queue := sound.queue_cons rfl rfl
  due := sound.due
  free := sound.free
  warranted := sound.warranted.cons trivial

theorem remove (sound : n.Sound) (listener : Listener) : (n.remove listener).Sound := by
  unfold Newsroom.remove
  split
  next registry hremove =>
    obtain ⟨hmem, heq⟩ := Option.ite_none_right_eq_some.1 hremove
    obtain rfl := Option.some.inj heq
    exact {
      listed := congrArg (List.erase · listener) sound.listed
      closed := sound.closed_cons nofun
      queue := sound.queue_cons rfl rfl
      due := sound.due
      free := sound.free
      warranted := sound.warranted.cons (iff_of_true rfl (sound.listed ▸ hmem)) }
  next hremove =>
    have hmem : listener ∉ n.registry.listeners := fun hmem => by
      simp [Registry.remove?, hmem] at hremove
    exact {
      listed := sound.listed
      closed := sound.closed_cons nofun
      queue := sound.queue_cons rfl rfl
      due := sound.due
      free := sound.free
      warranted := sound.warranted.cons
        (iff_of_false Bool.false_ne_true (sound.listed ▸ hmem)) }

theorem submit (sound : n.Sound) (notice : Notice) : (n.submit notice).Sound := by
  unfold Newsroom.submit
  split
  next bulletin hsubmit =>
    obtain ⟨hopen, heq⟩ := Option.ite_none_left_eq_some.1 hsubmit
    obtain rfl := Option.some.inj heq
    have hnever : .shut ∉ n.past := fun h => hopen (sound.closed.2 h)
    refine {
      listed := sound.listed
      closed := sound.closed_cons nofun
      queue := ?_
      due := sound.due
      free := sound.free
      warranted := sound.warranted.cons (iff_of_true rfl hnever) }
    show inOrder accepted? (_ :: n.past) =
      inOrder handed? (.submitted notice true :: n.past) ++ n.held.toList ++
        (n.bulletin.waiting ++ [notice])
    simp [inOrder_cons, accepted?, handed?, sound.queue]
  next hsubmit =>
    have hclosed : .shut ∈ n.past := sound.closed.1 (by simpa [Bulletin.submit?] using hsubmit)
    exact {
      listed := sound.listed
      closed := sound.closed_cons nofun
      queue := sound.queue_cons rfl rfl
      due := sound.due
      free := sound.free
      warranted := sound.warranted.cons (iff_of_false Bool.false_ne_true (not_not_intro hclosed)) }

theorem shut (sound : n.Sound) : n.shut.Sound where
  listed := sound.listed
  closed := iff_of_true rfl List.mem_cons_self
  queue := sound.queue_cons rfl rfl
  due := sound.due
  free := sound.free
  warranted := sound.warranted.cons trivial

theorem take (sound : n.Sound) (h : n.take? = some next) : next.Sound := by
  obtain ⟨⟨hheld, hpending⟩, htaken⟩ := Option.ite_none_right_eq_some.1 h
  obtain ⟨⟨notice, bulletin⟩, hnext, rfl⟩ := Option.map_eq_some_iff.1 htaken
  obtain ⟨rest, hwaiting, rfl⟩ := n.bulletin.next?_eq_some hnext
  refine { sound with
    queue := ?_
    free := fun _ => hpending }
  show inOrder accepted? n.past = inOrder handed? n.past ++ [notice] ++ rest
  rw [sound.queue, hheld, hwaiting]
  simp

theorem hand (sound : n.Sound) (h : n.hand? = some next) : next.Sound := by
  obtain ⟨notice, hheld, rfl⟩ := Option.map_eq_some_iff.1 h
  have hfree : n.pending = [] := sound.free (by simp [hheld])
  refine {
    listed := sound.listed
    closed := sound.closed_cons nofun
    queue := ?_
    due := congrArg (List.map fun listener => (listener, notice)) sound.listed
    free := nofun
    warranted := sound.warranted.cons (sound.due.trans hfree) }
  show inOrder accepted? (_ :: n.past) =
    inOrder handed? (.handed notice :: n.past) ++ [] ++ n.bulletin.waiting
  simp [inOrder_cons, accepted?, handed?, sound.queue, hheld]

theorem call (sound : n.Sound) {panicked : Bool} (h : n.call? panicked = some next) :
    next.Sound := by
  unfold call? at h
  split at h
  · cases h
  next listener notice rest hpending =>
    obtain rfl := Option.some.inj h
    have hdue : Newsroom.due n.past = (listener, notice) :: rest := sound.due.trans hpending
    exact {
      listed := sound.listed
      closed := sound.closed_cons nofun
      queue := sound.queue_cons rfl rfl
      due := congrArg List.tail hdue
      free := fun hheld => absurd (hpending.symm.trans (sound.free hheld)) (List.cons_ne_nil _ _)
      warranted := sound.warranted.cons (congrArg List.head? hdue) }

theorem act (sound : n.Sound) (hact : n.act action = some next) : next.Sound := by
  cases action with
  | add listener =>
    obtain rfl := Option.some.inj hact
    exact sound.add listener
  | remove listener =>
    obtain rfl := Option.some.inj hact
    exact sound.remove listener
  | submit notice =>
    obtain rfl := Option.some.inj hact
    exact sound.submit notice
  | shut =>
    obtain rfl := Option.some.inj hact
    exact sound.shut
  | take => exact sound.take hact
  | hand => exact sound.hand hact
  | call panicked => exact sound.call hact

theorem acts (sound : n.Sound) (hacts : n.acts actions = some last) : last.Sound := by
  induction actions generalizing n with
  | nil =>
    obtain rfl := Option.some.inj hacts
    exact sound
  | cons action rest ih =>
    obtain ⟨next, hact, hrest⟩ := Option.bind_eq_some_iff.1 hacts
    exact ih (sound.act hact) hrest

end Sound

section Done

/-- Whatever is done is one event, except that nothing is noted when news is taken off the
bulletin. -/
theorem act_done (hact : n.act action = some next) :
    inOrder action? next.past = inOrder action? n.past ++ [action].filter (· ≠ .take) := by
  cases action with
  | add listener =>
    obtain rfl := Option.some.inj hact
    exact inOrder_cons ..
  | remove listener =>
    obtain rfl := Option.some.inj hact
    unfold remove
    split <;> exact inOrder_cons ..
  | submit notice =>
    obtain rfl := Option.some.inj hact
    unfold submit
    split <;> exact inOrder_cons ..
  | shut =>
    obtain rfl := Option.some.inj hact
    exact inOrder_cons ..
  | take =>
    obtain ⟨-, htaken⟩ := Option.ite_none_right_eq_some.1 hact
    obtain ⟨_, -, rfl⟩ := Option.map_eq_some_iff.1 htaken
    exact (List.append_nil _).symm
  | hand =>
    obtain ⟨notice, -, rfl⟩ := Option.map_eq_some_iff.1 hact
    exact inOrder_cons ..
  | call panicked =>
    simp only [act, call?] at hact
    split at hact
    · cases hact
    · obtain rfl := Option.some.inj hact
      exact inOrder_cons ..

theorem acts_done (hacts : n.acts actions = some last) :
    inOrder action? last.past = inOrder action? n.past ++ actions.filter (· ≠ .take) := by
  induction actions generalizing n with
  | nil =>
    obtain rfl := Option.some.inj hacts
    exact (List.append_nil _).symm
  | cons action rest ih =>
    obtain ⟨next, hact, hrest⟩ := Option.bind_eq_some_iff.1 hacts
    rw [ih hrest, act_done hact, List.append_assoc, ← List.filter_append, List.singleton_append]

end Done

/-- How many steps it takes to hand over everything, as long as nobody comes or goes. -/
def load (n : Newsroom) : Nat :=
  n.pending.length + n.held.toList.length * (1 + n.registry.size) +
    n.bulletin.waiting.length * (2 + n.registry.size)

def Action.delivers : Action → Bool
  | .take => true
  | .hand => true
  | .call _ => true
  | _ => false

theorem load_take (h : n.take? = some next) : next.load + 1 = n.load := by
  obtain ⟨⟨hheld, hpending⟩, htaken⟩ := Option.ite_none_right_eq_some.1 h
  obtain ⟨⟨notice, bulletin⟩, hnext, rfl⟩ := Option.map_eq_some_iff.1 htaken
  obtain ⟨rest, hwaiting, rfl⟩ := n.bulletin.next?_eq_some hnext
  simp only [load, hheld, hpending, hwaiting, Option.toList_some, Option.toList_none,
    List.length_cons, List.length_nil, Nat.add_mul]
  omega

theorem load_hand (sound : n.Sound) (h : n.hand? = some next) : next.load + 1 = n.load := by
  obtain ⟨notice, hheld, rfl⟩ := Option.map_eq_some_iff.1 h
  have hfree : n.pending = [] := sound.free (by simp [hheld])
  simp only [load, record, hheld, hfree, Registry.told, Registry.size, Option.toList_some,
    Option.toList_none, List.length_map, List.length_cons, List.length_nil]
  omega

theorem load_call {panicked : Bool} (h : n.call? panicked = some next) :
    next.load + 1 = n.load := by
  unfold call? at h
  split at h
  · cases h
  next listener notice rest hpending =>
    obtain rfl := Option.some.inj h
    simp only [load, record, hpending, List.length_cons]
    omega

/-- Each step of handing over takes one off the load. -/
theorem load_act (sound : n.Sound) (delivers : action.delivers = true)
    (hact : n.act action = some next) : next.load + 1 = n.load := by
  cases action with
  | take => exact load_take hact
  | hand => exact load_hand sound hact
  | call panicked => exact load_call hact
  | add | remove | submit | shut => cases delivers

theorem load_acts (sound : n.Sound) (delivers : ∀ action ∈ actions, action.delivers = true)
    (hacts : n.acts actions = some last) : last.load + actions.length = n.load := by
  induction actions generalizing n with
  | nil =>
    obtain rfl := Option.some.inj hacts
    rfl
  | cons action rest ih =>
    obtain ⟨next, hact, hrest⟩ := Option.bind_eq_some_iff.1 hacts
    obtain ⟨haction, hothers⟩ := List.forall_mem_cons.1 delivers
    have hstep := load_act sound haction hact
    have hlater := ih (sound.act hact) hothers hrest
    rw [List.length_cons]
    omega

theorem load_eq_zero_iff :
    n.load = 0 ↔ n.pending = [] ∧ n.held = none ∧ n.bulletin.waiting = [] := by
  cases hheld : n.held <;> simp [load, hheld, Nat.mul_eq_zero]

/-- Something can be done about whatever is left. -/
theorem exists_step (h : n.load ≠ 0) (panicked : Bool) :
    ∃ action ∈ [Action.take, .hand, .call panicked], (n.act action).isSome = true := by
  cases hpending : n.pending with
  | cons due rest => exact ⟨.call panicked, by simp, by simp [act, call?, hpending]⟩
  | nil =>
    cases hheld : n.held with
    | some notice => exact ⟨.hand, by simp, by simp [act, hand?, hheld]⟩
    | none =>
      cases hwaiting : n.bulletin.waiting with
      | nil => exact absurd (load_eq_zero_iff.2 ⟨hpending, hheld, hwaiting⟩) h
      | cons notice rest =>
        exact ⟨.take, by simp, by simp [act, take?, hpending, hheld, Bulletin.next?, hwaiting]⟩

/-- What has been handed over, to whom, and what becomes of the rest, at the end of a run from the
start. -/
structure Delivering (actions : List Action) (n : Newsroom) : Prop where
  done : inOrder action? n.past = actions.filter (· ≠ .take)
  /-- What has been accepted has been handed over once, in its order, or is still to be. -/
  once : inOrder accepted? n.past =
    inOrder handed? n.past ++ n.held.toList ++ n.bulletin.waiting
  /-- Before another notice is handed over, everyone who was registered is told of this one, once
  for each registration and in the order of registration, whoever panics. -/
  complete : ∀ {later between earlier notice other},
    n.past = later ++ .handed other :: (between ++ .handed notice :: earlier) →
      (∀ m, .handed m ∉ between) →
        inOrder called? between = (registered earlier).map fun listener => (listener, notice)
  pending : ∀ {later earlier notice}, n.past = later ++ .handed notice :: earlier →
    (∀ m, .handed m ∉ later) → inOrder called? later ++ n.pending =
      (registered earlier).map fun listener => (listener, notice)
  unprompted : (∀ m, .handed m ∉ n.past) → inOrder called? n.past = []
  listed : registered n.past = n.registry.listeners
  counted : ∀ {later earlier}, n.past = later ++ earlier → ∀ listener,
    (registered earlier).count listener + earlier.count (.removed listener true) =
      earlier.count (.added listener)
  found : ∀ {later earlier listener found}, n.past = later ++ .removed listener found :: earlier →
    (found = true ↔ listener ∈ registered earlier)
  /-- It is the earliest registration that a removal takes out. -/
  earliest : ∀ {later earlier listener}, n.past = later ++ .removed listener true :: earlier →
    ∃ before after, listener ∉ before ∧ registered earlier = before ++ listener :: after ∧
      registered (.removed listener true :: earlier) = before ++ after
  accepted : ∀ {later earlier notice accepted},
    n.past = later ++ .submitted notice accepted :: earlier → (accepted = true ↔ .shut ∉ earlier)
  /-- As long as something is left there is a step to take, shut or not, and so many are enough. -/
  going : n.load ≠ 0 → ∀ panicked,
    ∃ action ∈ [Action.take, .hand, .call panicked], (n.act action).isSome = true
  bounded : ∀ {actions last}, (∀ action ∈ actions, action.delivers = true) →
    n.acts actions = some last → last.load + actions.length = n.load
  drained : n.load = 0 → inOrder handed? n.past = inOrder accepted? n.past ∧ n.pending = []

/-- News gets to those who are registered when its turn comes, whatever happens in between. -/
theorem news_delivered (hacts : start.acts actions = some last) : Delivering actions last := by
  have sound := sound_start.acts hacts
  have warranted := sound.warranted
  constructor
  case done => exact acts_done hacts
  case once => exact sound.queue
  case complete =>
    intro later between earlier notice other hpast hnone
    rw [hpast] at warranted
    have hdue : Newsroom.due (between ++ .handed notice :: earlier) = [] :=
      warranted later _ _ rfl
    have htold := told_of_warranted between _ warranted.of_append.tail hnone
    rwa [hdue, List.append_nil] at htold
  case pending =>
    intro later earlier notice hpast hnone
    rw [← sound.due, hpast]
    exact told_of_warranted later _ (hpast ▸ warranted) hnone
  case unprompted =>
    intro hnone
    have htold := told_of_warranted last.past [] ((List.append_nil _).symm ▸ warranted) hnone
    exact (List.append_eq_nil_iff.1 htold).1
  case listed => exact sound.listed
  case counted =>
    intro later earlier hpast
    exact count_registered (Throughout.of_append (hpast ▸ warranted))
  case found =>
    intro later earlier listener found hpast
    exact warranted later _ earlier hpast
  case earliest =>
    intro later earlier listener hpast
    have hmem : listener ∈ registered earlier := (warranted later _ earlier hpast).1 rfl
    obtain ⟨before, after, hbefore, hsplit, herase⟩ := List.exists_erase_eq hmem
    exact ⟨before, after, hbefore, hsplit, herase⟩
  case accepted =>
    intro later earlier notice accepted hpast
    exact warranted later _ earlier hpast
  case going => exact exists_step
  case bounded => exact load_acts sound
  case drained =>
    intro hload
    obtain ⟨hpending, hheld, hwaiting⟩ := load_eq_zero_iff.1 hload
    have hqueue := sound.queue
    rw [hheld, hwaiting, List.append_nil, Option.toList_none, List.append_nil] at hqueue
    exact ⟨hqueue.symm, hpending⟩

section Trial

def faulty : Listener := ⟨"faulty", true⟩

def steady : Listener := ⟨"steady", false⟩

def pinged (version : Int) : Notice := .pingReceived ⟨⟨"home"⟩, none, ⟨"peer"⟩, version⟩

/-- Somebody is registered twice and taken out once before the first ping is told of, and again
before the second is; the third comes too late. -/
def busyActions : List Action :=
  [.add steady, .add faulty, .add steady, .submit (pinged 1), .take, .remove steady, .hand,
    .add steady, .submit (pinged 2), .call true, .shut, .remove steady, .submit (pinged 3),
    .call false, .take, .hand, .call true, .call false]

def busy : Newsroom := (start.acts busyActions).get (by decide +kernel)

theorem news_delivered_busy :
    start.acts busyActions = some busy ∧ Delivering busyActions busy ∧ busy.load = 0 ∧
      inOrder called? busy.past = [(faulty, pinged 1), (steady, pinged 1), (faulty, pinged 2),
        (steady, pinged 2)] := by
  have hacts : start.acts busyActions = some busy := (Option.some_get _).symm
  exact ⟨hacts, news_delivered hacts, by decide +kernel, by decide +kernel⟩

end Trial

end Run

end Newsroom
end ClusterWatch
