import ClusterWatch.Cluster.Issuance
import ClusterWatch.Proofs.Chronicle
import ClusterWatch.Proofs.Trial

/-!
Publications that take turns. What becomes of a call is settled in one moment, and then just as if
it had been alone: the calls have been served one after another, in the order in which they were
settled. The rest is read off that order. A publication succeeds if the supplier is open and the
version on offer is beyond the current one; it is the current snapshot from then on, and nothing
else ever moves it.
-/
namespace ClusterWatch

namespace Supplier

/-- What a request comes to if nobody interferes. -/
def serve (supplier : Supplier) : Issuance.Request → Issuance.Answer × Supplier
  | .publish s =>
      match supplier.publish s with
      | .ok next => (.ok (), next)
      | .error refusal => (.error refusal, supplier)
  | .close => (.ok (), supplier.close)

variable {supplier : Supplier} {s : Snapshot}

theorem serve_publish_of_closed (closed : supplier.closed = true) (s : Snapshot) :
    supplier.serve (.publish s) = (.error .closed, supplier) := by
  simp [serve, publish, closed]

theorem serve_publish_of_le (opened : supplier.closed = false)
    (stale : s.version ≤ supplier.current.version) :
    supplier.serve (.publish s) =
      (.error (.stale supplier.current.version s.version), supplier) := by
  simp [serve, publish, opened, stale]

theorem serve_publish_of_lt (opened : supplier.closed = false)
    (newer : supplier.current.version < s.version) :
    supplier.serve (.publish s) =
      (.ok (), { supplier with current := s, accepted := supplier.accepted + 1 }) := by
  simp [serve, publish, opened, Int.not_le.2 newer]

/-- All that may come of a publication. -/
theorem serve_publish_cases (supplier : Supplier) (s : Snapshot) :
    (supplier.closed = true ∧ supplier.serve (.publish s) = (.error .closed, supplier)) ∨
      (supplier.closed = false ∧ s.version ≤ supplier.current.version ∧
        supplier.serve (.publish s) =
          (.error (.stale supplier.current.version s.version), supplier)) ∨
      supplier.closed = false ∧ supplier.current.version < s.version ∧
        supplier.serve (.publish s) =
          (.ok (), { supplier with current := s, accepted := supplier.accepted + 1 }) := by
  cases closed : supplier.closed with
  | true => exact .inl ⟨rfl, serve_publish_of_closed closed s⟩
  | false =>
    by_cases stale : s.version ≤ supplier.current.version
    · exact .inr (.inl ⟨rfl, stale, serve_publish_of_le closed stale⟩)
    · have newer := Int.not_le.1 stale
      refine .inr (.inr ⟨rfl, newer, ?_⟩)
      rw [← closed]
      exact serve_publish_of_lt closed newer

theorem serve_publish_ok_iff :
    (supplier.serve (.publish s)).1 = .ok () ↔
      supplier.closed = false ∧ supplier.current.version < s.version := by
  obtain ⟨closed, h⟩ | ⟨opened, stale, h⟩ | ⟨opened, newer, h⟩ := supplier.serve_publish_cases s
  · simp [h, closed]
  · simp [h, Int.not_lt.2 stale]
  · simp [h, opened, newer]

theorem serve_publish_closed_iff :
    (supplier.serve (.publish s)).1 = .error .closed ↔ supplier.closed = true := by
  obtain ⟨closed, h⟩ | ⟨opened, stale, h⟩ | ⟨opened, newer, h⟩ := supplier.serve_publish_cases s
  · simp [h, closed]
  · simp [h, opened]
  · simp [h, opened]

theorem serve_publish_stale_iff {current offered : Int} :
    (supplier.serve (.publish s)).1 = .error (.stale current offered) ↔
      (supplier.closed = false ∧ s.version ≤ supplier.current.version) ∧
        current = supplier.current.version ∧ offered = s.version := by
  obtain ⟨closed, h⟩ | ⟨opened, stale, h⟩ | ⟨opened, newer, h⟩ := supplier.serve_publish_cases s
  · simp [h, closed]
  · simp [h, opened, stale, eq_comm]
  · simp [h, Int.not_le.2 newer]

/-- What is refused leaves everything as it is. -/
theorem serve_publish_refused {refusal : PublishError}
    (refused : (supplier.serve (.publish s)).1 = .error refusal) :
    (supplier.serve (.publish s)).2 = supplier := by
  obtain ⟨-, h⟩ | ⟨-, -, h⟩ | ⟨-, -, h⟩ := supplier.serve_publish_cases s
  · rw [h]
  · rw [h]
  · rw [h] at refused
    cases refused

theorem serve_publish_keeps_closed (supplier : Supplier) (s : Snapshot) :
    (supplier.serve (.publish s)).2.closed = supplier.closed := by
  obtain ⟨-, h⟩ | ⟨-, -, h⟩ | ⟨-, -, h⟩ := supplier.serve_publish_cases s <;> rw [h]

end Supplier

namespace Issuance

namespace Call

def request : Call → Request
  | .waiting request => request
  | .entered request => request
  | .looked s _ => .publish s
  | .settled request _ => request
  | .returned request _ => request

def isInside : Call → Bool
  | .entered _ => true
  | .looked _ _ => true
  | .settled _ _ => true
  | _ => false

def answer? : Call → Option Answer
  | .settled _ answer => some answer
  | .returned _ answer => some answer
  | _ => none

/-- How many steps it has still to take. -/
def left : Call → Nat
  | .waiting _ => 4
  | .entered _ => 3
  | .looked _ _ => 2
  | .settled _ _ => 1
  | .returned _ _ => 0

end Call

def Decision.published? : Decision → Option Snapshot
  | ⟨_, .publish s, .ok ()⟩ => some s
  | _ => none

/-- The snapshots that have been published with success, latest first. -/
def published (past : List Decision) : List Snapshot := past.filterMap Decision.published?

/-- The current snapshot, where the supplier began with `initial`. -/
def currentAfter (initial : Snapshot) (past : List Decision) : Snapshot :=
  (published past).headD initial

def Closed (past : List Decision) : Prop := ∃ d ∈ past, d.request = .close

/-- The supplier once the requests of a past have been served, one after another. -/
def after (first : Supplier) : List Decision → Supplier
  | [] => first
  | d :: earlier => ((after first earlier).serve d.request).2

/-- The answer is the one that is given where nobody interferes. -/
def Warranted (first : Supplier) (earlier : List Decision) (d : Decision) : Prop :=
  d.answer = ((after first earlier).serve d.request).1

section Served

variable {localNode : Node} {initial : Snapshot} {past : List Decision} {d : Decision}

theorem closed_cons : Closed (d :: past) ↔ d.request = .close ∨ Closed past := by
  simp [Closed]

theorem after_closed (past : List Decision) :
    (after (.start localNode initial) past).closed = true ↔ Closed past := by
  induction past with
  | nil => simp [after, Supplier.start, Closed]
  | cons d earlier ih =>
    rw [closed_cons, ← ih, after]
    cases d.request with
    | close => simp [Supplier.serve, Supplier.close]
    | publish s => simp [Supplier.serve_publish_keeps_closed]

theorem after_opened : (after (.start localNode initial) past).closed = false ↔ ¬Closed past := by
  rw [← Bool.not_eq_true, after_closed]

/-- The current snapshot after a decision is the one published, or the one there was. -/
theorem serve_current {supplier : Supplier} (warranted : d.answer = (supplier.serve d.request).1) :
    (supplier.serve d.request).2.current = d.published?.getD supplier.current ∧
      ∀ s, d.published? = some s → supplier.current.version < s.version := by
  obtain ⟨n, request, answer⟩ := d
  cases request with
  | close => exact ⟨rfl, nofun⟩
  | publish s =>
    change answer = (supplier.serve (.publish s)).1 at warranted
    subst warranted
    obtain ⟨-, h⟩ | ⟨-, -, h⟩ | ⟨-, newer, h⟩ := supplier.serve_publish_cases s
    · rw [h]
      exact ⟨rfl, nofun⟩
    · rw [h]
      exact ⟨rfl, nofun⟩
    · rw [h]
      exact ⟨rfl, fun t ht => Option.some.inj ht ▸ newer⟩

theorem published_cons (d : Decision) (past : List Decision) :
    published (d :: past) = d.published?.toList ++ published past := by
  cases h : d.published? <;> simp [published, h]

theorem after_current (warranted : Throughout (Warranted (.start localNode initial)) past) :
    (after (.start localNode initial) past).current = currentAfter initial past := by
  induction past with
  | nil => rfl
  | cons d earlier ih =>
    have hmoves := (serve_current warranted.head).1
    rw [after, hmoves, ih warranted.tail]
    unfold currentAfter
    rw [published_cons]
    cases d.published? <;> rfl

/-- Each is of a later version than all before it and than the one at the start. -/
theorem increasing (warranted : Throughout (Warranted (.start localNode initial)) past) :
    (published past ++ [initial]).Pairwise (·.version > ·.version) := by
  induction past with
  | nil => exact List.pairwise_singleton _ _
  | cons d earlier ih =>
    have hearlier := ih warranted.tail
    rw [published_cons]
    cases hpublished : d.published? with
    | none => exact hearlier
    | some s =>
      have hnewer := (serve_current warranted.head).2 s hpublished
      rw [after_current warranted.tail] at hnewer
      exact pairwise_cons_of_headD hearlier hnewer

end Served

variable {i next last : Issuance} {first : Supplier} {action : Action} {actions : List Action}
  {n m : Nat} {call other : Call} {request : Request} {answer : Answer} {d : Decision}

/-- What an action does. But for the one moment in which a call is settled it leaves the supplier
alone. -/
inductive Step (i : Issuance) : Action → Issuance → Prop
  | call (request : Request) :
      Step i (.call request) { i with calls := i.calls ++ [.waiting request] }
  | enter {n : Nat} {request : Request} (held : i.calls[n]? = some (.waiting request))
      (free : i.inside = none) :
      Step i (.proceed n) { i.setCall n (.entered request) with inside := some n }
  | look {n : Nat} {s : Snapshot} (held : i.calls[n]? = some (.entered (.publish s)))
      (opened : i.supplier.closed = false) :
      Step i (.proceed n) (i.setCall n (.looked s i.supplier.current.version))
  | settle {n : Nat} {call : Call} (held : i.calls[n]? = some call)
      (isInside : call.isInside = true) (unanswered : call.answer? = none) :
      Step i (.proceed n) (i.settle n call.request (i.supplier.serve call.request).1
        (i.supplier.serve call.request).2)
  | leave {n : Nat} {request : Request} {answer : Answer}
      (held : i.calls[n]? = some (.settled request answer)) :
      Step i (.proceed n) { i.setCall n (.returned request answer) with inside := none }

/-- One call is inside at most, and what it has seen there has not changed since. -/
structure Sound (first : Supplier) (i : Issuance) : Prop where
  inside : ∀ n, i.inside = some n ↔ ∃ call, i.calls[n]? = some call ∧ call.isInside = true
  looked : ∀ {n : Nat} {s : Snapshot} {current : Int}, i.calls[n]? = some (.looked s current) →
    i.supplier.closed = false ∧ current = i.supplier.current.version
  decided : ∀ n request answer, ⟨n, request, answer⟩ ∈ i.past ↔
    ∃ call, i.calls[n]? = some call ∧ call.request = request ∧ call.answer? = some answer
  once : (i.past.map Decision.call).Nodup
  supplier : i.supplier = after first i.past
  warranted : Throughout (Warranted first) i.past

theorem sound_start (localNode : Node) (initial : Snapshot) :
    Sound (.start localNode initial) (start localNode initial) where
  inside := by simp [start]
  looked := by simp [start]
  decided := by simp [start]
  once := List.nodup_nil
  supplier := rfl
  warranted := .nil

/-- What a publication has read is what it is settled by. -/
theorem act_step (sound : Sound first i) (hact : i.act action = some next) :
    i.Step action next := by
  cases action with
  | call request =>
    obtain rfl := Option.some.inj hact
    exact .call request
  | proceed n =>
    obtain ⟨call, held, hproceed⟩ := Option.bind_eq_some_iff.1 hact
    cases call with
    | waiting request =>
      obtain ⟨free, heq⟩ := Option.ite_none_right_eq_some.1 hproceed
      obtain rfl := Option.some.inj heq
      exact .enter held free
    | entered request =>
      have settled := Step.settle held rfl rfl
      cases request with
      | close =>
        obtain rfl := Option.some.inj hproceed
        exact settled
      | publish s =>
        obtain rfl := Option.some.inj hproceed
        split
        next closed =>
          rw [Call.request, Supplier.serve_publish_of_closed closed] at settled
          exact settled
        next hopen => exact .look held (Bool.not_eq_true _ ▸ hopen)
    | looked s current =>
      have settled := Step.settle held rfl rfl
      obtain ⟨opened, rfl⟩ := sound.looked held
      obtain rfl := Option.some.inj hproceed
      split
      next stale =>
        rw [Call.request, Supplier.serve_publish_of_le opened stale] at settled
        exact settled
      next newer =>
        rw [Call.request, Supplier.serve_publish_of_lt opened (Int.not_le.1 newer)] at settled
        exact settled
    | settled request answer =>
      obtain rfl := Option.some.inj hproceed
      exact .leave held
    | returned request answer => cases hproceed

section Frame

variable {changed : Call} {P : Call → Prop}

theorem getElem?_set_iff (held : i.calls[n]? = some call) :
    (i.calls.set n changed)[m]? = some other ↔
      m = n ∧ changed = other ∨ m ≠ n ∧ i.calls[m]? = some other := by
  have hlength := (List.getElem?_eq_some_iff.1 held).1
  by_cases hm : m = n
  · subst hm
    simp [List.getElem?_set_self hlength]
  · simp [List.getElem?_set_ne (Ne.symm hm), hm]

/-- A call that goes on without a change in what is asked of it changes nothing in it. -/
theorem exists_set_iff (held : i.calls[n]? = some call) (same : P changed ↔ P call) :
    (∃ other, (i.calls.set n changed)[m]? = some other ∧ P other) ↔
      ∃ other, i.calls[m]? = some other ∧ P other := by
  by_cases hm : m = n
  · subst hm
    simp [getElem?_set_iff held, held, same]
  · simp [getElem?_set_iff held, hm]

theorem exists_append_iff (calls : List Call) (hnot : ¬P changed) :
    (∃ other, (calls ++ [changed])[m]? = some other ∧ P other) ↔
      ∃ other, calls[m]? = some other ∧ P other := by
  constructor
  · rintro ⟨other, hother, hp⟩
    by_cases hlength : m < calls.length
    · rw [List.getElem?_append_left hlength] at hother
      exact ⟨other, hother, hp⟩
    · rw [List.getElem?_append_right (Nat.not_lt.1 hlength)] at hother
      obtain rfl := List.mem_singleton.1 (List.mem_of_getElem? hother)
      exact absurd hp hnot
  · rintro ⟨other, hother, hp⟩
    have hlength := (List.getElem?_eq_some_iff.1 hother).1
    exact ⟨other, (List.getElem?_append_left hlength).trans hother, hp⟩

end Frame

namespace Sound

/-- Nobody else is inside along with a call that is. -/
theorem alone (sound : Sound first i) (held : i.calls[n]? = some call)
    (isInside : call.isInside = true) (hother : i.calls[m]? = some other)
    (otherInside : other.isInside = true) : m = n := by
  have hn := (sound.inside n).2 ⟨call, held, isInside⟩
  have hm := (sound.inside m).2 ⟨other, hother, otherInside⟩
  exact Option.some.inj (hm.symm.trans hn)

theorem undecided (sound : Sound first i) (held : i.calls[n]? = some call)
    (unanswered : call.answer? = none) : ⟨n, request, answer⟩ ∉ i.past := by
  intro hmem
  obtain ⟨found, hfound, -, hanswer⟩ := (sound.decided n request answer).1 hmem
  obtain rfl := Option.some.inj (held.symm.trans hfound)
  rw [unanswered] at hanswer
  cases hanswer

theorem called (sound : Sound first i) (request : Request) :
    Sound first { i with calls := i.calls ++ [.waiting request] } :=
  { sound with
    inside := fun n => (sound.inside n).trans
      (exists_append_iff i.calls (by simp [Call.isInside])).symm
    looked := by
      intro n s current hlooked
      have hheld := (exists_append_iff (P := (· = .looked s current)) i.calls (by simp)).1
        ⟨_, hlooked, rfl⟩
      obtain ⟨_, hold, rfl⟩ := hheld
      exact sound.looked hold
    decided := fun n asked answer => (sound.decided n asked answer).trans
      (exists_append_iff i.calls (by simp [Call.answer?])).symm }

theorem enter (sound : Sound first i) (held : i.calls[n]? = some (.waiting request))
    (free : i.inside = none) :
    Sound first { i.setCall n (.entered request) with inside := some n } :=
  { sound with
    inside := by
      intro m
      constructor
      · intro hm
        obtain rfl := Option.some.inj hm
        exact ⟨_, (getElem?_set_iff held).2 (.inl ⟨rfl, rfl⟩), rfl⟩
      · rintro ⟨other, hother, isInside⟩
        rcases (getElem?_set_iff held).1 hother with ⟨rfl, -⟩ | ⟨-, hold⟩
        · rfl
        · have hm := (sound.inside m).2 ⟨other, hold, isInside⟩
          rw [free] at hm
          cases hm
    looked := by
      intro m s current hlooked
      rcases (getElem?_set_iff held).1 hlooked with ⟨-, heq⟩ | ⟨-, hold⟩
      · cases heq
      · exact sound.looked hold
    decided := fun m asked answer => (sound.decided m asked answer).trans
      (exists_set_iff held (by simp [Call.answer?])).symm }

theorem look (sound : Sound first i) {s : Snapshot}
    (held : i.calls[n]? = some (.entered (.publish s))) (opened : i.supplier.closed = false) :
    Sound first (i.setCall n (.looked s i.supplier.current.version)) :=
  { sound with
    inside := fun m => (sound.inside m).trans (exists_set_iff held (by rfl)).symm
    looked := by
      intro m t current hlooked
      rcases (getElem?_set_iff held).1 hlooked with ⟨-, heq⟩ | ⟨-, hold⟩
      · cases heq
        exact ⟨opened, rfl⟩
      · exact sound.looked hold
    decided := fun m asked answer => (sound.decided m asked answer).trans
      (exists_set_iff held (by simp [Call.answer?])).symm }

theorem settle (sound : Sound first i) (held : i.calls[n]? = some call)
    (isInside : call.isInside = true) (unanswered : call.answer? = none) :
    Sound first (i.settle n call.request (i.supplier.serve call.request).1
      (i.supplier.serve call.request).2) where
  inside m := (sound.inside m).trans
    (exists_set_iff held (by exact iff_of_true rfl isInside)).symm
  looked := by
    intro m s current hlooked
    rcases (getElem?_set_iff held).1 hlooked with ⟨-, heq⟩ | ⟨hm, hold⟩
    · cases heq
    · exact absurd (sound.alone held isInside hold rfl) hm
  decided := by
    intro m request answer
    rw [Issuance.settle, List.mem_cons]
    constructor
    · rintro (heq | hmem)
      · cases heq
        exact ⟨_, (getElem?_set_iff held).2 (.inl ⟨rfl, rfl⟩), rfl, rfl⟩
      · obtain ⟨other, hother, hanswered⟩ := (sound.decided m request answer).1 hmem
        have hm : m ≠ n := by
          rintro rfl
          exact sound.undecided held unanswered hmem
        exact ⟨other, (getElem?_set_iff held).2 (.inr ⟨hm, hother⟩), hanswered⟩
    · rintro ⟨other, hother, hanswered⟩
      rcases (getElem?_set_iff held).1 hother with ⟨rfl, rfl⟩ | ⟨-, hold⟩
      · obtain ⟨rfl, hanswer⟩ := hanswered
        exact .inl (by rw [Option.some.inj hanswer]; rfl)
      · exact .inr ((sound.decided m request answer).2 ⟨other, hold, hanswered⟩)
  once := by
    refine List.nodup_cons.2 ⟨?_, sound.once⟩
    intro hmem
    obtain ⟨⟨_, request, answer⟩, hd, rfl⟩ := List.mem_map.1 hmem
    exact sound.undecided held unanswered hd
  supplier := by
    show (i.supplier.serve call.request).2 = after first (_ :: i.past)
    rw [after, ← sound.supplier]
  warranted := by
    refine sound.warranted.cons ?_
    rw [Warranted, ← sound.supplier]

theorem leave (sound : Sound first i) (held : i.calls[n]? = some (.settled request answer)) :
    Sound first { i.setCall n (.returned request answer) with inside := none } :=
  { sound with
    inside := by
      intro m
      refine iff_of_false nofun ?_
      rintro ⟨other, hother, isInside⟩
      rcases (getElem?_set_iff held).1 hother with ⟨-, rfl⟩ | ⟨hm, hold⟩
      · cases isInside
      · exact hm (sound.alone held rfl hold isInside)
    looked := by
      intro m s current hlooked
      rcases (getElem?_set_iff held).1 hlooked with ⟨-, heq⟩ | ⟨-, hold⟩
      · cases heq
      · exact sound.looked hold
    decided := fun m asked given => (sound.decided m asked given).trans
      (exists_set_iff held (by rfl)).symm }

end Sound

theorem Step.sound (step : i.Step action next) (sound : Sound first i) : Sound first next := by
  cases step with
  | call request => exact sound.called request
  | enter held free => exact sound.enter held free
  | look held opened => exact sound.look held opened
  | settle held isInside unanswered => exact sound.settle held isInside unanswered
  | leave held => exact sound.leave held

theorem acts_sound (sound : Sound first i) (hacts : i.acts actions = some last) :
    Sound first last := by
  induction actions generalizing i with
  | nil =>
    obtain rfl := Option.some.inj hacts
    exact sound
  | cons action rest ih =>
    obtain ⟨next, hact, hrest⟩ := Option.bind_eq_some_iff.1 hacts
    exact ih ((act_step sound hact).sound sound) hrest

/-- How many steps all calls together have still to take. -/
def left (i : Issuance) : Nat := i.calls.foldr (·.left + ·) 0

theorem left_set_lt {calls : List Call} {changed : Call} (held : calls[n]? = some call)
    (less : changed.left < call.left) :
    (calls.set n changed).foldr (·.left + ·) 0 < calls.foldr (·.left + ·) 0 := by
  induction calls generalizing n with
  | nil => cases held
  | cons head rest ih =>
    cases n with
    | zero =>
      obtain rfl := Option.some.inj held
      simpa using less
    | succ n => simpa using ih held

/-- A call that goes on has one step less to take. -/
theorem Step.left_lt (step : i.Step (.proceed n) next) : next.left < i.left := by
  cases step with
  | enter held free => exact left_set_lt held (Nat.lt_succ_self _)
  | look held opened => exact left_set_lt held (Nat.lt_succ_self _)
  | @settle _ call held isInside unanswered =>
    refine left_set_lt held ?_
    cases call with
    | entered request | looked s current => exact Nat.lt_of_sub_ne_zero nofun
    | waiting request | returned request answer => cases isInside
    | settled request answer => cases unanswered
  | leave held => exact left_set_lt held (Nat.lt_succ_self _)

/-- Whoever is inside can go on, and if nobody is then whoever waits can go in. -/
theorem Sound.goes_on (sound : Sound first i) (held : i.calls[n]? = some call)
    (unfinished : call.left ≠ 0) : ∃ m next, i.act (.proceed m) = some next := by
  have hproceed {m other} (hother : i.calls[m]? = some other) (next)
      (hnext : i.proceed m other = some next) : ∃ m next, i.act (.proceed m) = some next :=
    ⟨m, next, Option.bind_eq_some_iff.2 ⟨other, hother, hnext⟩⟩
  cases hinside : i.inside with
  | some m =>
    obtain ⟨other, hother, isInside⟩ := (sound.inside m).1 hinside
    cases other with
    | waiting request | returned request answer => cases isInside
    | entered request => cases request <;> exact hproceed hother _ rfl
    | looked s current | settled request answer => exact hproceed hother _ rfl
  | none =>
    have houtside : call.isInside = false := by
      cases isInside : call.isInside with
      | false => rfl
      | true =>
        have hn := (sound.inside n).2 ⟨call, held, isInside⟩
        rw [hinside] at hn
        cases hn
    cases call with
    | waiting request => exact hproceed held _ (if_pos hinside)
    | returned request answer => exact absurd rfl unfinished
    | entered request | looked s current | settled request answer => cases houtside

/-- What comes of the calls in the course of a run that ends here. -/
structure InTurn (localNode : Node) (initial : Snapshot) (i : Issuance) : Prop where
  /-- Every call is settled once, and told what has been settled. -/
  once : (i.past.map Decision.call).Nodup
  told_iff : ∀ n request answer, ⟨n, request, answer⟩ ∈ i.past ↔
    ∃ call, i.calls[n]? = some call ∧ call.request = request ∧ call.answer? = some answer
  /-- They have been served one after another, as if each had been alone. -/
  supplier : i.supplier = after (.start localNode initial) i.past
  served : ∀ {later earlier d}, i.past = later ++ d :: earlier →
    d.answer = ((after (.start localNode initial) earlier).serve d.request).1
  ok_iff : ∀ {later earlier n s answer}, i.past = later ++ ⟨n, .publish s, answer⟩ :: earlier →
    (answer = .ok () ↔
      ¬Closed earlier ∧ (currentAfter initial earlier).version < s.version)
  closed_iff : ∀ {later earlier n s answer},
    i.past = later ++ ⟨n, .publish s, answer⟩ :: earlier →
    (answer = .error .closed ↔ Closed earlier)
  stale_iff : ∀ {later earlier n s answer current offered},
    i.past = later ++ ⟨n, .publish s, answer⟩ :: earlier →
    (answer = .error (.stale current offered) ↔
      (¬Closed earlier ∧ s.version ≤ (currentAfter initial earlier).version) ∧
        current = (currentAfter initial earlier).version ∧ offered = s.version)
  /-- The current snapshot is the last one published, whatever has been refused or closed since. -/
  current : i.supplier.current = currentAfter initial i.past
  isClosed : i.supplier.closed = true ↔ Closed i.past
  /-- Latest first. -/
  increasing : (published i.past ++ [initial]).Pairwise (·.version > ·.version)
  /-- Nothing but a success moves the current snapshot. -/
  moved : ∀ {action next}, i.act action = some next →
    next.supplier.current ≠ i.supplier.current →
    ∃ n, next.past = ⟨n, .publish next.supplier.current, .ok ()⟩ :: i.past
  /-- A publication that is refused changes nothing, and nor does a step that settles nothing. -/
  unmoved : ∀ {action next}, i.act action = some next →
    (next.past = i.past ∨
      ∃ n s refusal, next.past = ⟨n, .publish s, .error refusal⟩ :: i.past) →
    next.supplier.current = i.supplier.current ∧ next.supplier.closed = i.supplier.closed ∧
      ∀ subscription, next.supplier.poll subscription = i.supplier.poll subscription
  /-- Some call can take a step until all have returned, and there is ever less left to do. -/
  goes_on : ∀ {n : Nat} {call : Call}, i.calls[n]? = some call → call.left ≠ 0 →
    ∃ m next, i.act (.proceed m) = some next
  less : ∀ {n next}, i.act (.proceed n) = some next → next.left < i.left

/-- Publications and closings that are on their way together are served one after another: each
success moves the current snapshot on to a later version, each refusal leaves all as it is. -/
theorem publications_in_turn {localNode : Node} {initial : Snapshot}
    (hacts : (start localNode initial).acts actions = some last) :
    InTurn localNode initial last := by
  have sound := acts_sound (sound_start localNode initial) hacts
  have warranted := sound.warranted
  constructor
  case once => exact sound.once
  case told_iff => exact sound.decided
  case supplier => exact sound.supplier
  case served =>
    intro later earlier d hpast
    exact warranted later d earlier hpast
  case ok_iff =>
    intro later earlier n s answer hpast
    have hearlier := ((hpast ▸ warranted).of_append).tail
    have hanswer : answer = _ := warranted later _ earlier hpast
    rw [hanswer, Supplier.serve_publish_ok_iff, after_opened, after_current hearlier]
  case closed_iff =>
    intro later earlier n s answer hpast
    have hanswer : answer = _ := warranted later _ earlier hpast
    rw [hanswer, Supplier.serve_publish_closed_iff, after_closed]
  case stale_iff =>
    intro later earlier n s answer current offered hpast
    have hearlier := ((hpast ▸ warranted).of_append).tail
    have hanswer : answer = _ := warranted later _ earlier hpast
    rw [hanswer, Supplier.serve_publish_stale_iff, after_opened, after_current hearlier]
  case current => rw [sound.supplier, after_current warranted]
  case isClosed => rw [sound.supplier, after_closed]
  case increasing => exact increasing warranted
  case moved =>
    intro action next hact hmoved
    cases act_step sound hact with
    | call | enter | look | leave => exact absurd rfl hmoved
    | @settle n call =>
      revert hmoved
      cases call.request with
      | close => exact fun hmoved => absurd rfl hmoved
      | publish s =>
        obtain ⟨-, h⟩ | ⟨-, -, h⟩ | ⟨-, -, h⟩ := last.supplier.serve_publish_cases s
        · exact fun hmoved => absurd (by rw [settle, h]) hmoved
        · exact fun hmoved => absurd (by rw [settle, h]) hmoved
        · rw [h]
          exact fun _ => ⟨n, rfl⟩
  case unmoved =>
    intro action next hact hpast
    cases act_step sound hact with
    | call | enter | look | leave => exact ⟨rfl, rfl, fun _ => rfl⟩
    | @settle n call =>
      rcases hpast with hsame | ⟨m, s, refusal, hrefused⟩
      · exact absurd hsame (List.cons_ne_self _ _)
      · obtain ⟨-, hrequest, hanswer⟩ := Decision.mk.inj (List.cons.inj hrefused).1
        rw [hrequest] at hanswer ⊢
        rw [settle, Supplier.serve_publish_refused hanswer]
        exact ⟨rfl, rfl, fun _ => rfl⟩
  case goes_on =>
    intro n call held unfinished
    exact sound.goes_on held unfinished
  case less =>
    intro n next hact
    exact (act_step sound hact).left_lt

section Trial

open Trial

/-- Two publications of one version are under way, the supplier closes after them, and a third
publication comes too late. -/
def contendedActions : List Action :=
  [.call (.publish (version (-1))), .call (.publish (version (-1))), .proceed 0, .proceed 0,
    .call .close, .proceed 0, .proceed 0, .proceed 1, .proceed 1, .call (.publish (version 7)),
    .proceed 1, .proceed 1, .proceed 2, .proceed 2, .proceed 2, .proceed 3, .proceed 3]

def contended : Issuance := ((start home (version (-3))).acts contendedActions).get (by decide)

theorem publications_in_turn_contended :
    (start home (version (-3))).acts contendedActions = some contended ∧
      InTurn home (version (-3)) contended ∧
      contended.past = [⟨3, .publish (version 7), .error .closed⟩, ⟨2, .close, .ok ()⟩,
        ⟨1, .publish (version (-1)), .error (.stale (-1) (-1))⟩,
        ⟨0, .publish (version (-1)), .ok ()⟩] ∧
      contended.supplier.current = version (-1) := by
  have hacts : (start home (version (-3))).acts contendedActions = some contended :=
    (Option.some_get _).symm
  exact ⟨hacts, publications_in_turn hacts, by decide, by decide⟩

end Trial

end Issuance
end ClusterWatch
