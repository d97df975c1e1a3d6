import ClusterWatch.Proofs.Chronicle
import ClusterWatch.Task.Cancelling

/-!
One call cancels the task, and nobody sleeps through it. Up to the first claim the task is
untouched; from then on it has one winner, whose reason stays. A wait that is put down before it
looks is either woken by the winner or sees that the task has been cancelled, and there is nothing
in between.
-/
namespace ClusterWatch

namespace CancelCall

/-- It is the one that cancels the task, or has been. -/
def won (call : CancelCall) : Bool :=
  match call.stage with
  | .claimed => true
  | .notified => true
  | .returned won => won
  | .fresh => false

end CancelCall

namespace CancelEvent

def claim? : CancelEvent → Option (Nat × String)
  | .claimed call reason => some (call, reason)
  | _ => none

end CancelEvent

namespace Cancelling

variable {c next last : Cancelling} {action : Action} {actions : List Action} {index : Nat}
  {call : CancelCall} {w : Waiter} {reason : String}

/-- Nobody has cancelled the task yet. -/
structure Untouched (c : Cancelling) : Prop where
  free : c.task.reason = none
  unhooked : c.task.hookCalls = 0
  unclaimed : c.past.filterMap CancelEvent.claim? = []
  calls : ∀ call ∈ c.calls, call.stage = .fresh
  asleep : ∀ w ∈ c.task.waiters, w.stage ≠ .done ∧ w.signalled = false

/-- The call of this index has cancelled the task. -/
structure Won (c : Cancelling) (index : Nat) (call : CancelCall) : Prop where
  held : c.calls[index]? = some call
  won : call.won = true
  reason : c.task.reason = some call.reason
  hooked : c.task.hookCalls = if call.stage = .returned true then 1 else 0
  claimed : c.past.filterMap CancelEvent.claim? = [(index, call.reason)]
  others : ∀ i other, i ≠ index → c.calls[i]? = some other →
    other.stage = .fresh ∨ other.stage = .returned false
  /-- The winner has woken whoever did not see for himself. -/
  awake : call.stage ≠ .claimed → ∀ w ∈ c.task.waiters, w.stage = .waiting → w.signalled = true

/-- The reason of the first claim, which there is to be read from then on. -/
def reasonAt (past : List CancelEvent) : Option String :=
  (past.filterMap CancelEvent.claim?).head?.map Prod.snd

/-- What an event says, given what came before it. -/
def Warranted (earlier : List CancelEvent) : CancelEvent → Prop
  | .claimed _ _ => earlier.filterMap CancelEvent.claim? = []
  | .returned call won => ∃ winner reason,
      earlier.filterMap CancelEvent.claim? = [(winner, reason)] ∧ (won = true ↔ call = winner)
  | .read cancelled reason running => reason = reasonAt earlier ∧ cancelled = reason.isSome ∧
      running = reason.elim (.ok ()) fun reason => .error ⟨reason⟩
  | .finished _ reason => reason = reasonAt earlier ∧ reason.isSome = true

structure Sound (c : Cancelling) : Prop where
  phase : c.Untouched ∨ ∃ index call, c.Won index call
  warranted : Throughout Warranted c.past

theorem sound_start (task : Task) (onParentLeaving withChildren : Bool) :
    (start task onParentLeaving withChildren).Sound where
  phase := .inl ⟨rfl, rfl, rfl, nofun, nofun⟩
  warranted := .nil

theorem Untouched.reasonAt_eq (untouched : c.Untouched) : reasonAt c.past = c.task.reason := by
  rw [reasonAt, untouched.unclaimed, untouched.free]
  rfl

theorem Won.reasonAt_eq (won : c.Won index call) : reasonAt c.past = c.task.reason := by
  rw [reasonAt, won.claimed, won.reason]
  rfl

section Waiter

variable {task : CancellableTask}

theorem advance_asleep (free : task.reason = none) (h : w.stage ≠ .done ∧ w.signalled = false) :
    (advance task w).stage ≠ .done ∧ (advance task w).signalled = false := by
  obtain ⟨hstage, hsignalled⟩ := h
  cases stage : w.stage with
  | done => exact absurd stage hstage
  | fresh | registered | waiting =>
    simp [advance, CancellableTask.resume, CancellableTask.look, CancellableTask.register,
      CancellableTask.isCancelled, stage, free, hsignalled]

/-- A wait that is run ends once the task has been cancelled, unless it has to be woken and has not
been. -/
theorem resume_done (cancelled : task.reason = some reason)
    (h : w.stage = .waiting → w.signalled = true) : (task.resume w).stage = .done := by
  cases stage : w.stage with
  | waiting => simp [CancellableTask.resume, stage, h stage]
  | fresh | registered | done =>
    simp [CancellableTask.resume, CancellableTask.look, CancellableTask.isCancelled, stage,
      cancelled]

theorem advance_eq_resume (h : w.stage ≠ .fresh) : advance task w = task.resume w := by
  unfold advance
  split
  next hfresh => exact absurd hfresh h
  · rfl

theorem resume_register (h : w.stage = .fresh) :
    task.resume (CancellableTask.register w) = task.resume w := by
  simp [CancellableTask.resume, CancellableTask.register, h]

theorem advance_awake (cancelled : task.reason = some reason)
    (h : w.stage = .waiting → w.signalled = true) : (advance task w).stage ≠ .waiting := by
  by_cases hfresh : w.stage = .fresh
  · simp [advance, hfresh, CancellableTask.register]
  · rw [advance_eq_resume hfresh, resume_done cancelled h]
    exact nofun

theorem signal_stage (w : Waiter) : (CancellableTask.signal w).stage = w.stage := by
  unfold CancellableTask.signal
  split <;> rfl

theorem signal_signalled (h : w.stage = .waiting) :
    (CancellableTask.signal w).signalled = true := by
  simp [CancellableTask.signal, h]

end Waiter

namespace Untouched

theorem record (untouched : c.Untouched) {e : CancelEvent} (h : e.claim? = none) :
    (c.record e).Untouched :=
  { untouched with unclaimed := (List.filterMap_cons_none h).trans untouched.unclaimed }

theorem cancel (untouched : c.Untouched) (reason : String) :
    Untouched { c with calls := c.calls ++ [⟨reason, .fresh⟩] } :=
  { untouched with
    calls := by
      intro call hcall
      rcases List.mem_append.1 hcall with hbefore | hnew
      · exact untouched.calls call hbefore
      · rw [List.mem_singleton.1 hnew] }

theorem setWaiter (untouched : c.Untouched) (h : w.stage ≠ .done ∧ w.signalled = false) :
    (c.setWaiter index w).Untouched :=
  { untouched with
    asleep := by
      intro v hv
      rcases List.mem_or_eq_of_mem_set hv with hbefore | rfl
      · exact untouched.asleep v hbefore
      · exact h }

theorem await (untouched : c.Untouched) (name : String) :
    Untouched { c with task := c.task.await name } :=
  { untouched with
    asleep := by
      intro w hw
      rcases List.mem_append.1 hw with hbefore | hnew
      · exact untouched.asleep w hbefore
      · rw [List.mem_singleton.1 hnew]
        exact ⟨nofun, rfl⟩ }

/-- The first call that goes on is the one that cancels the task. -/
theorem proceed (untouched : c.Untouched) (held : c.calls[index]? = some call)
    (h : c.proceed index call = some next) :
    next.Won index { call with stage := .claimed } ∧
      next.past = .claimed index call.reason :: c.past := by
  have fresh : call.stage = .fresh := untouched.calls call (List.mem_of_getElem? held)
  have hclaim : c.task.claim call.reason = (true, { c.task with reason := some call.reason }) := by
    simp [CancellableTask.claim, untouched.free]
  simp only [Cancelling.proceed, fresh, hclaim] at h
  obtain rfl := Option.some.inj h
  have hlength : index < c.calls.length := (List.getElem?_eq_some_iff.1 held).1
  refine ⟨{
    held := List.getElem?_set_self hlength
    won := rfl
    reason := rfl
    hooked := untouched.unhooked
    claimed := congrArg ((index, call.reason) :: ·) untouched.unclaimed
    others := fun i other hne hother => .inl ?_
    awake := fun h => absurd rfl h }, rfl⟩
  have hother : (c.calls.set index { call with stage := .claimed })[i]? = some other := hother
  rw [List.getElem?_set_ne hne.symm] at hother
  exact untouched.calls other (List.mem_of_getElem? hother)

theorem run (untouched : c.Untouched) (hw : c.task.waiters[index]? = some w)
    (h : c.run index w = some next) : next.Untouched ∧ next.past = c.past := by
  have hasleep := advance_asleep untouched.free (untouched.asleep w (List.mem_of_getElem? hw))
  obtain ⟨-, heq⟩ := Option.ite_none_left_eq_some.1 h
  obtain rfl := Option.some.inj heq
  rw [if_neg hasleep.1]
  exact ⟨untouched.setWaiter hasleep, rfl⟩

end Untouched

namespace Won

theorem record (won : c.Won index call) {e : CancelEvent} (h : e.claim? = none) :
    (c.record e).Won index call :=
  { won with claimed := (List.filterMap_cons_none h).trans won.claimed }

theorem cancel (won : c.Won index call) (reason : String) :
    Won { c with calls := c.calls ++ [⟨reason, .fresh⟩] } index call :=
  { won with
    held := by
      have hlength : index < c.calls.length := (List.getElem?_eq_some_iff.1 won.held).1
      rw [List.getElem?_append_left hlength]
      exact won.held
    others := by
      intro i other hne hother
      by_cases hlength : i < c.calls.length
      · rw [List.getElem?_append_left hlength] at hother
        exact won.others i other hne hother
      · rw [List.getElem?_append_right (Nat.not_lt.1 hlength)] at hother
        exact .inl (List.mem_singleton.1 (List.mem_of_getElem? hother) ▸ rfl) }

theorem setWaiter (won : c.Won index call) {i : Nat}
    (h : call.stage ≠ .claimed → w.stage = .waiting → w.signalled = true) :
    (c.setWaiter i w).Won index call :=
  { won with
    awake := by
      intro hstage v hv
      rcases List.mem_or_eq_of_mem_set hv with hbefore | rfl
      · exact won.awake hstage v hbefore
      · exact h hstage }

theorem await (won : c.Won index call) (name : String) :
    Won { c with task := c.task.await name } index call :=
  { won with
    awake := by
      intro hstage w hw
      rcases List.mem_append.1 hw with hbefore | hnew
      · exact won.awake hstage w hbefore
      · rw [List.mem_singleton.1 hnew]
        exact nofun }

/-- Whoever else goes on comes too late. -/
theorem proceed_other (won : c.Won index call) {i : Nat} {other : CancelCall} (hne : i ≠ index)
    (held : c.calls[i]? = some other) (h : c.proceed i other = some next) :
    next.Won index call ∧ next.past = .returned i false :: c.past := by
  rcases won.others i other hne held with fresh | returned
  · have hclaim : c.task.claim other.reason = (false, c.task) := by
      simp [CancellableTask.claim, won.reason]
    simp only [Cancelling.proceed, fresh, hclaim] at h
    obtain rfl := Option.some.inj h
    refine ⟨{ won with
      held := (List.getElem?_set_ne hne).trans won.held
      others := ?_ }, rfl⟩
    intro j another hj hanother
    have hset : (c.calls.set i { other with stage := .returned false })[j]? = some another :=
      hanother
    by_cases hij : i = j
    · subst hij
      rw [List.getElem?_set_self (List.getElem?_eq_some_iff.1 held).1] at hset
      exact .inr (Option.some.inj hset ▸ rfl)
    · rw [List.getElem?_set_ne hij] at hset
      exact won.others j another hj hset
  · simp [Cancelling.proceed, returned] at h

/-- The winner wakes those who wait, and then calls the hook. -/
theorem proceed (won : c.Won index call) (h : c.proceed index call = some next) :
    (call.stage = .claimed ∧ next.Won index { call with stage := .notified } ∧
      next.past = c.past) ∨
    (call.stage = .notified ∧ next.Won index { call with stage := .returned true } ∧
      next.past = .returned index true :: c.past) := by
  have hlength : index < c.calls.length := (List.getElem?_eq_some_iff.1 won.held).1
  have hothers (stage : CancelCall.Stage) (i : Nat) (other : CancelCall) (hne : i ≠ index)
      (hother : (c.calls.set index { call with stage })[i]? = some other) :
      other.stage = .fresh ∨ other.stage = .returned false := by
    rw [List.getElem?_set_ne hne.symm] at hother
    exact won.others i other hne hother
  have hhooked := won.hooked
  unfold Cancelling.proceed at h
  cases stage : call.stage with
  | fresh =>
    have hwon := won.won
    simp [CancelCall.won, stage] at hwon
  | claimed =>
    simp only [stage] at h
    obtain rfl := Option.some.inj h
    refine .inl ⟨rfl, {
      held := List.getElem?_set_self hlength
      won := rfl
      reason := won.reason
      hooked := ?_
      claimed := won.claimed
      others := hothers _
      awake := ?_ }, rfl⟩
    · simp only [stage, reduceCtorEq, ↓reduceIte] at hhooked
      exact hhooked
    · intro _ w hw hstage
      obtain ⟨v, hv, rfl⟩ := List.mem_map.1 hw
      exact signal_signalled (signal_stage v ▸ hstage)
  | notified =>
    simp only [stage] at h
    obtain rfl := Option.some.inj h
    refine .inr ⟨rfl, {
      held := List.getElem?_set_self hlength
      won := rfl
      reason := won.reason
      hooked := ?_
      claimed := (List.filterMap_cons_none rfl).trans won.claimed
      others := hothers _
      awake := fun _ => won.awake (by simp [stage]) }, rfl⟩
    simp only [stage, reduceCtorEq, ↓reduceIte] at hhooked
    exact congrArg (· + 1) hhooked
  | returned won => simp [stage] at h

theorem run (won : c.Won index call) {i : Nat} (hw : c.task.waiters[i]? = some w)
    (h : c.run i w = some next) :
    next.Won index call ∧
      (next.past = c.past ∨ next.past = .finished i (some call.reason) :: c.past) := by
  have hset : (c.setWaiter i (advance c.task w)).Won index call := by
    refine won.setWaiter fun hstage hwaits => absurd hwaits ?_
    exact advance_awake won.reason (won.awake hstage w (List.mem_of_getElem? hw))
  obtain ⟨-, heq⟩ := Option.ite_none_left_eq_some.1 h
  obtain rfl := Option.some.inj heq
  split
  · refine ⟨hset.record rfl, .inr ?_⟩
    rw [← won.reason]
    rfl
  · exact ⟨hset, .inl rfl⟩

end Won

theorem warranted_read (hreason : reasonAt c.past = c.task.reason) :
    Warranted c.past (.read c.task.isCancelled c.task.reason c.task.ensureRunning) := by
  refine ⟨hreason.symm, rfl, ?_⟩
  unfold CancellableTask.ensureRunning
  cases c.task.reason <;> rfl

namespace Sound

theorem act (sound : c.Sound) (hact : c.act action = some next) : next.Sound := by
  have warranted := sound.warranted
  rcases sound.phase with untouched | ⟨winner, winning, won⟩
  · cases action with
    | cancel reason =>
      obtain rfl := Option.some.inj hact
      exact ⟨.inl (untouched.cancel reason), warranted⟩
    | proceed index =>
      obtain ⟨call, held, hstep⟩ := Option.bind_eq_some_iff.1 hact
      obtain ⟨won, hpast⟩ := untouched.proceed held hstep
      exact ⟨.inr ⟨index, _, won⟩, hpast ▸ warranted.cons untouched.unclaimed⟩
    | read =>
      obtain rfl := Option.some.inj hact
      exact ⟨.inl (untouched.record rfl), warranted.cons (warranted_read untouched.reasonAt_eq)⟩
    | await name =>
      obtain rfl := Option.some.inj hact
      exact ⟨.inl (untouched.await name), warranted⟩
    | run index =>
      obtain ⟨w, hw, hrun⟩ := Option.bind_eq_some_iff.1 hact
      obtain ⟨hnext, hpast⟩ := untouched.run hw hrun
      exact ⟨.inl hnext, hpast ▸ warranted⟩
  · cases action with
    | cancel reason =>
      obtain rfl := Option.some.inj hact
      exact ⟨.inr ⟨winner, winning, won.cancel reason⟩, warranted⟩
    | proceed index =>
      obtain ⟨call, held, hstep⟩ := Option.bind_eq_some_iff.1 hact
      by_cases hwinner : index = winner
      · subst hwinner
        obtain rfl := Option.some.inj (held.symm.trans won.held)
        rcases won.proceed hstep with ⟨-, hnext, hpast⟩ | ⟨-, hnext, hpast⟩
        · exact ⟨.inr ⟨index, _, hnext⟩, hpast ▸ warranted⟩
        · have hreturns : Warranted c.past (.returned index true) :=
            ⟨index, call.reason, won.claimed, iff_of_true rfl rfl⟩
          exact ⟨.inr ⟨index, _, hnext⟩, hpast ▸ warranted.cons hreturns⟩
      · obtain ⟨hnext, hpast⟩ := won.proceed_other hwinner held hstep
        have hreturns : Warranted c.past (.returned index false) :=
          ⟨winner, winning.reason, won.claimed, iff_of_false Bool.false_ne_true hwinner⟩
        exact ⟨.inr ⟨winner, winning, hnext⟩, hpast ▸ warranted.cons hreturns⟩
    | read =>
      obtain rfl := Option.some.inj hact
      exact ⟨.inr ⟨winner, winning, won.record rfl⟩,
        warranted.cons (warranted_read won.reasonAt_eq)⟩
    | await name =>
      obtain rfl := Option.some.inj hact
      exact ⟨.inr ⟨winner, winning, won.await name⟩, warranted⟩
    | run index =>
      obtain ⟨w, hw, hrun⟩ := Option.bind_eq_some_iff.1 hact
      obtain ⟨hnext, hpast | hpast⟩ := won.run hw hrun
      · exact ⟨.inr ⟨winner, winning, hnext⟩, hpast ▸ warranted⟩
      · have hfinishes : Warranted c.past (.finished index (some winning.reason)) :=
          ⟨won.reason.symm.trans won.reasonAt_eq.symm, rfl⟩
        exact ⟨.inr ⟨winner, winning, hnext⟩, hpast ▸ warranted.cons hfinishes⟩

theorem acts (sound : c.Sound) (hacts : c.acts actions = some last) : last.Sound := by
  induction actions generalizing c with
  | nil =>
    obtain rfl := Option.some.inj hacts
    exact sound
  | cons action rest ih =>
    obtain ⟨next, hact, hrest⟩ := Option.bind_eq_some_iff.1 hacts
    exact ih (sound.act hact) hrest

end Sound

theorem claimed_iff {past : List CancelEvent} :
    .claimed index reason ∈ past ↔ (index, reason) ∈ past.filterMap CancelEvent.claim? := by
  rw [List.mem_filterMap]
  constructor
  · exact fun h => ⟨_, h, rfl⟩
  · rintro ⟨e, he, hclaim⟩
    cases e with
    | claimed =>
      cases hclaim
      exact he
    | returned | read | finished => cases hclaim

/-- The task has its winner as soon as there is a claim. -/
theorem Sound.won (sound : c.Sound) (h : .claimed index reason ∈ c.past) :
    ∃ call, c.Won index call ∧ call.reason = reason := by
  have hclaim := claimed_iff.1 h
  rcases sound.phase with untouched | ⟨winner, call, won⟩
  · rw [untouched.unclaimed] at hclaim
    cases hclaim
  · rw [won.claimed, List.mem_singleton] at hclaim
    cases hclaim
    exact ⟨call, won, rfl⟩

theorem Sound.untouched (sound : c.Sound) (h : ∀ index reason, .claimed index reason ∉ c.past) :
    c.Untouched := by
  rcases sound.phase with untouched | ⟨winner, call, won⟩
  · exact untouched
  · exact absurd (claimed_iff.2 (won.claimed ▸ List.mem_singleton_self _)) (h winner call.reason)

theorem Won.mem_past (won : c.Won index call) : .claimed index call.reason ∈ c.past :=
  claimed_iff.2 (won.claimed ▸ List.mem_singleton_self _)

theorem reasonAt_eq_none {past : List CancelEvent}
    (h : ∀ index reason, .claimed index reason ∉ past) : reasonAt past = none := by
  have hnone : past.filterMap CancelEvent.claim? = [] :=
    List.eq_nil_iff_forall_not_mem.2 fun _ hclaim => h _ _ (claimed_iff.2 hclaim)
  rw [reasonAt, hnone]
  rfl

theorem claimed_of_reasonAt {past : List CancelEvent} (h : reasonAt past = some reason) :
    ∃ index, .claimed index reason ∈ past := by
  obtain ⟨⟨index, first⟩, hhead, rfl⟩ := Option.map_eq_some_iff.1 h
  exact ⟨index, claimed_iff.2 (List.mem_of_head? hhead)⟩

/-- A claim stays the only one, so its reason is read at any later time. -/
theorem Sound.reasonAt_of_claimed (sound : c.Sound) {later earlier : List CancelEvent}
    (hpast : c.past = later ++ earlier) (h : .claimed index reason ∈ earlier) :
    reasonAt earlier = some reason := by
  obtain ⟨call, won, rfl⟩ := sound.won (hpast ▸ List.mem_append_right later h)
  have hclaims := won.claimed
  rw [hpast, List.filterMap_append] at hclaims
  rcases List.append_eq_singleton_iff.1 hclaims with ⟨-, hearlier⟩ | ⟨-, hearlier⟩
  · rw [reasonAt, hearlier]
    rfl
  · have hmem := claimed_iff.1 h
    rw [hearlier] at hmem
    cases hmem

/-- Nobody but the winner has yet to wake those who wait. -/
theorem Won.eq_of_claimed (won : c.Won index call) {i : Nat} {other : CancelCall}
    (held : c.calls[i]? = some other) (h : other.stage = .claimed) : i = index ∧ other = call := by
  by_cases hwinner : i = index
  · subst hwinner
    exact ⟨rfl, Option.some.inj (held.symm.trans won.held)⟩
  · rcases won.others i other hwinner held with hfresh | hreturned
    · cases h.symm.trans hfresh
    · cases h.symm.trans hreturned

/-- Calls that return tell apart who has won. -/
theorem Won.returned (won : c.Won index call) {i : Nat} {other : CancelCall} {returns : Bool}
    (held : c.calls[i]? = some other) (h : other.stage = .returned returns) :
    returns = true ↔ .claimed i other.reason ∈ c.past := by
  rw [claimed_iff, won.claimed, List.mem_singleton, Prod.mk.injEq]
  by_cases hwinner : i = index
  · subst hwinner
    obtain rfl := Option.some.inj (held.symm.trans won.held)
    have hwon := won.won
    rw [CancelCall.won, h] at hwon
    exact iff_of_true hwon ⟨rfl, rfl⟩
  · rcases won.others i other hwinner held with hfresh | hreturned
    · cases h.symm.trans hfresh
    · cases h.symm.trans hreturned
      exact iff_of_false Bool.false_ne_true fun heq => hwinner heq.1

theorem Won.eq_of_mem_past (won : c.Won index call) {i : Nat} {other : CancelCall}
    (held : c.calls[i]? = some other) (h : .claimed i reason ∈ c.past) :
    i = index ∧ other = call := by
  rw [claimed_iff, won.claimed, List.mem_singleton, Prod.mk.injEq] at h
  obtain ⟨rfl, -⟩ := h
  exact ⟨rfl, Option.some.inj (held.symm.trans won.held)⟩

theorem Won.settled (won : c.Won index call) (h : call.stage ≠ .claimed) :
    ∀ other ∈ c.calls, other.stage ≠ .claimed := by
  intro other hother hclaimed
  obtain ⟨i, hi⟩ := List.getElem?_of_mem hother
  obtain ⟨-, rfl⟩ := won.eq_of_claimed hi hclaimed
  exact h hclaimed

theorem Won.hook (won : c.Won index call) :
    c.task.hookCalls ≤ 1 ∧
      (c.task.hookCalls = 1 ↔ ∃ call ∈ c.calls, call.stage = .returned true) := by
  rw [won.hooked]
  split
  next hreturned =>
    exact ⟨Nat.le_refl 1, iff_of_true rfl ⟨call, List.mem_of_getElem? won.held, hreturned⟩⟩
  next hongoing =>
    refine ⟨Nat.zero_le 1, iff_of_false Nat.zero_ne_one ?_⟩
    rintro ⟨other, hother, hreturned⟩
    obtain ⟨i, hi⟩ := List.getElem?_of_mem hother
    obtain ⟨-, rfl⟩ := won.eq_of_mem_past hi ((won.returned hi hreturned).1 rfl)
    exact hongoing hreturned

theorem proceed_isSome (h : ∀ won, call.stage ≠ .returned won) :
    (c.proceed index call).isSome = true := by
  unfold Cancelling.proceed
  cases stage : call.stage with
  | fresh => cases hclaim : c.task.claim call.reason with | mk first task => cases first <;> rfl
  | claimed | notified => rfl
  | returned won => exact absurd stage (h won)

section Run

theorem act_run (hw : c.task.waiters[index]? = some w) : c.act (.run index) = c.run index w :=
  congrArg (Option.bind · fun w => c.run index w) hw

theorem run_done (hfresh : w.stage ≠ .fresh) (hstage : w.stage ≠ .done)
    (hdone : (c.task.resume w).stage = .done) :
    c.run index w = some ((c.setWaiter index (c.task.resume w)).record
      (.finished index c.task.reason)) := by
  simp [run, hstage, advance_eq_resume hfresh, hdone]

theorem run_fresh (h : w.stage = .fresh) :
    c.run index w = some (c.setWaiter index (CancellableTask.register w)) := by
  simp [run, h, advance, CancellableTask.register]

/-- What it takes to run a wait to where it waits or is over. -/
def poll (index : Nat) (w : Waiter) : List Action :=
  if w.stage = .fresh then [.run index, .run index] else [.run index]

theorem Won.resume_done (won : c.Won index call) {i : Nat} (hw : c.task.waiters[i]? = some w)
    (hawake : w.stage = .waiting → call.stage ≠ .claimed) : (c.task.resume w).stage = .done :=
  Cancelling.resume_done won.reason fun hwaits =>
    won.awake (hawake hwaits) w (List.mem_of_getElem? hw) hwaits

/-- A wait that is run is over, unless it waits for a winner who has not woken it yet. -/
theorem Won.poll (won : c.Won index call) {i : Nat} (hw : c.task.waiters[i]? = some w)
    (hstage : w.stage ≠ .done) (hawake : w.stage = .waiting → call.stage ≠ .claimed) :
    c.acts (poll i w) = some ((c.setWaiter i (c.task.resume w)).record
      (.finished i (some call.reason))) := by
  have hdone := won.resume_done hw hawake
  by_cases hfresh : w.stage = .fresh
  · let mid := c.setWaiter i (CancellableTask.register w)
    have hlength : i < c.task.waiters.length := (List.getElem?_eq_some_iff.1 hw).1
    have hmid : mid.task.waiters[i]? = some (CancellableTask.register w) :=
      List.getElem?_set_self hlength
    have hresume : mid.task.resume (CancellableTask.register w) = c.task.resume w :=
      resume_register hfresh
    have hover : (mid.task.resume (CancellableTask.register w)).stage = .done := hresume ▸ hdone
    have hset : mid.setWaiter i (c.task.resume w) = c.setWaiter i (c.task.resume w) := by
      simp [Cancelling.setWaiter, mid, List.set_set]
    have hsecond : mid.run i (CancellableTask.register w) = _ := run_done nofun nofun hover
    rw [Cancelling.poll, if_pos hfresh, acts, runs, act_run hw, run_fresh hfresh, Option.bind_some,
      runs, act_run hmid, hsecond, hresume, hset, Option.bind_some, runs]
    exact congrArg (fun reason => some ((c.setWaiter i _).record (.finished i reason))) won.reason
  · rw [Cancelling.poll, if_neg hfresh, acts, runs, act_run hw, run_done hfresh hstage hdone,
      won.reason]
    rfl

/-- A call that nobody comes between is the whole of a cancellation. -/
theorem acts_cancel (c : Cancelling) (reason : String) :
    ∃ steps last, (∀ action ∈ steps, action = .proceed c.calls.length) ∧
      c.acts (.cancel reason :: steps) = some last ∧
      last.task = (c.task.cancel reason).2 ∧
      last.calls = c.calls ++ [⟨reason, .returned (c.task.cancel reason).1⟩] := by
  cases hreason : c.task.reason with
  | none =>
    have hclaim : c.task.claim reason = (true, { c.task with reason := some reason }) := by
      simp [CancellableTask.claim, hreason]
    refine ⟨List.replicate 3 (.proceed c.calls.length),
      ⟨(c.task.cancel reason).2, c.calls ++ [⟨reason, .returned true⟩],
        [.returned c.calls.length true, .claimed c.calls.length reason] ++ c.past⟩,
      fun _ h => List.eq_of_mem_replicate h, ?_, rfl, ?_⟩
    · simp [acts, runs, act, Cancelling.proceed, hclaim, setCall, record, CancellableTask.cancel,
        List.replicate]
    · simp [CancellableTask.cancel, hclaim]
  | some first =>
    have hclaim : c.task.claim reason = (false, c.task) := by
      simp [CancellableTask.claim, hreason]
    refine ⟨[.proceed c.calls.length],
      ⟨(c.task.cancel reason).2, c.calls ++ [⟨reason, .returned false⟩],
        .returned c.calls.length false :: c.past⟩,
      fun _ h => List.mem_singleton.1 h, ?_, rfl, ?_⟩
    · simp [acts, runs, act, Cancelling.proceed, hclaim, setCall, record, CancellableTask.cancel]
    · simp [CancellableTask.cancel, hclaim]

end Run

section Asked

/-- The reason of the call that begins, if one does. -/
def Action.cancels? : Action → Option String
  | .cancel reason => some reason
  | _ => none

/-- The name of the wait that begins, if one does. -/
def Action.awaits? : Action → Option String
  | .await name => some name
  | _ => none

theorem map_set_of_eq {α β : Type} {f : α → β} {l : List α} {a b : α} (held : l[index]? = some a)
    (h : f b = f a) : (l.set index b).map f = l.map f := by
  obtain ⟨hlength, rfl⟩ := List.getElem?_eq_some_iff.1 held
  rw [List.map_set, h, ← List.map_set, List.set_getElem_self]

theorem advance_name (task : CancellableTask) (w : Waiter) : (advance task w).name = w.name := by
  unfold advance CancellableTask.resume
  split
  · rfl
  · split <;> try rfl
    split <;> rfl

theorem signal_name (w : Waiter) : (CancellableTask.signal w).name = w.name := by
  unfold CancellableTask.signal
  split <;> rfl

theorem claim_waiters (task : CancellableTask) (reason : String) :
    (task.claim reason).2.waiters = task.waiters := by
  unfold CancellableTask.claim
  split <;> rfl

/-- A call keeps its reason, and takes nobody off the list of those who wait. -/
theorem proceed_asked (held : c.calls[index]? = some call) (h : c.proceed index call = some next) :
    next.calls.map CancelCall.reason = c.calls.map CancelCall.reason ∧
      next.task.waiters.map Waiter.name = c.task.waiters.map Waiter.name := by
  have hcalls (stage : CancelCall.Stage) :
      (c.calls.set index { call with stage }).map CancelCall.reason =
        c.calls.map CancelCall.reason := map_set_of_eq held rfl
  unfold Cancelling.proceed at h
  split at h
  next =>
    have hwaiters := claim_waiters c.task call.reason
    split at h
    all_goals
      next hclaim =>
        rw [hclaim] at hwaiters
        obtain rfl := Option.some.inj h
        exact ⟨hcalls _, congrArg (List.map Waiter.name) hwaiters⟩
  next =>
    obtain rfl := Option.some.inj h
    refine ⟨hcalls _, ?_⟩
    show (c.task.waiters.map CancellableTask.signal).map Waiter.name = _
    rw [List.map_map]
    exact List.map_congr_left fun w _ => signal_name w
  next =>
    obtain rfl := Option.some.inj h
    exact ⟨hcalls _, rfl⟩
  next => cases h

/-- Calls and waits that have begun stay, each with what it was given. -/
theorem act_asked (hact : c.act action = some next) :
    next.calls.map CancelCall.reason = c.calls.map CancelCall.reason ++ action.cancels?.toList ∧
      next.task.waiters.map Waiter.name =
        c.task.waiters.map Waiter.name ++ action.awaits?.toList := by
  cases action with
  | cancel reason =>
    obtain rfl := Option.some.inj hact
    exact ⟨List.map_append, (List.append_nil _).symm⟩
  | proceed index =>
    obtain ⟨call, held, hstep⟩ := Option.bind_eq_some_iff.1 hact
    obtain ⟨hcalls, hwaiters⟩ := proceed_asked held hstep
    exact ⟨hcalls.trans (List.append_nil _).symm, hwaiters.trans (List.append_nil _).symm⟩
  | read =>
    obtain rfl := Option.some.inj hact
    exact ⟨(List.append_nil _).symm, (List.append_nil _).symm⟩
  | await name =>
    obtain rfl := Option.some.inj hact
    exact ⟨(List.append_nil _).symm, List.map_append⟩
  | run index =>
    obtain ⟨w, hw, hrun⟩ := Option.bind_eq_some_iff.1 hact
    have hwaiters : (c.task.waiters.set index (advance c.task w)).map Waiter.name =
        c.task.waiters.map Waiter.name := map_set_of_eq hw (advance_name c.task w)
    obtain ⟨-, heq⟩ := Option.ite_none_left_eq_some.1 hrun
    obtain rfl := Option.some.inj heq
    split <;> exact ⟨(List.append_nil _).symm, hwaiters.trans (List.append_nil _).symm⟩

theorem acts_asked (hacts : c.acts actions = some last) :
    last.calls.map CancelCall.reason =
        c.calls.map CancelCall.reason ++ actions.filterMap Action.cancels? ∧
      last.task.waiters.map Waiter.name =
        c.task.waiters.map Waiter.name ++ actions.filterMap Action.awaits? := by
  induction actions generalizing c with
  | nil =>
    obtain rfl := Option.some.inj hacts
    exact ⟨(List.append_nil _).symm, (List.append_nil _).symm⟩
  | cons action rest ih =>
    obtain ⟨next, hact, hrest⟩ := Option.bind_eq_some_iff.1 hacts
    obtain ⟨hcalls, hwaits⟩ := act_asked hact
    obtain ⟨hlater, hawaits⟩ := ih hrest
    rw [hlater, hawaits, hcalls, hwaits, List.append_assoc, List.append_assoc]
    cases action <;> exact ⟨rfl, rfl⟩

end Asked

/-- How the task is cancelled, asked about and waited for, at the end of a run from the start. -/
structure CancelledOnce (actions : List Action) (c : Cancelling) : Prop where
  calls : c.calls.map CancelCall.reason = actions.filterMap Action.cancels?
  waits : c.task.waiters.map Waiter.name = actions.filterMap Action.awaits?
  /-- One call at most sets the reason, and as soon as any call has gone on, one has. -/
  first : (c.past.filterMap CancelEvent.claim?).length ≤ 1
  begun : ∀ {index : Nat} {call : CancelCall}, c.calls[index]? = some call → call.stage ≠ .fresh →
    ∃ winner reason, .claimed winner reason ∈ c.past
  returned : ∀ {index : Nat} {call : CancelCall} {won : Bool}, c.calls[index]? = some call →
    call.stage = .returned won → (won = true ↔ .claimed index call.reason ∈ c.past)
  /-- No call has to wait for another. -/
  goes_on : ∀ {index : Nat} {call : CancelCall}, c.calls[index]? = some call →
    (∀ won, call.stage ≠ .returned won) → (c.act (.proceed index)).isSome = true
  hooked : c.task.hookCalls ≤ 1 ∧
    (c.task.hookCalls = 1 ↔ ∃ call ∈ c.calls, call.stage = .returned true)
  running : (∀ index first, .claimed index first ∉ c.past) →
    c.task.isCancelled = false ∧ c.task.reason = none ∧ c.task.ensureRunning = .ok ()
  cancelled : ∀ {index first}, .claimed index first ∈ c.past →
    c.task.isCancelled = true ∧ c.task.reason = some first ∧ c.task.ensureRunning = .error ⟨first⟩
  read_before : ∀ {later earlier cancelled reason running},
    c.past = later ++ .read cancelled reason running :: earlier →
      (∀ index first, .claimed index first ∉ earlier) →
        cancelled = false ∧ reason = none ∧ running = .ok ()
  read_after : ∀ {later earlier cancelled reason running index first},
    c.past = later ++ .read cancelled reason running :: earlier →
      .claimed index first ∈ earlier →
        cancelled = true ∧ reason = some first ∧ running = .error ⟨first⟩
  /-- No wait is over before the task has been cancelled. -/
  finished : ∀ {later earlier waiter reason},
    c.past = later ++ .finished waiter reason :: earlier →
      ∃ index first, .claimed index first ∈ earlier ∧ reason = some first
  asleep : (∀ index reason, .claimed index reason ∉ c.past) →
    ∀ w ∈ c.task.waiters, w.stage ≠ .done
  /-- Afterwards a wait is over as soon as it is run, unless it was waiting when the reason was set
  and the winner has still to wake it. -/
  wakes : ∀ {index first waiter} {w : Waiter}, .claimed index first ∈ c.past →
    c.task.waiters[waiter]? = some w → w.stage ≠ .done →
      (w.stage = .waiting → ∀ call ∈ c.calls, call.stage ≠ .claimed) →
        c.acts (poll waiter w) = some ((c.setWaiter waiter (c.task.resume w)).record
          (.finished waiter (some first))) ∧ (c.task.resume w).stage = .done
  /-- The winner's next step is to wake it, and so it has when it returns. -/
  woken : ∀ {index : Nat} {call : CancelCall}, c.calls[index]? = some call → call.stage = .claimed →
    ∃ next, c.act (.proceed index) = some next ∧ ∀ other ∈ next.calls, other.stage ≠ .claimed
  settled : (∃ call ∈ c.calls, call.stage = .returned true) →
    ∀ call ∈ c.calls, call.stage ≠ .claimed
  at_once : ∀ reason, ∃ steps last, (∀ action ∈ steps, action = .proceed c.calls.length) ∧
    c.acts (.cancel reason :: steps) = some last ∧ last.task = (c.task.cancel reason).2 ∧
      last.calls = c.calls ++ [⟨reason, .returned (c.task.cancel reason).1⟩]

section Sound

/-- A call that has gone on has cancelled the task or come too late. -/
theorem Sound.winner_of_begun (sound : c.Sound) (held : c.calls[index]? = some call)
    (hbegun : call.stage ≠ .fresh) : ∃ winner winning, c.Won winner winning := by
  rcases sound.phase with untouched | hwon
  · exact absurd (untouched.calls call (List.mem_of_getElem? held)) hbegun
  · exact hwon

theorem Sound.length_claims_le (sound : c.Sound) :
    (c.past.filterMap CancelEvent.claim?).length ≤ 1 := by
  rcases sound.phase with untouched | ⟨winner, winning, won⟩
  · simp [untouched.unclaimed]
  · simp [won.claimed]

theorem Sound.hook (sound : c.Sound) : c.task.hookCalls ≤ 1 ∧
    (c.task.hookCalls = 1 ↔ ∃ call ∈ c.calls, call.stage = .returned true) := by
  rcases sound.phase with untouched | ⟨winner, winning, won⟩
  · have hnone : ¬ ∃ call ∈ c.calls, call.stage = .returned true := by
      rintro ⟨call, hcall, hreturned⟩
      cases hreturned.symm.trans (untouched.calls call hcall)
    simp [untouched.unhooked, hnone]
  · exact won.hook

/-- Whoever has claimed the task wakes those who wait when it goes on next. -/
theorem Sound.woken (sound : c.Sound) (held : c.calls[index]? = some call)
    (hstage : call.stage = .claimed) :
    ∃ next, c.act (.proceed index) = some next ∧ ∀ other ∈ next.calls, other.stage ≠ .claimed := by
  obtain ⟨winner, winning, won⟩ := sound.winner_of_begun held (by simp [hstage])
  obtain ⟨rfl, rfl⟩ := won.eq_of_claimed held hstage
  have hsome : (c.proceed index call).isSome = true := proceed_isSome (by simp [hstage])
  obtain ⟨next, hstep⟩ := Option.isSome_iff_exists.1 hsome
  have hact : c.act (.proceed index) = some next := by
    rw [Cancelling.act, held, Option.bind_some, hstep]
  rcases won.proceed hstep with ⟨-, hnext, -⟩ | ⟨hnotified, -⟩
  · exact ⟨next, hact, hnext.settled nofun⟩
  · cases hstage.symm.trans hnotified

/-- When the winner has returned, nobody is left to be woken. -/
theorem Sound.settled (sound : c.Sound) (h : ∃ call ∈ c.calls, call.stage = .returned true) :
    ∀ call ∈ c.calls, call.stage ≠ .claimed := by
  obtain ⟨call, hcall, hreturned⟩ := h
  obtain ⟨i, held⟩ := List.getElem?_of_mem hcall
  obtain ⟨winner, winning, won⟩ := sound.winner_of_begun held (by simp [hreturned])
  have hclaimed := (won.returned held hreturned).1 rfl
  obtain ⟨-, rfl⟩ := won.eq_of_mem_past held hclaimed
  exact won.settled (by simp [hreturned])

end Sound

section Result

variable {task : Task} {onParentLeaving withChildren : Bool}

/-- The first call to go on cancels the task for good, and whoever waits or asks, before or after,
gets to know its reason. -/
theorem cancelled_once
    (hacts : (start task onParentLeaving withChildren).acts actions = some last) :
    CancelledOnce actions last := by
  have sound := (sound_start task onParentLeaving withChildren).acts hacts
  constructor
  case calls => exact (acts_asked hacts).1
  case waits => exact (acts_asked hacts).2
  case first => exact sound.length_claims_le
  case begun =>
    intro index call held hbegun
    obtain ⟨winner, winning, won⟩ := sound.winner_of_begun held hbegun
    exact ⟨winner, winning.reason, won.mem_past⟩
  case returned =>
    intro index call returns held hreturned
    obtain ⟨winner, winning, won⟩ := sound.winner_of_begun held (by simp [hreturned])
    exact won.returned held hreturned
  case goes_on =>
    intro index call held hongoing
    rw [act, held, Option.bind_some]
    exact proceed_isSome hongoing
  case hooked => exact sound.hook
  case running =>
    intro hnone
    have free := (sound.untouched hnone).free
    simp [CancellableTask.isCancelled, CancellableTask.ensureRunning, free]
  case cancelled =>
    intro index first hclaimed
    obtain ⟨call, won, rfl⟩ := sound.won hclaimed
    simp [CancellableTask.isCancelled, CancellableTask.ensureRunning, won.reason]
  case read_before =>
    intro later earlier cancelled reason running hpast hnone
    obtain ⟨rfl, rfl, rfl⟩ := sound.warranted later _ earlier hpast
    have hreason : reasonAt earlier = none := reasonAt_eq_none hnone
    simp [hreason]
  case read_after =>
    intro later earlier cancelled reason running index first hpast hclaimed
    obtain ⟨rfl, rfl, rfl⟩ := sound.warranted later _ earlier hpast
    have hreason : reasonAt earlier = some first :=
      sound.reasonAt_of_claimed (hpast.trans (List.append_cons ..)) hclaimed
    simp [hreason]
  case finished =>
    intro later earlier waiter reason hpast
    obtain ⟨hreason, hsome⟩ := sound.warranted later _ earlier hpast
    obtain ⟨first, rfl⟩ := Option.isSome_iff_exists.1 hsome
    obtain ⟨index, hclaimed⟩ := claimed_of_reasonAt hreason.symm
    exact ⟨index, first, hclaimed, rfl⟩
  case asleep =>
    intro hnone w hw
    exact ((sound.untouched hnone).asleep w hw).1
  case wakes =>
    intro index first waiter w hclaimed hw hstage hawake
    obtain ⟨call, won, rfl⟩ := sound.won hclaimed
    have hcall : w.stage = .waiting → call.stage ≠ .claimed := fun hwaits =>
      hawake hwaits call (List.mem_of_getElem? won.held)
    exact ⟨won.poll hw hstage hcall, won.resume_done hw hcall⟩
  case woken =>
    intro index call held hstage
    exact sound.woken held hstage
  case settled => exact sound.settled
  case at_once => exact acts_cancel last

end Result

section Trial

def trialTask : Task := ⟨1, "transport", "work", "", .unset, .empty, 0⟩

/-- One wait begins before the task is cancelled, one between the claim and the wake-up, and one
afterwards; a second call comes in before the first is through. -/
def contendedActions : List Action :=
  [.await "early", .run 0, .run 0, .read, .cancel "by user", .cancel "second attempt",
    .await "between", .proceed 0, .run 1, .run 0, .proceed 1, .proceed 0, .run 0, .run 1, .read,
    .proceed 0, .await "late", .run 2]

def contended : Cancelling :=
  ((start trialTask true false).acts contendedActions).get (by decide +kernel)

theorem cancelled_once_contended :
    (start trialTask true false).acts contendedActions = some contended ∧
      CancelledOnce contendedActions contended ∧ contended.task.reason = some "by user" ∧
      contended.calls.map CancelCall.stage = [.returned true, .returned false] ∧
      contended.task.waiters.map Waiter.stage = [.done, .done, .registered] := by
  have hacts : (start trialTask true false).acts contendedActions = some contended :=
    (Option.some_get _).symm
  exact ⟨hacts, cancelled_once hacts, by decide +kernel, by decide +kernel, by decide +kernel⟩

end Trial

end Cancelling
end ClusterWatch
