import ClusterWatch.Proofs.Readiness.Accounting

/-!
How a wait comes out. Where all that is due is done before anything else comes from outside, and the
clock stops wherever a wait is given up, a wait that goes to the background is over at the first of
the rooms passed through in which something decides it: the current snapshot, the closing of the
supplier, the cancellation of its task or the end of its time. A wait is known here by its name,
which is that of no other wait.
-/
namespace ClusterWatch.WaitingRoom

variable {room next last : WaitingRoom} {action : Action} {actions : List Action}
  {order : WaitOrder} {task : Option String} {deadline time : Nat} {result : WaitResult}

/-- What decides a wait other than its time. -/
def cause? (room : WaitingRoom) (order : WaitOrder) (task : Option String) : Option WaitResult :=
  if order.metBy room.supplier.current then some .active
  else if room.supplier.closed then some (.failed (.nodeClosed room.supplier.localNode))
  else (room.cancellation? task).map fun reason => .failed (.cancelled reason)

/-- How a wait comes out that is found undecided in a room. -/
def verdict? (room : WaitingRoom) (order : WaitOrder) (task : Option String) (deadline : Nat) :
    Option WaitResult :=
  room.cause? order task <|> if deadline ≤ room.now then some .timedOut else none

/-- The rooms passed through. -/
def visits (room : WaitingRoom) : List Action → List WaitingRoom
  | [] => [room]
  | action :: rest => room :: (room.act action).elim [] fun next => next.visits rest

/-- When and how a wait comes out, by the first of the rooms that decides it. -/
def outcome? (room : WaitingRoom) (order : WaitOrder) (task : Option String) (deadline : Nat)
    (actions : List Action) : Option (Nat × WaitResult) :=
  (room.visits actions).findSome? fun visited =>
    (visited.verdict? order task deadline).map fun result => (visited.now, result)

theorem outcome?_of_verdict (h : room.verdict? order task deadline = some result)
    (actions : List Action) :
    room.outcome? order task deadline actions = some (room.now, result) := by
  cases actions <;> rw [outcome?, visits, List.findSome?_cons_of_isSome] <;> simp [h]

theorem outcome?_nil (room : WaitingRoom) (order : WaitOrder) (task : Option String)
    (deadline : Nat) : room.outcome? order task deadline [] =
      (room.verdict? order task deadline).map fun result => (room.now, result) := by
  cases h : room.verdict? order task deadline <;> simp [outcome?, visits, h]

theorem outcome?_cons (h : room.verdict? order task deadline = none)
    (hact : room.act action = some next) (actions : List Action) :
    room.outcome? order task deadline (action :: actions) =
      next.outcome? order task deadline actions := by
  rw [outcome?, visits, hact, List.findSome?_cons_of_isNone] <;> simp [h, outcome?]

/-- Whatever happens, the outcome of a wait is settled by its deadline. -/
theorem outcome?_isSome (hacts : room.acts actions = some last) (late : deadline ≤ last.now) :
    (room.outcome? order task deadline actions).isSome := by
  induction actions generalizing room with
  | nil =>
    obtain rfl := Option.some.inj hacts
    rw [outcome?_nil, verdict?, if_pos late]
    cases room.cause? order task <;> rfl
  | cons action rest ih =>
    obtain ⟨next, hact, hrest⟩ := Option.bind_eq_some_iff.1 hacts
    cases h : room.verdict? order task deadline with
    | none => exact outcome?_cons h hact rest ▸ ih hrest
    | some result => exact outcome?_of_verdict h _ ▸ rfl

theorem sighted?_eq (room : WaitingRoom) (order : WaitOrder) (deadline : Nat) :
    room.sighted? order deadline = room.verdict? order none deadline := by
  cases hmet : order.metBy room.supplier.current <;>
    cases hclosed : room.supplier.closed <;>
      simp [sighted?, verdict?, cause?, cancellation?, hmet, hclosed]

/-- As long as the task has not been cancelled, the verdict is what there is to see. -/
theorem verdict?_of_running (h : room.cancellation? task = none) :
    room.verdict? order task deadline = room.sighted? order deadline := by
  rw [sighted?_eq, verdict?, verdict?, cause?, cause?, h]
  rfl

theorem verdict?_of_cancelled {reason : String} (unseen : room.sighted? order deadline = none)
    (h : room.cancellation? task = some reason) :
    room.verdict? order task deadline = some (.failed (.cancelled reason)) := by
  unfold sighted? at unseen
  split at unseen
  · cases unseen
  next hmet =>
    split at unseen
    · cases unseen
    next hclosed =>
      rw [verdict?, cause?, if_neg hmet, if_neg hclosed, h]
      rfl

/-! ### What an action changes of all this -/

theorem cancellation?_congr (h : next.tasks = room.tasks) (task : Option String) :
    next.cancellation? task = room.cancellation? task := by
  unfold cancellation? task?
  rw [h]

theorem sighted?_congr (hsupplier : next.supplier = room.supplier) (hnow : next.now = room.now)
    (order : WaitOrder) (deadline : Nat) :
    next.sighted? order deadline = room.sighted? order deadline := by
  unfold sighted?
  rw [hsupplier, hnow]

theorem verdict?_congr (htasks : next.tasks = room.tasks)
    (hsupplier : next.supplier = room.supplier) (hnow : next.now = room.now) (order : WaitOrder)
    (task : Option String) (deadline : Nat) :
    next.verdict? order task deadline = room.verdict? order task deadline := by
  unfold verdict? cause?
  rw [hsupplier, hnow, cancellation?_congr htasks]

/-- Only a cancellation that wins gives the task a reason. -/
theorem cancellation?_cancel (room : WaitingRoom) (name reason other : String) :
    (room.cancel name reason).2.cancellation? (some other) =
      if name = other ∧ (room.cancel name reason).1 = true then some reason
      else room.cancellation? (some other) := by
  unfold cancel
  cases htask : room.task? name with
  | none => simp
  | some task =>
    have hinsert (t : CancellableTask) :
        { room with tasks := room.tasks.insert (name, t) }.cancellation? (some other) =
          if name = other then t.reason else room.cancellation? (some other) := by
      unfold cancellation? task?
      rw [Option.bind_some, Option.bind_some, Table.find?_insert]
      by_cases hname : name = other <;> simp [hname]
    refine (hinsert _).trans ?_
    have hsame : name = other → room.cancellation? (some other) = task.reason := fun hname => by
      rw [← hname, cancellation?, Option.bind_some, htask, Option.bind_some]
    unfold CancellableTask.cancel CancellableTask.claim
    by_cases hname : name = other <;> cases hreason : task.reason <;>
      simp [*, CancellableTask.notify, CancellableTask.callHook]

theorem mem_waits_of_asked {awaited : Bool} (asked : room.Asked order task awaited next) {w : Wait}
    (hw : w ∈ room.waits) : w ∈ next.waits := by
  cases asked with
  | met | cancelled => exact hw
  | background => exact List.mem_append_left _ hw

/-- A wait stays as it is until its turn comes. -/
theorem Step.stays (orderly : room.Orderly) (step : room.Step action next) {w : Wait}
    (hw : w ∈ room.waits) : w ∈ next.waits ∨ action.outside = false ∧ room.Stretch w next := by
  cases step with
  | wait order task => exact .inl (mem_waits_of_asked (wait_asked room order task false) hw)
  | @begin heed order rest turn =>
    exact .inl (mem_waits_of_asked (wait_asked { room with orders := rest } order none true) hw)
  | @stretch heed u next member stretch =>
    by_cases hnumber : w.number = u.number
    · obtain rfl := List.inj_on_of_nodup_map orderly.distinct_waits hw member hnumber
      exact .inr ⟨rfl, stretch⟩
    left
    cases stretch with
    | cancelled | sighted => exact List.mem_filter.2 ⟨hw, by simpa using hnumber⟩
    | lost =>
      rw [waits_lose]
      exact List.mem_filter.2 ⟨hw, decide_eq_true hnumber⟩
    | waits => exact List.mem_map.2 ⟨w, hw, if_neg hnumber⟩
  | cancel name reason =>
    obtain ⟨tasks, heq⟩ := room.cancel_eq name reason
    rw [heq]
    exact .inl hw
  | waitLater | callback | publish | close | beside | elapse => exact .inl hw

/-- A callback is kept until it runs. -/
theorem Step.keeps (orderly : room.Orderly) (step : room.Step action next) {c : Callback}
    (hc : c ∈ room.callbacks) : c ∈ next.callbacks ∨ next = room.tell c := by
  cases step with
  | wait order task =>
    obtain ⟨waits, waitsMade, pending, resolutions, -, heq⟩ := room.wait_frame order task false
    exact .inl (heq ▸ hc)
  | @begin heed order rest turn =>
    obtain ⟨waits, waitsMade, pending, resolutions, -, heq⟩ :=
      wait_frame { room with orders := rest } order none true
    exact .inl (heq ▸ hc)
  | @stretch heed w next member stretch =>
    left
    cases stretch with
    | cancelled | sighted => exact List.mem_append_left _ hc
    | lost =>
      rcases room.lose_cases (room.dated w) with ⟨-, heq⟩ | ⟨-, heq⟩ <;> rw [heq]
      · exact List.mem_append_left _ hc
      · exact hc
    | waits => exact hc
  | @callback heed other member =>
    by_cases hnumber : c.number = other.number
    · exact .inr (by rw [List.inj_on_of_nodup_map orderly.distinct_callbacks hc member hnumber])
    · exact .inl (List.mem_filter.2 ⟨hc, by simpa using hnumber⟩)
  | cancel name reason =>
    obtain ⟨tasks, heq⟩ := room.cancel_eq name reason
    exact .inl (heq ▸ hc)
  | waitLater | publish | close | beside | elapse => exact .inl hc

theorem cancellation?_of_won {name reason : String} (won : (room.cancel name reason).1 = true) :
    room.cancellation? (some name) = none := by
  unfold cancel at won
  cases htask : room.task? name with
  | none => simp [cancellation?, htask]
  | some task =>
    rw [htask] at won
    cases hreason : task.reason with
    | none => simp [cancellation?, htask, hreason]
    | some earlier => simp [CancellableTask.cancel, CancellableTask.claim, hreason] at won

/-- The reason of a task that has been cancelled is there for good. -/
theorem Step.stays_cancelled {name reason : String} (step : room.Step action next)
    (h : room.cancellation? (some name) = some reason) :
    next.cancellation? (some name) = some reason := by
  rcases step.frame.scene with ⟨htasks, -⟩ | ⟨htasks, -⟩ | ⟨other, later, -, rfl⟩
  · exact (cancellation?_congr htasks _).trans h
  · exact (cancellation?_congr htasks _).trans h
  · rw [cancellation?_cancel]
    split
    next hwon =>
      obtain ⟨rfl, won⟩ := hwon
      rw [cancellation?_of_won won] at h
      cases h
    · exact h

/-! ### Prompt runs -/

/-- Nothing comes from outside before all that is due is done, and the clock stops wherever a wait
is given up. -/
def Ready (room : WaitingRoom) (action : Action) : Prop :=
  (action.outside = true → room.Quiet) ∧ ∀ time ∈ action.elapses?, ∀ w ∈ room.waits,
    ∀ deadline ∈ w.deadline, room.now + time ≤ deadline

def RunsPromptly (room : WaitingRoom) : List Action → Prop
  | [] => True
  | action :: rest => room.Ready action ∧ ∀ next ∈ room.act action, next.RunsPromptly rest

/-- All that may have something to do. -/
def activities (room : WaitingRoom) : List Activity :=
  .begin :: (room.waits.map fun w => .wait w.number) ++
    (room.callbacks.map fun c => .callback c.number) ++
    (List.range room.lookouts.length).map .lookout

theorem quiet_iff : room.Quiet ↔ ∀ heed, ∀ a ∈ room.activities, room.run heed a = none := by
  refine ⟨fun quiet heed a _ => quiet heed a, fun hidle heed a => ?_⟩
  by_cases hmem : a ∈ room.activities
  · exact hidle heed a hmem
  · cases a with
    | begin => simp [activities] at hmem
    | wait number =>
      have hnone : room.waits.find? (fun w => w.number = number) = none :=
        List.find?_eq_none.2 fun w hw heq => hmem (by
          simpa [activities] using ⟨w, hw, by simpa using heq⟩)
      rw [run, hnone, Option.bind_none]
    | callback number =>
      have hnone : room.callbacks.find? (fun c => c.number = number) = none :=
        List.find?_eq_none.2 fun c hc heq => hmem (by
          simpa [activities] using ⟨c, hc, by simpa using heq⟩)
      rw [run, callback?, hnone, Option.map_none]
    | lookout index =>
      have hnone : room.lookouts[index]? = none :=
        List.getElem?_eq_none (by simpa [activities] using hmem)
      rw [run, hnone, Option.bind_none]

instance (room : WaitingRoom) : Decidable room.Quiet := decidable_of_iff _ quiet_iff.symm

instance (room : WaitingRoom) (action : Action) : Decidable (room.Ready action) :=
  inferInstanceAs (Decidable (_ ∧ _))

instance decidableRunsPromptly :
    (room : WaitingRoom) → (actions : List Action) → Decidable (room.RunsPromptly actions)
  | _, [] => isTrue trivial
  | room, action :: rest =>
      have (next : WaitingRoom) : Decidable (next.RunsPromptly rest) :=
        decidableRunsPromptly next rest
      inferInstanceAs (Decidable (room.Ready action ∧ ∀ next ∈ room.act action, _))

/-- The wait of a name goes on in the background, and is not late; its deadline is one that the clock
can tell; if something decides it, then one thing alone. -/
structure Awaits (room : WaitingRoom) (order : WaitOrder) (task : Option String)
    (deadline : Nat) : Prop where
  member : ∃ w ∈ room.waits, w.order = order ∧ w.task = task ∧ room.deadlineOf w = deadline
  single : room.known order.name = 1
  inTime : room.now ≤ deadline
  tellable : deadline ≤ room.horizon
  apart : room.sighted? order deadline = none ∨ room.cancellation? task = none

theorem Awaits.results (h : room.Awaits order task deadline) : room.results order.name = [] := by
  obtain ⟨w, hw, rfl, -⟩ := h.member
  have hunresolved : w.order.name ∈ room.unresolved :=
    List.mem_append_left _ (List.mem_append_left _ (List.mem_map.2 ⟨w, hw, rfl⟩))
  have hpos := List.count_pos_iff.2 hunresolved
  have hsingle := h.single
  unfold known at hsingle
  exact List.eq_nil_of_length_eq_zero (by omega)

/-- Where nothing is left to do, nothing has decided the wait. -/
theorem Awaits.undecided (orderly : room.Orderly) (quiet : room.Quiet)
    (h : room.Awaits order task deadline) :
    room.cancellation? task = none ∧ room.sighted? order deadline = none ∧
      ∃ w ∈ room.waits, w.order = order ∧ w.task = task ∧ w.deadline = some deadline := by
  obtain ⟨w, hw, rfl, rfl, rfl⟩ := h.member
  obtain ⟨hrunning, deadline, hset, -, hunsighted⟩ := wait_of_quiet orderly quiet hw
  have hdeadline : room.deadlineOf w = deadline := by rw [deadlineOf, hset, Option.getD_some]
  rw [hdeadline]
  exact ⟨hrunning, hunsighted, w, hw, rfl, rfl, hset⟩

/-- The wait of a name has come out, and its callback is to run. -/
structure Decided (room : WaitingRoom) (name : String) (result : WaitResult) : Prop where
  member : ∃ c ∈ room.callbacks, c.name = name ∧ c.result = result
  single : room.known name = 1

theorem Decided.results {name : String} (h : room.Decided name result) :
    room.results name = [] := by
  obtain ⟨c, hc, rfl, -⟩ := h.member
  have hunresolved : c.name ∈ room.unresolved :=
    List.mem_append_left _ (List.mem_append_right _ (List.mem_map_of_mem hc))
  have hpos := List.count_pos_iff.2 hunresolved
  have hsingle := h.single
  unfold known at hsingle
  exact List.eq_nil_of_length_eq_zero (by omega)

/-- Nothing comes from outside until the callback has run, and so the clock stands still. -/
theorem Decided.step {name : String} (orderly : room.Orderly) (h : room.Decided name result)
    (ready : room.Ready action) (asks : action.asks? ≠ some name) (step : room.Step action next) :
    next.Decided name result ∧ next.now = room.now ∨
      next.results name = [(room.now, result)] := by
  obtain ⟨c, hc, rfl, rfl⟩ := h.member
  have hinside : action.elapses? = none := by
    cases action with
    | elapse time =>
      have hnone := callbacks_of_quiet (ready.1 rfl)
      simp [hnone] at hc
    | _ => rfl
  have hnow : next.now = room.now := by
    rw [step.frame.now, hinside]
    rfl
  rcases step.keeps orderly hc with hkept | rfl
  · exact .inl ⟨⟨⟨c, hkept, rfl, rfl⟩, (step.known_of_unasked orderly asks).trans h.single⟩, hnow⟩
  · right
    unfold tell
    rw [results_resolve, Function.update_self]
    exact congrArg (List.cons _) h.results

/-- The turn of the wait itself: it comes out as it is decided, or goes on undecided. -/
theorem Awaits.stretch {w : Wait} (h : room.Awaits w.order w.task (room.deadlineOf w))
    (hw : w ∈ room.waits) (single : next.known w.order.name = 1) (stretch : room.Stretch w next) :
    (next.Awaits w.order w.task (room.deadlineOf w) ∧
        room.verdict? w.order w.task (room.deadlineOf w) = none) ∨
      ∃ result, room.verdict? w.order w.task (room.deadlineOf w) = some result ∧
        next.Decided w.order.name result := by
  have hcallback (result : WaitResult) :
      ∃ c ∈ (room.finish w result).callbacks, c.name = w.order.name ∧ c.result = result :=
    ⟨_, List.mem_append_right _ (List.mem_singleton.2 rfl), rfl, rfl⟩
  cases stretch with
  | cancelled cause =>
    have hunsighted := h.apart.resolve_right (by simp [cause])
    exact .inr ⟨_, verdict?_of_cancelled hunsighted cause, hcallback _, single⟩
  | lost beyond => exact absurd h.tellable (Nat.not_le.2 beyond)
  | sighted cause =>
    have hrunning := h.apart.resolve_left (by simp [cause])
    exact .inr ⟨_, (verdict?_of_running hrunning).trans cause, hcallback _, single⟩
  | waits within unmet running fresh =>
    have hawaits : Awaits (room.setWait { w with
        deadline := some (room.deadlineOf w)
        observer := w.observer.caughtUp room.supplier }) w.order w.task (room.deadlineOf w) :=
      ⟨⟨_, List.mem_map.2 ⟨w, hw, if_pos rfl⟩, rfl, rfl, rfl⟩, single, h.inTime, within,
        .inr running⟩
    exact .inl ⟨hawaits, (verdict?_of_running running).trans unmet⟩

/-- What comes from outside finds the wait undecided, so it alone decides it, if anything does. -/
theorem Awaits.outside (orderly : room.Orderly) (h : room.Awaits order task deadline)
    (ready : room.Ready action) (outside : action.outside = true)
    (single : next.known order.name = 1) (step : room.Step action next)
    (scene : next.tasks = room.tasks ∨ next.supplier = room.supplier ∧ action.elapses? = none) :
    next.Awaits order task deadline ∧ room.verdict? order task deadline = none := by
  obtain ⟨hrunning, hunsighted, w, hw, rfl, rfl, hset⟩ := h.undecided orderly (ready.1 outside)
  have hstays : w ∈ next.waits := (step.stays orderly hw).resolve_right (by simp [outside])
  have hnow := step.frame.now
  refine ⟨⟨⟨w, hstays, rfl, rfl, by rw [deadlineOf, hset, Option.getD_some]⟩, single, ?_,
    step.frame.horizon ▸ h.tellable, ?_⟩, (verdict?_of_running hrunning).trans hunsighted⟩
  · cases helapses : action.elapses? with
    | none =>
      rw [hnow, helapses]
      exact h.inTime
    | some time =>
      rw [hnow, helapses]
      exact ready.2 time helapses w hw deadline hset
  · rcases scene with htasks | ⟨hsupplier, hstill⟩
    · exact .inr ((cancellation?_congr htasks _).trans hrunning)
    · refine .inl ((sighted?_congr hsupplier ?_ ..).trans hunsighted)
      rw [hnow, hstill]
      rfl

theorem Awaits.step (orderly : room.Orderly) (h : room.Awaits order task deadline)
    (ready : room.Ready action) (asks : action.asks? ≠ some order.name)
    (step : room.Step action next) :
    (next.Awaits order task deadline ∧ ∀ result, room.verdict? order task deadline = some result →
        next.verdict? order task deadline = some result ∧ next.now = room.now) ∨
      ∃ result, room.verdict? order task deadline = some result ∧
        next.Decided order.name result ∧ next.now = room.now := by
  have single : next.known order.name = 1 := (step.known_of_unasked orderly asks).trans h.single
  have hundecided {P : WaitResult → Prop} (hverdict : room.verdict? order task deadline = none)
      (result : WaitResult) (hresult : room.verdict? order task deadline = some result) :
      P result := by
    rw [hverdict] at hresult
    cases hresult
  rcases step.frame.scene with
    ⟨htasks, hsupplier, hstill⟩ | ⟨htasks, houtside⟩ | ⟨name, reason, rfl, rfl⟩
  · have hnow : next.now = room.now := by rw [step.frame.now, hstill]; rfl
    obtain ⟨w, hw, rfl, rfl, rfl⟩ := h.member
    rcases step.stays orderly hw with hstays | ⟨-, hstretch⟩
    · have hdeadline : next.deadlineOf w = room.deadlineOf w := by rw [deadlineOf, deadlineOf, hnow]
      refine .inl ⟨⟨⟨w, hstays, rfl, rfl, hdeadline⟩, single, hnow ▸ h.inTime,
        step.frame.horizon ▸ h.tellable, ?_⟩,
        fun result hresult => ⟨?_, hnow⟩⟩
      · rw [sighted?_congr hsupplier hnow, cancellation?_congr htasks]
        exact h.apart
      · exact (verdict?_congr htasks hsupplier hnow ..).trans hresult
    · exact (h.stretch hw single hstretch).imp (fun hnext => ⟨hnext.1, hundecided hnext.2⟩)
        fun hdone => hdone.imp fun result hresult => ⟨hresult.1, hresult.2, hnow⟩
  · have hnext := h.outside orderly ready houtside single step (.inl htasks)
    exact .inl ⟨hnext.1, hundecided hnext.2⟩
  · have hsupplier : (room.cancel name reason).2.supplier = room.supplier := by
      obtain ⟨tasks, heq⟩ := room.cancel_eq name reason
      rw [heq]
    have hnext := h.outside orderly ready rfl single step (.inr ⟨hsupplier, rfl⟩)
    exact .inl ⟨hnext.1, hundecided hnext.2⟩

/-- What is over stays as it is: nobody else goes by the name, and nobody is told twice. -/
theorem results_stay {name : String} {entry : Nat × WaitResult}
    (orderly : room.Orderly) (single : room.known name = 1) (told : room.results name = [entry])
    (unasked : ∀ action ∈ actions, action.asks? ≠ some name)
    (hacts : room.acts actions = some last) : last.results name = [entry] := by
  refine (acts_keep (P := fun room => room.known name = 1 ∧ room.results name = [entry])
    (Q := fun action => action.asks? ≠ some name)
    (fun {room action next} orderly h asks step => ?_) orderly ⟨single, told⟩ unasked hacts).2.2
  have hsingle := (step.known_of_unasked orderly asks).trans h.1
  refine ⟨hsingle, ?_⟩
  rcases (step.booked orderly).results name with hsame | ⟨more, hmore⟩
  · exact hsame.trans h.2
  · rw [known, hmore, h.2] at hsingle
    simp only [List.length_cons, List.length_nil] at hsingle
    omega

/-- A callback that is to run runs before the clock moves on, unless there is still something to
do. -/
theorem Decided.told {name : String} (orderly : room.Orderly) (h : room.Decided name result)
    (prompt : room.RunsPromptly actions) (unasked : ∀ action ∈ actions, action.asks? ≠ some name)
    (hacts : room.acts actions = some last) :
    last.results name = [(room.now, result)] ∨ ¬last.Quiet ∧ last.results name = [] := by
  induction actions generalizing room with
  | nil =>
    obtain rfl := Option.some.inj hacts
    obtain ⟨c, hc, -⟩ := h.member
    exact .inr ⟨fun quiet => by simp [callbacks_of_quiet quiet] at hc, h.results⟩
  | cons action rest ih =>
    obtain ⟨next, hact, hrest⟩ := Option.bind_eq_some_iff.1 hacts
    have hstep := act_step orderly hact
    have hasks := unasked action List.mem_cons_self
    have hunasked := fun other hother => unasked other (List.mem_cons_of_mem action hother)
    rcases h.step orderly prompt.1 hasks hstep with ⟨hnext, hnow⟩ | hresults
    · exact hnow ▸ ih (hstep.orderly orderly) hnext (prompt.2 next hact) hunasked hrest
    · have hsingle := (hstep.known_of_unasked orderly hasks).trans h.single
      exact .inl (results_stay (hstep.orderly orderly) hsingle hresults hunasked hrest)

theorem le_of_timedOut (h : room.verdict? order task deadline = some .timedOut) :
    deadline ≤ room.now := by
  by_contra hearly
  rw [verdict?, if_neg hearly, cause?] at h
  split at h
  · cases h
  · split at h
    · cases h
    · cases hreason : room.cancellation? task <;> simp [hreason] at h

theorem Awaits.within (h : room.Awaits order task deadline)
    (hverdict : room.verdict? order task deadline = some result) {entry : Nat × WaitResult}
    (hentry : (room.now, result) = entry) :
    room.now ≤ entry.1 ∧ entry.1 ≤ deadline ∧ (entry.2 = .timedOut → entry.1 = deadline) := by
  subst hentry
  refine ⟨Nat.le_refl _, h.inTime, fun htimedOut => ?_⟩
  obtain rfl : result = .timedOut := htimedOut
  exact Nat.le_antisymm h.inTime (le_of_timedOut hverdict)

/-- The wait is told what its outcome is, unless there is still something to do, and the outcome is
in time. -/
theorem Awaits.told (orderly : room.Orderly) (h : room.Awaits order task deadline)
    (prompt : room.RunsPromptly actions)
    (unasked : ∀ action ∈ actions, action.asks? ≠ some order.name)
    (hacts : room.acts actions = some last) :
    (last.results order.name = (room.outcome? order task deadline actions).toList ∨
        ¬last.Quiet ∧ last.results order.name = []) ∧
      ∀ {time result}, room.outcome? order task deadline actions = some (time, result) →
        room.now ≤ time ∧ time ≤ deadline ∧ (result = .timedOut → time = deadline) := by
  induction actions generalizing room with
  | nil =>
    obtain rfl := Option.some.inj hacts
    cases hverdict : room.verdict? order task deadline with
    | none =>
      constructor
      · rw [outcome?_nil, hverdict, h.results]
        exact .inl rfl
      · intro time result houtcome
        simp [outcome?_nil, hverdict] at houtcome
    | some result =>
      refine ⟨.inr ⟨fun quiet => ?_, h.results⟩, fun houtcome => ?_⟩
      · obtain ⟨hrunning, hunsighted, -⟩ := h.undecided orderly quiet
        rw [verdict?_of_running hrunning, hunsighted] at hverdict
        cases hverdict
      · rw [outcome?_of_verdict hverdict] at houtcome
        exact h.within hverdict (Option.some.inj houtcome)
  | cons action rest ih =>
    obtain ⟨next, hact, hrest⟩ := Option.bind_eq_some_iff.1 hacts
    have hstep := act_step orderly hact
    have hasks := unasked action List.mem_cons_self
    have hunasked := fun other hother => unasked other (List.mem_cons_of_mem action hother)
    rcases h.step orderly prompt.1 hasks hstep with
      ⟨hnext, hkept⟩ | ⟨result, hverdict, hdecided, hnow⟩
    · -- What has decided the wait stands until its turn comes, so the outcome is that of the rest.
      have houtcome : room.outcome? order task deadline (action :: rest) =
          next.outcome? order task deadline rest := by
        cases hverdict : room.verdict? order task deadline with
        | none => exact outcome?_cons hverdict hact rest
        | some result =>
          obtain ⟨hsame, hnow⟩ := hkept result hverdict
          rw [outcome?_of_verdict hverdict, outcome?_of_verdict hsame, hnow]
      obtain ⟨hanswered, hwithin⟩ :=
        ih (hstep.orderly orderly) hnext (prompt.2 next hact) hunasked hrest
      refine ⟨houtcome ▸ hanswered, fun heq => ?_⟩
      obtain ⟨hle, hdeadline⟩ := hwithin (houtcome ▸ heq)
      have hclock : room.now ≤ next.now := hstep.frame.now ▸ Nat.le_add_right _ _
      exact ⟨Nat.le_trans hclock hle, hdeadline⟩
    · have houtcome := outcome?_of_verdict hverdict (action :: rest)
      refine ⟨?_, fun heq => h.within hverdict (Option.some.inj (houtcome.symm.trans heq))⟩
      rw [houtcome, ← hnow]
      exact hdecided.told (hstep.orderly orderly) (prompt.2 next hact) hunasked hrest

/-- What has become of a wait that went to the background, in a room that prompt actions have led
to. -/
structure Deferred (next : WaitingRoom) (order : WaitOrder) (task : Option String) (deadline : Nat)
    (actions : List Action) (last : WaitingRoom) : Prop where
  answered : last.results order.name = (next.outcome? order task deadline actions).toList ∨
    ¬last.Quiet ∧ last.results order.name = []
  /-- Something is left to do only for so long. -/
  quietsDown : last.QuietsDown
  within : ∀ {time result}, next.outcome? order task deadline actions = some (time, result) →
    next.now ≤ time ∧ time ≤ deadline ∧ (result = .timedOut → time = deadline)
  settled : deadline ≤ last.now → (next.outcome? order task deadline actions).isSome

theorem Awaits.deferred (orderly : room.Orderly) (h : room.Awaits order task deadline)
    (prompt : room.RunsPromptly actions)
    (unasked : ∀ action ∈ actions, action.asks? ≠ some order.name)
    (hacts : room.acts actions = some last) :
    room.Deferred order task deadline actions last := by
  obtain ⟨hanswered, hwithin⟩ := h.told orderly prompt unasked hacts
  exact ⟨hanswered, (acts_orderly orderly hacts).quietsDown, hwithin, outcome?_isSome hacts⟩

/-- What is promised of a wait, from the room in which it is asked for to a room that prompt actions
have led to. -/
structure Answered (room : WaitingRoom) (action : Action) (order : WaitOrder) (next : WaitingRoom)
    (actions : List Action) (last : WaitingRoom) : Prop where
  /-- A wait for nothing, or for what is there, is over at once, even if its task was cancelled. -/
  met : order.count = .copies 0 ∨ order.metBy room.supplier.current = true →
    next.results order.name = [(room.now, .active)] ∧
      last.results order.name = [(room.now, .active)]
  cancelled : ∀ {reason}, order.count ≠ .copies 0 →
    order.metBy room.supplier.current = false → room.cancellation? action.task? = some reason →
    next.results order.name = [(room.now, .failed (.cancelled reason))] ∧
      last.results order.name = [(room.now, .failed (.cancelled reason))]
  /-- A wait whose deadline the clock can tell goes to the background. -/
  deferred : order.count ≠ .copies 0 → order.metBy room.supplier.current = false →
    room.cancellation? action.task? = none →
    room.now + order.timeout.getD room.defaultTimeout ≤ room.horizon →
    next.results order.name = [] ∧ next.Deferred order action.task?
      (room.now + order.timeout.getD room.defaultTimeout) actions last
  /-- The reason for which a task is cancelled is that of the cancellation that won. -/
  winner : ∀ {earlier later : WaitingRoom} {name reason : String} {between : List Action},
    earlier.Orderly → (earlier.cancel name reason).1 = true →
    (earlier.cancel name reason).2.acts between = some later →
    later.cancellation? (some name) = some reason

theorem asked_of_act (hact : room.act action = some next)
    (starts : room.starts? action = some order) :
    ∃ orders awaited, Asked { room with orders } order action.task? awaited next := by
  cases action with
  | wait asked task =>
    obtain rfl := Option.some.inj starts
    obtain rfl := Option.some.inj hact
    exact ⟨room.orders, false, wait_asked room asked task false⟩
  | run heed activity =>
    cases activity with
    | begin =>
      cases turn : room.orders with
      | nil => simp [starts?, turn] at starts
      | cons asked rest =>
        rw [starts?, turn] at starts
        obtain rfl := Option.some.inj starts
        simp only [act, run, beginNext?, turn] at hact
        obtain rfl := Option.some.inj hact
        exact ⟨rest, true, wait_asked { room with orders := rest } asked none true⟩
    | wait | callback | lookout => cases starts
  | _ => cases starts

theorem enough_iff (room : WaitingRoom) (order : WaitOrder) :
    (order.count.isNone || order.metBy room.supplier.current) = true ↔
      order.count = .copies 0 ∨ order.metBy room.supplier.current = true := by
  rw [Bool.or_eq_true, ShardCount.isNone, decide_eq_true_iff]

/-- The first wait of a name that comes out is the first thing that is told. -/
theorem results_eq_singleton {room : WaitingRoom} {name : String}
    (single : (room.resolve name (.wait result)).known name = 1) :
    (room.resolve name (.wait result)).results name = [(room.now, result)] := by
  have hresults : (room.resolve name (.wait result)).results name =
      (room.now, result) :: room.results name := by
    rw [results_resolve, Function.update_self]
  rw [known, hresults, List.length_cons] at single
  rw [hresults, List.eq_nil_of_length_eq_zero (by omega : (room.results name).length = 0)]

theorem acts_stays_cancelled {name reason : String} (orderly : room.Orderly)
    (h : room.cancellation? (some name) = some reason) (hacts : room.acts actions = some last) :
    last.cancellation? (some name) = some reason :=
  (acts_keep (P := fun room => room.cancellation? (some name) = some reason)
    (Q := fun _ => True) (fun _ h _ step => step.stays_cancelled h) orderly h (fun _ _ => trivial)
    hacts).2

/-- A wait comes out as promised. -/
theorem wait_answered (reachable : room.Reachable) (hact : room.act action = some next)
    (starts : room.starts? action = some order) (single : next.known order.name = 1)
    (unasked : asked order.name actions = 0) (prompt : next.RunsPromptly actions)
    (hacts : next.acts actions = some last) : room.Answered action order next actions last := by
  have hnext : next.Orderly := (act_step reachable.orderly hact).orderly reachable.orderly
  have hunasked : ∀ action ∈ actions, action.asks? ≠ some order.name :=
    fun _ => asks?_ne_of_asked_eq_zero unasked
  have hstay {entry : Nat × WaitResult} (told : next.results order.name = [entry]) :=
    results_stay hnext single told hunasked hacts
  have henough := room.enough_iff order
  have hwinner : ∀ {earlier later : WaitingRoom} {name reason : String} {between : List Action},
      earlier.Orderly → (earlier.cancel name reason).1 = true →
      (earlier.cancel name reason).2.acts between = some later →
      later.cancellation? (some name) = some reason := by
    intro earlier later name reason between orderly won hbetween
    refine acts_stays_cancelled ((Step.cancel name reason).orderly orderly) ?_ hbetween
    rw [cancellation?_cancel, if_pos ⟨rfl, won⟩]
  obtain ⟨orders, awaited, hasked⟩ := asked_of_act hact starts
  cases hasked with
  | met enough =>
    have hone := results_eq_singleton single
    refine ⟨fun _ => ⟨hone, hstay hone⟩, fun hcount hmet => ?_, fun hcount hmet => ?_, hwinner⟩
    all_goals exact absurd (henough.1 enough) (by simp [hcount, hmet])
  | @cancelled reason short cause =>
    have hone := results_eq_singleton single
    refine ⟨fun h => ?_, fun {other} _ _ hother => ?_, fun _ _ hrunning _ => ?_, hwinner⟩
    · exact absurd (henough.2 h) (Bool.eq_false_iff.1 short)
    · obtain rfl : reason = other := Option.some.inj (cause.symm.trans hother)
      exact ⟨hone, hstay hone⟩
    · exact absurd (cause.symm.trans hrunning) (by simp)
  | background short running =>
    refine ⟨fun h => ?_, fun _ _ hreason => ?_, fun _ _ _ hwithin => ?_, hwinner⟩
    · exact absurd (henough.2 h) (Bool.eq_false_iff.1 short)
    · exact absurd (hreason.symm.trans running) (by simp)
    · have hawaits : Awaits _ order action.task?
          (room.now + order.timeout.getD room.defaultTimeout) :=
        ⟨⟨_, List.mem_append_right _ (List.mem_singleton.2 rfl), rfl, rfl, rfl⟩, single,
          Nat.le_add_right _ _, hwithin, .inr running⟩
      exact ⟨hawaits.results, hawaits.deferred hnext prompt hunasked hacts⟩

section Trial

open WaitingRoom.Trial

/-- A wait for the primary of the index, for a tenth of a second. -/
def patience : WaitOrder := Trial.order "patient" 100

def patient : WaitingRoom := opening.wait patience none false

/-- The primary is started within the time of the wait. -/
def timelyActions : List Action :=
  [.run true (.wait 0), .elapse 60, .publish started, .run true (.wait 0), .run true (.callback 0),
    .elapse 60]

def rewarded : WaitingRoom := (patient.acts timelyActions).get (by decide)

theorem wait_answered_rewarded :
    opening.Reachable ∧ opening.act (.wait patience none) = some patient ∧
      opening.starts? (.wait patience none) = some patience ∧
      patient.known "patient" = 1 ∧ asked "patient" timelyActions = 0 ∧
      patient.RunsPromptly timelyActions ∧ patient.acts timelyActions = some rewarded ∧
      patient.outcome? patience none 100 timelyActions = some (60, .active) ∧
      opening.Answered (.wait patience none) patience patient
        timelyActions rewarded := by
  have reachable : opening.Reachable := ⟨_, _, _, _, [], rfl⟩
  have hacts : patient.acts timelyActions = some rewarded := (Option.some_get _).symm
  exact ⟨reachable, rfl, rfl, by decide, by decide, by decide, hacts, by decide,
    wait_answered reachable rfl rfl (by decide) (by decide) (by decide) hacts⟩

/-- When and how a wait would come out if all instants up to its deadline counted by the clock
alone, whatever is done once the clock has reached the deadline. -/
def promised (room : WaitingRoom) (order : WaitOrder) (task : Option String) (deadline : Nat)
    (actions : List Action) : Nat × WaitResult :=
  ((room.visits actions).findSome? fun visited =>
    if visited.now ≤ deadline then
      (visited.cause? order task).map fun result => (visited.now, result)
    else none).getD (deadline, .timedOut)

/-- The primary is started at the deadline, after the wait has been given up. -/
def lateActions : List Action :=
  [.run true (.wait 0), .elapse 100, .run true (.wait 0), .run true (.callback 0),
    .publish started]

def tooLate : WaitingRoom := (patient.acts lateActions).get (by decide)

theorem promise_broken_late : ¬∀ {room next last : WaitingRoom} {action : Action}
    {order : WaitOrder} {actions : List Action}, room.Reachable → room.act action = some next →
    room.starts? action = some order → next.known order.name = 1 →
    asked order.name actions = 0 → next.RunsPromptly actions → next.acts actions = some last →
    last.Quiet → next.results order.name = [] → action.task? = none →
    room.now + order.timeout.getD room.defaultTimeout ≤ last.now →
    last.results order.name = [next.promised order none
      (room.now + order.timeout.getD room.defaultTimeout) actions] := by
  intro h
  have hlate := @h opening patient tooLate (.wait patience none) patience lateActions
    ⟨_, _, _, _, [], rfl⟩ rfl rfl (by decide) (by decide) (by decide) (Option.some_get _).symm
    (by decide) (by decide) rfl (by decide)
  exact absurd hlate (by decide)

end Trial

end ClusterWatch.WaitingRoom
