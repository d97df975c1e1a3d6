import ClusterWatch.Proofs.Readiness.Quieting

/-!
Each wait is answered once. Whoever asks for a wait gives it a name, and names are all that the
results show; so what is said of the waits of a name is said of a single wait where names are not
used twice. A wait that was asked for has been told how it came out, is about to be told, is in the
background, or has not begun: every action keeps this account, in whatever order publications,
closing, cancellations and expiry come. Only a wait that was to be given up beyond the horizon of
the clock may be lost instead.
-/
namespace ClusterWatch.WaitingRoom

variable {room next last first : WaitingRoom} {name : String} {action : Action}
  {actions : List Action}

/-- The names of the waits of which nothing has been told yet. -/
def unresolved (room : WaitingRoom) : List String :=
  room.waits.map (·.order.name) ++ room.callbacks.map Callback.name ++
    room.orders.map WaitOrder.name

/-- How many waits of a name are lost. -/
def losses (room : WaitingRoom) (name : String) : Nat := (room.lost.map (·.order.name)).count name

/-- How many waits of a name the actions ask for. -/
def asked (name : String) (actions : List Action) : Nat :=
  (actions.filterMap Action.asks?).count name

theorem asks?_ne_of_asked_eq_zero (h : asked name actions = 0) (haction : action ∈ actions) :
    action.asks? ≠ some name :=
  fun hasks => List.count_eq_zero.1 h (List.mem_filterMap.2 ⟨action, haction, hasks⟩)

/-- The waits of a name, those that have been told how they came out and those that have not. -/
def known (room : WaitingRoom) (name : String) : Nat :=
  (room.results name).length + room.unresolved.count name + room.losses name

theorem known_resolve (room : WaitingRoom) (other name : String) (result : WaitResult) :
    (room.resolve other (.wait result)).known name =
      room.known name + if other = name then 1 else 0 := by
  have hunresolved : (room.resolve other (.wait result)).unresolved = room.unresolved := rfl
  have hlosses : (room.resolve other (.wait result)).losses = room.losses := rfl
  rw [known, known, hunresolved, hlosses, results_resolve, Function.update_apply]
  by_cases h : name = other
  · rw [if_pos h, if_pos h.symm, List.length_cons, h]
    omega
  · rw [if_neg h, if_neg (Ne.symm h), Nat.add_zero]

theorem known_asked {order : WaitOrder} {task : Option String} {awaited : Bool}
    (h : room.Asked order task awaited next) :
    next.known name = room.known name + if order.name = name then 1 else 0 := by
  cases h with
  | met | cancelled => exact known_resolve room order.name name _
  | background short running =>
    unfold known unresolved losses
    simp only [List.map_append, List.count_append, List.map_cons, List.map_nil,
      List.count_singleton, beq_iff_eq, newWait]
    show (room.results name).length + _ + _ = _
    omega

/-- A wait that leaves the count is among the callbacks, or among those that are lost. -/
theorem known_leave (orderly : room.Orderly) {w : Wait} (hw : w ∈ room.waits)
    {callbacks : List Callback} {lost : List Wait}
    (hkept : (callbacks.map Callback.name).count name + (lost.map (·.order.name)).count name =
      (room.callbacks.map Callback.name).count name + room.losses name +
        if w.order.name = name then 1 else 0) :
    known { room.leave w with callbacks, lost } name = room.known name := by
  have hperm := ((perm_cons_others hw orderly.distinct_waits).map (·.order.name)).count_eq name
  rw [List.map_cons, List.count_cons] at hperm
  unfold losses at hkept
  unfold known unresolved losses
  rw [List.count_append, List.count_append, List.count_append, List.count_append, hperm]
  show (room.results name).length +
    (((room.waits.filter fun other => other.number ≠ w.number).map _).count name + _ +
      (room.orders.map _).count name) + _ = _
  simp only [beq_iff_eq]
  omega

theorem known_finish (orderly : room.Orderly) {w : Wait} (hw : w ∈ room.waits)
    (result : WaitResult) : (room.finish w result).known name = room.known name := by
  refine known_leave orderly hw ?_
  simp only [List.map_append, List.map_cons, List.map_nil, List.count_append, List.count_singleton,
    beq_iff_eq, losses]
  show _ + (room.lost.map _).count name = _
  omega

theorem known_lose (orderly : room.Orderly) {w : Wait} (hw : w ∈ room.waits) :
    (room.lose (room.dated w)).known name = room.known name := by
  rcases room.lose_cases (room.dated w) with ⟨-, heq⟩ | ⟨-, heq⟩
  · exact heq ▸ known_finish orderly hw _
  · rw [heq]
    refine known_leave orderly hw ?_
    simp only [List.map_append, List.map_cons, List.map_nil, List.count_append,
      List.count_singleton, beq_iff_eq, losses, dated]
    exact (Nat.add_assoc ..).symm

/-- A callback tells of a wait that nothing has been told of. -/
theorem known_tell (orderly : room.Orderly) {c : Callback} (hc : c ∈ room.callbacks) :
    (room.tell c).known name = room.known name := by
  have hperm := ((perm_cons_others hc orderly.distinct_callbacks).map Callback.name).count_eq name
  rw [List.map_cons, List.count_cons] at hperm
  unfold tell
  rw [known_resolve]
  unfold known unresolved losses
  rw [List.count_append, List.count_append, List.count_append, List.count_append, hperm]
  show (room.results name).length + (_ + _ + _) + _ + _ = _
  simp only [beq_iff_eq]
  omega

/-- What is told of a wait by its number stays the same as another is put in its place. -/
theorem map_setWait {α : Type} (f : Wait → α) {w : Wait} (orderly : room.Orderly)
    (hw : w ∈ room.waits) {v : Wait} (hnumber : v.number = w.number) (hsame : f v = f w) :
    (room.setWait v).waits.map f = room.waits.map f := by
  show (room.waits.map _).map f = _
  rw [List.map_map]
  refine List.map_congr_left fun other hother => ?_
  rw [Function.comp_apply]
  split
  next heq =>
    rw [hsame, List.inj_on_of_nodup_map orderly.distinct_waits hother hw (heq.trans hnumber)]
  · rfl

/-- Every action adds to the account what it asks for, and nothing else. -/
theorem Step.known (orderly : room.Orderly) (step : room.Step action next) :
    next.known name = room.known name + asked name [action] := by
  cases step with
  | wait order task =>
    have hasked : asked name [.wait order task] = if order.name = name then 1 else 0 := by
      show [order.name].count name = _
      simp only [List.count_singleton, beq_iff_eq]
    rw [known_asked (wait_asked room order task false), hasked]
  | waitLater order =>
    have hunresolved : (room.waitLater order).unresolved = room.unresolved ++ [order.name] := by
      simp [unresolved, WaitingRoom.waitLater, List.append_assoc]
    unfold known
    rw [hunresolved, List.count_append]
    show (room.results name).length + (_ + _) + room.losses name = _ + _
    have hasked : asked name [.waitLater order] = [order.name].count name := rfl
    omega
  | @begin heed order rest turn =>
    rw [known_asked (wait_asked { room with orders := rest } order none true)]
    have hperm : room.unresolved.Perm
        (order.name :: WaitingRoom.unresolved { room with orders := rest }) := by
      rw [unresolved, turn]
      exact List.perm_middle
    unfold known
    rw [hperm.count_eq, List.count_cons]
    show (room.results name).length + _ + room.losses name + _ = _ + (_ + _) + _ + 0
    simp only [beq_iff_eq]
    omega
  | @stretch heed w next member stretch =>
    show next.known name = room.known name
    cases stretch with
    | cancelled | sighted => exact known_finish orderly member _
    | lost => exact known_lose orderly member
    | waits within unmet running fresh =>
      have hsame := map_setWait (v := { w with
        deadline := some (room.deadlineOf w)
        observer := w.observer.caughtUp room.supplier }) (·.order.name) orderly member rfl rfl
      exact congrArg (fun names => (room.results name).length +
        (names ++ room.callbacks.map Callback.name ++ room.orders.map WaitOrder.name).count name +
          room.losses name) hsame
  | callback member => exact known_tell orderly member
  | publish | close | elapse => rfl
  | cancel name reason =>
    obtain ⟨tasks, heq⟩ := room.cancel_eq name reason
    rw [heq]
    rfl
  | beside lookouts resolutions asks still silent =>
    have hasked : asked name [action] = 0 := by
      rw [asked, List.filterMap_cons_none asks]
      rfl
    rw [hasked]
    exact congrArg (fun results => results.length + room.unresolved.count name + room.losses name)
      (silent name)

theorem Step.known_of_unasked (orderly : room.Orderly) (asks : action.asks? ≠ some name)
    (step : room.Step action next) : next.known name = room.known name := by
  have hasked : asked name [action] = 0 := List.count_eq_zero.2 fun hmem => by
    obtain ⟨other, hother, hasks⟩ := List.mem_filterMap.1 hmem
    exact asks (List.mem_singleton.1 hother ▸ hasks)
  rw [step.known orderly, hasked, Nat.add_zero]

/-- What an action does to the books of a room: the waits in the background, how many are counted,
the callbacks that are to run, and what has been told. -/
inductive Booked (room : WaitingRoom) : Action → WaitingRoom → Prop
  /-- A wait that is over before whoever asks for it goes on is not counted. -/
  | overAtOnce {action : Action} {next : WaitingRoom} {order : WaitOrder} {result : WaitResult}
      (starts : room.starts? action = some order) (waits : next.waits = room.waits)
      (callbacks : next.callbacks = room.callbacks) (counted : next.pending = room.pending)
      (told : next.results = Function.update room.results order.name
        ((room.now, result) :: room.results order.name)) : Booked room action next
  | background {action : Action} {next : WaitingRoom} {order : WaitOrder} {task : Option String}
      {awaited : Bool} (starts : room.starts? action = some order)
      (waits : next.waits = room.waits ++ [room.newWait order task awaited])
      (callbacks : next.callbacks = room.callbacks) (counted : next.pending = room.pending + 1)
      (told : next.results = room.results) : Booked room action next
  /-- A wait of the background is over and leaves the count, and nothing has been told yet. -/
  | leaves {heed : Bool} {w : Wait} {next : WaitingRoom} {result : WaitResult}
      (member : w ∈ room.waits)
      (waits : next.waits = room.waits.filter fun other => other.number ≠ w.number)
      (callbacks : next.callbacks = room.callbacks ++ [⟨w.number, w.order.name, result⟩])
      (counted : next.pending + 1 = room.pending) (told : next.results = room.results) :
      Booked room (.run heed (.wait w.number)) next
  /-- A wait that is lost has no time at which it could have been given up. -/
  | lost {heed : Bool} {w : Wait} {next : WaitingRoom} (member : w ∈ room.waits)
      (beyond : room.horizon < room.deadlineOf w)
      (waits : next.waits = room.waits.filter fun other => other.number ≠ w.number)
      (callbacks : next.callbacks = room.callbacks) (counted : next.pending + 1 = room.pending)
      (told : next.results = room.results) : Booked room (.run heed (.wait w.number)) next
  /-- The wait whose callback runs is no longer counted. -/
  | callback {heed : Bool} {c : Callback} {next : WaitingRoom} (member : c ∈ room.callbacks)
      (uncounted : c.number ∉ room.waits.map Wait.number) (waits : next.waits = room.waits)
      (callbacks : next.callbacks = room.callbacks.filter fun other => other.number ≠ c.number)
      (counted : next.pending = room.pending)
      (told : next.results = Function.update room.results c.name
        ((room.now, c.result) :: room.results c.name)) :
      Booked room (.run heed (.callback c.number)) next
  | beside {action : Action} {next : WaitingRoom}
      (waits : next.waits.map (fun w => (w.number, w.order)) =
        room.waits.map fun w => (w.number, w.order))
      (callbacks : next.callbacks = room.callbacks) (counted : next.pending = room.pending)
      (told : next.results = room.results) : Booked room action next

theorem Asked.booked {orders : List WaitOrder} {order : WaitOrder} {task : Option String}
    {awaited : Bool} (starts : room.starts? action = some order)
    (asked : Asked { room with orders } order task awaited next) : room.Booked action next := by
  cases asked with
  | met | cancelled =>
    exact .overAtOnce starts rfl rfl rfl (results_resolve { room with orders } order.name _)
  | background => exact .background starts rfl rfl rfl rfl

/-- One that leaves has been counted. -/
theorem pending_leave (orderly : room.Orderly) {w : Wait} (hw : w ∈ room.waits) :
    (room.leave w).pending + 1 = room.pending := by
  have hlength := orderly.length_others hw
  have hcounted := orderly.counted
  show room.pending - 1 + 1 = room.pending
  omega

theorem finish_booked (orderly : room.Orderly) {w : Wait} (hw : w ∈ room.waits) (heed : Bool)
    (result : WaitResult) : room.Booked (.run heed (.wait w.number)) (room.finish w result) :=
  .leaves hw rfl rfl (pending_leave orderly hw) rfl

theorem lose_booked (orderly : room.Orderly) {w : Wait} (hw : w ∈ room.waits) (heed : Bool)
    (beyond : room.horizon < room.deadlineOf w) :
    room.Booked (.run heed (.wait w.number)) (room.lose (room.dated w)) := by
  rcases room.lose_cases (room.dated w) with ⟨-, heq⟩ | ⟨-, heq⟩
  · exact heq ▸ finish_booked orderly hw heed _
  · exact heq ▸ .lost hw beyond rfl rfl (pending_leave orderly hw) rfl

theorem Step.booked (orderly : room.Orderly) (step : room.Step action next) :
    room.Booked action next := by
  cases step with
  | wait order task => exact Asked.booked rfl (wait_asked room order task false)
  | begin turn => exact Asked.booked (congrArg List.head? turn) (wait_asked _ _ none true)
  | stretch member stretch =>
    cases stretch with
    | cancelled | sighted => exact finish_booked orderly member _ _
    | lost beyond => exact lose_booked orderly member _ beyond
    | waits within unmet running fresh =>
      exact .beside (map_setWait (fun w => (w.number, w.order)) orderly member rfl rfl) rfl rfl rfl
  | @callback heed c member =>
    exact .callback member (orderly.uncounted member) rfl rfl rfl (results_resolve _ c.name _)
  | waitLater | publish | close | elapse => exact .beside rfl rfl rfl rfl
  | cancel name reason =>
    obtain ⟨tasks, heq⟩ := room.cancel_eq name reason
    rw [heq]
    exact .beside rfl rfl rfl rfl
  | beside lookouts resolutions asks still silent => exact .beside rfl rfl rfl (funext silent)

/-- No name is told more than one thing by an action, and nothing is taken back. -/
theorem Booked.results (booked : room.Booked action next) (name : String) :
    next.results name = room.results name ∨
      ∃ entry, next.results name = entry :: room.results name := by
  cases booked with
  | background | leaves | lost | beside => exact .inl (congrFun ‹_› name)
  | overAtOnce _ _ _ _ told | callback _ _ _ _ _ told =>
    rw [told, Function.update_apply]
    split
    next heq =>
      rw [heq]
      exact .inr ⟨_, rfl⟩
    · exact .inl rfl

/-- Each wait in the background has its timeout, and is given up no later than that from now. The
same goes for a wait that is lost, but that would have been beyond the horizon. -/
structure Dated (defaultTimeout : Nat) (room : WaitingRoom) : Prop where
  default : room.defaultTimeout = defaultTimeout
  timeout : ∀ w ∈ room.waits, w.timeout = w.order.timeout.getD defaultTimeout
  deadline : ∀ w ∈ room.waits, room.deadlineOf w ≤ room.now + w.timeout
  lost : ∀ w ∈ room.lost, w.awaited = false ∧ ∃ deadline ∈ w.deadline,
    room.horizon < deadline ∧ deadline ≤ room.now + w.order.timeout.getD defaultTimeout

/-- A wait that is lost was lost before, or is so now, and then beyond the horizon. -/
theorem Step.lost (step : room.Step action next) {v : Wait} (hv : v ∈ next.lost) :
    v ∈ room.lost ∨ v.awaited = false ∧
      ∃ w ∈ room.waits, room.horizon < room.deadlineOf w ∧ v = room.dated w := by
  cases step with
  | wait order task =>
    obtain ⟨waits, waitsMade, pending, resolutions, -, heq⟩ := room.wait_frame order task false
    rw [heq] at hv
    exact .inl hv
  | @begin heed order rest turn =>
    obtain ⟨waits, waitsMade, pending, resolutions, -, heq⟩ :=
      wait_frame { room with orders := rest } order none true
    rw [heq] at hv
    exact .inl hv
  | @stretch heed w next member stretch =>
    cases stretch with
    | cancelled | sighted | waits => exact .inl hv
    | lost beyond =>
      rcases room.lose_cases (room.dated w) with ⟨-, heq⟩ | ⟨unheard, heq⟩
      · rw [heq] at hv
        exact .inl hv
      · rw [heq] at hv
        rcases List.mem_append.1 hv with hv | hv
        · exact .inl hv
        · obtain rfl := List.mem_singleton.1 hv
          exact .inr ⟨unheard, w, member, beyond, rfl⟩
  | cancel name reason =>
    obtain ⟨tasks, heq⟩ := room.cancel_eq name reason
    rw [heq] at hv
    exact .inl hv
  | waitLater | callback | publish | close | beside | elapse => exact .inl hv

theorem Dated.step {defaultTimeout : Nat} (h : room.Dated defaultTimeout)
    (step : room.Step action next) : next.Dated defaultTimeout := by
  have hclock : room.now ≤ next.now := step.frame.now ▸ Nat.le_add_right _ _
  constructor
  case default => exact step.frame.defaultTimeout.trans h.default
  case timeout =>
    intro v hv
    rcases step.origin hv with ⟨w, hw, hcontinues⟩ | ⟨order, task, awaited, -, rfl⟩
    · rw [hcontinues.timeout, hcontinues.order, h.timeout w hw]
    · rw [newWait, h.default]
  case deadline =>
    intro v hv
    rcases step.origin hv with ⟨w, hw, hcontinues⟩ | ⟨order, task, awaited, -, rfl⟩
    · have hwithin := h.deadline w hw
      have htimeout := hcontinues.timeout
      unfold deadlineOf at hwithin ⊢
      rcases hcontinues.deadline with hsame | hset
      · rw [hsame]
        cases hdeadline : w.deadline with
        | none => exact Nat.le_refl _
        | some deadline =>
          rw [hdeadline] at hwithin
          simp only [Option.getD_some] at hwithin ⊢
          omega
      · rw [hset]
        simp only [Option.getD_some, deadlineOf]
        omega
    · exact Nat.le_refl _
  case lost =>
    intro v hv
    rw [step.frame.horizon]
    rcases step.lost hv with hv | ⟨unheard, w, hw, beyond, rfl⟩
    · obtain ⟨unheard, deadline, hset, beyond, hwithin⟩ := h.lost v hv
      exact ⟨unheard, deadline, hset, beyond, by omega⟩
    · have hwithin := h.deadline w hw
      rw [h.timeout w hw] at hwithin
      exact ⟨unheard, _, rfl, beyond, Nat.le_trans hwithin (Nat.add_le_add_right hclock _)⟩

/-- No wait of a name that is under way goes on beyond a time, and none has yet to begin. -/
structure Overdue (name : String) (time : Nat) (room : WaitingRoom) : Prop where
  waits : ∀ w ∈ room.waits, w.order.name = name → ∃ deadline ∈ w.deadline, deadline ≤ time
  orders : ∀ order ∈ room.orders, order.name ≠ name

theorem Overdue.step {time : Nat} (h : room.Overdue name time) (asks : action.asks? ≠ some name)
    (step : room.Step action next) : next.Overdue name time := by
  refine ⟨fun v hv hname => ?_, fun order horder hname => ?_⟩
  case refine_1 =>
    rcases step.origin hv with ⟨w, hw, hcontinues⟩ | ⟨order, task, awaited, hstarts, rfl⟩
    · obtain ⟨deadline, hset, hlate⟩ := h.waits w hw (hcontinues.order ▸ hname)
      have hdeadline : room.deadlineOf w = deadline := by rw [deadlineOf, hset, Option.getD_some]
      rcases hcontinues.deadline with hsame | hagain
      · exact ⟨deadline, hsame.trans hset, hlate⟩
      · exact ⟨deadline, hagain.trans (congrArg some hdeadline), hlate⟩
    · rcases asks_of_starts? hstarts with horder | hasks
      · exact absurd hname (h.orders order horder)
      · exact absurd (hasks.trans (congrArg some hname)) asks
  case refine_2 =>
    rcases step.frame.orders order horder with horder | hasks
    · exact h.orders order horder hname
    · exact asks (hasks.trans (congrArg some hname))

/-- The wait of some number has been in the background, and its callback has run, if it had one. -/
structure Over (n : Nat) (room : WaitingRoom) : Prop where
  made : n < room.waitsMade
  absent : n ∉ room.numbers

/-- The only number that comes in is that of a wait that starts. -/
theorem Booked.numbers (booked : room.Booked action next) {n : Nat} (hn : n ∈ next.numbers) :
    n ∈ room.numbers ∨ n = room.waitsMade := by
  unfold WaitingRoom.numbers at hn ⊢
  cases booked with
  | overAtOnce _ waits callbacks =>
    rw [waits, callbacks] at hn
    exact .inl hn
  | background _ waits callbacks =>
    rw [waits, callbacks, List.map_append] at hn
    simp only [List.mem_append, List.map_singleton, List.mem_singleton] at hn ⊢
    exact hn.elim (fun hn => hn.imp_left .inl) fun hn => .inl (.inr hn)
  | @leaves heed w next result member waits callbacks =>
    rw [waits, callbacks, List.map_append] at hn
    simp only [List.mem_append, List.map_singleton, List.mem_singleton] at hn ⊢
    rcases hn with hn | hn | rfl
    · exact .inl (.inl ((List.filter_sublist.map Wait.number).subset hn))
    · exact .inl (.inr hn)
    · exact .inl (.inl (List.mem_map_of_mem member))
  | lost _ _ waits callbacks =>
    rw [waits, callbacks] at hn
    exact .inl (((List.filter_sublist.map Wait.number).append_right _).subset hn)
  | callback _ _ waits callbacks =>
    rw [waits, callbacks] at hn
    exact .inl (((List.filter_sublist.map Callback.number).append_left _).subset hn)
  | beside waits callbacks =>
    have hnumbers := congrArg (List.map Prod.fst) waits
    rw [List.map_map, List.map_map] at hnumbers
    rw [callbacks] at hn
    exact .inl (hnumbers ▸ hn)

theorem Over.step {n : Nat} (h : room.Over n) (orderly : room.Orderly)
    (step : room.Step action next) : next.Over n := by
  refine ⟨Nat.lt_of_lt_of_le h.made step.frame.made, fun hmem => ?_⟩
  rcases (step.booked orderly).numbers hmem with hmem | rfl
  · exact h.absent hmem
  · exact Nat.lt_irrefl _ h.made

variable {horizon defaultTimeout : Nat} {supplier : Supplier}
  {tasks : Table (String × CancellableTask) Prod.fst}

end ClusterWatch.WaitingRoom
