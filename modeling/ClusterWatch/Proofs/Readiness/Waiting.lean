import Mathlib.Data.List.Nodup
import Mathlib.Data.List.Perm.Subperm
import Mathlib.Logic.Function.Basic
import ClusterWatch.Proofs.Others
import ClusterWatch.Proofs.Trial
import ClusterWatch.Readiness.Action

/-!
Waits in the background. What a wait may find is said here once, by the room as it stands and not by
what the observer of the wait has seen so far: observers miss nothing, so the two agree. From this
comes all that one action can do to a room, and what holds of every room that actions lead to.
-/
namespace ClusterWatch

namespace Observer

/-- The observer knows of what is past, and what it has seen last does not meet the condition. -/
structure Watches (o : Observer) (supplier : Supplier) (condition : Snapshot → Bool) : Prop where
  behind : o.subscription.seen ≤ supplier.accepted
  unmet : o.subscription.seen = supplier.accepted → condition supplier.current = false

variable {o : Observer} {supplier : Supplier} {condition : Snapshot → Bool}

theorem watches_start (h : condition supplier.current = false) :
    (Observer.start supplier).Watches supplier condition :=
  ⟨Nat.le_refl _, fun _ => h⟩

/-- The observer once it has looked. -/
def caughtUp (o : Observer) (supplier : Supplier) : Observer :=
  if o.subscription.seen < supplier.accepted then .start supplier else o

theorem le_seen_caughtUp (o : Observer) (supplier : Supplier) :
    supplier.accepted ≤ (o.caughtUp supplier).subscription.seen := by
  unfold caughtUp
  split
  · exact Nat.le_refl _
  next hseen => exact Nat.not_lt.1 hseen

theorem caughtUp_of_le (h : supplier.accepted ≤ o.subscription.seen) : o.caughtUp supplier = o :=
  if_neg (Nat.not_lt.2 h)

/-- A look tells of the current snapshot if that has not been seen. -/
theorem look_eq_of_seen (o : Observer) (supplier : Supplier) (condition : Snapshot → Bool)
    (expired : Bool) : o.look supplier condition expired =
      (if o.subscription.seen < supplier.accepted ∧ condition supplier.current = true then
          .matched supplier.current
        else if supplier.closed then .closed else if expired then .timedOut else .waiting,
      o.caughtUp supplier) := by
  by_cases hbehind : o.subscription.seen < supplier.accepted
  · have hpoll : supplier.poll o.subscription =
        (.changed supplier.current, supplier.catchUp o.subscription) := if_pos hbehind
    have hcaught : o.caughtUp supplier =
        ⟨supplier.catchUp o.subscription, supplier.current⟩ := if_pos hbehind
    rw [look, hpoll, hcaught]
    simp only [hbehind, true_and]
    rfl
  · rw [caughtUp_of_le (Nat.not_lt.1 hbehind), look]
    cases closed : supplier.closed with
    | true =>
      have hpoll : supplier.poll o.subscription = (.closed, o.subscription) := by
        simp [Supplier.poll, hbehind, closed]
      rw [hpoll]
      simp only [hbehind, false_and, if_false]
      exact Prod.ext (if_pos closed) rfl
    | false =>
      have hpoll : supplier.poll o.subscription = (.nothing, o.subscription) := by
        simp [Supplier.poll, hbehind, closed]
      rw [hpoll]
      simp only [hbehind, false_and, if_false]
      exact Prod.ext (if_neg (by simp [closed])) rfl

/-- What a look tells is told by the supplier as it stands, and nothing is left unseen. -/
theorem look_eq (h : o.Watches supplier condition) (expired : Bool) :
    o.look supplier condition expired =
      (if condition supplier.current then .matched supplier.current
        else if supplier.closed then .closed else if expired then .timedOut else .waiting,
      o.caughtUp supplier) := by
  rw [look_eq_of_seen]
  by_cases hbehind : o.subscription.seen < supplier.accepted
  · simp only [hbehind, true_and]
  · simp only [h.unmet (Nat.le_antisymm h.behind (Nat.not_lt.1 hbehind)), Bool.false_eq_true,
      and_false]

theorem Watches.caughtUp (h : o.Watches supplier condition)
    (unmet : condition supplier.current = false) :
    (o.caughtUp supplier).Watches supplier condition := by
  refine ⟨?_, fun _ => unmet⟩
  unfold Observer.caughtUp
  split
  · exact Nat.le_refl _
  · exact h.behind

/-- The condition is one that later snapshots may meet. -/
theorem Watches.publish (h : o.Watches supplier condition) {s : Snapshot} {next : Supplier}
    (hpublish : supplier.publish s = .ok next) : o.Watches next condition := by
  obtain ⟨-, -, rfl⟩ := Supplier.publish_eq_ok hpublish
  have hbehind := h.behind
  refine ⟨Nat.le_succ_of_le hbehind, fun hseen => ?_⟩
  have heq : o.subscription.seen = supplier.accepted + 1 := hseen
  omega

theorem Watches.close (h : o.Watches supplier condition) : o.Watches supplier.close condition :=
  ⟨h.behind, h.unmet⟩

end Observer

namespace WaitingRoom

variable {room next : WaitingRoom} {name : String}

/-- How the waits of a name came out, with the times, latest first. -/
def results (room : WaitingRoom) (name : String) : List (Nat × WaitResult) :=
  room.resolutions.filterMap fun (time, other, resolution) =>
    match resolution with
    | .wait result => if other = name then some (time, result) else none
    | .lookout .. => none

theorem results_resolve (room : WaitingRoom) (name : String) (result : WaitResult) :
    (room.resolve name (.wait result)).results =
      Function.update room.results name ((room.now, result) :: room.results name) := by
  funext other
  rw [Function.update_apply]
  by_cases h : other = name
  · simp [results, resolve, h]
  · simp [results, resolve, h, Ne.symm h]

/-- What the room has to tell a wait that is not met otherwise than by its observer: the snapshot
that is current, the closing of the supplier, or that the time is up. -/
def sighted? (room : WaitingRoom) (order : WaitOrder) (deadline : Nat) : Option WaitResult :=
  if order.metBy room.supplier.current then some .active
  else if room.supplier.closed then some (.failed (.nodeClosed room.supplier.localNode))
  else if deadline ≤ room.now then some .timedOut
  else none

/-- The time at which a wait that goes on now is given up. -/
def deadlineOf (room : WaitingRoom) (w : Wait) : Nat := w.deadline.getD (room.now + w.timeout)

/-- The wait as it is lost, with the time at which it was to be given up. -/
def dated (room : WaitingRoom) (w : Wait) : Wait := { w with deadline := some (room.deadlineOf w) }

/-- What one stretch of a wait comes to. -/
inductive Stretch (room : WaitingRoom) (w : Wait) : WaitingRoom → Prop
  | cancelled {reason : String} (cause : room.cancellation? w.task = some reason) :
      Stretch room w (room.finish w (.failed (.cancelled reason)))
  | lost (beyond : room.horizon < room.deadlineOf w) : Stretch room w (room.lose (room.dated w))
  | sighted {result : WaitResult}
      (cause : room.sighted? w.order (room.deadlineOf w) = some result) :
      Stretch room w (room.finish w result)
  | waits (within : room.deadlineOf w ≤ room.horizon)
      (unmet : room.sighted? w.order (room.deadlineOf w) = none)
      (running : room.cancellation? w.task = none)
      (fresh : ¬(w.deadline = some (room.deadlineOf w) ∧
        w.observer.caughtUp room.supplier = w.observer)) :
      Stretch room w (room.setWait { w with
        deadline := some (room.deadlineOf w)
        observer := w.observer.caughtUp room.supplier })

/-- What a wait makes of a sighting. -/
def resultOf? (room : WaitingRoom) : Sighting → Option WaitResult
  | .matched _ => some .active
  | .closed => some (.failed (.nodeClosed room.supplier.localNode))
  | .timedOut => some .timedOut
  | .waiting => none

theorem resultOf?_look (room : WaitingRoom) (order : WaitOrder) (deadline : Nat) :
    room.resultOf? (if order.metBy room.supplier.current then .matched room.supplier.current
      else if room.supplier.closed then .closed
      else if decide (deadline ≤ room.now) then .timedOut else .waiting) =
      room.sighted? order deadline := by
  cases hmet : order.metBy room.supplier.current <;>
    cases hclosed : room.supplier.closed <;>
      by_cases hdue : deadline ≤ room.now <;> simp [sighted?, resultOf?, hmet, hclosed, hdue]

/-- A stretch of a wait, by what its observer sees. -/
theorem runWait_eq (room : WaitingRoom) (heed : Bool) {w : Wait}
    (watches : w.observer.Watches room.supplier w.order.metBy) :
    room.runWait heed w =
      match (room.cancellation? w.task).filter (fun _ => heed) with
      | some reason => some (room.finish w (.failed (.cancelled reason)))
      | none =>
          if room.horizon < room.deadlineOf w then some (room.lose (room.dated w))
          else match room.sighted? w.order (room.deadlineOf w) with
            | some result => some (room.finish w result)
            | none =>
                match room.cancellation? w.task with
                | some reason => some (room.finish w (.failed (.cancelled reason)))
                | none =>
                    if w.deadline = some (room.deadlineOf w) ∧
                      w.observer.caughtUp room.supplier = w.observer then none
                    else some (room.setWait { w with
                      deadline := some (room.deadlineOf w)
                      observer := w.observer.caughtUp room.supplier }) := by
  have hdeadline : w.deadline.getD (room.now + w.timeout) = room.deadlineOf w := rfl
  unfold runWait
  dsimp only
  rw [hdeadline, Observer.look_eq watches, ← resultOf?_look]
  dsimp only
  generalize (if w.order.metBy room.supplier.current then Sighting.matched room.supplier.current
    else if room.supplier.closed then .closed
    else if decide (room.deadlineOf w ≤ room.now) then .timedOut else .waiting) = sighting
  cases (room.cancellation? w.task).filter fun _ => heed <;> cases sighting <;> rfl

/-- What a stretch of a wait does goes by what the room has to tell. -/
theorem runWait_stretch {heed : Bool} {w : Wait}
    (watches : w.observer.Watches room.supplier w.order.metBy)
    (h : room.runWait heed w = some next) : room.Stretch w next := by
  rw [room.runWait_eq heed watches] at h
  split at h
  next reason hcancelled =>
    obtain rfl := Option.some.inj h
    exact .cancelled (Option.filter_eq_some_iff.1 hcancelled).1
  · split at h
    next beyond =>
      obtain rfl := Option.some.inj h
      exact .lost beyond
    next within =>
      split at h
      next hsighted =>
        obtain rfl := Option.some.inj h
        exact .sighted hsighted
      next hsighted =>
        split at h
        next reason hcancelled =>
          obtain rfl := Option.some.inj h
          exact .cancelled hcancelled
        next hrunning =>
          split at h
          · cases h
          next fresh =>
            obtain rfl := Option.some.inj h
            exact .waits (Nat.not_lt.1 within) hsighted hrunning fresh

/-- A wait that has nothing to do has a time by which it is given up, and has been told nothing. -/
theorem runWait_eq_none {w : Wait} (watches : w.observer.Watches room.supplier w.order.metBy)
    (h : ∀ heed, room.runWait heed w = none) :
    room.cancellation? w.task = none ∧ room.sighted? w.order (room.deadlineOf w) = none ∧
      w.deadline = some (room.deadlineOf w) ∧ room.deadlineOf w ≤ room.horizon := by
  have heq := room.runWait_eq false watches
  rw [h false] at heq
  split at heq
  · cases heq
  · split at heq
    · cases heq
    next within =>
      split at heq
      · cases heq
      next hsighted =>
        split at heq
        · cases heq
        next hrunning =>
          split at heq
          next hdone => exact ⟨hrunning, hsighted, hdone.1, Nat.not_lt.1 within⟩
          · cases heq

/-- The numbers of the waits whose callbacks have not run, those that are counted first. -/
def numbers (room : WaitingRoom) : List Nat :=
  room.waits.map Wait.number ++ room.callbacks.map Callback.number

/-- Waits are told apart by their numbers, they are counted until they have come out, and none of
them misses anything. -/
structure Orderly (room : WaitingRoom) : Prop where
  distinct : room.numbers.Nodup
  made : ∀ n ∈ room.numbers, n < room.waitsMade
  counted : room.pending = room.waits.length
  watches : ∀ w ∈ room.waits, w.observer.Watches room.supplier w.order.metBy

/-- What an action does to a room. -/
inductive Step (room : WaitingRoom) : Action → WaitingRoom → Prop
  | wait (order : WaitOrder) (task : Option String) :
      Step room (.wait order task) (room.wait order task false)
  | waitLater (order : WaitOrder) : Step room (.waitLater order) (room.waitLater order)
  | begin {heed : Bool} {order : WaitOrder} {rest : List WaitOrder}
      (turn : room.orders = order :: rest) :
      Step room (.run heed .begin) ({ room with orders := rest }.wait order none true)
  | stretch {heed : Bool} {w : Wait} {next : WaitingRoom} (member : w ∈ room.waits)
      (stretch : room.Stretch w next) : Step room (.run heed (.wait w.number)) next
  | callback {heed : Bool} {c : Callback} (member : c ∈ room.callbacks) :
      Step room (.run heed (.callback c.number)) (room.tell c)
  | publish {s : Snapshot} {supplier : Supplier} (taken : room.supplier.publish s = .ok supplier) :
      Step room (.publish s) { room with supplier }
  | close : Step room .close room.close
  | cancel (name reason : String) : Step room (.cancel name reason) (room.cancel name reason).2
  /-- Waits, supplier, tasks and clock are as they were, and no wait is told anything. -/
  | beside {action : Action} (lookouts : List Lookout)
      (resolutions : List (Nat × String × Resolution)) (asks : action.asks? = none)
      (still : action.elapses? = none)
      (silent : ∀ name, { room with resolutions }.results name = room.results name) :
      Step room action { room with lookouts, resolutions }
  | elapse (time : Nat) : Step room (.elapse time) (room.elapse time)

theorem runLookout_step {heed : Bool} {index i : Nat} {l : Lookout}
    (h : room.runLookout i l = some next) : room.Step (.run heed (.lookout index)) next := by
  unfold runLookout at h
  split at h
  · cases h
  · dsimp only at h
    split at h
    · obtain rfl := Option.some.inj h
      exact .beside _ room.resolutions rfl rfl fun _ => rfl
    · split at h
      · split at h
        · cases h
        · obtain rfl := Option.some.inj h
          exact .beside _ room.resolutions rfl rfl fun _ => rfl
      · obtain rfl := Option.some.inj h
        exact .beside _ (_ :: room.resolutions) rfl rfl fun _ => rfl

theorem act_step {action : Action} (orderly : room.Orderly) (h : room.act action = some next) :
    room.Step action next := by
  cases action with
  | wait order task =>
    obtain rfl := Option.some.inj h
    exact .wait order task
  | waitLater order =>
    obtain rfl := Option.some.inj h
    exact .waitLater order
  | watchFrom name =>
    obtain rfl := Option.some.inj h
    exact .beside _ room.resolutions rfl rfl fun _ => rfl
  | call name call =>
    obtain rfl := Option.some.inj h
    unfold WaitingRoom.call
    split
    · exact .beside room.lookouts room.resolutions rfl rfl fun _ => rfl
    · exact .beside _ room.resolutions rfl rfl fun _ => rfl
  | publish s =>
    simp only [act, WaitingRoom.publish] at h
    cases taken : room.supplier.publish s with
    | ok supplier =>
      rw [taken] at h
      obtain rfl := Option.some.inj h
      exact .publish taken
    | error refusal =>
      rw [taken] at h
      obtain rfl := Option.some.inj h
      exact .beside room.lookouts room.resolutions rfl rfl fun _ => rfl
  | close =>
    obtain rfl := Option.some.inj h
    exact .close
  | cancel name reason =>
    obtain rfl := Option.some.inj h
    exact .cancel name reason
  | run heed activity =>
    cases activity with
    | begin =>
      simp only [act, run, beginNext?] at h
      split at h
      · cases h
      next turn =>
        obtain rfl := Option.some.inj h
        exact .begin turn
    | wait number =>
      obtain ⟨w, hfound, hstep⟩ := Option.bind_eq_some_iff.1 h
      have hw := List.mem_of_find?_eq_some hfound
      have hnumber : w.number = number := by simpa using List.find?_some hfound
      subst hnumber
      exact .stretch hw (runWait_stretch (orderly.watches w hw) hstep)
    | callback number =>
      obtain ⟨c, hfound, rfl⟩ := Option.map_eq_some_iff.1 h
      have hc := List.mem_of_find?_eq_some hfound
      have hnumber : c.number = number := by simpa using List.find?_some hfound
      subst hnumber
      exact .callback hc
    | lookout index =>
      obtain ⟨l, -, hstep⟩ := Option.bind_eq_some_iff.1 h
      exact runLookout_step hstep
  | elapse time =>
    obtain rfl := Option.some.inj h
    exact .elapse time

/-- What a wait is like when it goes to the background. -/
def newWait (room : WaitingRoom) (order : WaitOrder) (task : Option String) (awaited : Bool) :
    Wait :=
  ⟨room.waitsMade, order, order.timeout.getD room.defaultTimeout, none, .start room.supplier, task,
    awaited⟩

/-- What asking for a wait leads to: it is over at once, or it goes to the background. -/
inductive Asked (room : WaitingRoom) (order : WaitOrder) (task : Option String) (awaited : Bool) :
    WaitingRoom → Prop
  | met (enough : (order.count.isNone || order.metBy room.supplier.current) = true) :
      Asked room order task awaited (room.resolve order.name (.wait .active))
  | cancelled {reason : String}
      (short : (order.count.isNone || order.metBy room.supplier.current) = false)
      (cause : room.cancellation? task = some reason) :
      Asked room order task awaited
        (room.resolve order.name (.wait (.failed (.cancelled reason))))
  | background (short : (order.count.isNone || order.metBy room.supplier.current) = false)
      (running : room.cancellation? task = none) :
      Asked room order task awaited { room with
        waits := room.waits ++ [room.newWait order task awaited]
        waitsMade := room.waitsMade + 1
        pending := room.pending + 1 }

theorem wait_asked (room : WaitingRoom) (order : WaitOrder) (task : Option String)
    (awaited : Bool) : room.Asked order task awaited (room.wait order task awaited) := by
  unfold WaitingRoom.wait
  dsimp only
  split
  next enough => exact .met enough
  next short =>
    have short : (order.count.isNone || order.metBy room.supplier.current) = false :=
      Bool.eq_false_iff.2 short
    split
    next cause => exact .cancelled short cause
    next running => exact .background short running

/-- Asking for a wait leaves the rest of the room alone. -/
theorem wait_frame (room : WaitingRoom) (order : WaitOrder) (task : Option String)
    (awaited : Bool) : ∃ waits waitsMade pending resolutions, room.waitsMade ≤ waitsMade ∧
      room.wait order task awaited =
        { room with waits, waitsMade, pending, resolutions } := by
  generalize hnext : room.wait order task awaited = next
  cases hnext ▸ wait_asked room order task awaited with
  | met | cancelled => exact ⟨room.waits, room.waitsMade, room.pending, _, Nat.le_refl _, rfl⟩
  | background => exact ⟨_, _, _, room.resolutions, Nat.le_succ _, rfl⟩

/-- A wait that is lost has come out if somebody waits for it, and else nobody hears of it. -/
theorem lose_cases (room : WaitingRoom) (w : Wait) :
    w.awaited = true ∧
        room.lose w = room.finish w (.failed (.nodeClosed room.supplier.localNode)) ∨
      w.awaited = false ∧ room.lose w = { room.leave w with lost := room.lost ++ [w] } := by
  cases h : w.awaited with
  | true => exact .inl ⟨rfl, if_pos h⟩
  | false => exact .inr ⟨rfl, if_neg (by simp [h])⟩

theorem Stretch.frame {w : Wait} (stretch : room.Stretch w next) :
    ∃ waits pending callbacks lost, next = { room with waits, pending, callbacks, lost } := by
  cases stretch with
  | cancelled | sighted => exact ⟨_, _, _, room.lost, rfl⟩
  | lost =>
    rcases room.lose_cases (room.dated w) with ⟨-, heq⟩ | ⟨-, heq⟩
    · exact ⟨_, _, _, room.lost, heq⟩
    · exact ⟨_, _, room.callbacks, _, heq⟩
  | waits => exact ⟨_, room.pending, room.callbacks, room.lost, rfl⟩

namespace Orderly

theorem beside (h : room.Orderly) {orders : List WaitOrder} {lookouts : List Lookout}
    {resolutions : List (Nat × String × Resolution)} {now : Nat}
    {tasks : Table (String × CancellableTask) Prod.fst} :
    Orderly { room with orders, lookouts, resolutions, now, tasks } :=
  ⟨h.distinct, h.made, h.counted, h.watches⟩

theorem distinct_waits (h : room.Orderly) : (room.waits.map Wait.number).Nodup :=
  h.distinct.of_append_left

theorem distinct_callbacks (h : room.Orderly) : (room.callbacks.map Callback.number).Nodup :=
  h.distinct.of_append_right

/-- A wait whose callback is to run is not counted. -/
theorem uncounted (h : room.Orderly) {c : Callback} (hc : c ∈ room.callbacks) :
    c.number ∉ room.waits.map Wait.number := fun hcounted =>
  List.disjoint_of_nodup_append h.distinct hcounted (List.mem_map_of_mem hc)

theorem asked (h : room.Orderly) {order : WaitOrder} {task : Option String} {awaited : Bool}
    (asked : room.Asked order task awaited next) : next.Orderly := by
  cases asked with
  | met | cancelled => exact h.beside
  | background short running =>
    have hmetBy : order.metBy room.supplier.current = false := by
      rw [Bool.or_eq_false_iff] at short
      exact short.2
    have hnumbers : ((room.waits ++ [room.newWait order task awaited]).map Wait.number ++
        room.callbacks.map Callback.number).Perm (room.waitsMade :: room.numbers) := by
      rw [List.map_append, List.append_assoc]
      exact List.perm_middle
    have hnew : room.waitsMade ∉ room.numbers := fun hmem => Nat.lt_irrefl _ (h.made _ hmem)
    constructor
    case distinct => exact hnumbers.nodup_iff.2 (List.nodup_cons.2 ⟨hnew, h.distinct⟩)
    case made =>
      intro n hn
      rcases List.mem_cons.1 (hnumbers.mem_iff.1 hn) with rfl | hn
      · exact Nat.lt_succ_self _
      · exact Nat.lt_succ_of_lt (h.made n hn)
    case counted => simp [h.counted]
    case watches =>
      intro w hw
      rcases List.mem_append.1 hw with hw | hw
      · exact h.watches w hw
      · obtain rfl := List.mem_singleton.1 hw
        exact Observer.watches_start hmetBy

/-- One that leaves takes one place. -/
theorem length_others (h : room.Orderly) {w : Wait} (hw : w ∈ room.waits) :
    (room.waits.filter fun other => other.number ≠ w.number).length + 1 = room.waits.length :=
  (perm_cons_others hw h.distinct_waits).length_eq.symm

/-- A wait leaves the count, and its number stays at most with its callback. -/
theorem leave (h : room.Orderly) {w : Wait} (hw : w ∈ room.waits) {callbacks : List Callback}
    {lost : List Wait}
    (hcallbacks : (callbacks.map Callback.number).Subperm
      (w.number :: room.callbacks.map Callback.number)) :
    Orderly { room.leave w with callbacks, lost } := by
  have hothers := (perm_cons_others hw h.distinct_waits).map Wait.number
  have hnumbers : (numbers { room.leave w with callbacks, lost }).Subperm room.numbers :=
    ((List.subperm_append_left _).2 hcallbacks).trans
      (List.perm_middle.trans (hothers.symm.append_right _)).subperm
  constructor
  case distinct =>
    obtain ⟨kept, hkept, hsublist⟩ := hnumbers
    exact hkept.nodup_iff.1 (h.distinct.sublist hsublist)
  case made => exact fun n hn => h.made n (hnumbers.subset hn)
  case counted =>
    have hlength := h.length_others hw
    show room.pending - 1 = _
    rw [h.counted, ← hlength]
    rfl
  case watches => exact fun v hv => h.watches v (List.mem_filter.1 hv).1

theorem finish (h : room.Orderly) {w : Wait} (hw : w ∈ room.waits) (result : WaitResult) :
    (room.finish w result).Orderly := by
  refine h.leave hw (List.Perm.subperm ?_)
  rw [List.map_append]
  exact List.perm_append_comm

theorem lose (h : room.Orderly) {w : Wait} (hw : w ∈ room.waits) :
    (room.lose (room.dated w)).Orderly := by
  rcases room.lose_cases (room.dated w) with ⟨-, heq⟩ | ⟨-, heq⟩
  · exact heq ▸ h.finish hw _
  · exact heq ▸ h.leave hw (List.sublist_cons_self _ _).subperm

theorem tell (h : room.Orderly) (c : Callback) : (room.tell c).Orderly := by
  have hnumbers : (room.tell c).numbers.Sublist room.numbers :=
    (List.filter_sublist.map Callback.number).append_left _
  exact ⟨h.distinct.sublist hnumbers, fun n hn => h.made n (hnumbers.subset hn), h.counted,
    h.watches⟩

theorem setWait (h : room.Orderly) {w : Wait}
    (watches : w.observer.Watches room.supplier w.order.metBy) : (room.setWait w).Orderly := by
  have hnumbers : (room.setWait w).numbers = room.numbers := by
    refine congrArg (· ++ room.callbacks.map Callback.number) ?_
    show (room.waits.map _).map Wait.number = _
    rw [List.map_map]
    refine List.map_congr_left fun other _ => ?_
    rw [Function.comp_apply]
    split
    next hsame => exact hsame.symm
    · rfl
  constructor
  case distinct => exact hnumbers ▸ h.distinct
  case made => exact hnumbers ▸ h.made
  case counted =>
    show room.pending = (room.waits.map _).length
    rw [List.length_map, h.counted]
  case watches =>
    intro v hv
    obtain ⟨other, hother, rfl⟩ := List.mem_map.1 hv
    split
    · exact watches
    · exact h.watches other hother

theorem stretch (h : room.Orderly) {w : Wait} (hw : w ∈ room.waits)
    (stretch : room.Stretch w next) : next.Orderly := by
  cases stretch with
  | cancelled | sighted => exact h.finish hw _
  | lost => exact h.lose hw
  | waits within unmet running fresh =>
    refine h.setWait ((h.watches w hw).caughtUp ?_)
    unfold sighted? at unmet
    split at unmet
    · cases unmet
    next hunmet => simpa using hunmet

theorem supply (h : room.Orderly) {supplier : Supplier}
    (hkept : ∀ w ∈ room.waits, w.observer.Watches supplier w.order.metBy) :
    Orderly { room with supplier } :=
  ⟨h.distinct, h.made, h.counted, hkept⟩

end Orderly

theorem cancel_eq (room : WaitingRoom) (name reason : String) :
    ∃ tasks, (room.cancel name reason).2 = { room with tasks } := by
  unfold cancel
  split
  · exact ⟨room.tasks, rfl⟩
  · exact ⟨_, rfl⟩

theorem Step.orderly {action : Action} (step : room.Step action next) (h : room.Orderly) :
    next.Orderly := by
  cases step with
  | wait order task => exact h.asked (wait_asked room order task false)
  | waitLater | beside | elapse => exact h.beside
  | begin turn => exact Orderly.asked h.beside (wait_asked _ _ none true)
  | stretch member stretch => exact h.stretch member stretch
  | @callback heed c member => exact h.tell c
  | publish taken => exact h.supply fun w hw => (h.watches w hw).publish taken
  | close => exact h.supply fun w hw => (h.watches w hw).close
  | cancel name reason =>
    obtain ⟨tasks, heq⟩ := room.cancel_eq name reason
    rw [heq]
    exact h.beside

/-- Whose wait starts with an action: one that is asked for now, or the first of those that are to
begin. -/
def starts? (room : WaitingRoom) : Action → Option WaitOrder
  | .wait order _ => some order
  | .run _ .begin => room.orders.head?
  | _ => none

/-- What stays of a wait as it goes on, and when it is given up. -/
structure Continues (room : WaitingRoom) (w v : Wait) : Prop where
  number : v.number = w.number
  order : v.order = w.order
  timeout : v.timeout = w.timeout
  task : v.task = w.task
  deadline : v.deadline = w.deadline ∨ v.deadline = some (room.deadlineOf w)

theorem continues_refl (room : WaitingRoom) (w : Wait) : room.Continues w w :=
  ⟨rfl, rfl, rfl, rfl, .inl rfl⟩

theorem origin_of_asked {order : WaitOrder} {task : Option String} {awaited : Bool} {v : Wait}
    (asked : room.Asked order task awaited next) (hv : v ∈ next.waits) :
    (∃ w ∈ room.waits, room.Continues w v) ∨ v = room.newWait order task awaited := by
  cases asked with
  | met | cancelled => exact .inl ⟨v, hv, room.continues_refl v⟩
  | background short running =>
    rcases List.mem_append.1 hv with hv | hv
    · exact .inl ⟨v, hv, room.continues_refl v⟩
    · exact .inr (List.mem_singleton.1 hv)

theorem waits_lose (room : WaitingRoom) (w : Wait) :
    (room.lose w).waits = room.waits.filter fun other => other.number ≠ w.number := by
  rcases room.lose_cases w with ⟨-, heq⟩ | ⟨-, heq⟩ <;> rw [heq] <;> rfl

theorem origin_of_stretch {w v : Wait} (hw : w ∈ room.waits) (stretch : room.Stretch w next)
    (hv : v ∈ next.waits) : ∃ u ∈ room.waits, room.Continues u v := by
  cases stretch with
  | cancelled | sighted => exact ⟨v, (List.mem_filter.1 hv).1, room.continues_refl v⟩
  | lost =>
    rw [waits_lose] at hv
    exact ⟨v, (List.mem_filter.1 hv).1, room.continues_refl v⟩
  | waits within unmet running fresh =>
    obtain ⟨u, hu, rfl⟩ := List.mem_map.1 hv
    split
    · exact ⟨w, hw, rfl, rfl, rfl, rfl, .inr rfl⟩
    · exact ⟨u, hu, room.continues_refl u⟩

/-- A wait in the background was there before, or has just gone there. -/
theorem Step.origin {action : Action} (step : room.Step action next) {v : Wait}
    (hv : v ∈ next.waits) :
    (∃ w ∈ room.waits, room.Continues w v) ∨ ∃ order task awaited,
      room.starts? action = some order ∧ v = room.newWait order task awaited := by
  cases step with
  | wait order task =>
    exact (origin_of_asked (wait_asked room order task false) hv).imp_right
      fun hnew => ⟨order, task, false, rfl, hnew⟩
  | @begin heed order rest turn =>
    rcases origin_of_asked (wait_asked { room with orders := rest } order none true) hv with
      ⟨w, hw, h⟩ | hnew
    · exact .inl ⟨w, hw, h.number, h.order, h.timeout, h.task, h.deadline⟩
    · exact .inr ⟨order, none, true, congrArg List.head? turn, hnew⟩
  | stretch member stretch => exact .inl (origin_of_stretch member stretch hv)
  | cancel name reason =>
    obtain ⟨tasks, heq⟩ := room.cancel_eq name reason
    rw [heq] at hv
    exact .inl ⟨v, hv, room.continues_refl v⟩
  | waitLater | callback | publish | close | beside | elapse =>
    exact .inl ⟨v, hv, room.continues_refl v⟩

/-- A wait that starts is asked for now, or has been waiting to begin. -/
theorem asks_of_starts? {action : Action} {order : WaitOrder}
    (h : room.starts? action = some order) :
    order ∈ room.orders ∨ action.asks? = some order.name := by
  unfold starts? at h
  split at h
  · exact .inr (congrArg some (congrArg WaitOrder.name (Option.some.inj h)))
  · exact .inl (List.mem_of_head? h)
  · cases h

/-- What an action leaves alone, apart from the waits themselves. Supplier, tasks and clock change
by what comes from outside only, and of that only cancellations touch tasks, and they touch nothing
else. -/
structure Frame (room : WaitingRoom) (action : Action) (next : WaitingRoom) : Prop where
  horizon : next.horizon = room.horizon
  defaultTimeout : next.defaultTimeout = room.defaultTimeout
  now : next.now = room.now + action.elapses?.getD 0
  made : room.waitsMade ≤ next.waitsMade
  orders : ∀ order ∈ next.orders, order ∈ room.orders ∨ action.asks? = some order.name
  scene : next.tasks = room.tasks ∧ next.supplier = room.supplier ∧ action.elapses? = none ∨
    next.tasks = room.tasks ∧ action.outside = true ∨
      ∃ name reason, action = .cancel name reason ∧ next = (room.cancel name reason).2

theorem Step.frame {action : Action} (step : room.Step action next) : room.Frame action next := by
  cases step with
  | wait order task =>
    obtain ⟨waits, waitsMade, pending, resolutions, hmade, heq⟩ := room.wait_frame order task false
    rw [heq]
    exact ⟨rfl, rfl, rfl, hmade, fun _ h => .inl h, .inl ⟨rfl, rfl, rfl⟩⟩
  | waitLater order =>
    refine ⟨rfl, rfl, rfl, Nat.le_refl _, fun asked hasked => ?_, .inl ⟨rfl, rfl, rfl⟩⟩
    rcases List.mem_append.1 hasked with hasked | hasked
    · exact .inl hasked
    · obtain rfl := List.mem_singleton.1 hasked
      exact .inr rfl
  | @begin heed order rest turn =>
    obtain ⟨waits, waitsMade, pending, resolutions, hmade, heq⟩ :=
      wait_frame { room with orders := rest } order none true
    rw [heq]
    exact ⟨rfl, rfl, rfl, hmade, fun _ h => .inl (turn ▸ List.mem_cons_of_mem order h),
      .inl ⟨rfl, rfl, rfl⟩⟩
  | stretch member stretch =>
    obtain ⟨waits, pending, callbacks, lost, rfl⟩ := stretch.frame
    exact ⟨rfl, rfl, rfl, Nat.le_refl _, fun _ h => .inl h, .inl ⟨rfl, rfl, rfl⟩⟩
  | callback member =>
    exact ⟨rfl, rfl, rfl, Nat.le_refl _, fun _ h => .inl h, .inl ⟨rfl, rfl, rfl⟩⟩
  | cancel name reason =>
    obtain ⟨tasks, heq⟩ := room.cancel_eq name reason
    have horders : (room.cancel name reason).2.orders = room.orders := by rw [heq]
    exact ⟨by rw [heq], by rw [heq], by rw [heq]; rfl, Nat.le_of_eq (by rw [heq]),
      fun _ h => .inl (horders ▸ h), .inr (.inr ⟨name, reason, rfl, rfl⟩)⟩
  | publish | close | elapse =>
    exact ⟨rfl, rfl, rfl, Nat.le_refl _, fun _ h => .inl h, .inr (.inl ⟨rfl, rfl⟩)⟩
  | beside lookouts resolutions asks still silent =>
    exact ⟨rfl, rfl, by rw [still]; rfl, Nat.le_refl _, fun _ h => .inl h,
      .inl ⟨rfl, rfl, still⟩⟩

/-- Some list of actions leads to the room from a start. -/
def Reachable (room : WaitingRoom) : Prop :=
  ∃ horizon supplier defaultTimeout tasks actions,
    (startWithin horizon supplier defaultTimeout tasks).acts actions = some room

theorem start_orderly (horizon : Nat) (supplier : Supplier) (defaultTimeout : Nat)
    (tasks : Table (String × CancellableTask) Prod.fst) :
    (startWithin horizon supplier defaultTimeout tasks).Orderly := by
  constructor <;> simp [startWithin, numbers]

/-- What is kept by every step of a kind, from one orderly room to the next, holds wherever actions
of that kind may lead. -/
theorem acts_keep {P : WaitingRoom → Prop} {Q : Action → Prop}
    (step : ∀ {room action next}, room.Orderly → P room → Q action → room.Step action next → P next)
    {actions : List Action} {last : WaitingRoom} (orderly : room.Orderly) (h : P room)
    (kind : ∀ action ∈ actions, Q action) (hacts : room.acts actions = some last) :
    last.Orderly ∧ P last := by
  induction actions generalizing room with
  | nil =>
    obtain rfl := Option.some.inj hacts
    exact ⟨orderly, h⟩
  | cons action rest ih =>
    obtain ⟨next, hact, hrest⟩ := Option.bind_eq_some_iff.1 hacts
    have hstep := act_step orderly hact
    exact ih (hstep.orderly orderly) (step orderly h (kind action List.mem_cons_self) hstep)
      (fun other hother => kind other (List.mem_cons_of_mem _ hother)) hrest

theorem acts_orderly {actions : List Action} {last : WaitingRoom} (orderly : room.Orderly)
    (hacts : room.acts actions = some last) : last.Orderly :=
  (acts_keep (P := fun _ => True) (Q := fun _ => True) (fun _ _ _ _ => trivial) orderly trivial
    (fun _ _ => trivial) hacts).1

theorem Reachable.orderly (h : room.Reachable) : room.Orderly := by
  obtain ⟨horizon, supplier, defaultTimeout, tasks, actions, hacts⟩ := h
  exact acts_orderly (start_orderly horizon supplier defaultTimeout tasks) hacts

section Quiet

variable {w : Wait}

theorem run_wait (orderly : room.Orderly) (heed : Bool) (hw : w ∈ room.waits) :
    room.run heed (.wait w.number) = room.runWait heed w := by
  have hfound : room.waits.find? (fun v => v.number = w.number) = some w :=
    find?_eq_some_of_key hw orderly.distinct_waits
  rw [run, hfound, Option.bind_some]

/-- Where nothing is left to do, all callbacks have run. -/
theorem callbacks_of_quiet (quiet : room.Quiet) : room.callbacks = [] := by
  refine List.eq_nil_iff_forall_not_mem.2 fun c hc => ?_
  have hnone := Option.map_eq_none_iff.1 (quiet true (.callback c.number))
  simpa using List.find?_eq_none.1 hnone c hc

/-- Where nothing is left to do, a wait has been told nothing, and its time is not up. -/
theorem wait_of_quiet (orderly : room.Orderly) (quiet : room.Quiet) (hw : w ∈ room.waits) :
    room.cancellation? w.task = none ∧ ∃ deadline, w.deadline = some deadline ∧
      deadline ≤ room.horizon ∧ room.sighted? w.order deadline = none := by
  obtain ⟨hrunning, hsighted, hdeadline, hwithin⟩ :=
    runWait_eq_none (orderly.watches w hw) fun heed =>
      (run_wait orderly heed hw).symm.trans (quiet heed _)
  exact ⟨hrunning, _, hdeadline, hwithin, hsighted⟩

end Quiet

namespace Trial

/-- An index of one shard, of which no copy has been started. -/
def unassigned : Snapshot :=
  (Snapshot.empty ⟨"trial"⟩).next.withIndex "books" (.unassigned 1 0)

def started : Snapshot :=
  unassigned.next.withIndex "books" ((IndexRouting.unassigned 1 0).startAll 0)

def errand : CancellableTask :=
  .start ⟨1, "direct", "wait", "", .unset, .empty, 0⟩ false false

def opening : WaitingRoom :=
  .start (.start Trial.home unassigned) 1000 (Table.empty.insert ("errand", errand))

/-- A wait for the primary of the index. -/
def order (name : String) (timeout : Nat) : WaitOrder := ⟨name, ["books"], .copies 1, some timeout⟩

/-- The room after actions that are possible one after the other. -/
def after (actions : List Action) (h : (opening.acts actions).isSome) : WaitingRoom :=
  (opening.acts actions).get h

theorem acts_after {actions : List Action} (h : (opening.acts actions).isSome) :
    opening.acts actions = some (after actions h) :=
  (Option.some_get h).symm

end Trial

end WaitingRoom

end ClusterWatch
