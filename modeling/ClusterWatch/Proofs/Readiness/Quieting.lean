import Mathlib.Data.List.Perm.Basic
import Mathlib.Tactic.Push
import ClusterWatch.Proofs.Readiness.Waiting

/-!
The background comes to rest. Each stretch takes an order from the queue, ends a wait or a call, runs
a callback, or lets an observer catch up with the supplier, and an observer that has caught up has nothing to do
until something is published. So there is a bound on what can be done before time passes or
something comes from outside, and a room in which nothing is left to do can always be reached.
-/
namespace ClusterWatch

section Observer

variable {δ : Type}

/-- Whether there is something left to look at: nobody has begun to look, or the supplier has
accepted something since. -/
def Observer.due (o : Observer) (supplier : Supplier) (deadline : Option δ) : Bool :=
  deadline.isNone || decide (o.subscription.seen < supplier.accepted)

theorem Observer.due_caughtUp (o : Observer) (supplier : Supplier) (deadline : δ) :
    (o.caughtUp supplier).due supplier (some deadline) = false :=
  decide_eq_false (Nat.not_lt.2 (o.le_seen_caughtUp supplier))

theorem Observer.due_of_fresh {o : Observer} {supplier : Supplier} {deadline : Option δ} {d : δ}
    (fresh : ¬(deadline = some (deadline.getD d) ∧ o.caughtUp supplier = o)) :
    o.due supplier deadline = true := by
  cases deadline with
  | none => rfl
  | some deadline =>
    refine decide_eq_true (Nat.not_le.1 fun hseen => fresh ⟨rfl, ?_⟩)
    exact Observer.caughtUp_of_le hseen

end Observer

def Wait.due (supplier : Supplier) (w : Wait) : Bool := w.observer.due supplier w.deadline

def Lookout.due (supplier : Supplier) (l : Lookout) : Bool := l.observer.due supplier l.deadline

namespace WaitingRoom

variable {room next last : WaitingRoom} {heed : Bool}

/-- How much can be done before time passes or something comes from outside. A wait that begins is
one more in the background, and has yet to look; so is a call whose turn it is. Of a wait that has
come out only the callback is left. -/
def due (room : WaitingRoom) : Nat :=
  4 * room.orders.length +
    (2 * room.waits.length + room.waits.countP (Wait.due room.supplier)) +
    room.callbacks.length +
    (2 * (room.lookouts.flatMap Lookout.calls).length +
      room.lookouts.countP (Lookout.due room.supplier))

theorem due_asked {order : WaitOrder} {task : Option String} {awaited : Bool}
    (asked : room.Asked order task awaited next) : next.due ≤ room.due + 3 := by
  cases asked with
  | met | cancelled => exact Nat.le_add_right _ 3
  | background =>
    have hcount : [room.newWait order task awaited].countP (Wait.due room.supplier) ≤ 1 :=
      List.countP_le_length
    simp only [due, List.length_append, List.countP_append, List.length_singleton]
    omega

theorem due_begin {order : WaitOrder} {rest : List WaitOrder} (turn : room.orders = order :: rest) :
    WaitingRoom.due ({ room with orders := rest }.wait order none true) < room.due := by
  have hasked := due_asked (wait_asked { room with orders := rest } order none true)
  have hrest : WaitingRoom.due { room with orders := rest } + 4 = room.due := by
    simp only [due, turn, List.length_cons]
    omega
  omega

/-- A wait that leaves has at most its callback left. -/
theorem due_leave (orderly : room.Orderly) {w : Wait} (hw : w ∈ room.waits)
    {callbacks : List Callback} (hcallbacks : callbacks.length ≤ room.callbacks.length + 1)
    (lost : List Wait) : due { room.leave w with callbacks, lost } < room.due := by
  have hlength := orderly.length_others hw
  have hcount := (perm_cons_others hw orderly.distinct_waits).countP_eq (Wait.due room.supplier)
  rw [List.countP_cons] at hcount
  simp only [due, leave]
  omega

theorem due_finish (orderly : room.Orderly) {w : Wait} (hw : w ∈ room.waits) (result : WaitResult) :
    (room.finish w result).due < room.due :=
  due_leave orderly hw (Nat.le_of_eq List.length_append) room.lost

theorem due_lose (orderly : room.Orderly) {w : Wait} (hw : w ∈ room.waits) :
    (room.lose (room.dated w)).due < room.due := by
  rcases room.lose_cases (room.dated w) with ⟨-, heq⟩ | ⟨-, heq⟩
  · exact heq ▸ due_finish orderly hw _
  · exact heq ▸ due_leave orderly hw (Nat.le_succ _) _

theorem due_tell {c : Callback} (hc : c ∈ room.callbacks) : (room.tell c).due < room.due := by
  have hless : (room.callbacks.filter fun other => other.number ≠ c.number).length <
      room.callbacks.length :=
    List.length_filter_lt_length_iff_exists.2 ⟨c, hc, by simp⟩
  simp only [due, tell, resolve]
  omega

/-- A wait that has looked has nothing left to look at. -/
theorem due_setWait (orderly : room.Orderly) {w v : Wait} (hw : w ∈ room.waits)
    (hnumber : v.number = w.number) (before : w.due room.supplier = true)
    (after : v.due room.supplier = false) : (room.setWait v).due < room.due := by
  have hset : (room.setWait v).waits.Perm
      (v :: room.waits.filter fun other => other.number ≠ w.number) := by
    unfold setWait
    rw [hnumber]
    exact map_perm_change hw orderly.distinct_waits fun _ => v
  have hlength : (room.setWait v).waits.length = room.waits.length := List.length_map ..
  have hwas := (perm_cons_others hw orderly.distinct_waits).countP_eq (Wait.due room.supplier)
  have his := hset.countP_eq (Wait.due room.supplier)
  rw [List.countP_cons, if_pos before] at hwas
  rw [List.countP_cons, after, if_neg Bool.false_ne_true] at his
  have hsame : (room.setWait v).due + room.waits.countP (Wait.due room.supplier) =
      room.due + (room.setWait v).waits.countP (Wait.due room.supplier) := by
    simp only [due, hlength]
    simp only [setWait]
    omega
  omega

/-- A lookout that is gone has nothing left to do. -/
theorem due_erase (i : Nat) {call : LookoutCall} {rest : List LookoutCall} {l : Lookout}
    (hl : room.lookouts[i]? = some l) (hcalls : l.calls = call :: rest) :
    WaitingRoom.due { room with lookouts := room.lookouts.eraseIdx i } < room.due := by
  obtain ⟨hi, rfl⟩ := List.getElem?_eq_some_iff.1 hl
  have hwas := (List.getElem_cons_eraseIdx_perm hi).symm
  simp only [due, hwas.countP_eq, (hwas.flatMap_right _).length_eq, List.countP_cons,
    List.flatMap_cons, List.length_append, hcalls, List.length_cons]
  omega

/-- A lookout that is put in the place of another, and the rest of them. -/
theorem due_put {i : Nat} {l l' : Lookout} (hl : room.lookouts[i]? = some l)
    (resolutions : List (Nat × String × Resolution))
    (h : 2 * l'.calls.length + (l'.due room.supplier).toNat <
      2 * l.calls.length + (l.due room.supplier).toNat) :
    WaitingRoom.due { room with lookouts := room.lookouts.set i l', resolutions } < room.due := by
  obtain ⟨hi, rfl⟩ := List.getElem?_eq_some_iff.1 hl
  have hwas := (List.getElem_cons_eraseIdx_perm hi).symm
  have his := List.set_perm_cons_eraseIdx hi l'
  have hcount (p : Lookout → Bool) (l : Lookout) (rest : List Lookout) :
      (l :: rest).countP p = rest.countP p + (p l).toNat := by
    rw [List.countP_cons]
    cases p l <;> rfl
  simp only [due, hwas.countP_eq, his.countP_eq, (hwas.flatMap_right _).length_eq,
    (his.flatMap_right _).length_eq, hcount, List.flatMap_cons, List.length_append]
  omega

theorem due_lookout {i : Nat} {l : Lookout} (hl : room.lookouts[i]? = some l)
    (h : room.runLookout i l = some next) : next.due < room.due := by
  unfold runLookout at h
  split at h
  · cases h
  next call rest hcalls =>
    dsimp only at h
    rw [Observer.look_eq_of_seen] at h
    dsimp only at h
    split at h
    · obtain rfl := Option.some.inj h
      exact due_erase i hl hcalls
    · split at h
      · split at h
        · cases h
        next fresh =>
          obtain rfl := Option.some.inj h
          refine due_put hl room.resolutions ?_
          have hbefore : l.due room.supplier = true := Observer.due_of_fresh fresh
          have hafter : Lookout.due room.supplier { l with
              deadline := some (l.deadline.getD (call.timeout.map (room.now + ·)))
              observer := l.observer.caughtUp room.supplier } = false := Observer.due_caughtUp ..
          rw [hbefore, hafter]
          exact Nat.lt_succ_self _
      · obtain rfl := Option.some.inj h
        refine due_put hl _ ?_
        have hbound := Bool.toNat_le (Lookout.due room.supplier
          { l with calls := rest, deadline := none, observer := l.observer.caughtUp room.supplier })
        have hlength : l.calls.length = rest.length + 1 := congrArg List.length hcalls
        show 2 * rest.length + _ < _
        omega

/-- Whatever is done in the background, there is less left to do. -/
theorem run_due {a : Activity} (orderly : room.Orderly) (h : room.run heed a = some next) :
    next.due < room.due := by
  cases a with
  | begin =>
    simp only [run, beginNext?] at h
    split at h
    · cases h
    next turn =>
      obtain rfl := Option.some.inj h
      exact due_begin turn
  | wait number =>
    obtain ⟨w, hfound, hrun⟩ := Option.bind_eq_some_iff.1 h
    have hw := List.mem_of_find?_eq_some hfound
    cases runWait_stretch (orderly.watches w hw) hrun with
    | cancelled | sighted => exact due_finish orderly hw _
    | lost => exact due_lose orderly hw
    | waits within unmet running fresh =>
      exact due_setWait orderly hw rfl (Observer.due_of_fresh fresh) (Observer.due_caughtUp ..)
  | callback number =>
    obtain ⟨c, hfound, rfl⟩ := Option.map_eq_some_iff.1 h
    exact due_tell (List.mem_of_find?_eq_some hfound)
  | lookout index =>
    obtain ⟨l, hl, hrun⟩ := Option.bind_eq_some_iff.1 h
    exact due_lookout hl hrun

/-- Each action is a stretch of something in the background. -/
def Inside (actions : List Action) : Prop := ∀ action ∈ actions, action.outside = false

theorem acts_due {work : List Action} (orderly : room.Orderly) (inside : Inside work)
    (hacts : room.acts work = some last) : work.length + last.due ≤ room.due := by
  induction work generalizing room with
  | nil =>
    obtain rfl := Option.some.inj hacts
    simp
  | cons action rest ih =>
    obtain ⟨next, hact, hrest⟩ := Option.bind_eq_some_iff.1 hacts
    have hnext := ih ((act_step orderly hact).orderly orderly)
      (fun other hother => inside other (List.mem_cons_of_mem _ hother)) hrest
    have hless : next.due < room.due := by
      cases action with
      | run heed a => exact run_due orderly hact
      | _ => exact absurd (inside _ List.mem_cons_self) (by simp [Action.outside])
    rw [List.length_cons]
    omega

/-- The background comes to rest, and the clock stands still meanwhile. -/
structure QuietsDown (room : WaitingRoom) : Prop where
  /-- In whatever order it is done, there is only so much to do. -/
  bounded : ∀ {work last}, Inside work → room.acts work = some last →
    work.length + last.due ≤ room.due
  reached : ∃ work quiet, Inside work ∧ room.acts work = some quiet ∧ quiet.Quiet ∧
    quiet.now = room.now

theorem exists_quiet (orderly : room.Orderly) : ∃ work quiet, Inside work ∧
    room.acts work = some quiet ∧ quiet.Quiet ∧ quiet.now = room.now := by
  -- By what is left to do: something can be done, and then less is left, or the room is quiet.
  induction hdue : room.due using Nat.strongRecOn generalizing room with
  | ind amount ih =>
    by_cases quiet : room.Quiet
    · exact ⟨[], room, fun _ h => absurd h List.not_mem_nil, rfl, quiet, rfl⟩
    · unfold Quiet at quiet
      push Not at quiet
      obtain ⟨heed, a, hrun⟩ := quiet
      obtain ⟨next, hnext⟩ := Option.ne_none_iff_exists'.1 hrun
      have step : room.Step (.run heed a) next := act_step orderly hnext
      obtain ⟨work, last, hinside, hacts, hquiet, hnow⟩ :=
        ih next.due (hdue ▸ run_due orderly hnext) (step.orderly orderly) rfl
      refine ⟨.run heed a :: work, last, ?_, ?_, hquiet, hnow.trans step.frame.now⟩
      · exact List.forall_mem_cons.2 ⟨rfl, hinside⟩
      · show (room.run heed a).bind _ = _
        rw [hnext]
        exact hacts

theorem Orderly.quietsDown (orderly : room.Orderly) : room.QuietsDown :=
  ⟨acts_due orderly, exists_quiet orderly⟩

end WaitingRoom

end ClusterWatch
