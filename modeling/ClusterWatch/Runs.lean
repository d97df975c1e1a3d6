/-!
Systems that act. A system is told by what each action leads to, if the action is possible at all;
a run is any list of actions that are possible one after the other.
-/
namespace ClusterWatch

variable {σ α : Type} {act : σ → α → Option σ} {s t : σ} {before : List α}

/-- The state after a list of actions, if each is possible when its turn comes. -/
def runs (act : σ → α → Option σ) (s : σ) : List α → Option σ
  | [] => some s
  | action :: rest => (act s action).bind fun next => runs act next rest

theorem runs_cons {action : α} {rest : List α} :
    runs act s (action :: rest) = some t ↔
      ∃ next, act s action = some next ∧ runs act next rest = some t :=
  Option.bind_eq_some_iff

/-- A run may go on where another has ended. -/
theorem runs_append (h : runs act s before = some t) (after : List α) :
    runs act s (before ++ after) = runs act t after := by
  induction before generalizing s with
  | nil =>
    obtain rfl := Option.some.inj h
    rfl
  | cons action rest ih =>
    obtain ⟨next, hact, hrest⟩ := runs_cons.1 h
    rw [List.cons_append, runs, hact, Option.bind_some, ih hrest]

end ClusterWatch
