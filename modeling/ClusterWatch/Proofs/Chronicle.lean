import Mathlib.Data.List.Basic

/-!
Lists of events, the latest first, so that what follows an event in the list came before it. An
event may be warranted by what came before it; if each is when it is added, then all are.
-/
namespace ClusterWatch

variable {α β : Type} {Warranted : List α → α → Prop} {past later earlier : List α} {e : α}

/-- Every event was warranted by what came before it. -/
def Throughout (Warranted : List α → α → Prop) (past : List α) : Prop :=
  ∀ later e earlier, past = later ++ e :: earlier → Warranted earlier e

namespace Throughout

theorem nil : Throughout Warranted [] := fun _ _ _ h =>
  absurd h.symm (List.append_ne_nil_of_right_ne_nil _ (List.cons_ne_nil _ _))

theorem cons (h : Throughout Warranted past) (warranted : Warranted past e) :
    Throughout Warranted (e :: past) := by
  intro later f earlier hsplit
  cases later with
  | nil =>
    obtain ⟨rfl, rfl⟩ := List.cons.inj hsplit
    exact warranted
  | cons g later => exact h later f earlier (List.cons.inj hsplit).2

theorem head (h : Throughout Warranted (e :: past)) : Warranted past e := h [] e past rfl

theorem of_append (h : Throughout Warranted (later ++ earlier)) : Throughout Warranted earlier := by
  intro recent e before hsplit
  apply h (later ++ recent) e before
  rw [hsplit, List.append_assoc]

theorem tail (h : Throughout Warranted (e :: past)) : Throughout Warranted past :=
  fun later f earlier hsplit => h (e :: later) f earlier (congrArg (e :: ·) hsplit)

end Throughout

/-- Numbers that go down to the last element still do so below a greater one. -/
theorem pairwise_cons_of_headD {f : α → Int} {l : List α} {a last : α}
    (falling : (l ++ [last]).Pairwise (f · > f ·)) (h : f (l.headD last) < f a) :
    (a :: (l ++ [last])).Pairwise (f · > f ·) := by
  refine List.pairwise_cons.2 ⟨fun b hb => ?_, falling⟩
  cases l with
  | nil => exact List.mem_singleton.1 hb ▸ h
  | cons head rest =>
    rcases List.mem_cons.1 hb with rfl | hb
    · exact h
    · exact Int.lt_trans ((List.pairwise_cons.1 falling).1 b hb) h

/-- What the events of a past have to say, earliest first. -/
def inOrder (f : α → Option β) (past : List α) : List β := past.reverse.filterMap f

theorem inOrder_cons (f : α → Option β) (e : α) (past : List α) :
    inOrder f (e :: past) = inOrder f past ++ (f e).toList := by
  cases h : f e <;> simp [inOrder, List.filterMap_append, h]

theorem inOrder_cons_none {f : α → Option β} (h : f e = none) :
    inOrder f (e :: past) = inOrder f past := by
  rw [inOrder_cons, h, Option.toList_none, List.append_nil]

end ClusterWatch
