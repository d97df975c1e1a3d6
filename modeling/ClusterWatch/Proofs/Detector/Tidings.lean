import ClusterWatch.Proofs.Detector.Submission

/-!
Disconnects are taken up once each. Whoever takes one up ends at most one cycle of the node, and
those that have not been taken up yet are still to be had; so at no time have more cycles of a node
been ended on account of disconnects than disconnects of it have been told of.
-/
namespace ClusterWatch

namespace Event

/-- A cycle of the node is ended on account of a disconnect that was told of. -/
def endsOnWord (id : NodeId) : Event → Bool
  | .removed node _ .lostByEvent => node.id = id
  | _ => false

/-- The connection to the node is said to be lost. -/
def disconnects (id : NodeId) : Event → Bool
  | .disconnected node => node.id = id
  | _ => false

theorem hears_of_endsOnWord {id : NodeId} {e : Event} (h : e.endsOnWord id = true) :
    e.hears = true := by
  cases e with
  | removed node g cause => cases cause <;> first | rfl | cases h
  | _ => cases h

theorem hears_of_disconnects {id : NodeId} {e : Event} (h : e.disconnects id = true) :
    e.hears = true := by
  cases e with
  | disconnected node => rfl
  | _ => cases h

end Event

open Event

/-- More disconnects of the node have been told of than cycles of it have been ended on account of
disconnects. -/
def Past.Heralded (past : Past) (id : NodeId) : Prop :=
  past.countP (endsOnWord id) < past.countP (disconnects id)

instance (past : Past) (id : NodeId) : Decidable (past.Heralded id) :=
  inferInstanceAs (Decidable (_ < _))

theorem Past.countP_hears {p : Event → Bool} (hp : ∀ {e}, p e = true → e.hears = true)
    (past : Past) : (past.filter hears).countP p = past.countP p := by
  rw [List.countP_filter]
  exact List.countP_congr fun e _ => by simpa using hp

theorem Past.heralded_hears {past : Past} {id : NodeId} :
    Past.Heralded (past.filter hears) id ↔ past.Heralded id := by
  unfold Past.Heralded
  rw [countP_hears hears_of_endsOnWord, countP_hears hears_of_disconnects]

/-- There are disconnects enough for the cycles that have ended and for those to be taken up. -/
structure Owing (heard : Past) (tidings : List NodeId) : Prop where
  enough : ∀ id, heard.countP (endsOnWord id) + tidings.count id ≤ heard.countP (disconnects id)
  each : ∀ node g earlier, .removed node g .lostByEvent :: earlier <:+ heard →
    Past.Heralded earlier node.id

theorem Owing.hearing {past : Past} {before after : List NodeId} {heard : List Event}
    (h : Owing past before) (hearing : Hearing before heard after) :
    Owing (heard ++ past) after := by
  cases hearing with
  | nothing fewer =>
    refine ⟨fun id => ?_, h.each⟩
    have henough := h.enough id
    have hfewer := fewer.count_le id
    simp only [List.nil_append]
    omega
  | told node more =>
    refine ⟨fun id => ?_, fun n g earlier hsuffix => ?_⟩
    · have henough := h.enough id
      have hmore := more.count_le id
      simp only [List.singleton_append, List.countP_cons, List.count_cons, beq_iff_eq, endsOnWord,
        disconnects, decide_eq_true_eq] at hmore ⊢
      simp only [Bool.false_eq_true, ↓reduceIte]
      omega
    · rcases List.suffix_cons_iff.1 hsuffix with heq | hsuffix
      · simp at heq
      · exact h.each n g earlier hsuffix
  | ended node g less =>
    refine ⟨fun id => ?_, fun n k earlier hsuffix => ?_⟩
    · have henough := h.enough id
      have hless := less.count_le id
      simp only [List.singleton_append, List.countP_cons, List.count_cons, beq_iff_eq, endsOnWord,
        disconnects, decide_eq_true_eq] at hless ⊢
      simp only [Bool.false_eq_true, ↓reduceIte]
      omega
    · rcases List.suffix_cons_iff.1 hsuffix with heq | hsuffix
      · obtain ⟨hremoved, rfl⟩ := List.cons.inj heq
        obtain ⟨rfl, -, -⟩ := Event.removed.inj hremoved
        have henough := h.enough n.id
        have hless := less.count_le n.id
        rw [List.count_cons_self] at hless
        unfold Past.Heralded
        omega
      · exact h.each n k earlier hsuffix

namespace Station

variable {s t : Station}

/-- Whatever is done, what is heard fits the disconnects that are to be taken up. -/
theorem act_heard {action : Action} (permitted : s.Permitted) (h : s.act action = some t) :
    ∃ heard, t.past.filter hears = heard ++ s.past.filter hears ∧
      Hearing s.tidings heard t.tidings := by
  cases haside : action.aside with
  | true =>
    obtain ⟨heard, submits, hearing⟩ := act_hears permitted h haside
    exact ⟨heard, submits.heard, hearing⟩
  | false =>
    have hsame (htidings : t.tidings = s.tidings)
        (hpast : t.past.filter hears = s.past.filter hears) : ∃ heard,
          t.past.filter hears = heard ++ s.past.filter hears ∧
            Hearing s.tidings heard t.tidings :=
      ⟨[], hpast, .nothing (htidings ▸ List.Subperm.refl _)⟩
    cases action with
    | close =>
      obtain rfl := of_owned h
      exact hsame rfl (Detector.stop_submits s.detector).heard
    | addListener listener =>
      obtain rfl := of_owned h
      exact hsame rfl rfl
    | removeListener listener =>
      obtain rfl := of_owned h
      unfold removeListener?
      cases s.detector.registry.remove? listener <;> exact ⟨[], rfl, .nothing (List.Subperm.refl _)⟩
    | run heed activity =>
      cases activity with
      | delivery =>
        obtain ⟨d, hd, rfl⟩ := Option.map_eq_some_iff.1 h
        refine hsame rfl ?_
        obtain ⟨⟨notice, bulletin⟩, -, rfl⟩ := Option.map_eq_some_iff.1 hd
        exact List.foldlRecOn
          (motive := fun e : Detector => e.past.filter hears = s.past.filter hears) _ _ rfl
          fun e he _ _ => he
      | worker | handler | feed | follower => cases haside
    | elapse time =>
      obtain rfl := Option.some.inj h
      exact hsame rfl rfl
    | _ => cases haside

theorem acts_owing {actions : List Action} (permitted : s.Permitted)
    (h : Owing (s.past.filter hears) s.tidings) (hacts : s.acts actions = some t) :
    Owing (t.past.filter hears) t.tidings := by
  induction actions generalizing s with
  | nil =>
    obtain rfl := Option.some.inj hacts
    exact h
  | cons action rest ih =>
    obtain ⟨u, hact, hrest⟩ := runs_cons.1 hacts
    obtain ⟨heard, hpast, hearing⟩ := act_heard permitted hact
    exact ih (act_advances permitted hact).2 (hpast ▸ h.hearing hearing) hrest

/-- Each cycle that ended on account of a disconnect had a disconnect of its node for itself. -/
theorem Reachable.heralded (h : s.Reachable) {node : Node} {g : Generation} {earlier : Past}
    (hsuffix : .removed node g .lostByEvent :: earlier <:+ s.past) : earlier.Heralded node.id := by
  obtain ⟨self, cluster, settings, initial, link, actions, hacts⟩ := h
  have hstart : Owing ((start self cluster settings initial link).past.filter hears)
      (start self cluster settings initial link).tidings :=
    ⟨fun id => Nat.le_refl 0, fun n g earlier h =>
      absurd (List.suffix_nil.1 h) (List.cons_ne_nil _ _)⟩
  have howing := acts_owing (start_permitted _ _ _ _ _) hstart hacts
  have hfiltered := hsuffix.filter hears
  rw [List.filter_cons_of_pos rfl] at hfiltered
  exact Past.heralded_hears.1 (howing.each node g _ hfiltered)

end Station
end ClusterWatch
