import ClusterWatch.Detector.Basic

/-!
Speaking of what has happened at a detector. The past is the history without its times,
latest event first, so a suffix of the past is the past of an earlier moment. Two operators
carry the statements of the modules that follow: something holds since an event of some
kind, and something held at every event given what came before it.
-/
namespace ClusterWatch

/-- What has happened, latest first. -/
abbrev Past := List Event

def Detector.past (d : Detector) : Past := d.history.map Prod.snd

namespace Event

/-- The nodes to be watched are others from here on, or none. -/
def steers : Event → Bool
  | .reconciled _ => true
  | .stopped => true
  | _ => false

/-- A membership with this node is to be followed from here on. -/
def lists (id : NodeId) : Event → Bool
  | .reconciled nodes => nodes.contains id.text
  | _ => false

/-- A reconnect to the node has succeeded. -/
def regains (id : NodeId) : Event → Bool
  | .connected node _ .done => node.id = id
  | _ => false

/-- A cycle of the node has ended. -/
def drops (id : NodeId) : Event → Bool
  | .removed node _ _ => node.id = id
  | _ => false

end Event

namespace Past

/-- Something was a `P`, and everything after it a `Q`. -/
def Since (P Q : Event → Prop) : Past → Prop
  | [] => False
  | e :: earlier => P e ∨ (Q e ∧ Since P Q earlier)

/-- Every event stood in the relation `P` to what had happened before it. -/
def Always (P : Event → Past → Prop) (past : Past) : Prop :=
  ∀ e earlier, e :: earlier <:+ past → P e earlier

/-- The node is in the membership that was given last, and there was no stop after that. -/
def Expected (past : Past) (id : NodeId) : Prop :=
  Since (fun e => e.lists id) (fun e => e.steers = false) past

/-- Since the nodes to be watched were last settled, a reconnect to the node has succeeded
and the node has not been dropped again. -/
def Regained (past : Past) (id : NodeId) : Prop :=
  Since (fun e => e.regains id) (fun e => e.steers = false ∧ e.drops id = false) past

/-- The node was taken on again by a reconnect that succeeded when the node was no longer,
or not yet, one of those to be watched. -/
def Strayed (past : Past) (id : NodeId) : Prop := ¬ Expected past id ∧ Regained past id

/-- The node is one of those to be watched, or a reconnect has taken it on. -/
def Entitled (past : Past) (id : NodeId) : Prop := Expected past id ∨ Regained past id

/-- The cycle has begun and has not been taken away. -/
def Watched (past : Past) (g : Generation) : Prop :=
  (∃ node, .installed node g ∈ past) ∧ ∀ node cause, .removed node g cause ∉ past

/-- Attempts of the cycle that failed in a row up to now; a lost connection is not counted,
an acknowledged ping and the beginning of the cycle set the count to zero. -/
def failedInARow (g : Generation) : Past → Nat
  | [] => 0
  | .installed _ h :: earlier => if h = g then 0 else failedInARow g earlier
  | .answered _ h .done :: earlier => if h = g then 0 else failedInARow g earlier
  | .answered _ h (.failed error) :: earlier =>
      if h = g ∧ error.isDisconnect = false then failedInARow g earlier + 1
      else failedInARow g earlier
  | _ :: earlier => failedInARow g earlier

section Since

variable {P Q : Event → Prop} {e : Event} {past : Past}

instance decidableSince [DecidablePred P] [DecidablePred Q] :
    (past : Past) → Decidable (Since P Q past)
  | [] => isFalse id
  | e :: earlier =>
      have : Decidable (Since P Q earlier) := decidableSince earlier
      inferInstanceAs (Decidable (P e ∨ (Q e ∧ Since P Q earlier)))

instance (past : Past) (id : NodeId) : Decidable (Expected past id) :=
  inferInstanceAs (Decidable (Since _ _ past))

instance (past : Past) (id : NodeId) : Decidable (Regained past id) :=
  inferInstanceAs (Decidable (Since _ _ past))

instance (past : Past) (id : NodeId) : Decidable (Strayed past id) :=
  inferInstanceAs (Decidable (_ ∧ _))

theorem since_cons : Since P Q (e :: past) ↔ P e ∨ (Q e ∧ Since P Q past) := Iff.rfl

theorem since_cons_of_not (hp : ¬ P e) (hq : Q e) : Since P Q (e :: past) ↔ Since P Q past := by
  simp [since_cons, hp, hq]

theorem not_since_cons (hp : ¬ P e) (hq : ¬ Q e) : ¬ Since P Q (e :: past) := by
  simp [since_cons, hp, hq]

theorem since_append (h : Since P Q past) {events : List Event} (hevents : ∀ e ∈ events, Q e) :
    Since P Q (events ++ past) := by
  induction events with
  | nil => exact h
  | cons e events ih =>
    have hrest := ih fun f hf => hevents f (List.mem_cons_of_mem _ hf)
    exact Or.inr ⟨hevents e List.mem_cons_self, hrest⟩

end Since

section Always

variable {P : Event → Past → Prop} {e : Event} {past : Past}

theorem always_nil : Always P [] := fun _ _ h => by simp at h

theorem always_cons (h : Always P past) (he : P e past) : Always P (e :: past) := by
  intro f earlier hf
  rcases List.suffix_cons_iff.1 hf with hf | hf
  · obtain ⟨rfl, rfl⟩ := List.cons.inj hf
    exact he
  · exact h f earlier hf

theorem always_of_suffix {earlier : Past} (h : Always P past) (hsuffix : earlier <:+ past) :
    Always P earlier := fun f before hf => h f before (hf.trans hsuffix)

end Always

theorem suffix_of_cons {e : Event} {earlier past : Past} (h : e :: earlier <:+ past) :
    earlier <:+ past :=
  (List.suffix_cons e earlier).trans h

theorem eq_or_next_of_suffix {l past : Past} (h : l <:+ past) :
    l = past ∨ ∃ e, e :: l <:+ past := by
  obtain ⟨later, rfl⟩ := h
  rcases List.eq_nil_or_concat later with rfl | ⟨before, e, rfl⟩
  · exact Or.inl rfl
  · exact Or.inr ⟨e, before, by simp⟩

theorem expected_cons {e : Event} {past : Past} {id : NodeId} (he : e.steers = false) :
    Expected (e :: past) id ↔ Expected past id :=
  since_cons_of_not (by cases e <;> simp_all [Event.steers, Event.lists]) he

theorem expected_append {events : List Event} {past : Past} {id : NodeId}
    (h : ∀ e ∈ events, e.steers = false) : Expected (events ++ past) id ↔ Expected past id := by
  induction events with
  | nil => exact Iff.rfl
  | cons e events ih =>
    exact (expected_cons (h e List.mem_cons_self)).trans
      (ih fun f hf => h f (List.mem_cons_of_mem _ hf))

theorem regained_cons {e : Event} {past : Past} {id : NodeId} (hs : e.steers = false)
    (hd : e.drops id = false) (hr : e.regains id = false) :
    Regained (e :: past) id ↔ Regained past id :=
  since_cons_of_not (by simp [hr]) ⟨hs, hd⟩

theorem expected_reconciled {nodes : Membership} {past : Past} {id : NodeId} :
    Expected (.reconciled nodes :: past) id ↔ nodes.contains id.text = true := by
  simp [Expected, since_cons, Event.lists, Event.steers]

theorem not_expected_stopped {past : Past} {id : NodeId} : ¬ Expected (.stopped :: past) id :=
  not_since_cons (by simp [Event.lists]) (by simp [Event.steers])

theorem not_regained_of_steers {e : Event} {past : Past} {id : NodeId} (he : e.steers = true) :
    ¬ Regained (e :: past) id :=
  not_since_cons (by cases e <;> simp_all [Event.steers, Event.regains]) (by simp [he])

theorem regained_removed {node : Node} {g : Generation} {cause : Removal} {past : Past}
    {id : NodeId} :
    Regained (.removed node g cause :: past) id ↔ node.id ≠ id ∧ Regained past id := by
  simp [Regained, since_cons, Event.regains, Event.steers, Event.drops]

theorem regained_connected {node : Node} {lost : Generation} {past : Past} {id : NodeId} :
    Regained (.connected node lost .done :: past) id ↔ node.id = id ∨ Regained past id := by
  simp [Regained, since_cons, Event.regains, Event.steers, Event.drops]

theorem exists_connected_of_regained {past : Past} {id : NodeId} (h : Regained past id) :
    ∃ node lost, .connected node lost .done ∈ past := by
  induction past with
  | nil => exact h.elim
  | cons e earlier ih =>
    rcases h with h | h
    · cases e with
      | connected node lost outcome =>
        cases outcome with
        | done => exact ⟨node, lost, List.mem_cons_self⟩
        | failed error => simp [Event.regains] at h
      | _ => simp [Event.regains] at h
    · obtain ⟨node, lost, hmem⟩ := ih h.2
      exact ⟨node, lost, List.mem_cons_of_mem _ hmem⟩

theorem entitled_iff {past : Past} {id : NodeId} :
    Entitled past id ↔ Expected past id ∨ Strayed past id := by
  by_cases h : Expected past id <;> simp [Entitled, Strayed, h]

end Past
end ClusterWatch
