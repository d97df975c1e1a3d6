import ClusterWatch.Proofs.Detector.Burst
import ClusterWatch.Proofs.Detector.News

/-!
No node slips from view. A request to reconcile puts every listed node under watch, and what
ends a cycle without a request is either reported or leads to an attempt to connect, which
in its turn puts the node under watch again or is reported. So a node that is to be watched
is watched, or has been reported since that was settled, or is being reconnected.
-/
namespace ClusterWatch

open Detector Past

/-- The node is reported. -/
def Event.reports (id : NodeId) : Event → Bool
  | .reported node _ _ _ => node.id = id
  | _ => false

/-- Since the nodes to be watched were last settled, the node has been reported. -/
def Past.Reported (past : Past) (id : NodeId) : Prop :=
  Since (fun e => e.reports id) (fun e => e.steers = false) past

instance (past : Past) (id : NodeId) : Decidable (Past.Reported past id) :=
  inferInstanceAs (Decidable (Since _ _ past))

theorem Past.reported_of_mem {events : List Event} {past : Past} {id : NodeId} {e : Event}
    (he : e ∈ events) (hreports : e.reports id = true) (hsteady : ∀ f ∈ events, f.steers = false) :
    Reported (events ++ past) id := by
  obtain ⟨later, before, rfl⟩ := List.append_of_mem he
  rw [List.append_assoc]
  have hreported : Reported (e :: (before ++ past)) id := Or.inl hreports
  exact since_append hreported fun f hf => hsteady f (List.mem_append_left _ hf)

namespace Detector

variable {d e : Detector} {label : Aside} {new : List Event}

/-- A cycle goes only at a request that does not list its node, or it is reported or leads to an
attempt to connect. -/
theorem Burst.of_removed (burst : d.Burst e label new) {node : Node} {g : Generation}
    {cause : Removal} (h : .removed node g cause ∈ new) :
    (∃ f ∈ new, f.steers = true ∧ f.lists node.id = false) ∨ (∃ f ∈ new, f.reports node.id = true) ∨
      ∃ named : Node, named.id = node.id ∧ .connecting named g ∈ new ∧
        label = .setsOut ⟨named, g⟩ := by
  cases burst with
  | reconcile nodes left installed members once unlisted =>
    refine Or.inl ⟨.reconciled nodes, by simp, rfl, ?_⟩
    rcases List.mem_append.1 h with h | h
    · obtain ⟨n, k, heq⟩ := installed _ h
      simp at heq
    · obtain ⟨c, hc, heq⟩ : ∃ c ∈ left, Event.removed c.node c.generation .left =
          .removed node g cause := by simpa using h
      obtain ⟨rfl, -, -⟩ := Event.removed.inj heq
      exact unlisted c hc
  | stop dropped members => exact Or.inl ⟨.stopped, by simp, rfl, rfl⟩
  | @exhaust w c error taken =>
    obtain ⟨rfl, -, -⟩ : node = w.node ∧ g = w.generation ∧ cause = .unresponsive := by
      simpa using h
    exact Or.inr (Or.inl ⟨_, List.mem_cons_self, by simp [Event.reports]⟩)
  | breakOff member current lost sequel =>
    cases sequel with
    | attempt =>
      obtain ⟨rfl, rfl, -⟩ := Event.removed.inj (by simpa using h)
      exact Or.inr (Or.inr ⟨_, rfl, List.mem_cons_self, rfl⟩)
    | report =>
      obtain ⟨rfl, rfl, -⟩ := Event.removed.inj (by simpa using h)
      exact Or.inr (Or.inl ⟨_, List.mem_cons_self, by simp [Event.reports]⟩)
  | disconnect member named sequel =>
    cases sequel with
    | attempt =>
      obtain ⟨rfl, rfl, -⟩ := Event.removed.inj (by simpa using h)
      exact Or.inr (Or.inr ⟨_, named.symm, List.mem_cons_self, rfl⟩)
    | report =>
      obtain ⟨rfl, rfl, -⟩ := Event.removed.inj (by simpa using h)
      exact Or.inr (Or.inl ⟨_, List.mem_cons_self, by simp [Event.reports, named]⟩)
  | _ => simp at h

/-- An attempt to connect that comes out puts its node under watch, or the node is reported. -/
theorem Burst.of_returns (burst : d.Burst e label new) {errand : Errand}
    (h : label = .returns errand) :
    e.monitored.contains errand.node.key = true ∨ ∃ f ∈ new, f.reports errand.node.id = true := by
  cases burst with
  | breakOff member current lost sequel | disconnect member named sequel =>
    cases sequel <;> simp at h
  | regain node lost asked present watched | takeOn node lost g asked absent watched =>
    obtain rfl := Aside.returns.inj h
    exact Or.inl watched
  | fail node lost error taken asked =>
    obtain rfl := Aside.returns.inj h
    exact Or.inr ⟨_, List.mem_cons_self, by simp [Event.reports]⟩
  | _ => simp at h

/-- An entry stays, but for its count and its phase, as long as its cycle is not taken away. -/
theorem Grows.entry_stays (grows : d.Grows e label new) {c : Cycle}
    (hc : c ∈ d.monitored.entries)
    (hkept : ∀ node cause, .removed node c.generation cause ∉ new) :
    ∃ b ∈ e.monitored.entries, b.node = c.node ∧ b.generation = c.generation := by
  have he := grows.enrolledStill
  have hinstalled : Event.installed c.node c.generation ∈ e.past :=
    grows.past ▸ List.mem_append_right _ (grows.enrolled.entry c hc)
  have hwatched : Watched e.past c.generation := by
    refine ⟨⟨c.node, hinstalled⟩, fun node cause hmem => ?_⟩
    rcases List.mem_append.1 (grows.past ▸ hmem) with hmem | hmem
    · exact hkept node cause hmem
    · exact grows.enrolled.present c hc node cause hmem
  obtain ⟨b, hb, hg⟩ := he.watched hwatched
  exact ⟨b, hb, he.unique (hg ▸ he.entry b hb) hinstalled, hg⟩

/-- What is said to be taken away of an entry's cycle is of the entry's node. -/
theorem Grows.node_of_removed (grows : d.Grows e label new) {c : Cycle}
    (hc : c ∈ d.monitored.entries) {node : Node} {cause : Removal}
    (h : .removed node c.generation cause ∈ new) : node = c.node :=
  grows.enrolledStill.unique
    (grows.enrolledStill.ended (grows.past ▸ List.mem_append_left _ h))
    (grows.past ▸ List.mem_append_right _ (grows.enrolled.entry c hc))

/-- The node is watched, has been reported, or is being reconnected. -/
def Accounts (d : Detector) (attempts : List Errand) (id : NodeId) : Prop :=
  d.monitored.contains id.text = true ∨ Reported d.past id ∨
    ∃ errand ∈ attempts, errand.node.id = id

/-- No node that is to be watched has slipped from view. -/
def Covered (d : Detector) (attempts : List Errand) : Prop :=
  ∀ id, id ≠ d.self.id → Expected d.past id → d.Accounts attempts id

/-- Between requests, what is accounted for stays so. -/
theorem Accounts.keep {attempts rest : List Errand} {id : NodeId} (h : d.Accounts attempts id)
    (grows : d.Grows e label new) (moves : label.Moves attempts rest)
    (hsteady : ∀ f ∈ new, f.steers = false) : e.Accounts rest id := by
  have hreported {f : Event} (hf : f ∈ new) (hreports : f.reports id = true) :
      e.Accounts rest id :=
    Or.inr (Or.inl (grows.past ▸ reported_of_mem hf hreports hsteady))
  rcases h with hpresent | hreport | ⟨errand, hmem, rfl⟩
  · obtain ⟨c, hc, hkey⟩ := Table.contains_iff.1 hpresent
    by_cases hremoved : ∃ node cause, .removed node c.generation cause ∈ new
    · obtain ⟨node, cause, hremoved⟩ := hremoved
      have hid : node.id = id :=
        grows.node_of_removed hc hremoved ▸ congrArg NodeId.mk hkey
      rcases grows.burst.of_removed hremoved with ⟨f, hf, hsteers, -⟩ | ⟨f, hf, hreports⟩ |
        ⟨named, same, -, rfl⟩
      · exact absurd ((hsteady f hf).symm.trans hsteers) (by decide)
      · exact hreported hf (hid ▸ hreports)
      · exact Or.inr (Or.inr ⟨_, moves.mem_iff.2 List.mem_cons_self, same.trans hid⟩)
    · have hkept : ∀ node cause, .removed node c.generation cause ∉ new :=
        fun node cause hmem => hremoved ⟨node, cause, hmem⟩
      obtain ⟨b, hb, hnode, -⟩ := grows.entry_stays hc hkept
      exact Or.inl (Table.contains_iff.2 ⟨b, hb, (congrArg Node.key hnode).trans hkey⟩)
  · exact Or.inr (Or.inl (grows.past ▸ since_append hreport hsteady))
  · cases label with
    | nothing => exact Or.inr (Or.inr ⟨errand, moves.mem_iff.2 hmem, rfl⟩)
    | setsOut first =>
      exact Or.inr (Or.inr ⟨errand, moves.mem_iff.2 (List.mem_cons_of_mem _ hmem), rfl⟩)
    | returns last =>
      rcases List.mem_cons.1 (moves.mem_iff.1 hmem) with rfl | hmem
      · rcases grows.burst.of_returns rfl with hwatched | ⟨f, hf, hreports⟩
        · exact Or.inl hwatched
        · exact hreported hf hreports
      · exact Or.inr (Or.inr ⟨errand, hmem, rfl⟩)

theorem steers_of_installs {installs : List Event}
    (h : ∀ f ∈ installs, ∃ node g, f = .installed node g) : ∀ f ∈ installs, f.steers = false := by
  intro f hf
  obtain ⟨node, g, rfl⟩ := h f hf
  rfl

theorem steers_of_dropped (cycles : List Cycle) (cause : Removal) :
    ∀ f ∈ (cycles.map fun c => Event.removed c.node c.generation cause).reverse,
      f.steers = false := by
  intro f hf
  obtain ⟨c, -, rfl⟩ := List.mem_map.1 (List.mem_reverse.1 hf)
  rfl

theorem Grows.covered {attempts rest : List Errand} (grows : d.Grows e label new)
    (moves : label.Moves attempts rest) (h : d.Covered attempts) : e.Covered rest := by
  intro id hother hexpected
  rw [grows.self] at hother
  rw [grows.past] at hexpected
  by_cases hsteady : ∀ f ∈ new, f.steers = false
  · exact (h id hother ((expected_append hsteady).1 hexpected)).keep grows moves hsteady
  -- A request is in the burst, and what was accounted for before does not matter.
  cases grows.burst with
  | @reconcile nodes installs left installed members once unlisted complete =>
    rw [List.append_assoc, List.append_assoc,
      expected_append (steers_of_installs installed),
      expected_append (steers_of_dropped left .left), List.singleton_append,
      expected_reconciled] at hexpected
    obtain ⟨node, hnode, hkey⟩ := Table.contains_iff.1 hexpected
    obtain rfl : node.id = id := congrArg NodeId.mk hkey
    exact Or.inl (complete node hnode hother)
  | stop dropped members =>
    rw [List.append_assoc, expected_append (steers_of_dropped dropped .stopped)] at hexpected
    exact absurd hexpected not_expected_stopped
  | breakOff member current lost sequel | disconnect member named sequel =>
    cases sequel <;> exact absurd (by simp [Event.steers]) hsteady
  | _ => exact absurd (by simp [Event.steers]) hsteady

end Detector

namespace Station

theorem Reachable.covered {s : Station} (h : s.Reachable) : s.detector.Covered s.attempts := by
  refine h.keepBursts (P := Covered) (fun _ _ _ id _ hexpected => hexpected.elim) ?_
  exact fun hcovered _ grows moves => grows.covered moves hcovered

/-- A node of the membership that was given last, with no stop after that, is watched unless it
is the detector's own, or it has been reported since, or an attempt to connect to it is under
way; and what is reported is submitted to the listeners. -/
theorem Reachable.covers_membership {s : Station} (h : s.Reachable) {id : NodeId}
    (hexpected : Expected s.past id) (hother : id ≠ s.detector.self.id) :
    ((∃ c ∈ s.detector.monitored.entries, c.node.id = id) ∨ Reported s.past id ∨
      ∃ errand ∈ s.attempts, errand.node.id = id) ∧ s.ReportsSubmitted := by
  refine ⟨?_, h.reports_submitted⟩
  rcases h.covered id hother hexpected with hpresent | haccounted
  · obtain ⟨c, hc, hkey⟩ := Table.contains_iff.1 hpresent
    exact Or.inl ⟨c, hc, congrArg NodeId.mk hkey⟩
  · exact Or.inr haccounted

/-- The connection to the peer is lost, and nothing comes of the attempt to connect. -/
def cutOff : Station :=
  Trial.after { DetectionSettings.standard with reconnect := true }
    ((Link.ideal.setReply Trial.peer.id
      (.after 0 (.failed (.connectFailed Trial.peer.id "reset")))).setConnects Trial.peer.id
        [.never]) [
      .reconcile Trial.together, .run true (.worker ⟨1⟩), .run true (.worker ⟨1⟩),
      .run true (.worker ⟨1⟩)] (by decide)

theorem covers_membership_cut_off :
    Expected cutOff.past Trial.peer.id ∧ Trial.peer.id ≠ cutOff.detector.self.id ∧
      ∃ errand ∈ cutOff.attempts, errand.node.id = Trial.peer.id := by
  refine ⟨by decide, by decide, ?_⟩
  have hreachable : cutOff.Reachable := Trial.reachable (by decide)
  have hexpected : Expected cutOff.past Trial.peer.id := by decide
  have haccounted := (hreachable.covers_membership hexpected (by decide)).1
  exact (haccounted.resolve_left (by decide)).resolve_left (by decide)

end Station
end ClusterWatch
