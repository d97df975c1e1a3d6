import ClusterWatch.Proofs.Detector.Fate
import ClusterWatch.Proofs.Detector.Reports

/-!
Reports of nodes that are under watch. A node that has not answered, or whose connection is given
up for lost, is reported in the very step that takes its entry away. A reconnect is awaited
without an entry, and whatever puts the node under watch again in the meantime overtakes it: when
the reconnect fails after all, a node is reported that is being pinged.
-/
namespace ClusterWatch

open Detector Past

/-- A cycle of the node begins. -/
def Event.enrols (id : NodeId) : Event → Bool
  | .installed node _ => node.id = id
  | _ => false

/-- A cycle of the node has begun, and none of the node has ended since. -/
def Past.UnderWatch (past : Past) (id : NodeId) : Prop :=
  Since (fun e => e.enrols id) (fun e => e.drops id = false) past

instance (past : Past) (id : NodeId) : Decidable (UnderWatch past id) :=
  inferInstanceAs (Decidable (Since _ _ past))

namespace Past

variable {past : Past} {id : NodeId}

theorem since_append_iff {P Q : Event → Prop} {later : List Event} :
    Since P Q (later ++ past) ↔ Since P Q later ∨ ((∀ e ∈ later, Q e) ∧ Since P Q past) := by
  induction later with
  | nil => simp [Since]
  | cons e later ih =>
    rw [List.cons_append, since_cons, since_cons, ih, List.forall_mem_cons]
    constructor
    · rintro (hp | ⟨hq, hlater | ⟨hall, hpast⟩⟩)
      · exact Or.inl (Or.inl hp)
      · exact Or.inl (Or.inr ⟨hq, hlater⟩)
      · exact Or.inr ⟨⟨hq, hall⟩, hpast⟩
    · rintro ((hp | ⟨hq, hlater⟩) | ⟨⟨hq, hall⟩, hpast⟩)
      · exact Or.inl hp
      · exact Or.inr ⟨hq, Or.inl hlater⟩
      · exact Or.inr ⟨hq, Or.inr ⟨hall, hpast⟩⟩

theorem underWatch_cons {e : Event} (he : e.delimits = false) :
    UnderWatch (e :: past) id ↔ UnderWatch past id :=
  since_cons_of_not (by cases e <;> simp_all [Event.delimits, Event.enrols])
    (by cases e <;> simp_all [Event.delimits, Event.drops])

theorem underWatch_installed {node : Node} {g : Generation} :
    UnderWatch (.installed node g :: past) id ↔ node.id = id ∨ UnderWatch past id := by
  simp [UnderWatch, since_cons, Event.enrols, Event.drops]

theorem underWatch_removed {node : Node} {g : Generation} {cause : Removal} :
    UnderWatch (.removed node g cause :: past) id ↔ node.id ≠ id ∧ UnderWatch past id := by
  simp [UnderWatch, since_cons, Event.enrols, Event.drops]

end Past

namespace Table

variable {α : Type} {key : α → String} {table : Table α key} {x : α} {k l : String}

theorem contains_insert :
    (table.insert x).contains k = true ↔ key x = k ∨ table.contains k = true := by
  unfold contains
  rw [find?_insert]
  by_cases hkey : key x = k
  · simp [hkey]
  · simp [hkey]

theorem contains_erase : (table.erase k).contains l = true ↔ k ≠ l ∧ table.contains l = true := by
  unfold contains
  rw [find?_erase]
  by_cases hkey : k = l
  · simp [hkey]
  · simp [hkey]

end Table

namespace Detector

/-- The past tells which nodes have an entry. -/
def Mirrored (d : Detector) : Prop :=
  ∀ id, UnderWatch d.past id ↔ d.monitored.contains id.text = true

namespace Mirrored

variable {d : Detector}

theorem record (h : d.Mirrored) {e : Event} (he : e.delimits = false) : (d.record e).Mirrored :=
  fun id => (underWatch_cons he).trans (h id)

theorem putCycle (h : d.Mirrored) {c : Cycle} {failures : Nat} {phase : Phase}
    (hc : d.monitored.contains c.key = true) :
    (d.putCycle { c with failures, phase }).Mirrored := by
  intro id
  refine (h id).trans (Iff.trans ?_ Table.contains_insert.symm)
  constructor
  · exact Or.inr
  · rintro (hkey | hcontains)
    · exact hkey ▸ hc
    · exact hcontains

theorem removeCycle (h : d.Mirrored) {cause : Removal} {c : Cycle} :
    (d.removeCycle cause c).Mirrored := by
  intro id
  refine underWatch_removed.trans (Iff.trans ?_ Table.contains_erase.symm)
  exact and_congr (not_congr Cycle.key_eq_text.symm) (h id)

theorem report (h : d.Mirrored) {node : Node} {g : Generation} {reason : FailureReason} :
    (d.report node g reason).Mirrored := by
  rw [report_eq]
  exact h.record rfl

theorem install (h : d.Mirrored) {node : Node} : (d.install node).Mirrored := by
  rcases d.install_eq node with ⟨-, heq⟩ | ⟨-, heq⟩
  · rw [heq]
    exact h
  · rw [heq]
    intro id
    refine underWatch_installed.trans (Iff.trans ?_ Table.contains_insert.symm)
    exact or_congr (Cycle.key_eq_text (c := .begin node _)).symm (h id)

theorem leave (h : d.Mirrored) {alive : Bool} {w : Worker} : (d.leave alive w).Mirrored := by
  obtain ⟨gates, heq⟩ := d.leave_eq alive w
  rw [heq]
  exact h

theorem lose (h : d.Mirrored) {cause : Removal} {c : Cycle} {node : Node} {lost : Generation} :
    (d.lose cause c node lost).Mirrored :=
  lose_keep (h.removeCycle.record rfl) h.removeCycle.report

theorem endReconnect (h : d.Mirrored) {node : Node} {lost : Generation} {outcome : Outcome} :
    (d.endReconnect node lost outcome).Mirrored :=
  endReconnect_keep (P := Mirrored) (h.record rfl).install fun _ => (h.record rfl).report

end Mirrored

theorem Turn.mirrored {lives : Bool} {aside : Aside} {d e : Detector} (turn : Turn lives d aside e)
    (h : d.Mirrored) : e.Mirrored := by
  have hanswered (w : Worker) (outcome : Outcome) :
      (d.record (.answered w.node.id w.generation outcome)).Mirrored := h.record rfl
  have hentry {w : Worker} {c : Cycle} (current : d.currentCycle? w = some c) :
      d.monitored.contains c.key = true :=
    Table.contains_of_mem (currentCycle?_eq_some current).1
  cases turn with
  | pass | land | wake => exact h
  | tell | hand | hear => exact h.record rfl
  | reconcile snapshot =>
    exact reconcile_keep (P := Mirrored) (h.record rfl) (fun _ _ he _ => he.removeCycle)
      fun _ _ he _ _ => he.install
  | stop => exact stop_keep (P := Mirrored) (h.record rfl) fun _ _ he _ => he.removeCycle
  | @queue w member stage =>
    obtain ⟨gates, made, heq⟩ := d.gateFor_eq w.node.id
    rw [heq]
    exact h
  | depart => exact h.leave
  | @send w c gate version reply member stage free current =>
    have hput : (d.putCycle { c with phase := .awaiting }).Mirrored := h.putCycle (hentry current)
    exact hput.record rfl
  | abandon => exact (h.record rfl).leave
  | outlive => exact (hanswered _ _).leave
  | @rest w c gate flight member stage due current =>
    have hcleared : (((d.record (.answered w.node.id w.generation .done)).putCycle
        { c with failures := 0 }).setStage w.generation .ready).Mirrored :=
      (hanswered w .done).putCycle (hentry current)
    exact hcleared.putCycle (c := { c with failures := 0 })
      (Table.contains_of_mem Table.mem_insert_self)
  | @finish w c gate flight alive member stage due current =>
    have hcleared : (((d.record (.answered w.node.id w.generation .done)).putCycle
        { c with failures := 0 }).setStage w.generation .ready).Mirrored :=
      (hanswered w .done).putCycle (hentry current)
    exact hcleared.leave
  | retry member stage due current => exact (hanswered _ _).putCycle (hentry current)
  | exhaust => exact (hanswered _ _).removeCycle.report.leave
  | breakOff => exact (hanswered _ _).lose
  | giveUp => exact (hanswered _ _).lose.leave
  | disconnect => exact h.lose
  | reconnect => exact h.endReconnect
  | workerReconnect => exact h.endReconnect.leave

end Detector

/-- Except after a reconnect, what follows a cause does so right after an entry of the same node
was taken away. -/
theorem Event.Sequel.removed {reconnect : Bool} {cause e : Event} {node : Node} {g : Generation}
    (h : Event.Sequel reconnect cause e) (hcause : cause.calls = true)
    (he : e = .connecting node g ∨
      ∃ reason taken, e = .reported node g reason taken ∧ reason ≠ .unreachable) :
    ∃ m why, cause = .removed m g why ∧ m.id = node.id := by
  cases cause with
  | removed m k why =>
    have hnamed (hsequel : ∃ named : Node, named.id = m.id ∧
        if reconnect then e = .connecting named k
        else ∃ taken, e = .reported named k .disconnected taken) :
        m.id = node.id ∧ k = g := by
      obtain ⟨named, hid, hwhich⟩ := hsequel
      split at hwhich <;> rcases he with rfl | ⟨reason, taken, rfl, -⟩ <;> simp_all
    cases why with
    | unresponsive =>
      obtain ⟨attempts, limit, taken, rfl⟩ := h
      rcases he with he | ⟨_, _, he, -⟩
      · simp at he
      · obtain ⟨rfl, rfl, -⟩ := Event.reported.inj he
        exact ⟨m, _, rfl, rfl⟩
    | left | stopped => simp [Event.calls] at hcause
    | lostByPing | lostByEvent =>
      obtain ⟨hid, rfl⟩ := hnamed h
      exact ⟨m, _, rfl, hid⟩
  | connected m k outcome =>
    obtain ⟨taken, rfl⟩ := h
    rcases he with he | ⟨reason, _, he, hreason⟩
    · simp at he
    · exact absurd (Event.reported.inj he).2.2.1.symm hreason
  | _ => simp [Event.calls] at hcause

namespace Past

variable {past earlier : Past} {reconnect : Bool} {node : Node} {g : Generation}

/-- What follows the end of a cycle at once finds the node no longer under watch. -/
theorem not_underWatch_sequel (h : Consequent reconnect past) {e : Event}
    (hsuffix : e :: earlier <:+ past)
    (he : e = .connecting node g ∨
      ∃ reason taken, e = .reported node g reason taken ∧ reason ≠ .unreachable) :
    ¬ UnderWatch earlier node.id := by
  have hfollows : e.follows = true := by
    rcases he with rfl | ⟨_, _, rfl, -⟩ <;> rfl
  obtain ⟨cause, rest, rfl, hcause, hsequel⟩ := (h.fits _ _ hsuffix).caused hfollows
  obtain ⟨m, why, rfl, hid⟩ := hsequel.removed hcause he
  intro hwatch
  exact (underWatch_removed.1 hwatch).1 hid

/-- Of all that comes of the end of a cycle, a report comes last. -/
theorem reported_last {attempts : List Errand} {e : Event} {rest : List Event}
    (h : Fate reconnect g attempts (e :: rest)) (reason : FailureReason) (taken : Bool) :
    .reported node g reason taken ∉ rest := by
  cases h <;> simp

/-- A report that a node is unreachable goes back to a reconnect to it. -/
theorem connecting_of_unreachable {attempts : List Errand} {taken : Bool}
    (h : Fated reconnect past attempts)
    (hsuffix : .reported node g .unreachable taken :: earlier <:+ past) :
    .connecting node g ∈ earlier := by
  obtain ⟨later, rfl⟩ := hsuffix
  have hfate := h g
  have hreport : fate (.reported node g .unreachable taken :: earlier) g =
      .reported node g .unreachable taken :: fate earlier g :=
    List.filter_cons_of_pos (by simp [Event.fated?])
  rw [fate_append, hreport] at hfate
  cases hlater : fate later g with
  | cons e rest =>
    rw [hlater, List.cons_append] at hfate
    exact absurd (List.mem_append_right rest List.mem_cons_self) (reported_last hfate _ _)
  | nil =>
    rw [hlater, List.nil_append] at hfate
    generalize hattempts : onAccountOf g attempts = awaited at hfate
    generalize hrest : fate earlier g = rest at hfate
    cases hfate with
    | unreachable =>
      have hmem : .connecting node g ∈ fate earlier g := by simp [hrest]
      exact (List.mem_filter.1 hmem).1

end Past

namespace Station

/-- Reports and the nodes under watch. -/
structure ReportsAndWatch (s : Station) : Prop where
  /-- The past tells which nodes are under watch. -/
  watched : ∀ id, UnderWatch s.past id ↔ s.detector.monitored.contains id.text = true
  /-- A node that has not answered, or whose connection is given up, is not under watch when it
  is reported. -/
  apart : ∀ node g reason taken earlier, .reported node g reason taken :: earlier <:+ s.past →
    reason ≠ .unreachable → ¬ UnderWatch earlier node.id
  /-- A node to which a reconnect has failed is under watch when it is reported exactly if it was
  put under watch again after the reconnect had begun. -/
  overtaken : ∀ node g taken earlier, .reported node g .unreachable taken :: earlier <:+ s.past →
    ∃ since before, earlier = since ++ .connecting node g :: before ∧
      (UnderWatch earlier node.id ↔ UnderWatch since node.id)

theorem Reachable.mirrored {s : Station} (h : s.Reachable) : s.detector.Mirrored :=
  h.keep (fun _ _ _ id => by simp [Detector.start, Detector.past, UnderWatch, Since, Table.empty,
    Table.contains, Table.find?]) fun hd turn => turn.mirrored hd

/-- A node is reported while it is under watch only if a reconnect has failed that was overtaken:
the node was put under watch again while the reconnect was under way. -/
theorem Reachable.reports_and_watch {s : Station} (h : s.Reachable) : s.ReportsAndWatch := by
  have hconsequent := h.consequent
  constructor
  case watched => exact h.mirrored
  case apart =>
    intro node g reason taken earlier hsuffix hreason
    exact not_underWatch_sequel hconsequent hsuffix (Or.inr ⟨reason, taken, rfl, hreason⟩)
  case overtaken =>
    intro node g taken earlier hsuffix
    have hbegun := connecting_of_unreachable h.fated.1 hsuffix
    obtain ⟨since, before, rfl⟩ := List.append_of_mem hbegun
    refine ⟨since, before, rfl, ?_⟩
    have hconnecting : .connecting node g :: before <:+ s.past :=
      (List.suffix_append since _).trans (suffix_of_cons hsuffix)
    -- The loss that the reconnect follows has just taken the entry away.
    have hbefore := not_underWatch_sequel hconsequent hconnecting (Or.inl rfl)
    have hstart : ¬ UnderWatch (.connecting node g :: before) node.id :=
      fun hwatch => hbefore ((underWatch_cons rfl).1 hwatch)
    constructor
    · intro hwatch
      exact (since_append_iff.1 hwatch).resolve_right fun hlater => hstart hlater.2
    · intro hwatch
      exact since_append_iff.2 (Or.inl hwatch)

/-- A snapshot with the peer has come between the loss of the connection and the end of the
reconnect, which fails. -/
def listedInBetween : Station :=
  Trial.after reconnecting broken [
    .reconcile Trial.together, .run true (.worker ⟨1⟩), .run true (.worker ⟨1⟩),
    .run true (.worker ⟨1⟩), .reconcile Trial.together, .elapse 100, .run true (.worker ⟨1⟩)]
    (by decide)

theorem reports_and_watch_listed_in_between :
    (∃ earlier, .reported Trial.peer ⟨1⟩ .unreachable true :: earlier <:+ listedInBetween.past ∧
      UnderWatch earlier Trial.peer.id) ∧ listedInBetween.ReportsAndWatch :=
  ⟨⟨listedInBetween.past.tail, by decide, by decide⟩,
    Reachable.reports_and_watch (Trial.reachable (by decide))⟩

/-- A node may be reported while it is under watch. -/
theorem reports_under_watch :
    ¬ ∀ s : Station, s.Reachable → ∀ node g reason taken earlier,
      .reported node g reason taken :: earlier <:+ s.past → ¬ UnderWatch earlier node.id := by
  intro h
  have hreachable : listedInBetween.Reachable := Trial.reachable (by decide)
  exact h listedInBetween hreachable Trial.peer ⟨1⟩ .unreachable true listedInBetween.past.tail
    (by decide) (by decide)

end Station

end ClusterWatch
