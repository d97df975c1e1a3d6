import ClusterWatch.Proofs.Detector.Burst
import ClusterWatch.Proofs.Detector.News
import ClusterWatch.Proofs.Detector.Tidings

/-!
What becomes of a cycle. It is under watch until something ends it, once and on one account,
and what its end calls for comes about once as well: nothing for a node that has left or a
detector that was stopped, a report for a node that has not answered, and for a lost
connection a report or an attempt to connect, with a report if that fails. So the events that
go back to the end of one cycle form one of seven short lists, and the list tells whether an
attempt on account of the cycle is under way.
-/
namespace ClusterWatch

open Detector Past

/-- The cycle was ended by a request, and no failure is behind it. -/
def Removal.dismisses : Removal → Bool
  | .left => true
  | .stopped => true
  | _ => false

/-- The cycle was lost with the connection to its node. -/
def Removal.loses : Removal → Bool
  | .lostByPing => true
  | .lostByEvent => true
  | _ => false

/-- The cycle that the event ends, or to the end of which it goes back. -/
def Event.fated? : Event → Option Generation
  | .removed _ g _ => some g
  | .connecting _ lost => some lost
  | .connected _ lost _ => some lost
  | .reported _ g _ _ => some g
  | _ => none

/-- What has come of the end of the cycle up to now, latest first. -/
def Past.fate (past : Past) (g : Generation) : List Event :=
  past.filter fun e => e.fated? = some g

/-- All that may have come of the end of a cycle, by the attempts under way on its account. -/
inductive Fate (reconnect : Bool) (g : Generation) : List Errand → List Event → Prop
  | standing : Fate reconnect g [] []
  | dismissed (node : Node) {cause : Removal} (dismisses : cause.dismisses = true) :
      Fate reconnect g [] [.removed node g cause]
  | exhausted (node : Node) (attempts : Nat) (limit : Duration) (taken : Bool) :
      Fate reconnect g [] [.reported node g (.unresponsive attempts limit) taken,
        .removed node g .unresponsive]
  | givenUp {node named : Node} {cause : Removal} (loses : cause.loses = true)
      (same : named.id = node.id) (refused : reconnect = false) (taken : Bool) :
      Fate reconnect g [] [.reported named g .disconnected taken, .removed node g cause]
  | reconnecting {node named : Node} {cause : Removal} (loses : cause.loses = true)
      (same : named.id = node.id) (asked : reconnect = true) :
      Fate reconnect g [⟨named, g⟩] [.connecting named g, .removed node g cause]
  | regained {node named : Node} {cause : Removal} (loses : cause.loses = true)
      (same : named.id = node.id) (asked : reconnect = true) :
      Fate reconnect g [] [.connected named g .done, .connecting named g, .removed node g cause]
  | unreachable {node named : Node} {cause : Removal} (loses : cause.loses = true)
      (same : named.id = node.id) (asked : reconnect = true) (error : TransportError)
      (taken : Bool) :
      Fate reconnect g [] [.reported named g .unreachable taken, .connected named g (.failed error),
        .connecting named g, .removed node g cause]

/-- The attempts under way on account of the cycle. -/
def onAccountOf (g : Generation) (attempts : List Errand) : List Errand :=
  attempts.filter fun errand => errand.lost = g

section Fate

variable {reconnect : Bool} {g k : Generation} {events : List Event} {past : Past}
  {errand : Errand} {attempts rest : List Errand} {e : Event}

theorem onAccountOf_cons_self : onAccountOf errand.lost (errand :: attempts) =
    errand :: onAccountOf errand.lost attempts :=
  List.filter_cons_of_pos (by simp)

theorem onAccountOf_cons_of_ne (h : k ≠ errand.lost) :
    onAccountOf k (errand :: attempts) = onAccountOf k attempts :=
  List.filter_cons_of_neg (by simpa using Ne.symm h)

theorem Past.fate_append (events : List Event) (past : Past) (g : Generation) :
    Past.fate (events ++ past) g = Past.fate events g ++ past.fate g := List.filter_append ..

theorem Past.fate_cons_of_ne (h : e.fated? ≠ some g) : Past.fate (e :: past) g = past.fate g :=
  List.filter_cons_of_neg (by simpa using h)

theorem Past.fate_eq_self (h : ∀ e ∈ events, e.fated? = some g) : Past.fate events g = events :=
  List.filter_eq_self.2 fun e he => by simp [h e he]

theorem Past.fate_eq_nil (h : ∀ e ∈ events, e.fated? ≠ some g) : Past.fate events g = [] :=
  List.filter_eq_nil_iff.2 fun e he => by simpa using h e he

/-- There is at most one attempt, so its place among the others does not matter. -/
theorem Fate.perm (h : Fate reconnect g attempts events) (hperm : rest.Perm attempts) :
    Fate reconnect g rest events := by
  cases h with
  | reconnecting loses same asked =>
    rw [List.perm_singleton.1 hperm]
    exact .reconnecting loses same asked
  | _ =>
    rw [List.perm_nil.1 hperm]
    constructor <;> assumption

/-- A cycle that has not been taken away still stands. -/
theorem Fate.eq_nil (h : Fate reconnect g attempts events)
    (hremoved : ∀ node cause, .removed node g cause ∉ events) : attempts = [] ∧ events = [] := by
  cases h with
  | standing => exact ⟨rfl, rfl⟩
  | _ => simp at hremoved

theorem Fate.of_awaited (h : Fate reconnect g (errand :: rest) events) :
    rest = [] ∧ ∃ node cause, Removal.loses cause = true ∧ errand.node.id = node.id ∧
      reconnect = true ∧ events = [.connecting errand.node g, .removed node g cause] := by
  cases h with
  | reconnecting loses same asked => exact ⟨rfl, _, _, loses, same, asked, rfl⟩

/-- An attempt to connect is made only if the settings ask for it. -/
theorem Fate.asked (h : Fate reconnect g attempts events) {node : Node}
    (hmem : .connecting node k ∈ events) : reconnect = true := by
  cases h with
  | standing => cases hmem
  | reconnecting _ _ asked | regained _ _ asked | unreachable _ _ asked => exact asked
  | _ => simp at hmem

end Fate

/-- Every cycle has met with one of the fates that there are. -/
def Fated (reconnect : Bool) (past : Past) (attempts : List Errand) : Prop :=
  ∀ g, Fate reconnect g (onAccountOf g attempts) (past.fate g)

namespace Fated

variable {reconnect : Bool} {past : Past} {attempts rest : List Errand} {g : Generation}

theorem perm (h : Fated reconnect past attempts) (hperm : rest.Perm attempts) :
    Fated reconnect past rest := fun g => (h g).perm (hperm.filter _)

theorem plain (h : Fated reconnect past attempts) {e : Event} (he : e.fated? = none) :
    Fated reconnect (e :: past) attempts := fun g => by
  rw [Past.fate_cons_of_ne (by simp [he])]
  exact h g

theorem plainAll (h : Fated reconnect past attempts) {events : List Event}
    (hevents : ∀ e ∈ events, e.fated? = none) : Fated reconnect (events ++ past) attempts := by
  induction events with
  | nil => exact h
  | cons e events ih =>
    have hrest := ih fun f hf => hevents f (List.mem_cons_of_mem _ hf)
    exact hrest.plain (hevents e List.mem_cons_self)

/-- Something comes of the end of one cycle, and the others are as they were. -/
theorem goOn (h : Fated reconnect past attempts) {events : List Event}
    (hevents : ∀ e ∈ events, e.fated? = some g)
    (hothers : ∀ k, k ≠ g → onAccountOf k rest = onAccountOf k attempts)
    (hfate : Fate reconnect g (onAccountOf g rest) (events ++ past.fate g)) :
    Fated reconnect (events ++ past) rest := by
  intro k
  rw [Past.fate_append]
  by_cases hk : k = g
  · subst hk
    rwa [Past.fate_eq_self hevents]
  · have hnone : ∀ e ∈ events, e.fated? ≠ some k := fun e he heq =>
      hk (Option.some.inj (heq.symm.trans (hevents e he)))
    rw [hothers k hk, Past.fate_eq_nil hnone]
    exact h k

/-- Nothing has come of the end of a cycle that is under watch. -/
theorem standing (h : Fated reconnect past attempts)
    (hremoved : ∀ node cause, .removed node g cause ∉ past) :
    onAccountOf g attempts = [] ∧ past.fate g = [] :=
  (h g).eq_nil fun node cause hmem => hremoved node cause (List.mem_filter.1 hmem).1

/-- A cycle under watch ends, and no attempt to connect is made. -/
theorem ended (h : Fated reconnect past attempts) (events : List Event)
    (hremoved : ∀ node cause, .removed node g cause ∉ past)
    (hevents : ∀ e ∈ events, e.fated? = some g) (hfate : Fate reconnect g [] events) :
    Fated reconnect (events ++ past) attempts := by
  obtain ⟨hnone, hnothing⟩ := h.standing hremoved
  refine h.goOn hevents (fun _ _ => rfl) ?_
  rwa [hnone, hnothing, List.append_nil]

/-- A cycle under watch is lost, and an attempt to connect is made. -/
theorem setOut {errand : Errand} (h : Fated reconnect past attempts) (events : List Event)
    (hremoved : ∀ node cause, .removed node errand.lost cause ∉ past)
    (hevents : ∀ e ∈ events, e.fated? = some errand.lost)
    (hfate : Fate reconnect errand.lost [errand] events) :
    Fated reconnect (events ++ past) (errand :: attempts) := by
  obtain ⟨hnone, hnothing⟩ := h.standing hremoved
  refine h.goOn hevents (fun _ hk => onAccountOf_cons_of_ne hk) ?_
  rwa [onAccountOf_cons_self, hnone, hnothing, List.append_nil]

/-- An attempt to connect comes out. -/
theorem comeOut {errand : Errand} (h : Fated reconnect past (errand :: attempts))
    (events : List Event) (hevents : ∀ e ∈ events, e.fated? = some errand.lost)
    (hfate : ∀ node cause, Removal.loses cause = true → errand.node.id = node.id →
      reconnect = true → Fate reconnect errand.lost []
        (events ++ [.connecting errand.node errand.lost, .removed node errand.lost cause])) :
    Fated reconnect (events ++ past) attempts := by
  have hawaited := h errand.lost
  rw [onAccountOf_cons_self] at hawaited
  obtain ⟨hnone, node, cause, loses, same, asked, heq⟩ := hawaited.of_awaited
  refine h.goOn hevents (fun _ hk => (onAccountOf_cons_of_ne hk).symm) ?_
  rw [hnone, heq]
  exact hfate node cause loses same asked

/-- Cycles under watch are dropped one after another. -/
theorem dismissAll (h : Fated reconnect past attempts) {cause : Removal}
    (hcause : cause.dismisses = true) {cycles : List Cycle}
    (hremoved : ∀ c ∈ cycles, ∀ node why, .removed node c.generation why ∉ past)
    (hdistinct : (cycles.map Cycle.generation).Nodup) :
    Fated reconnect ((cycles.map fun c => .removed c.node c.generation cause) ++ past)
      attempts := by
  induction cycles with
  | nil => exact h
  | cons c cycles ih =>
    obtain ⟨hc, hcycles⟩ := List.nodup_cons.1 hdistinct
    have hrest := ih (fun b hb => hremoved b (List.mem_cons_of_mem _ hb)) hcycles
    refine hrest.ended [_] (fun node why hmem => ?_) (by simp [Event.fated?])
      (.dismissed c.node hcause)
    rcases List.mem_append.1 hmem with hmem | hmem
    · obtain ⟨b, hb, heq⟩ := List.mem_map.1 hmem
      exact hc (List.mem_map.2 ⟨b, hb, (Event.removed.inj heq).2.1⟩)
    · exact hremoved c List.mem_cons_self node why hmem

/-- An attempt that is under way is all that has come of the loss of its cycle. -/
theorem awaited (h : Fated reconnect past attempts) {errand : Errand} (hmem : errand ∈ attempts) :
    ∃ node cause, Removal.loses cause = true ∧ errand.node.id = node.id ∧ past.fate errand.lost =
      [.connecting errand.node errand.lost, .removed node errand.lost cause] := by
  have hawaited := (h.perm (List.perm_cons_erase hmem).symm) errand.lost
  rw [onAccountOf_cons_self] at hawaited
  obtain ⟨-, node, cause, loses, same, -, heq⟩ := hawaited.of_awaited
  exact ⟨node, cause, loses, same, heq⟩

/-- Attempts to connect are made only if the settings ask for them. -/
theorem asked (h : Fated reconnect past attempts) {node : Node}
    (hmem : .connecting node g ∈ past) : reconnect = true :=
  (h g).asked (List.mem_filter.2 ⟨hmem, by simp [Event.fated?]⟩)

end Fated

namespace Detector

variable {d e : Detector}

theorem Enrolled.generations_nodup (hd : d.Enrolled) {cycles : List Cycle}
    (members : ∀ c ∈ cycles, c ∈ d.monitored.entries) (once : cycles.Nodup) :
    (cycles.map Cycle.generation).Nodup :=
  once.map_on fun b hb c hc hg => hd.entry_unique (members b hb) (members c hc) hg

/-- Requests end cycles under watch, and begin others. -/
theorem Enrolled.dismissed (hd : d.Enrolled) {attempts : List Errand}
    (h : Fated d.settings.reconnect d.past attempts) {request : Event}
    (hrequest : request.fated? = none) {cause : Removal} (hcause : cause.dismisses = true)
    {cycles : List Cycle} (members : ∀ c ∈ cycles, c ∈ d.monitored.entries)
    (once : cycles.Nodup) :
    Fated d.settings.reconnect
      (((cycles.map fun c => .removed c.node c.generation cause).reverse ++ [request]) ++ d.past)
      attempts := by
  rw [← List.map_reverse, List.append_assoc]
  refine (h.plain hrequest).dismissAll hcause (fun c hc node why hmem => ?_) ?_
  · rcases List.mem_cons.1 hmem with rfl | hmem
    · simp [Event.fated?] at hrequest
    · exact hd.present c (members c (List.mem_reverse.1 hc)) node why hmem
  · exact hd.generations_nodup (fun c hc => members c (List.mem_reverse.1 hc))
      (List.nodup_reverse.2 once)

theorem Burst.fated {label : Aside} {new : List Event} (burst : d.Burst e label new)
    (hd : d.Enrolled) {attempts rest : List Errand} (moves : label.Moves attempts rest)
    (h : Fated d.settings.reconnect d.past attempts) :
    Fated d.settings.reconnect (new ++ d.past) rest := by
  have hanswered (id : NodeId) (g : Generation) (outcome : Outcome) :
      Fated d.settings.reconnect (.answered id g outcome :: d.past) attempts := h.plain rfl
  have hstands {w : Worker} {c : Cycle} (current : d.currentCycle? w = some c)
      {outcome : Outcome} (node : Node) (cause : Removal) :
      .removed node w.generation cause ∉
        Event.answered w.node.id w.generation outcome :: d.past := by
    obtain ⟨hc, -, hg⟩ := currentCycle?_eq_some current
    simpa using hg ▸ hd.present c hc node cause
  cases burst with
  | silent => exact h.perm moves
  | tell | hand | hear | send | abandon | outlive | acknowledge | retry =>
    exact (h.plain rfl).perm moves
  | reconcile nodes left installed members once =>
    rw [List.append_assoc]
    refine Fated.plainAll ((hd.dismissed h rfl rfl members once).perm moves) fun event hevent => ?_
    obtain ⟨node, g, rfl⟩ := installed event hevent
    rfl
  | stop dropped members once => exact (hd.dismissed h rfl rfl members once).perm moves
  | exhaust taken member current =>
    exact ((hanswered _ _ _).ended [_, _] (hstands current) (by simp [Event.fated?])
      (.exhausted _ _ _ taken)).perm moves
  | breakOff member current lost sequel =>
    cases sequel with
    | attempt asked =>
      exact ((hanswered _ _ _).setOut [_, _] (hstands current) (by simp [Event.fated?])
        (.reconnecting rfl rfl asked)).perm moves
    | report taken refused =>
      exact ((hanswered _ _ _).ended [_, _] (hstands current) (by simp [Event.fated?])
        (.givenUp rfl rfl refused taken)).perm moves
  | disconnect member named sequel =>
    cases sequel with
    | attempt asked =>
      exact (h.setOut [_, _] (hd.present _ member) (by simp [Event.fated?])
        (.reconnecting rfl named.symm asked)).perm moves
    | report taken refused =>
      exact (h.ended [_, _] (hd.present _ member) (by simp [Event.fated?])
        (.givenUp rfl named.symm refused taken)).perm moves
  | regain node lost asked present =>
    exact (h.perm moves.symm).comeOut [_] (by simp [Event.fated?])
      fun _ _ loses same asked => .regained loses same asked
  | takeOn node lost g asked absent =>
    refine Fated.plain ((h.perm moves.symm).comeOut [_] (by simp [Event.fated?])
      fun _ _ loses same asked => .regained loses same asked) rfl
  | fail node lost error taken asked =>
    exact (h.perm moves.symm).comeOut [_, _] (by simp [Event.fated?])
      fun _ _ loses same asked => .unreachable loses same asked error taken

end Detector

/-- A membership without the node is to be followed from here on. -/
def Event.unlists (id : NodeId) : Event → Bool
  | .reconciled nodes => !nodes.contains id.text
  | _ => false

/-- The cycle ends on this account. -/
def Event.endsBy (cause : Removal) : Event → Bool
  | .removed _ _ why => why = cause
  | _ => false

/-- What has happened just before a cycle ends on account of the cause. -/
def Removal.Occasion (cause : Removal) (node : Node) (g : Generation) (earlier : Past) : Prop :=
  match cause with
  | .left => Since (fun e => e.unlists node.id) (fun e => e.endsBy .left) earlier
  | .stopped => Since (fun e => e = .stopped) (fun e => e.endsBy .stopped) earlier
  | .unresponsive => ∃ error before,
      earlier = .answered node.id g (.failed error) :: before ∧ error.isDisconnect = false
  | .lostByPing => ∃ error before,
      earlier = .answered node.id g (.failed error) :: before ∧ error.isDisconnect = true
  | .lostByEvent => earlier.Heralded node.id

/-- Cycles end on the occasion of what they are said to end for. Whether a disconnect was told of is
not seen from one turn, and is left aside. -/
def Occasioned (e : Event) (earlier : Past) : Prop :=
  ∀ node g cause, e = .removed node g cause → cause ≠ .lostByEvent → cause.Occasion node g earlier

section Occasioned

variable {past : Past}

theorem occasioned_plain {e : Event} (h : Always Occasioned past)
    (he : ∀ node g cause, e ≠ .removed node g cause) : Always Occasioned (e :: past) :=
  always_cons h fun node g cause heq => absurd heq (he node g cause)

theorem occasioned_removed (h : Always Occasioned past) {node : Node} {g : Generation}
    (cause : Removal) (hcause : cause ≠ .lostByEvent → cause.Occasion node g past) :
    Always Occasioned (.removed node g cause :: past) := by
  refine always_cons h fun n k why heq => ?_
  obtain ⟨rfl, rfl, rfl⟩ := Event.removed.inj heq
  exact hcause

/-- Whatever is dropped on one request has that request for its occasion. -/
theorem occasioned_dismissAll (h : Always Occasioned past) (cause : Removal) {cycles : List Cycle}
    (hcause : ∀ c ∈ cycles, ∀ events : List Event, (∀ e ∈ events, e.endsBy cause = true) →
      cause.Occasion c.node c.generation (events ++ past)) :
    Always Occasioned ((cycles.map fun c => .removed c.node c.generation cause) ++ past) := by
  induction cycles with
  | nil => exact h
  | cons c cycles ih =>
    refine occasioned_removed (ih fun b hb => hcause b (List.mem_cons_of_mem _ hb)) cause fun _ => ?_
    refine hcause c List.mem_cons_self _ fun e he => ?_
    obtain ⟨b, -, rfl⟩ := List.mem_map.1 he
    simp [Event.endsBy]

end Occasioned

theorem Detector.Burst.occasioned {d e : Detector} {label : Aside} {new : List Event}
    (burst : d.Burst e label new) (h : Always Occasioned d.past) :
    Always Occasioned (new ++ d.past) := by
  cases burst with
  | silent => exact h
  | tell | hand | hear | send | abandon | outlive | acknowledge | retry | regain =>
    exact occasioned_plain h (by simp)
  | @reconcile nodes installs left installed members once unlisted complete =>
    have hlisted (c : Cycle) (hc : c ∈ left.reverse) : Since (fun e => e.unlists c.node.id)
        (fun e => e.endsBy .left) (.reconciled nodes :: d.past) :=
      Or.inl (by simp [Event.unlists, unlisted c (List.mem_reverse.1 hc)])
    have hasked : Always Occasioned (.reconciled nodes :: d.past) := occasioned_plain h (by simp)
    have hdropped := occasioned_dismissAll hasked .left
      fun c (hc : c ∈ left.reverse) events hevents => Past.since_append (hlisted c hc) hevents
    rw [List.append_assoc, ← List.map_reverse, List.append_assoc]
    clear hlisted unlisted complete
    induction installs with
    | nil => exact hdropped
    | cons e installs ih =>
      obtain ⟨node, g, rfl⟩ := installed e List.mem_cons_self
      exact occasioned_plain (ih fun f hf => installed f (List.mem_cons_of_mem _ hf)) (by simp)
  | stop dropped members once =>
    have hstopped : Since (fun e => e = .stopped) (fun e => e.endsBy .stopped)
        (.stopped :: d.past) := Or.inl rfl
    rw [← List.map_reverse, List.append_assoc]
    exact occasioned_dismissAll (occasioned_plain h (by simp)) .stopped
      fun c hc events hevents => Past.since_append hstopped hevents
  | exhaust taken member current counted =>
    exact occasioned_plain (occasioned_removed (occasioned_plain h (by simp)) .unresponsive
      fun _ => ⟨_, _, rfl, counted⟩) (by simp)
  | breakOff member current lost sequel =>
    refine occasioned_plain (occasioned_removed (occasioned_plain h (by simp)) .lostByPing
      fun _ => ⟨_, _, rfl, lost⟩) ?_
    cases sequel <;> simp
  | disconnect member named sequel =>
    refine occasioned_plain (occasioned_removed h .lostByEvent (absurd rfl)) ?_
    cases sequel <;> simp
  | takeOn | fail => exact occasioned_plain (occasioned_plain h (by simp)) (by simp)

namespace Station

theorem Reachable.fated {s : Station} (h : s.Reachable) :
    Fated s.detector.settings.reconnect s.past s.attempts ∧ Always Occasioned s.past := by
  refine h.keepBursts (P := fun d attempts =>
    Fated d.settings.reconnect d.past attempts ∧ Always Occasioned d.past)
    (fun self cluster settings => ⟨fun g => .standing, always_nil⟩) ?_
  rintro lives aside d e label new before after ⟨hfated, hoccasioned⟩ - grows moves
  rw [grows.past, grows.settings]
  exact ⟨grows.burst.fated grows.enrolled moves hfated, grows.burst.occasioned hoccasioned⟩

theorem Permitted.find_handler {s : Station} (permitted : s.Permitted) {h : DisconnectHandler}
    (hh : h ∈ s.handlers) : s.handlers.find? (fun other => other.number = h.number) = some h :=
  find?_eq_some_of_key hh permitted.distinct

theorem cycle?_eq_none {d : Detector} {id : NodeId} (h : d.monitored.contains id.text = false) :
    d.cycle? id = none := by
  simpa [Table.contains, cycle?] using h

/-- What becomes of cycles, and of losses that concern none. -/
structure OneConsequence (s : Station) : Prop where
  /-- The end of a cycle comes once, with what it calls for, and is preceded by its cause. -/
  fate : Fated s.detector.settings.reconnect s.past s.attempts
  occasion : ∀ node g cause earlier, .removed node g cause :: earlier <:+ s.past →
    cause.Occasion node g earlier
  /-- A report is a failure that is submitted to the listeners. -/
  submitted : s.ReportsSubmitted
  standing : ∀ node g, .installed node g ∈ s.past →
    ((∃ c ∈ s.detector.monitored.entries, c.node = node ∧ c.generation = g) ↔ s.past.fate g = [])
  /-- A loss of which somebody is told directly, of a node that is not watched. -/
  ignored : ∀ h ∈ s.handlers, ∀ node, h.stage = .fresh node →
    s.detector.monitored.contains node.key = false → ∀ heed,
      s.act (.run heed (.handler h.number)) = some (s.endHandler h)
  /-- A loss that the transport tells of, of a node that is not watched. -/
  passedOver : ∀ node rest, s.feed = ⟨node :: rest, .listening⟩ →
    s.detector.monitored.contains node.key = false → ∀ heed,
      s.act (.run heed .feed) =
        some { s with feed := if s.alive then ⟨rest, .listening⟩ else ⟨[], .off⟩ }

/-- A cycle ends at most once, on one account, and what that calls for comes about once. The loss
of a connection to a node that is not watched has no consequences. -/
theorem Reachable.one_consequence {s : Station} (h : s.Reachable) : s.OneConsequence := by
  obtain ⟨hfated, hoccasioned⟩ := h.fated
  have hd := h.enrolled
  refine ⟨hfated, fun node g cause earlier hsuffix => ?_, h.reports_submitted,
    fun node g hinstalled => ⟨?_, ?_⟩, ?_, ?_⟩
  · by_cases hcause : cause = .lostByEvent
    · subst hcause
      exact h.heralded hsuffix
    · exact hoccasioned _ earlier hsuffix node g cause rfl hcause
  · rintro ⟨c, hc, -, rfl⟩
    exact (hfated.standing (hd.present c hc)).2
  · intro hnothing
    have hwatched : Watched s.past g := by
      refine ⟨⟨node, hinstalled⟩, fun n cause hmem => ?_⟩
      have hfate : Event.removed n g cause ∈ s.past.fate g :=
        List.mem_filter.2 ⟨hmem, by simp [Event.fated?]⟩
      simp [hnothing] at hfate
    obtain ⟨c, hc, rfl⟩ := hd.watched hwatched
    exact ⟨c, hc, hd.unique (hd.entry c hc) hinstalled, rfl⟩
  · intro handler hhandler node stage habsent heed
    have hnone : s.loseConnection node = (s, none) :=
      loseConnection_of_none (cycle?_eq_none habsent)
    show (s.handlers.find? _).bind s.runHandler = _
    rw [h.permitted.find_handler hhandler]
    simp [runHandler, stage, hnone]
  · intro node rest hfeed habsent heed
    have hnone : { s with feed := ⟨rest, .listening⟩ }.loseConnection node =
        ({ s with feed := ⟨rest, .listening⟩ }, none) :=
      loseConnection_of_none (cycle?_eq_none habsent)
    show s.runFeed = _
    cases halive : s.alive <;> simp [runFeed, hfeed, hnone, halive]

/-- Two have been told that the connection to the peer was lost, and one of them has dealt with
it. -/
def toldTwice : Station :=
  Trial.after { DetectionSettings.standard with reconnect := true } .silent [
    .reconcile Trial.together, .run true (.worker ⟨1⟩), .run true (.worker ⟨1⟩),
    .disconnect Trial.peer, .disconnect Trial.peer, .run true (.handler 0)] (by decide)

theorem one_consequence_told_twice :
    toldTwice.attempts = [⟨Trial.peer, ⟨1⟩⟩] ∧
      (toldTwice.handlers.map (·.stage)).getLast? = some (.fresh Trial.peer) ∧
      toldTwice.detector.monitored.contains Trial.peer.key = false ∧ toldTwice.OneConsequence :=
  ⟨by decide, by decide, by decide, Reachable.one_consequence (Trial.reachable (by decide))⟩

end Station

end ClusterWatch
