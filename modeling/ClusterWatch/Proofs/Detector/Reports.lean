import ClusterWatch.Proofs.Detector.Burst
import ClusterWatch.Proofs.Detector.Following

/-!
Causes and what they lead to. A cycle that is lost, or that has used up its attempts, and a
reconnect that has failed call for something: a report, or an attempt to connect. It follows
at once, and nothing is reported without such a cause right before it. From this one reads
off when a node is reported that nobody follows any more.
-/
namespace ClusterWatch

open Past

namespace Event

/-- Something has to follow at once. -/
def calls : Event → Bool
  | .removed _ _ .unresponsive => true
  | .removed _ _ .lostByPing => true
  | .removed _ _ .lostByEvent => true
  | .connected _ _ (.failed _) => true
  | _ => false

/-- The event is there only on account of another one. -/
def follows : Event → Bool
  | .connecting .. => true
  | .reported .. => true
  | _ => false

/-- What follows the cause at once, depending on whether reconnects are asked for. -/
def Sequel (reconnect : Bool) (cause e : Event) : Prop :=
  match cause with
  | .removed node g .unresponsive =>
      ∃ attempts limit taken, e = .reported node g (.unresponsive attempts limit) taken
  | .removed node g _ =>
      ∃ named : Node, named.id = node.id ∧
        if reconnect then e = .connecting named g
        else ∃ taken, e = .reported named g .disconnected taken
  | .connected node lost _ => ∃ taken, e = .reported node lost .unreachable taken
  | _ => False

end Event

/-- How an event stands to what came before it. -/
structure Fits (reconnect : Bool) (e : Event) (earlier : Past) : Prop where
  prompt : ∀ cause rest, earlier = cause :: rest → cause.calls = true →
    Event.Sequel reconnect cause e
  caused : e.follows = true → ∃ cause rest, earlier = cause :: rest ∧ cause.calls = true ∧
    Event.Sequel reconnect cause e
  asked : ∀ node lost outcome, e = .connected node lost outcome → reconnect = true
  entitled : ∀ node g cause, e = .removed node g cause → e.calls = true →
    Entitled earlier node.id

/-- Every cause has been followed by what it calls for, and by nothing else. -/
structure Consequent (reconnect : Bool) (past : Past) : Prop where
  fits : Always (Fits reconnect) past
  settled : ∀ e rest, past = e :: rest → e.calls = false

namespace Consequent

variable {reconnect : Bool} {past : Past}

theorem nil : Consequent reconnect [] := ⟨always_nil, fun _ _ h => by simp at h⟩

theorem plain (h : Consequent reconnect past) {e : Event} (hcalls : e.calls = false)
    (hfollows : e.follows = false)
    (hasked : ∀ node lost outcome, e = .connected node lost outcome → reconnect = true) :
    Consequent reconnect (e :: past) where
  fits := by
    refine always_cons h.fits ⟨fun cause rest heq hcause => ?_, fun hf => ?_, hasked, ?_⟩
    · exact absurd ((h.settled cause rest heq).symm.trans hcause) (by decide)
    · exact absurd (hfollows.symm.trans hf) (by decide)
    · exact fun _ _ _ _ hc => absurd (hcalls.symm.trans hc) (by decide)
  settled f rest heq := by
    obtain ⟨rfl, -⟩ := List.cons.inj heq
    exact hcalls

theorem plainAll (h : Consequent reconnect past) {new : List Event}
    (hnew : ∀ e ∈ new, e.calls = false ∧ e.follows = false ∧
      ∀ node lost outcome, e ≠ .connected node lost outcome) :
    Consequent reconnect (new ++ past) := by
  induction new with
  | nil => exact h
  | cons e new ih =>
    obtain ⟨hcalls, hfollows, hother⟩ := hnew e List.mem_cons_self
    refine (ih fun f hf => hnew f (List.mem_cons_of_mem _ hf)).plain hcalls hfollows ?_
    exact fun node lost outcome heq => absurd heq (hother node lost outcome)

/-- A cause together with what it calls for. -/
theorem pair (h : Consequent reconnect past) {cause e : Event} (hcause : cause.calls = true)
    (hasked : ∀ node lost outcome, cause = .connected node lost outcome → reconnect = true)
    (hentitled : ∀ node g why, cause = .removed node g why → Entitled past node.id)
    (hsequel : Event.Sequel reconnect cause e) (he : e.follows = true) :
    Consequent reconnect (e :: cause :: past) where
  fits := by
    refine always_cons (always_cons h.fits ?_) ?_
    · refine ⟨fun f rest heq hf => ?_, fun hf => ?_, hasked, ?_⟩
      · exact absurd ((h.settled f rest heq).symm.trans hf) (by decide)
      · cases cause <;> simp [Event.calls, Event.follows] at hcause hf
      · exact fun node g why heq _ => hentitled node g why heq
    · refine ⟨fun f rest heq _ => ?_, fun _ => ⟨cause, past, rfl, hcause, hsequel⟩, ?_, ?_⟩
      · obtain ⟨rfl, -⟩ := List.cons.inj heq
        exact hsequel
      · rintro node lost outcome rfl
        simp [Event.follows] at he
      · rintro node g why rfl
        simp [Event.follows] at he
  settled f rest heq := by
    obtain ⟨rfl, -⟩ := List.cons.inj heq
    cases e <;> simp_all [Event.follows, Event.calls]

/-- What an event calls for has followed it at once. -/
theorem next (h : Consequent reconnect past) {cause : Event} {rest : Past}
    (hsuffix : cause :: rest <:+ past) (hcause : cause.calls = true) :
    ∃ e, Event.Sequel reconnect cause e ∧ e :: cause :: rest <:+ past := by
  rcases eq_or_next_of_suffix hsuffix with heq | ⟨e, he⟩
  · exact absurd ((h.settled cause rest heq.symm).symm.trans hcause) (by decide)
  · exact ⟨e, (h.fits e _ he).prompt cause rest rfl hcause, he⟩

/-- Without reconnects no node is ever taken on by one. -/
theorem not_regained (h : Consequent false past) {earlier : Past} (hsuffix : earlier <:+ past)
    {id : NodeId} : ¬ Regained earlier id := by
  intro hregained
  obtain ⟨node, lost, hmem⟩ := exists_connected_of_regained hregained
  obtain ⟨before, later, heq⟩ := List.append_of_mem (hsuffix.mem hmem)
  exact absurd ((h.fits _ later ⟨before, heq.symm⟩).asked node lost .done rfl) (by decide)

end Consequent

namespace Detector

theorem LossSequel.follows {reconnect : Bool} {label : Aside} {node : Node} {lost : Generation}
    {e : Event} (h : LossSequel node lost reconnect label e) : e.follows = true := by
  cases h <;> rfl

theorem LossSequel.sequel {reconnect : Bool} {label : Aside} {node named : Node}
    {lost : Generation} {cause : Removal} {e : Event}
    (h : LossSequel named lost reconnect label e) (hcause : cause ≠ .unresponsive)
    (hnamed : named.id = node.id) : Event.Sequel reconnect (.removed node lost cause) e := by
  have hsequel : ∃ named : Node, named.id = node.id ∧
      if reconnect then e = .connecting named lost
      else ∃ taken, e = .reported named lost .disconnected taken := by
    refine ⟨named, hnamed, ?_⟩
    cases h with
    | attempt asked => simp [asked]
    | report taken refused => simp [refused]
  cases cause with
  | unresponsive => exact absurd rfl hcause
  | _ => exact hsequel

/-- What a reconcile or a stop does calls for nothing and is nobody's sequel. -/
private theorem plain_of_settles {e : Event} (h : e.settles = true) :
    e.calls = false ∧ e.follows = false ∧
      ∀ node lost outcome, e ≠ .connected node lost outcome := by
  cases e with
  | removed node g cause => cases cause <;> simp_all [Event.settles, Event.calls, Event.follows]
  | _ => simp_all [Event.settles, Event.calls, Event.follows]

theorem Burst.consequent {d e : Detector} {label : Aside} {new : List Event}
    (burst : d.Burst e label new)
    (hfollowed : d.Followed) (h : Consequent d.settings.reconnect d.past) :
    Consequent d.settings.reconnect (new ++ d.past) := by
  have hanswered {id : NodeId} {g : Generation} {outcome : Outcome} :
      Consequent d.settings.reconnect (.answered id g outcome :: d.past) :=
    h.plain rfl rfl (by simp)
  have hentitled {w : Worker} {c : Cycle} (current : d.currentCycle? w = some c)
      {outcome : Outcome} :
      Entitled (.answered w.node.id w.generation outcome :: d.past) w.node.id := by
    obtain ⟨hc, hid, -⟩ := currentCycle?_eq_some current
    exact (entitled_cons rfl).2 (hid ▸ hfollowed.entitled c hc)
  cases burst with
  | silent => exact h
  | tell | hand | hear => exact h.plain rfl rfl (by simp)
  | reconcile nodes left hinstalls =>
    exact h.plainAll fun e he => plain_of_settles (settles_of_mem_reconcile hinstalls he)
  | stop => exact h.plainAll fun e he => plain_of_settles (settles_of_mem_stop he)
  | send => exact h.plain rfl rfl (by simp)
  | abandon => exact h.plain rfl rfl (by simp)
  | outlive | acknowledge | retry => exact hanswered
  | exhaust taken member current =>
    refine hanswered.pair rfl (by simp) (fun node g why heq => ?_) ⟨_, _, taken, rfl⟩ rfl
    obtain ⟨rfl, -, -⟩ := Event.removed.inj heq
    exact hentitled current
  | breakOff member current lost sequel =>
    refine hanswered.pair rfl (by simp) (fun node g why heq => ?_) (sequel.sequel (by simp) rfl)
      sequel.follows
    obtain ⟨rfl, -, -⟩ := Event.removed.inj heq
    exact hentitled current
  | disconnect member named sequel =>
    refine h.pair rfl (by simp) (fun n g why heq => ?_) (sequel.sequel (by simp) named.symm)
      sequel.follows
    obtain ⟨rfl, -, -⟩ := Event.removed.inj heq
    exact hfollowed.entitled _ member
  | regain node lost asked => exact h.plain rfl rfl fun _ _ _ _ => asked
  | takeOn node lost g asked => exact (h.plain rfl rfl fun _ _ _ _ => asked).plain rfl rfl (by simp)
  | fail node lost error taken asked =>
    exact h.pair rfl (fun _ _ _ _ => asked) (by simp) ⟨taken, rfl⟩ rfl

end Detector

namespace Station

theorem Reachable.consequent {s : Station} (h : s.Reachable) :
    Consequent s.detector.settings.reconnect s.past := by
  refine (h.keepBursts (P := fun d _ => d.Followed ∧ Consequent d.settings.reconnect d.past)
    (fun self cluster settings => ⟨Detector.start_followed self cluster settings, .nil⟩) ?_).2
  rintro lives aside d e label new - - ⟨hfollowed, hconsequent⟩ turn grows -
  refine ⟨turn.followed grows.enrolled hfollowed, ?_⟩
  rw [grows.past, grows.settings]
  exact grows.burst.consequent hfollowed hconsequent

/-- A node is reported only while it is listed in the membership that was given last, with no
stop after that. -/
def ReportsListed (s : Station) : Prop :=
  ∀ node g reason taken earlier, .reported node g reason taken :: earlier <:+ s.past →
    Expected earlier node.id

/-- A reconnect fails only while its node is listed, and no node that has strayed is given up
for unresponsive. -/
def LosesListed (s : Station) : Prop :=
  (∀ node lost error earlier, .connected node lost (.failed error) :: earlier <:+ s.past →
    Expected earlier node.id) ∧
  ∀ node g earlier, .removed node g .unresponsive :: earlier <:+ s.past →
    ¬ Strayed earlier node.id

/-- Reports are of listed nodes exactly if no reconnect to an unlisted node has failed and no
stray was given up for unresponsive. -/
theorem Reachable.reports_listed_iff {s : Station} (h : s.Reachable) :
    s.ReportsListed ↔ s.LosesListed := by
  have hconsequent := h.consequent
  constructor
  · intro hreports
    refine ⟨fun node lost error earlier hsuffix => ?_, fun node g earlier hsuffix hstrayed => ?_⟩
    · obtain ⟨e, ⟨taken, rfl⟩, hnext⟩ := hconsequent.next hsuffix rfl
      exact (expected_cons rfl).1 (hreports node lost .unreachable taken _ hnext)
    · obtain ⟨e, ⟨attempts, limit, taken, rfl⟩, hnext⟩ := hconsequent.next hsuffix rfl
      exact hstrayed.1 ((expected_cons rfl).1 (hreports node g _ taken _ hnext))
  · rintro ⟨hfailed, hspent⟩ node g reason taken earlier hsuffix
    obtain ⟨cause, rest, rfl, hcause, hsequel⟩ := (hconsequent.fits _ _ hsuffix).caused rfl
    have hrest := suffix_of_cons hsuffix
    cases cause with
    | connected n lost outcome =>
      cases outcome with
      | done => simp [Event.calls] at hcause
      | failed error =>
        obtain ⟨_, heq⟩ := hsequel
        obtain ⟨rfl, -⟩ := Event.reported.inj heq
        exact (expected_cons rfl).2 (hfailed node lost error rest hrest)
    | removed n lost why =>
      have hentitled := entitled_iff.1 ((hconsequent.fits _ _ hrest).entitled n lost why rfl hcause)
      apply (expected_cons rfl).2
      cases why with
      | left | stopped => simp [Event.calls] at hcause
      | unresponsive =>
        obtain ⟨_, _, _, heq⟩ := hsequel
        obtain ⟨rfl, -⟩ := Event.reported.inj heq
        exact hentitled.resolve_right (hspent node lost rest hrest)
      | lostByPing | lostByEvent =>
        obtain ⟨named, hnamed, heq⟩ := hsequel
        cases hreconnect : s.detector.settings.reconnect with
        | true => simp [hreconnect] at heq
        | false =>
          simp only [hreconnect, Bool.false_eq_true, ↓reduceIte] at heq
          obtain ⟨_, heq⟩ := heq
          obtain ⟨rfl, -⟩ := Event.reported.inj heq
          rw [hreconnect] at hconsequent
          have hnot : ¬ Regained rest n.id := hconsequent.not_regained (suffix_of_cons hrest)
          rw [hnamed]
          exact hentitled.resolve_right fun hstrayed => hnot hstrayed.2
    | _ => simp [Event.calls] at hcause

/-- Attempts to connect to the peer fail after a while. -/
def broken : Link :=
  flaky.setConnects Trial.peer.id [.after 100 (.failed (.connectFailed Trial.peer.id "refused"))]

/-- The peer has left between the loss of the connection and the end of the reconnect. -/
def leftInBetween : Station :=
  Trial.after reconnecting broken [
    .reconcile Trial.together, .run true (.worker ⟨1⟩), .run true (.worker ⟨1⟩),
    .run true (.worker ⟨1⟩), .reconcile Trial.alone, .elapse 100, .run true (.worker ⟨1⟩)]
    (by decide)

theorem reports_listed_iff_left_in_between :
    ¬ Expected leftInBetween.past Trial.peer.id ∧
      (leftInBetween.ReportsListed ↔ leftInBetween.LosesListed) :=
  ⟨by decide, Reachable.reports_listed_iff (Trial.reachable (by decide))⟩

/-- A node may be reported after it has left. -/
theorem reports_after_leaving : ¬ ∀ s : Station, s.Reachable → s.ReportsListed := by
  intro h
  have hreachable : leftInBetween.Reachable := Trial.reachable (by decide)
  have hlisted := h leftInBetween hreachable Trial.peer ⟨1⟩ .unreachable true
    leftInBetween.past.tail (by decide)
  exact absurd hlisted (by decide)

end Station

end ClusterWatch
