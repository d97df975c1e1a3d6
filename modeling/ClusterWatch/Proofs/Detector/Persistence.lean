import ClusterWatch.Proofs.Detector.Coverage
import ClusterWatch.Proofs.Detector.Fate
import ClusterWatch.Proofs.Detector.Pace
import ClusterWatch.Proofs.Detector.Supersession

/-!
How long pings may go on in vain. A cycle sends no more pings in a row without an
acknowledgement than attempts are allowed, and its node has another cycle only after an
attempt to connect, unless it has been reported or was not to be watched in between. The
pings that a node is sent in vain are therefore bounded by the attempts to connect to it; a
connection that is lost and regained again and again is never reported, though.
-/
namespace ClusterWatch

open Detector Past

namespace Event

/-- The pings to the node have not been in vain: one is acknowledged, or the node is reported. -/
def relieves (id : NodeId) : Event → Bool
  | .answered n _ .done => n = id
  | .reported node _ _ _ => node.id = id
  | _ => false

/-- A ping to the node is acknowledged. -/
def acknowledges (id : NodeId) : Event → Bool
  | .answered n _ .done => n = id
  | _ => false

/-- The node is reported, but the report is turned away. -/
def refuses (id : NodeId) : Event → Bool
  | .reported node _ _ false => node.id = id
  | _ => false

/-- The node is not, or no longer, one of those to be watched. -/
def excludes (id : NodeId) (e : Event) : Bool := e.steers && !e.lists id

/-- A ping to the node has failed. -/
def fails (id : NodeId) : Event → Bool
  | .answered n _ (.failed _) => n = id
  | _ => false

/-- An attempt to connect to the node begins. -/
def reconnects (id : NodeId) : Event → Bool
  | .connecting node _ => node.id = id
  | _ => false

end Event

/-- The news is that the node has failed. -/
def Notice.tellsOf (id : NodeId) : Notice → Bool
  | .nodeFailed node _ => node.id = id
  | .pingReceived _ => false

namespace Past

/-- The pings that the node has been sent. -/
def pingsTo (past : Past) (id : NodeId) : Nat := past.countP fun e => e.pingSentTo? = some id

/-- The attempts to connect to the node that have begun. -/
def reconnectsTo (past : Past) (id : NodeId) : Nat := past.countP fun e => e.reconnects id

theorem pingsTo_append (events : List Event) (past : Past) (id : NodeId) :
    pingsTo (events ++ past) id = pingsTo events id + past.pingsTo id := List.countP_append

theorem reconnectsTo_append (events : List Event) (past : Past) (id : NodeId) :
    reconnectsTo (events ++ past) id = reconnectsTo events id + past.reconnectsTo id :=
  List.countP_append

/-- The event sets the count of pings of the cycle to zero. -/
def resets (g : Generation) : Event → Bool
  | .installed _ h => h = g
  | .answered _ h .done => h = g
  | _ => false

/-- Unless they are set to zero, the pings of the cycle only grow in number. -/
theorem tries_le_append {g : Generation} {past : Past} {events : List Event}
    (h : ∀ e ∈ events, resets g e = false) : tries g past ≤ tries g (events ++ past) := by
  induction events with
  | nil => exact Nat.le_refl _
  | cons e events ih =>
    have hrest := ih fun f hf => h f (List.mem_cons_of_mem _ hf)
    refine Nat.le_trans hrest ?_
    have he := h e List.mem_cons_self
    by_cases hpaced : e.paced? = some g
    · cases e with
      | pinged node k request =>
        obtain rfl := Option.some.inj hpaced
        rw [List.cons_append, tries_pinged]
        exact Nat.le_succ _
      | answered id k outcome => cases outcome <;> simp_all [resets, Event.paced?, tries]
      | _ => simp_all [resets, Event.paced?]
    · exact Nat.le_of_eq (tries_cons hpaced).symm

end Past

namespace Detector

variable {d e : Detector} {label : Aside} {new : List Event} {id : NodeId}

/-- The pings in vain that the node may still be sent without another attempt to connect. -/
def room (d : Detector) (id : NodeId) : Nat :=
  match d.cycle? id with
  | some c => d.settings.retries - tries c.generation d.past
  | none => d.settings.retries

theorem room_le (d : Detector) (id : NodeId) : d.room id ≤ d.settings.retries := by
  unfold room
  split
  · exact Nat.sub_le _ _
  · exact Nat.le_refl _

theorem room_of_mem {c : Cycle} (hc : c ∈ d.monitored.entries) :
    d.room c.node.id = d.settings.retries - tries c.generation d.past := by
  have hfound : d.cycle? c.node.id = some c := Table.mem_iff_find?.1 hc
  simp [room, hfound]

theorem room_of_none (h : d.cycle? id = none) : d.room id = d.settings.retries := by
  simp [room, h]

/-- Answers are to pings of workers. -/
theorem Burst.worker_of_answered (burst : d.Burst e label new) {n : NodeId} {g : Generation}
    {outcome : Outcome} (h : .answered n g outcome ∈ new) :
    ∃ w ∈ d.workers, w.node.id = n ∧ w.generation = g := by
  cases burst with
  | reconcile nodes left installed =>
    have hsettles := settles_of_mem_reconcile installed h
    simp [Event.settles] at hsettles
  | stop dropped =>
    have hsettles := settles_of_mem_stop h
    simp [Event.settles] at hsettles
  | outlive outcome member | acknowledge member | retry member | exhaust taken member =>
    obtain ⟨rfl, rfl, -⟩ := Event.answered.inj (by simpa using h)
    exact ⟨_, member, rfl, rfl⟩
  | breakOff member current lost sequel =>
    cases sequel <;>
    · obtain ⟨rfl, rfl, -⟩ := Event.answered.inj (by simpa using h)
      exact ⟨_, member, rfl, rfl⟩
  | disconnect member named sequel => cases sequel <;> simp at h
  | _ => simp at h

/-- What may happen to the node while it is not to be relieved. -/
structure Vain (new : List Event) (id : NodeId) : Prop where
  unrelieved : ∀ f ∈ new, f.relieves id = false
  included : ∀ f ∈ new, f.excludes id = false

/-- Unless an attempt to connect begins, the entry of the node stays. -/
theorem Vain.entry_stays (h : Vain new id) (grows : d.Grows e label new)
    (hattempt : reconnectsTo new id = 0) {c : Cycle}
    (hc : c ∈ d.monitored.entries) (hid : c.node.id = id) :
    ∃ b ∈ e.monitored.entries, b.node = c.node ∧ b.generation = c.generation := by
  refine grows.entry_stays hc fun node cause hremoved => ?_
  obtain rfl : node = c.node := grows.node_of_removed hc hremoved
  rcases grows.burst.of_removed hremoved with ⟨f, hf, hsteers, hlists⟩ | ⟨f, hf, hreports⟩ |
    ⟨named, same, hmem, -⟩
  · have hexcludes := h.included f hf
    simp [Event.excludes, hsteers, ← hid, hlists] at hexcludes
  · have hrelieves := h.unrelieved f hf
    cases f <;> simp_all [Event.reports, Event.relieves]
  · exact List.countP_eq_zero.1 hattempt _ hmem (by simp [Event.reconnects, same, hid])

/-- The pings in vain of the entry's cycle are not forgotten. -/
theorem Vain.tries_le (h : Vain new id) (grows : d.Grows e label new)
    (hnumbered : Always Numbered e.past) {c : Cycle}
    (hc : c ∈ d.monitored.entries) (hid : c.node.id = id) :
    tries c.generation d.past ≤ tries c.generation e.past := by
  have hd := grows.enrolled
  rw [grows.past] at hnumbered ⊢
  refine tries_le_append fun f hf => ?_
  have hbegun := not_begun_again hnumbered (hd.entry c hc)
  have hrelieves := h.unrelieved f hf
  cases f with
  | installed node g =>
    by_cases hg : g = c.generation
    · exact absurd (hg ▸ hf) (hbegun node)
    · simp [resets, hg]
  | answered n g outcome =>
    cases outcome with
    | failed error => rfl
    | done =>
      by_cases hg : g = c.generation
      · obtain ⟨w, hw, rfl, rfl⟩ := grows.burst.worker_of_answered hf
        rw [← hd.entry_node hw hc hg.symm] at hrelieves
        simp [Event.relieves, hid] at hrelieves
      · simp [resets, hg]
  | _ => rfl

/-- A cycle that may ping has not used up its attempts, and none of its pings is under way. -/
theorem tries_lt_of_idle (hd : d.Enrolled) (hpaced : d.Paced none) (hbudget : d.Budgeted none)
    {w : Worker} {c : Cycle} (hw : w ∈ d.workers) (idle : w.held? = none)
    (current : d.currentCycle? w = some c) :
    tries c.generation d.past < d.settings.retries := by
  obtain ⟨hc, -, hg⟩ := currentCycle?_eq_some current
  have hwatched : Watched d.past w.generation := hd.watched_iff.2 ⟨c, hc, hg⟩
  obtain ⟨hcount, hbelow⟩ := hbudget c hc (by simp)
  rw [hg, hpaced w hw (by simp) hwatched, Worker.flying_eq_zero idle, ← hg, ← hcount]
  exact hbelow

/-- The room that is left for a node whose entry stays. -/
theorem Grows.room_of_staying (grows : d.Grows e label new) (h : Vain new id)
    (hattempt : reconnectsTo new id = 0) {c : Cycle} (hc : c ∈ d.monitored.entries)
    (hid : c.node.id = id) : e.room id = d.settings.retries - tries c.generation e.past := by
  obtain ⟨b, hb, hnode, hg⟩ := h.entry_stays grows hattempt hc hid
  rw [← hid, ← hnode, room_of_mem hb, hg, grows.settings]

/-- A ping takes of the room that is left. -/
theorem Grows.room_lt_of_sent {w : Worker} {c : Cycle} {request : PingRequest}
    (grows : d.Grows e label [.pinged w.node w.generation request])
    (h : Vain [.pinged w.node w.generation request] w.node.id) (hpaced : d.Paced none)
    (hbudget : d.Budgeted none) (member : w ∈ d.workers) (idle : w.held? = none)
    (current : d.currentCycle? w = some c) : e.room w.node.id + 1 ≤ d.room w.node.id := by
  obtain ⟨hc, hid, hg⟩ := currentCycle?_eq_some current
  have hlt := tries_lt_of_idle grows.enrolled hpaced hbudget member idle current
  have hbefore : d.room w.node.id = d.settings.retries - tries c.generation d.past :=
    hid ▸ room_of_mem hc
  have hafter := grows.room_of_staying h (by simp [reconnectsTo, Event.reconnects]) hc hid
  have hnext : tries c.generation e.past = tries c.generation d.past + 1 := by
    rw [grows.past, hg]
    exact tries_pinged
  omega

/-- Only an attempt to connect makes room. -/
theorem Grows.room_le (grows : d.Grows e label new) (h : Vain new id)
    (hnumbered : Always Numbered e.past) :
    e.room id ≤ d.room id + d.settings.retries * reconnectsTo new id := by
  have hfull : e.room id ≤ d.settings.retries := grows.settings ▸ e.room_le id
  rcases Nat.eq_zero_or_pos (reconnectsTo new id) with hattempt | hattempt
  · cases hfound : d.cycle? id with
    | none =>
      rw [room_of_none hfound]
      omega
    | some c =>
      obtain ⟨hc, rfl⟩ := cycle?_eq_some hfound
      have htries := h.tries_le grows hnumbered hc rfl
      rw [grows.room_of_staying h hattempt hc rfl, room_of_mem hc]
      omega
  · have hmade : d.settings.retries ≤ d.settings.retries * reconnectsTo new id :=
      Nat.le_mul_of_pos_right _ hattempt
    omega

/-- What a burst sends the node and the room that it leaves are paid for. -/
theorem Grows.paid (grows : d.Grows e label new) (h : Vain new id) (hpaced : d.Paced none)
    (hbudget : d.Budgeted none) (hnumbered : Always Numbered e.past) :
    pingsTo new id + e.room id ≤ d.room id + d.settings.retries * reconnectsTo new id := by
  have hroom := grows.room_le h hnumbered
  rcases grows.burst.pings with hsilent | ⟨w, c, version, member, idle, current, rfl⟩
  · have hunsent : pingsTo new id = 0 :=
      List.countP_eq_zero.2 fun f hf => by simp [hsilent f hf]
    omega
  · by_cases hw : w.node.id = id
    · subst hw
      have hless := grows.room_lt_of_sent h hpaced hbudget member idle current
      have hsent : pingsTo [.pinged w.node w.generation (d.pingRequest w.node version)]
          w.node.id = 1 := by simp [pingsTo, Event.pingSentTo?]
      omega
    · have hunsent : pingsTo [.pinged w.node w.generation (d.pingRequest w.node version)]
          id = 0 := by simp [pingsTo, Event.pingSentTo?, hw]
      omega

/-- The pings that the node has been sent since an earlier moment, as long as they are in vain, and
the room that is left are paid for by the attempts to connect to it. -/
def PaidSince (start : Past) (id : NodeId) (d : Detector) : Prop :=
  ∃ stretch, d.past = stretch ++ start ∧ (Vain stretch id →
    pingsTo stretch id + d.room id ≤ d.settings.retries * (1 + reconnectsTo stretch id))

theorem paidSince_self (d : Detector) (id : NodeId) : d.PaidSince d.past id :=
  ⟨[], rfl, fun _ => by simpa [pingsTo, reconnectsTo] using d.room_le id⟩

theorem Vain.of_append {stretch : Past} (h : Vain (new ++ stretch) id) :
    Vain new id ∧ Vain stretch id := by
  obtain ⟨hnew, hstretch⟩ := List.forall_mem_append.1 h.unrelieved
  obtain ⟨hnew', hstretch'⟩ := List.forall_mem_append.1 h.included
  exact ⟨⟨hnew, hnew'⟩, ⟨hstretch, hstretch'⟩⟩

/-- What is known of every detector whose settings are accepted. -/
structure Steady (d : Detector) : Prop where
  enrolled : d.Enrolled
  counts : d.Counts
  paced : d.Paced none
  budgeted : d.Budgeted none
  positive : 0 < d.settings.retries

theorem Turn.steady {lives : Bool} {aside : Aside} (turn : Turn lives d aside e) (h : d.Steady) :
    e.Steady where
  enrolled := turn.enrolled h.enrolled
  counts := turn.counts h.counts
  paced := turn.paced h.enrolled h.paced
  budgeted := turn.budgeted h.enrolled h.positive h.budgeted
  positive := turn.continues.settings ▸ h.positive

theorem Turn.paidSince {lives : Bool} {aside : Aside} (turn : Turn lives d aside e) (hd : d.Steady)
    {start : Past} (h : d.PaidSince start id) : e.PaidSince start id := by
  obtain ⟨stretch, hstretch, hpaid⟩ := h
  obtain ⟨label, new, grows, -⟩ := turn.grows hd.enrolled
  refine ⟨new ++ stretch, by rw [grows.past, hstretch, List.append_assoc], fun hvain => ?_⟩
  obtain ⟨hnew, hbefore⟩ := hvain.of_append
  have hturn := grows.paid hnew hd.paced hd.budgeted (turn.counts hd.counts).each
  have hsum := hpaid hbefore
  rw [pingsTo_append, reconnectsTo_append, grows.settings]
  rw [Nat.mul_add] at hsum
  rw [Nat.mul_add, Nat.mul_add]
  omega

end Detector

/-- The action stops the detector or tells it of a lost connection. -/
def Action.interferes : Action → Bool
  | .stop | .close | .disconnect _ | .disconnectEvent _ => true
  | _ => false

namespace Station

theorem Reachable.steady {s : Station} (h : s.Reachable)
    (hvalid : s.detector.settings.validate = .ok ()) : s.detector.Steady where
  enrolled := h.enrolled
  counts := h.numbering
  paced := h.paced
  budgeted := (h.spending (DetectionSettings.retries_pos_of_validate hvalid)).1
  positive := DetectionSettings.retries_pos_of_validate hvalid

/-- From `s` to `t` the node is always one of those to be watched, none of its pings is acknowledged
and no failure of it is submitted, not even to a bulletin that has been shut. -/
structure InVain (s t : Station) (stretch : Past) (id : NodeId) : Prop where
  included : ∀ f ∈ stretch, f.excludes id = false
  unacknowledged : ∀ f ∈ stretch, f.acknowledges id = false
  unsubmitted : ∀ notice ∈ t.submitted.drop s.submitted.length, notice.tellsOf id = false
  unrefused : ∀ f ∈ stretch, f.refuses id = false

/-- What has been submitted in between is what has been reported and taken. -/
theorem ReportsSubmitted.drop_submitted {s t : Station} (hs : s.ReportsSubmitted)
    (ht : t.ReportsSubmitted) {stretch : Past} (hstretch : t.past = stretch ++ s.past) :
    t.submitted.drop s.submitted.length = inOrder Event.news? stretch := by
  rw [← ht.queued, ← hs.queued, hstretch, inOrder, inOrder, inOrder, List.reverse_append,
    List.filterMap_append, List.drop_left]

theorem InVain.vain {s t : Station} {stretch : Past} {id : NodeId} (h : InVain s t stretch id)
    (hs : s.ReportsSubmitted) (ht : t.ReportsSubmitted) (hstretch : t.past = stretch ++ s.past) :
    Vain stretch id := by
  refine ⟨fun f hf => ?_, h.included⟩
  cases f with
  | answered n g outcome =>
    cases outcome with
    | done => exact h.unacknowledged _ hf
    | failed error => rfl
  | reported node g reason taken =>
    cases taken with
    | false => exact h.unrefused _ hf
    | true =>
      have hnews : .nodeFailed node reason ∈ inOrder Event.news? stretch :=
        List.mem_filterMap.2 ⟨_, List.mem_reverse.2 hf, rfl⟩
      rw [← hs.drop_submitted ht hstretch] at hnews
      exact h.unsubmitted _ hnews
  | _ => rfl

/-- In a stretch of a run in which no failure of a node is submitted, none of its pings is
acknowledged and it is always one of those to be watched, it is sent as many pings as attempts are
allowed, and as many again for each attempt to connect to it; without reconnects, none of the
latter. -/
theorem Reachable.pings_in_vain_bounded {s t : Station} (h : s.Reachable)
    (hvalid : s.detector.settings.validate = .ok ()) {actions : List Action}
    (hacts : s.acts actions = some t) {stretch : Past} (hstretch : t.past = stretch ++ s.past)
    {id : NodeId} (inVain : InVain s t stretch id) :
    pingsTo stretch id ≤ s.detector.settings.retries * (1 + reconnectsTo stretch id) ∧
      (s.detector.settings.reconnect = false →
        pingsTo stretch id ≤ s.detector.settings.retries) := by
  have hvain := inVain.vain h.reports_submitted (h.acts hacts).reports_submitted hstretch
  have hkept := (acts_keep (P := fun d _ => d.Steady ∧ d.PaidSince s.past id ∧
      d.settings = s.detector.settings)
    (fun ⟨hd, hpaid, hsettings⟩ turn _ => ⟨turn.steady hd, turn.paidSince hd hpaid,
      turn.continues.settings.trans hsettings⟩)
    h.permitted ⟨h.steady hvalid, paidSince_self _ id, rfl⟩ hacts).1
  obtain ⟨-, ⟨paid, hpast, hpaid⟩, hsettings⟩ := hkept
  obtain rfl : paid = stretch := List.append_cancel_right (hpast.symm.trans hstretch)
  have hbound := hpaid hvain
  rw [hsettings] at hbound
  refine ⟨Nat.le_trans (Nat.le_add_right _ _) hbound, fun hoff => ?_⟩
  have hnone : reconnectsTo paid id = 0 := by
    refine List.countP_eq_zero.2 fun f hf hreconnects => ?_
    cases f with
    | connecting node lost =>
      have hasked := (h.acts hacts).fated.1.asked (hstretch ▸ List.mem_append_left _ hf)
      rw [hsettings, hoff] at hasked
      cases hasked
    | _ => simp [Event.reconnects] at hreconnects
  rw [hnone] at hbound
  omega

/-- A connection that does not survive a ping, though every attempt to regain it succeeds. -/
def fleeting : Link :=
  Link.ideal.setReply Trial.peer.id (.after 0 (.failed (.connectFailed Trial.peer.id "reset")))

def onePing : DetectionSettings := { reconnecting with retries := 1 }

/-- The peer is pinged three times, each time on account of another cycle. -/
def threeCycles : List Action :=
  .reconcile Trial.together :: [⟨1⟩, ⟨2⟩, ⟨3⟩].flatMap fun g =>
    List.replicate 4 (.run true (.worker g))

def lostAgain : Station := Trial.after onePing fleeting threeCycles (by decide)

theorem lostAgain_acts : (Trial.station onePing fleeting).acts threeCycles = some lostAgain :=
  Trial.acts_after (by decide)

theorem lostAgain_inVain :
    InVain (Trial.station onePing fleeting) lostAgain lostAgain.past Trial.peer.id :=
  ⟨by decide, by decide, by decide, by decide⟩

theorem pings_in_vain_bounded_lost_again :
    InVain (Trial.station onePing fleeting) lostAgain lostAgain.past Trial.peer.id ∧
      pingsTo lostAgain.past Trial.peer.id ≤ 1 * (1 + reconnectsTo lostAgain.past Trial.peer.id) :=
  have hstart : (Trial.station onePing fleeting).Reachable := ⟨_, _, _, _, _, [], rfl⟩
  ⟨lostAgain_inVain, (Reachable.pings_in_vain_bounded hstart (by decide) lostAgain_acts
    (List.append_nil _).symm lostAgain_inVain).1⟩

/-- A node whose connection is regained again and again may fail more than twice as many pings as
attempts are allowed, and not be reported. -/
theorem fails_unreported :
    ¬ ∀ self cluster settings initial link before after (s t : Station),
      settings.validate = .ok () → (∀ a ∈ before ++ after, Action.interferes a = false) →
      (start self cluster settings initial link).acts before = some s → s.acts after = some t →
      ∀ stretch id, t.past = stretch ++ s.past → InVain s t stretch id →
        stretch.countP (·.fails id) ≤ 2 * settings.retries := by
  intro h
  have hfailed := h Trial.home ⟨"trial"⟩ onePing Trial.alone fleeting [] threeCycles
    (Trial.station onePing fleeting) lostAgain (by decide) (by decide) rfl lostAgain_acts
    lostAgain.past Trial.peer.id (List.append_nil _).symm lostAgain_inVain
  exact absurd hfailed (by decide)

end Station

end ClusterWatch
