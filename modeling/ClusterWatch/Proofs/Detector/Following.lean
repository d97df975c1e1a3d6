import ClusterWatch.Proofs.Detector.Enrolment

/-!
What is watched follows the membership. Requests to reconcile and to stop leave under watch
only nodes that are listed, and between them entries only go away; but a reconnect that
succeeds takes its node on again without asking whether the node is still wanted. The nodes
under watch are therefore those that are entitled to it by the past: listed, or taken on by
such a reconnect since the last request. The detector's own node is never among them.
-/
namespace ClusterWatch

open Past

namespace Event

/-- Who is entitled to be watched is the same before and after. -/
def quiet : Event → Bool
  | .reconciled _ => false
  | .stopped => false
  | .removed .. => false
  | .connected _ _ .done => false
  | _ => true

/-- The node that is taken on, or is to be. -/
def takesOn? : Event → Option NodeId
  | .installed node _ => some node.id
  | .connecting node _ => some node.id
  | _ => none

end Event

theorem Cycle.key_eq_text {c : Cycle} {id : NodeId} : c.key = id.text ↔ c.node.id = id :=
  ⟨fun h => congrArg NodeId.mk h, fun h => congrArg NodeId.text h⟩

theorem Past.entitled_cons {e : Event} {past : Past} {id : NodeId} (he : e.quiet = true) :
    Entitled (e :: past) id ↔ Entitled past id := by
  have hs : e.steers = false := by cases e <;> simp_all [Event.quiet, Event.steers]
  have hd : e.drops id = false := by cases e <;> simp_all [Event.quiet, Event.drops]
  have hr : e.regains id = false := by
    cases e with
    | connected node lost outcome =>
      cases outcome <;> simp_all [Event.quiet, Event.regains]
    | _ => rfl
  exact or_congr (expected_cons hs) (regained_cons hs hd hr)

/-- Every ping goes to a node that is entitled to be watched. -/
def Addressed (e : Event) (earlier : Past) : Prop :=
  ∀ id, e.pingSentTo? = some id → Entitled earlier id

theorem addressed_of_none {e : Event} {earlier : Past} (he : e.pingSentTo? = none) :
    Addressed e earlier := fun id h => by simp [he] at h

/-- The entries and what the past entitles to one. -/
structure Following (own : NodeId) (monitored : Table Cycle Cycle.key) (past : Past) : Prop where
  foreign : ∀ e ∈ past, e.takesOn? ≠ some own
  entitled : ∀ c ∈ monitored.entries, Entitled past c.node.id
  regained : ∀ id, Regained past id → ∃ c ∈ monitored.entries, c.node.id = id
  pinged : Always Addressed past

/-- Right after a request that settled which nodes are wanted. -/
structure Settling (own : NodeId) (wanted : NodeId → Prop) (past : Past) : Prop where
  foreign : ∀ e ∈ past, e.takesOn? ≠ some own
  expected : ∀ id, wanted id → Expected past id
  fresh : ∀ id, ¬ Regained past id
  pinged : Always Addressed past

namespace Settling

variable {own : NodeId} {wanted : NodeId → Prop} {past : Past}

theorem note (h : Settling own wanted past) {e : Event} (hsteers : e.steers = false)
    (hregains : ∀ id, e.regains id = false) (htakes : e.takesOn? ≠ some own)
    (hping : e.pingSentTo? = none) : Settling own wanted (e :: past) where
  foreign := List.forall_mem_cons.2 ⟨htakes, h.foreign⟩
  expected id hid := (expected_cons hsteers).2 (h.expected id hid)
  fresh id hr := by
    rcases hr with hr | hr
    · simp [hregains id] at hr
    · exact h.fresh id hr.2
  pinged := always_cons h.pinged (addressed_of_none hping)

theorem following (h : Settling own wanted past) {monitored : Table Cycle Cycle.key}
    (hwanted : ∀ c ∈ monitored.entries, wanted c.node.id) : Following own monitored past where
  foreign := h.foreign
  entitled c hc := Or.inl (h.expected _ (hwanted c hc))
  regained id hr := absurd hr (h.fresh id)
  pinged := h.pinged

end Settling

namespace Following

variable {own : NodeId} {monitored : Table Cycle Cycle.key} {past : Past}

theorem settle (h : Following own monitored past) {e : Event} {wanted : NodeId → Prop}
    (hsteers : e.steers = true) (hwanted : ∀ id, wanted id → Expected (e :: past) id) :
    Settling own wanted (e :: past) where
  foreign := by
    refine List.forall_mem_cons.2 ⟨?_, h.foreign⟩
    cases e <;> simp_all [Event.steers, Event.takesOn?]
  expected := hwanted
  fresh id := not_regained_of_steers hsteers
  pinged := by
    refine always_cons h.pinged (addressed_of_none ?_)
    cases e <;> simp_all [Event.steers, Event.pingSentTo?]

theorem note (h : Following own monitored past) {e : Event} (hquiet : e.quiet = true)
    (htakes : e.takesOn? ≠ some own) (hping : Addressed e past) :
    Following own monitored (e :: past) where
  foreign := List.forall_mem_cons.2 ⟨htakes, h.foreign⟩
  entitled c hc := (entitled_cons hquiet).2 (h.entitled c hc)
  regained id hr := by
    apply h.regained id
    rcases hr with hr | hr
    · cases e with
      | connected node lost outcome => cases outcome <;> simp_all [Event.quiet, Event.regains]
      | _ => simp_all [Event.regains]
    · exact hr.2
  pinged := always_cons h.pinged hping

/-- An entry may change all but its node. -/
theorem putCycle (h : Following own monitored past) {b c : Cycle} (hb : b ∈ monitored.entries)
    (hnode : c.node = b.node) : Following own (monitored.insert c) past where
  foreign := h.foreign
  entitled x hx := by
    rcases Table.mem_insert.1 hx with rfl | hx
    · rw [hnode]
      exact h.entitled b hb
    · exact h.entitled x hx.1
  regained id hr := by
    obtain ⟨x, hx, rfl⟩ := h.regained id hr
    by_cases hkey : c.key = x.key
    · exact ⟨c, Table.mem_insert_self, Cycle.key_eq_text.1 hkey⟩
    · exact ⟨x, Table.mem_insert.2 (Or.inr ⟨hx, hkey⟩), rfl⟩
  pinged := h.pinged

theorem removeEntry (h : Following own monitored past) (c : Cycle) (cause : Removal) :
    Following own (monitored.erase c.key) (.removed c.node c.generation cause :: past) where
  foreign := List.forall_mem_cons.2 ⟨by simp [Event.takesOn?], h.foreign⟩
  entitled x hx := by
    obtain ⟨hx, hkey⟩ := Table.mem_erase.1 hx
    rcases h.entitled x hx with he | hr
    · exact Or.inl ((expected_cons rfl).2 he)
    · exact Or.inr (regained_removed.2 ⟨fun heq => hkey (Cycle.key_eq_text.2 heq), hr⟩)
  regained id hr := by
    obtain ⟨hne, hr⟩ := regained_removed.1 hr
    obtain ⟨x, hx, rfl⟩ := h.regained id hr
    exact ⟨x, Table.mem_erase.2 ⟨hx, fun hkey => hne (Cycle.key_eq_text.1 hkey)⟩, rfl⟩
  pinged := always_cons h.pinged (addressed_of_none rfl)

/-- A reconnect has succeeded, and its node is watched already. -/
theorem regain (h : Following own monitored past) {node : Node} {lost : Generation}
    (hpresent : ∃ c ∈ monitored.entries, c.node.id = node.id) :
    Following own monitored (.connected node lost .done :: past) where
  foreign := List.forall_mem_cons.2 ⟨by simp [Event.takesOn?], h.foreign⟩
  entitled x hx := by
    rcases h.entitled x hx with he | hr
    · exact Or.inl ((expected_cons rfl).2 he)
    · exact Or.inr (regained_connected.2 (Or.inr hr))
  regained id hr := by
    rcases regained_connected.1 hr with rfl | hr
    · exact hpresent
    · exact h.regained id hr
  pinged := always_cons h.pinged (addressed_of_none rfl)

/-- A reconnect has succeeded, and its node is taken on. -/
theorem regainAnew (h : Following own monitored past) {node : Node} {lost g : Generation}
    (hother : node.id ≠ own) :
    Following own (monitored.insert (Cycle.begin node g))
      (.installed node g :: .connected node lost .done :: past) where
  foreign := by
    refine List.forall_mem_cons.2 ⟨?_, List.forall_mem_cons.2 ⟨?_, h.foreign⟩⟩
    · simpa [Event.takesOn?] using hother
    · simp [Event.takesOn?]
  entitled x hx := by
    apply (entitled_cons (by rfl)).2
    rcases Table.mem_insert.1 hx with rfl | hx
    · exact Or.inr (regained_connected.2 (Or.inl rfl))
    · rcases h.entitled x hx.1 with he | hr
      · exact Or.inl ((expected_cons rfl).2 he)
      · exact Or.inr (regained_connected.2 (Or.inr hr))
  regained id hr := by
    rcases hr with hr | hr
    · simp [Event.regains] at hr
    by_cases hkey : (Cycle.begin node g).key = id.text
    · exact ⟨_, Table.mem_insert_self, Cycle.key_eq_text.1 hkey⟩
    · have hne : node.id ≠ id := fun heq => hkey (Cycle.key_eq_text.2 heq)
      obtain ⟨x, hx, rfl⟩ := h.regained id ((regained_connected.1 hr.2).resolve_left hne)
      exact ⟨x, Table.mem_insert.2 (Or.inr ⟨hx, hkey⟩), rfl⟩
  pinged := always_cons (always_cons h.pinged (addressed_of_none rfl)) (addressed_of_none rfl)

end Following

namespace Detector

theorem mem_foldl_removeCycle {cause : Removal} {cycles : List Cycle} {d : Detector} {c : Cycle} :
    c ∈ (cycles.foldl (removeCycle · cause) d).monitored.entries ↔
      c ∈ d.monitored.entries ∧ ∀ b ∈ cycles, b.key ≠ c.key := by
  induction cycles generalizing d with
  | nil => simp
  | cons b rest ih =>
    have hdropped : c ∈ (d.removeCycle cause b).monitored.entries ↔
        c ∈ d.monitored.entries ∧ b.key ≠ c.key := Table.mem_erase
    rw [List.foldl_cons, ih, hdropped, List.forall_mem_cons, and_assoc]

theorem mem_install {d : Detector} {node : Node} {c : Cycle}
    (h : c ∈ (d.install node).monitored.entries) : c ∈ d.monitored.entries ∨ c.node = node := by
  rcases d.install_eq node with ⟨-, heq⟩ | ⟨-, heq⟩
  · rw [heq] at h
    exact Or.inl h
  · rw [heq] at h
    rcases Table.mem_insert.1 h with rfl | h
    · exact Or.inr rfl
    · exact Or.inl h.1

theorem mem_foldl_install {nodes : List Node} {d : Detector} {c : Cycle}
    (h : c ∈ (nodes.foldl install d).monitored.entries) :
    c ∈ d.monitored.entries ∨ c.node ∈ nodes := by
  induction nodes generalizing d with
  | nil => exact Or.inl h
  | cons node rest ih =>
    rcases ih h with h | h
    · rcases mem_install h with h | rfl
      · exact Or.inl h
      · exact Or.inr List.mem_cons_self
    · exact Or.inr (List.mem_cons_of_mem _ h)

/-- A reconcile leaves only listed nodes under watch. -/
theorem listed_of_mem_reconcile {d : Detector} {s : Snapshot} {c : Cycle}
    (h : c ∈ (d.reconcile s).monitored.entries) : s.nodes.contains c.node.id.text = true := by
  rcases mem_foldl_install h with h | h
  · obtain ⟨hc, hkept⟩ := mem_foldl_removeCycle.1 h
    cases hlisted : s.nodes.contains c.node.id.text with
    | true => rfl
    | false =>
      have hleft : c ∈ d.monitored.entries.filter fun c => !s.hasNode c.node.id :=
        List.mem_filter.2 ⟨hc, by simp [Snapshot.hasNode, hlisted]⟩
      exact absurd rfl (hkept c hleft)
  · exact Table.contains_of_mem (List.mem_filter.1 h).1

/-- A stop leaves nothing under watch. -/
theorem not_mem_stop {d : Detector} {c : Cycle} : c ∉ d.stop.monitored.entries := by
  intro h
  obtain ⟨hc, hkept⟩ := mem_foldl_removeCycle.1 h
  exact hkept c hc rfl

def Followed (d : Detector) : Prop := Following d.self.id d.monitored d.past

namespace Followed

variable {d : Detector}

theorem record (h : d.Followed) {e : Event} (hquiet : e.quiet = true)
    (htakes : e.takesOn? ≠ some d.self.id) (hping : e.pingSentTo? = none) :
    (d.record e).Followed :=
  h.note hquiet htakes (addressed_of_none hping)

theorem setStage (h : d.Followed) {g : Generation} {stage : Stage} :
    (d.setStage g stage).Followed := h

theorem leave (h : d.Followed) {alive : Bool} {w : Worker} : (d.leave alive w).Followed := by
  obtain ⟨gates, heq⟩ := d.leave_eq alive w
  rw [heq]
  exact h

theorem putCycle (h : d.Followed) {c : Cycle} {failures : Nat} {phase : Phase}
    (hc : c ∈ d.monitored.entries) : (d.putCycle { c with failures, phase }).Followed :=
  Following.putCycle h hc rfl

theorem removeCycle (h : d.Followed) {cause : Removal} {c : Cycle} :
    (d.removeCycle cause c).Followed :=
  h.removeEntry c cause

theorem report (h : d.Followed) {node : Node} {g : Generation} {reason : FailureReason} :
    (d.report node g reason).Followed := by
  rw [report_eq]
  exact h.record rfl (by simp [Event.takesOn?]) rfl

theorem lose (h : d.Followed) {cause : Removal} {c : Cycle} {node : Node} {lost : Generation}
    (hother : node.id ≠ d.self.id) : (d.lose cause c node lost).Followed := by
  have htakes : (Event.connecting node lost).takesOn? ≠ some d.self.id := by
    simpa [Event.takesOn?] using hother
  exact lose_keep (h.removeCycle.record rfl htakes rfl) h.removeCycle.report

theorem endReconnect (h : d.Followed) {node : Node} {lost : Generation} {outcome : Outcome}
    (hother : node.id ≠ d.self.id) : (d.endReconnect node lost outcome).Followed := by
  apply endReconnect_keep (P := Followed)
  · rcases (d.record (.connected node lost .done)).install_eq node with ⟨hin, heq⟩ | ⟨-, heq⟩
    · rw [heq]
      obtain ⟨c, hc, hkey⟩ := Table.contains_iff.1 hin
      exact Following.regain h ⟨c, hc, Cycle.key_eq_text.1 hkey⟩
    · rw [heq]
      exact Following.regainAnew h hother
  · intro error
    exact (h.record rfl (by simp [Event.takesOn?]) rfl).report

theorem reconcile (h : d.Followed) (s : Snapshot) : (d.reconcile s).Followed := by
  let Settled (e : Detector) : Prop :=
    e.self = d.self ∧ Settling d.self.id (fun id => s.nodes.contains id.text = true) e.past
  have hstart : Settled (d.record (.reconciled s.nodes)) :=
    ⟨rfl, h.settle rfl fun id hid => expected_reconciled.2 hid⟩
  have hdrop : ∀ e c, Settled e → c ∈ e.monitored.entries → Settled (e.removeCycle .left c) :=
    fun e c he _ => ⟨he.1, he.2.note rfl (fun _ => rfl) (by simp [Event.takesOn?]) rfl⟩
  have hadd : ∀ e node, Settled e → node ∈ s.nodes.entries → node.id ≠ d.self.id →
      Settled (e.install node) := fun e node he _ hother => by
    rcases e.install_eq node with ⟨-, heq⟩ | ⟨-, heq⟩
    · rw [heq]
      exact he
    · rw [heq]
      exact ⟨he.1, he.2.note rfl (fun _ => rfl) (by simpa [Event.takesOn?] using hother) rfl⟩
  obtain ⟨hself, hsettled⟩ := reconcile_keep hstart hdrop hadd
  unfold Followed
  rw [hself]
  exact hsettled.following fun c hc => listed_of_mem_reconcile hc

theorem stop (h : d.Followed) : d.stop.Followed := by
  let Settled (e : Detector) : Prop :=
    e.self = d.self ∧ Settling d.self.id (fun _ => False) e.past
  have hstart : Settled (d.record .stopped) := ⟨rfl, h.settle rfl fun _ hid => hid.elim⟩
  obtain ⟨hself, hsettled⟩ := stop_keep hstart fun e c he _ =>
    ⟨he.1, he.2.note rfl (fun _ => rfl) (by simp [Event.takesOn?]) rfl⟩
  unfold Followed
  rw [hself]
  exact hsettled.following fun c hc => not_mem_stop hc

end Followed

theorem start_followed (self : Node) (cluster : ClusterName) (settings : DetectionSettings) :
    (start self cluster settings).Followed := by
  refine ⟨fun e he => ?_, fun c hc => ?_, fun id hr => ?_, always_nil⟩
  · simp [past, start] at he
  · simp [start, Table.empty] at hc
  · simp [past, start, Regained, Since] at hr

/-- The detector's own node is not watched. -/
theorem Followed.not_self {d : Detector} (h : d.Followed) (hd : d.Enrolled) {c : Cycle}
    (hc : c ∈ d.monitored.entries) : c.node.id ≠ d.self.id := by
  intro hself
  have hinstalled := h.foreign _ (hd.entry c hc)
  simp [Event.takesOn?, hself] at hinstalled

theorem Turn.followed {lives : Bool} {aside : Aside} {d e : Detector}
    (turn : Turn lives d aside e) (hd : d.Enrolled) (h : d.Followed) : e.Followed := by
  have hnode {w : Worker} (hw : w ∈ d.workers) : w.node.id ≠ d.self.id := fun hself => by
    have hinstalled := h.foreign _ (hd.worker w hw)
    simp [Event.takesOn?, hself] at hinstalled
  have hanswered {id : NodeId} {g : Generation} {outcome : Outcome} :
      (d.record (.answered id g outcome)).Followed := h.record rfl (by simp [Event.takesOn?]) rfl
  cases turn with
  | pass | land | wake => exact h
  | tell | hand | hear => exact h.record rfl (by simp [Event.takesOn?]) rfl
  | reconcile snapshot => exact h.reconcile snapshot
  | stop => exact h.stop
  | @queue w member stage =>
    obtain ⟨gates, made, heq⟩ := d.gateFor_eq w.node.id
    rw [heq]
    exact h
  | depart => exact h.leave
  | @send w c gate version reply member stage free current =>
    obtain ⟨hc, hid, -⟩ := currentCycle?_eq_some current
    let sent : Event := .pinged w.node w.generation (d.pingRequest w.node version)
    have haddressed : Addressed sent d.past := fun id hsent => by
      obtain rfl := Option.some.inj hsent
      exact hid ▸ h.entitled c hc
    exact (h.putCycle hc).note (e := sent) rfl (by simp [sent, Event.takesOn?]) haddressed
  | abandon => exact (h.record rfl (by simp [Event.takesOn?]) rfl).leave
  | outlive => exact hanswered.leave
  | @rest w c gate flight member stage due current =>
    obtain ⟨hc, -, -⟩ := currentCycle?_eq_some current
    have hcleared : (((d.record (.answered w.node.id w.generation .done)).putCycle
        { c with failures := 0 }).setStage w.generation .ready).Followed :=
      (hanswered.putCycle hc).setStage
    exact (hcleared.putCycle Table.mem_insert_self).setStage
  | @finish w c gate flight alive member stage due current =>
    obtain ⟨hc, -, -⟩ := currentCycle?_eq_some current
    exact (hanswered.putCycle hc).setStage.leave
  | @retry w c gate flight error member stage due current =>
    obtain ⟨hc, -, -⟩ := currentCycle?_eq_some current
    exact hanswered.putCycle hc
  | exhaust => exact hanswered.removeCycle.report.leave
  | breakOff member => exact hanswered.lose (hnode member)
  | giveUp member => exact (hanswered.lose (hnode member)).leave
  | @disconnect c node found =>
    obtain ⟨hc, hid⟩ := cycle?_eq_some found
    exact h.lose (hid ▸ h.not_self hd hc)
  | @reconnect node lost outcome begun =>
    apply h.endReconnect
    intro hself
    have hconnecting := h.foreign _ begun.begun
    simp [Event.takesOn?, hself] at hconnecting
  | workerReconnect member => exact (h.endReconnect (hnode member)).leave

end Detector

namespace Station

theorem Reachable.followed {s : Station} (h : s.Reachable) : s.detector.Followed :=
  (h.keep (P := fun d => d.Enrolled ∧ d.Followed)
    (fun self cluster settings => ⟨Detector.start_enrolled self cluster settings,
      Detector.start_followed self cluster settings⟩)
    fun ⟨hd, hfollowed⟩ turn => ⟨turn.enrolled hd, turn.followed hd hfollowed⟩).2

/-- What is watched and pinged is what is listed, strays apart. -/
structure FollowsMembership (s : Station) : Prop where
  others : ∀ c ∈ s.detector.monitored.entries, c.node.id ≠ s.detector.self.id
  strayed : ∀ id, ((∃ c ∈ s.detector.monitored.entries, c.node.id = id) ∧
    ¬ Expected s.past id) ↔ Strayed s.past id
  pinged : ∀ node g request earlier, .pinged node g request :: earlier <:+ s.past →
    Expected earlier node.id ∨ Strayed earlier node.id

/-- The detector's own node is never watched. A node that is watched is listed in the
membership that was given last, with no stop after that, except exactly if it has strayed; and
only such nodes are pinged. -/
theorem Reachable.follows_membership {s : Station} (h : s.Reachable) : s.FollowsMembership := by
  have hfollowed := h.followed
  refine ⟨fun c hc => hfollowed.not_self h.enrolled hc, fun id => ⟨?_, ?_⟩, ?_⟩
  · rintro ⟨⟨c, hc, rfl⟩, hunlisted⟩
    exact (entitled_iff.1 (hfollowed.entitled c hc)).resolve_left hunlisted
  · rintro ⟨hunlisted, hregained⟩
    exact ⟨hfollowed.regained id hregained, hunlisted⟩
  · intro node g request earlier hping
    exact entitled_iff.1 (hfollowed.pinged _ earlier hping node.id rfl)

/-- The connection to the peer is lost, the reconnect takes a while and then succeeds. -/
def flaky : Link :=
  (Link.ideal.setReply Trial.peer.id
    (.after 0 (.failed (.connectFailed Trial.peer.id "reset")))).setConnects Trial.peer.id
      [.after 100 .done]

def reconnecting : DetectionSettings := { DetectionSettings.standard with reconnect := true }

/-- A stop has come between the loss of the connection and the end of the reconnect. -/
def stoppedInBetween : Station :=
  Trial.after reconnecting flaky [
    .reconcile Trial.together, .run true (.worker ⟨1⟩), .run true (.worker ⟨1⟩),
    .run true (.worker ⟨1⟩), .stop, .elapse 100, .run true (.worker ⟨1⟩),
    .run true (.worker ⟨2⟩), .run true (.worker ⟨2⟩)] (by decide)

theorem follows_membership_after_stop :
    Strayed stoppedInBetween.past Trial.peer.id ∧ stoppedInBetween.FollowsMembership :=
  ⟨by decide, Reachable.follows_membership (Trial.reachable (by decide))⟩

/-- After a stop a node may be watched all the same, and be pinged. -/
theorem watches_and_pings_after_stop :
    ¬ ∀ s : Station, s.Reachable →
      (∀ c ∈ s.detector.monitored.entries, Expected s.past c.node.id) ∨
      ∀ node g request earlier, .pinged node g request :: earlier <:+ s.past →
        Expected earlier node.id := by
  intro h
  have hreachable : stoppedInBetween.Reachable := Trial.reachable (by decide)
  have hwatched : stoppedInBetween.detector.monitored.contains Trial.peer.id.text = true := by
    decide
  rcases h stoppedInBetween hreachable with hfollows | hfollows
  · obtain ⟨c, hc, hkey⟩ := Table.contains_iff.1 hwatched
    have hlisted := hfollows c hc
    rw [Cycle.key_eq_text.1 hkey] at hlisted
    exact absurd hlisted (by decide)
  · have hlisted := hfollows Trial.peer ⟨2⟩ ⟨Trial.peer.id, some ⟨"trial"⟩, Trial.home.id, -1⟩
      stoppedInBetween.past.tail (by decide)
    exact absurd hlisted (by decide)

end Station

end ClusterWatch
