import ClusterWatch.Proofs.Detector.Overtaking
import ClusterWatch.Proofs.Detector.Reconciling

/-!
Where pings are sent to. A node is put under watch by a record of it, and that record goes with its
cycle for as long as there is one: it is what the entry shows, what the worker has, and what pings
are addressed by. A member that is listed again under another address is the same member, so its
cycle stays, and with it the address at which the member is no longer to be found.
-/
namespace ClusterWatch

open Detector Past

/-- The record by which the node is put under watch. -/
def Event.enrolsAs? (id : NodeId) : Event → Option Node
  | .installed node _ => if node.id = id then some node else none
  | _ => none

namespace Past

/-- The record by which the node was last put under watch. -/
def takenOnAs? (past : Past) (id : NodeId) : Option Node := past.findSome? (Event.enrolsAs? id)

/-- The record was in a membership that was to be followed. -/
def HasListed (past : Past) (node : Node) : Prop :=
  ∃ nodes, .reconciled nodes ∈ past ∧ node ∈ nodes.entries

/-- The node is under watch, and by a record with another address. -/
def HeldElsewhere (past : Past) (listed : Node) : Prop :=
  UnderWatch past listed.id ∧
    ∃ node, past.takenOnAs? listed.id = some node ∧ node.address ≠ listed.address

/-- Memberships have listed the node under this address only. -/
def ListsOnlyAt (past : Past) (id : NodeId) (address : Net.SocketAddress) : Prop :=
  ∀ nodes, .reconciled nodes ∈ past → ∀ listed ∈ nodes.entries, listed.id = id →
    listed.address = address

/-- No node has been lost by being told of a disconnect. -/
def Untold (past : Past) : Prop := ∀ node g, .removed node g .lostByEvent ∉ past

variable {past : Past} {e : Event} {id : NodeId} {node other : Node} {g : Generation}

theorem takenOnAs?_installed : takenOnAs? (.installed node g :: past) id =
    if node.id = id then some node else takenOnAs? past id := by
  by_cases hid : node.id = id <;> simp [takenOnAs?, Event.enrolsAs?, hid]

theorem takenOnAs?_cons (he : e.enrolsAs? id = none) :
    takenOnAs? (e :: past) id = takenOnAs? past id := by
  rw [takenOnAs?, List.findSome?_cons, he]
  rfl

theorem installed_of_takenOnAs? (h : takenOnAs? past id = some node) :
    ∃ g, .installed node g ∈ past := by
  obtain ⟨e, he, henrols⟩ := List.exists_of_findSome?_eq_some h
  cases e with
  | installed taken g =>
    obtain ⟨-, htaken⟩ := Option.ite_none_right_eq_some.1 henrols
    exact ⟨g, Option.some.inj htaken ▸ he⟩
  | _ => cases henrols

theorem HasListed.cons (h : HasListed past node) : HasListed (e :: past) node := by
  obtain ⟨nodes, hnodes, hmem⟩ := h
  exact ⟨nodes, List.mem_cons_of_mem _ hnodes, hmem⟩

theorem HasListed.address_eq {address : Net.SocketAddress} (h : HasListed past node)
    (hlists : ListsOnlyAt past node.id address) : node.address = address := by
  obtain ⟨nodes, hnodes, hmem⟩ := h
  exact hlists nodes hnodes node hmem rfl

theorem Untold.tail (h : Untold (e :: past)) : Untold past :=
  fun node g hmem => h node g (List.mem_cons_of_mem _ hmem)

end Past

/-- A ping goes by the record by which its node was last put under watch. -/
def SentAsTakenOn (e : Event) (earlier : Past) : Prop :=
  ∀ node g request, e = .pinged node g request → earlier.takenOnAs? node.id = some node

/-- A record is taken up: a cycle begins by it or an attempt to connect does. -/
def Event.takesUp? : Event → Option Node
  | .installed node _ => some node
  | .connecting node _ => some node
  | _ => none

/-- The event has to do with no record. -/
def Event.isPlain : Event → Bool
  | .installed .. => false
  | .connecting .. => false
  | .pinged .. => false
  | _ => true

/-- Entries and the records that the past has for them. -/
structure Records (monitored : Table Cycle Cycle.key) (past : Past) : Prop where
  entry : ∀ c ∈ monitored.entries, past.takenOnAs? c.node.id = some c.node
  pinged : Always SentAsTakenOn past
  /-- Unless disconnects are told of, all records come from memberships. -/
  listed : past.Untold → ∀ e ∈ past, ∀ node ∈ e.takesUp?, past.HasListed node

namespace Records

variable {monitored : Table Cycle Cycle.key} {past : Past} {e : Event} {node : Node}
  {g : Generation} {c : Cycle}

theorem listed_cons (h : Records monitored past)
    (he : Untold (e :: past) → ∀ node ∈ e.takesUp?, past.HasListed node) :
    Untold (e :: past) → ∀ f ∈ e :: past, ∀ node ∈ f.takesUp?, HasListed (e :: past) node := by
  intro untold f hf node hnode
  rcases List.mem_cons.1 hf with rfl | hf
  · exact (he untold node hnode).cons
  · exact (h.listed untold.tail f hf node hnode).cons

theorem note (h : Records monitored past) (he : e.isPlain = true) :
    Records monitored (e :: past) where
  entry c hc := by
    refine (takenOnAs?_cons ?_).trans (h.entry c hc)
    cases e with
    | installed => cases he
    | _ => rfl
  pinged := by
    refine always_cons h.pinged ?_
    rintro node g request rfl
    cases he
  listed := by
    refine h.listed_cons fun _ node hnode => ?_
    cases e with
    | installed | connecting | pinged => cases he
    | _ => exact absurd hnode (Option.not_mem_none node)

theorem ping (h : Records monitored past) {request : PingRequest}
    (hnode : past.takenOnAs? node.id = some node) :
    Records monitored (.pinged node g request :: past) where
  entry c hc := (takenOnAs?_cons rfl).trans (h.entry c hc)
  pinged := by
    refine always_cons h.pinged ?_
    rintro target k sent heq
    cases heq
    exact hnode
  listed := h.listed_cons fun _ _ hnode => by cases hnode

theorem connect (h : Records monitored past)
    (hnode : Untold past → past.HasListed node) :
    Records monitored (.connecting node g :: past) where
  entry c hc := (takenOnAs?_cons rfl).trans (h.entry c hc)
  pinged := always_cons h.pinged nofun
  listed := h.listed_cons fun untold m hm => by
    cases hm
    exact hnode untold.tail

theorem install (h : Records monitored past) (hnew : monitored.contains node.key = false)
    (hnode : Untold past → past.HasListed node) :
    Records (monitored.insert (Cycle.begin node g)) (.installed node g :: past) where
  entry c hc := by
    rw [takenOnAs?_installed]
    rcases Table.mem_insert.1 hc with rfl | ⟨hc, -⟩
    · exact if_pos rfl
    · have hkey := Table.key_ne_of_contains_eq_false hnew hc
      rw [if_neg fun hid => hkey (congrArg NodeId.text hid)]
      exact h.entry c hc
  pinged := always_cons h.pinged nofun
  listed := h.listed_cons fun untold m hm => by
    cases hm
    exact hnode untold.tail

theorem putCycle (h : Records monitored past) (hc : c ∈ monitored.entries) {failures : Nat}
    {phase : Phase} : Records (monitored.insert { c with failures, phase }) past :=
  { h with
    entry := by
      intro b hb
      rcases Table.mem_insert.1 hb with rfl | ⟨hb, -⟩
      · exact h.entry c hc
      · exact h.entry b hb }

theorem removeEntry (h : Records monitored past) (c : Cycle) (cause : Removal) :
    Records (monitored.erase c.key) (.removed c.node c.generation cause :: past) :=
  { h.note rfl with entry := fun b hb => (h.note rfl).entry b (Table.mem_erase.1 hb).1 }

end Records

namespace Detector

def Recorded (d : Detector) : Prop := Records d.monitored d.past

namespace Recorded

variable {d : Detector} {node : Node} {g : Generation} {c : Cycle}

theorem record (h : d.Recorded) {e : Event} (he : e.isPlain = true) : (d.record e).Recorded :=
  h.note he

theorem removeCycle (h : d.Recorded) {cause : Removal} : (d.removeCycle cause c).Recorded :=
  h.removeEntry c cause

theorem report (h : d.Recorded) {reason : FailureReason} : (d.report node g reason).Recorded := by
  rw [report_eq]
  exact h.record rfl

theorem leave (h : d.Recorded) {alive : Bool} {w : Worker} : (d.leave alive w).Recorded := by
  obtain ⟨gates, heq⟩ := d.leave_eq alive w
  rw [heq]
  exact h

theorem install (h : d.Recorded) (hnode : d.past.Untold → d.past.HasListed node) :
    (d.install node).Recorded := by
  rcases d.install_eq node with ⟨-, heq⟩ | ⟨hnew, heq⟩
  · rw [heq]
    exact h
  · rw [heq]
    exact Records.install h hnew hnode

/-- A node that is lost by being told of a disconnect may be named by any record. -/
theorem lose (h : d.Recorded) {cause : Removal}
    (hnode : cause ≠ .lostByEvent → d.past.Untold → d.past.HasListed node) :
    (d.lose cause c node g).Recorded := by
  have hremoved : (d.removeCycle cause c).Recorded := h.removeCycle
  refine lose_keep (Records.connect hremoved ?_) hremoved.report
  intro untold
  refine (hnode ?_ untold.tail).cons
  rintro rfl
  exact untold c.node c.generation List.mem_cons_self

theorem endReconnect (h : d.Recorded) (hnode : d.past.Untold → d.past.HasListed node)
    {outcome : Outcome} : (d.endReconnect node g outcome).Recorded :=
  endReconnect_keep (P := Recorded)
    ((h.record rfl).install fun untold => (hnode untold.tail).cons)
    fun _ => (h.record rfl).report

/-- The record that a worker has comes from a membership, unless disconnects are told of. -/
theorem worker (h : d.Recorded) (hd : d.Enrolled) {w : Worker} (hw : w ∈ d.workers) :
    d.past.Untold → d.past.HasListed w.node :=
  fun untold => h.listed untold _ (hd.worker w hw) w.node rfl

end Recorded

theorem start_recorded (self : Node) (cluster : ClusterName) (settings : DetectionSettings) :
    (start self cluster settings).Recorded :=
  ⟨nofun, always_nil, nofun⟩

theorem Turn.recorded {lives : Bool} {aside : Aside} {d e : Detector} (turn : Turn lives d aside e)
    (hd : d.Enrolled) (h : d.Recorded) : e.Recorded := by
  have hanswered (w : Worker) (outcome : Outcome) :
      (d.record (.answered w.node.id w.generation outcome)).Recorded := h.record rfl
  have hentry {w : Worker} {c : Cycle} (current : d.currentCycle? w = some c) :
      c ∈ d.monitored.entries := (currentCycle?_eq_some current).1
  have hlost {w : Worker} (hw : w ∈ d.workers) (outcome : Outcome) :
      let answered := d.record (.answered w.node.id w.generation outcome)
      answered.past.Untold → answered.past.HasListed w.node :=
    fun untold => (h.worker hd hw untold.tail).cons
  cases turn with
  | pass | land | wake => exact h
  | tell | hand | hear => exact h.record rfl
  | reconcile snapshot =>
    refine (reconcile_keep (d := d) (s := snapshot)
      (P := fun e => e.Recorded ∧ .reconciled snapshot.nodes ∈ e.past)
      ⟨h.record rfl, List.mem_cons_self⟩ (fun e c he _ => ?_) fun e node he hnode _ => ?_).1
    · exact ⟨he.1.removeCycle, List.mem_cons_of_mem _ he.2⟩
    · refine ⟨he.1.install fun _ => ⟨snapshot.nodes, he.2, hnode⟩, ?_⟩
      rcases e.install_past node with hpast | ⟨g, hpast⟩ <;> rw [hpast]
      · exact he.2
      · exact List.mem_cons_of_mem _ he.2
  | stop => exact stop_keep (P := Recorded) (h.record rfl) fun _ _ he _ => he.removeCycle
  | @queue w member stage =>
    obtain ⟨gates, made, heq⟩ := d.gateFor_eq w.node.id
    rw [heq]
    exact h
  | depart => exact h.leave
  | @send w c gate version reply member stage free current =>
    have hnode : d.past.takenOnAs? w.node.id = some w.node := by
      have hg := (currentCycle?_eq_some current).2.2
      rw [← hd.entry_node member (hentry current) hg]
      exact h.entry c (hentry current)
    exact Records.ping (Records.putCycle h (hentry current)) hnode
  | abandon => exact (h.record rfl).leave
  | outlive => exact (hanswered _ _).leave
  | @rest w c gate flight member stage due current =>
    have hcleared : Records (d.monitored.insert { c with failures := 0 }) _ :=
      Records.putCycle (hanswered w .done) (hentry current)
    exact hcleared.putCycle (c := { c with failures := 0 }) Table.mem_insert_self
  | @finish w c gate flight alive member stage due current =>
    have hcleared : ((((d.record (.answered w.node.id w.generation .done)).putCycle
        { c with failures := 0 }).setStage w.generation .ready)).Recorded :=
      Records.putCycle (hanswered w .done) (hentry current)
    exact hcleared.leave
  | retry member stage due current =>
    exact Records.putCycle (hanswered _ _) (hentry current)
  | exhaust => exact (hanswered _ _).removeCycle.report.leave
  | breakOff member => exact (hanswered _ _).lose fun _ => hlost member _
  | giveUp member =>
    exact ((hanswered _ _).lose fun _ => hlost member _).leave
  | disconnect => exact h.lose fun hcause => absurd rfl hcause
  | @reconnect node lost outcome begun =>
    exact h.endReconnect fun untold => h.listed untold _ begun.begun node rfl
  | workerReconnect member => exact (h.endReconnect (h.worker hd member)).leave

end Detector

namespace Station

/-- By which addresses nodes are pinged. -/
structure PingsAsTakenOn (s : Station) : Prop where
  /-- An entry has the record by which its node was last put under watch, -/
  entry : ∀ c ∈ s.detector.monitored.entries, s.past.takenOnAs? c.node.id = some c.node
  /-- so has whoever drives its cycle, -/
  worker : ∀ w ∈ s.detector.workers, ∀ c ∈ s.detector.monitored.entries,
    w.generation = c.generation → w.node = c.node
  /-- and by it the node is pinged. -/
  pinged : ∀ node g request (earlier : Past), .pinged node g request :: earlier <:+ s.past →
    earlier.takenOnAs? node.id = some node
  /-- After a reconcile a node has another address than the one it is listed under exactly if it
  had another one before. -/
  reconciled : ∀ snapshot, ∀ c ∈ (s.detector.reconcile snapshot).monitored.entries,
    ∃ listed ∈ snapshot.nodes.entries, listed.id = c.node.id ∧
      (c.node.address ≠ listed.address ↔ HeldElsewhere s.past listed)
  /-- A node that is listed under one address only is watched and pinged there, unless disconnects
  are told of. -/
  unmoved : ∀ id address, s.past.Untold → s.past.ListsOnlyAt id address →
    (∀ c ∈ s.detector.monitored.entries, c.node.id = id → c.node.address = address) ∧
      ∀ node g request, .pinged node g request ∈ s.past → node.id = id → node.address = address

theorem Reachable.recorded {s : Station} (h : s.Reachable) : s.detector.Recorded :=
  (h.keep (P := fun d => d.Enrolled ∧ d.Recorded)
    (fun self cluster settings => ⟨Detector.start_enrolled self cluster settings,
      Detector.start_recorded self cluster settings⟩)
    fun ⟨hd, hrecorded⟩ turn => ⟨turn.enrolled hd, turn.recorded hd hrecorded⟩).2

/-- An entry that stays keeps its address, and one that begins has the address that is listed. -/
theorem Reachable.address_of_mem_reconcile {s : Station} (h : s.Reachable) {snapshot : Snapshot}
    {c : Cycle} {listed : Node} (hc : c ∈ (s.detector.reconcile snapshot).monitored.entries)
    (hlisted : listed ∈ snapshot.nodes.entries) (hid : listed.id = c.node.id) :
    c.node.address ≠ listed.address ↔ HeldElsewhere s.past listed := by
  by_cases hheld : c ∈ s.detector.monitored.entries
  · have htaken : s.past.takenOnAs? listed.id = some c.node := hid ▸ h.recorded.entry c hheld
    have hwatch : UnderWatch s.past listed.id :=
      (h.mirrored listed.id).2 (hid ▸ Table.contains_of_mem hheld)
    constructor
    · intro hmoved
      exact ⟨hwatch, c.node, htaken, hmoved⟩
    · rintro ⟨-, node, hnode, hmoved⟩
      obtain rfl : c.node = node := Option.some.inj (htaken.symm.trans hnode)
      exact hmoved
  · have hbegun := (begun_of_mem_reconcile h.enrolled hc hheld).1
    have hsame : c.node = listed :=
      Table.eq_of_key_eq hbegun hlisted (congrArg NodeId.text hid.symm)
    constructor
    · intro hmoved
      exact absurd (congrArg Node.address hsame) hmoved
    · rintro ⟨hwatch, -⟩
      -- Whatever was under watch before is still there, so that nothing has begun.
      obtain ⟨b, hb, hkey⟩ := Table.contains_iff.1 ((h.mirrored listed.id).1 hwatch)
      have hkept : b ∈ (s.detector.reconcile snapshot).monitored.entries :=
        mem_reconcile_of_mem hb (Table.contains_iff.2 ⟨listed, hlisted, hkey.symm⟩)
      have hsame : b = c := Table.eq_of_key_eq hkept hc (hkey.trans (congrArg NodeId.text hid))
      exact absurd (hsame ▸ hb) hheld

/-- Nodes are pinged at the addresses by which they were put under watch, also after they have
been listed under others. -/
theorem Reachable.pings_as_taken_on {s : Station} (h : s.Reachable) : s.PingsAsTakenOn := by
  have hrecorded := h.recorded
  constructor
  case entry => exact hrecorded.entry
  case worker =>
    intro w hw c hc hg
    exact (h.enrolled.entry_node hw hc hg.symm).symm
  case pinged =>
    intro node g request earlier hsuffix
    exact hrecorded.pinged _ _ hsuffix node g request rfl
  case reconciled =>
    intro snapshot c hc
    obtain ⟨listed, hlisted, hkey⟩ := Table.contains_iff.1 (listed_of_mem_reconcile hc)
    have hid : listed.id = c.node.id := congrArg NodeId.mk hkey
    exact ⟨listed, hlisted, hid, h.address_of_mem_reconcile hc hlisted hid⟩
  case unmoved =>
    intro id address huntold hlists
    constructor
    · rintro c hc rfl
      have hlisted := hrecorded.listed huntold _ (h.enrolled.entry c hc) c.node rfl
      exact hlisted.address_eq hlists
    · rintro node g request hping rfl
      obtain ⟨later, earlier, hpast⟩ := List.append_of_mem hping
      have hsuffix : .pinged node g request :: earlier <:+ s.past := ⟨later, hpast.symm⟩
      have htaken := hrecorded.pinged _ _ hsuffix node g request rfl
      obtain ⟨k, hinstalled⟩ := installed_of_takenOnAs? htaken
      have hbefore : .installed node k ∈ s.past :=
        (suffix_of_cons hsuffix).subset hinstalled
      exact (hrecorded.listed huntold _ hbefore node rfl).address_eq hlists

/-- The peer has another address from now on. -/
def movedPeer : Node := { Trial.peer with address := .v4 default 7002 }

/-- The peer has answered a ping; then it has moved, and is pinged where it was. -/
def pingedWhereItWas : Station :=
  Trial.after .standard .silent [
    .reconcile Trial.together, .run true (.worker ⟨1⟩), .run true (.worker ⟨1⟩),
    .answer ⟨1⟩ .done, .run true (.worker ⟨1⟩), .reconcile (Trial.alone.withNode movedPeer),
    .elapse 1000, .run true (.worker ⟨1⟩), .run true (.worker ⟨1⟩), .run true (.worker ⟨1⟩)]
    (by decide)

theorem pings_as_taken_on_where_it_was :
    (∃ request earlier, pingedWhereItWas.past = .pinged Trial.peer ⟨1⟩ request :: earlier ∧
      .reconciled (Trial.alone.withNode movedPeer).nodes ∈ earlier) ∧
        pingedWhereItWas.PingsAsTakenOn :=
  ⟨⟨_, pingedWhereItWas.past.tail, rfl, by decide⟩,
    Reachable.pings_as_taken_on (Trial.reachable (by decide))⟩

/-- The peer has been listed, and that is all. -/
def peerListed : Station :=
  Trial.after .standard .silent [.reconcile Trial.together] (by decide)

/-- A node may be watched, and so be pinged, at another address than the one it is listed under,
although nobody was told of a disconnect. -/
theorem watches_at_old_address :
    ¬ ∀ actions t, (∀ node, .disconnect node ∉ actions ∧ .disconnectEvent node ∉ actions) →
      (Trial.station .standard .silent).acts actions = some t →
      ∀ snapshot, ∀ c ∈ (t.detector.reconcile snapshot).monitored.entries,
        ∀ listed ∈ snapshot.nodes.entries, listed.id = c.node.id →
          c.node.address = listed.address := by
  intro h
  have hacts : (Trial.station .standard .silent).acts [.reconcile Trial.together] =
      some peerListed := Trial.acts_after (by decide)
  have hsame := h _ _ (by simp) hacts (Trial.alone.withNode movedPeer)
    (Cycle.begin Trial.peer ⟨1⟩) (by decide) movedPeer (by decide) rfl
  exact absurd hsame (by decide)

end Station

end ClusterWatch
