import ClusterWatch.Proofs.Detector.Attendance

/-!
What a reconcile does and what it leaves alone. Entries that are not listed go, and their workers
are told to stop; listed nodes without an entry get one, each under a generation of its own. Neither
pass touches the entry of a listed node, so to be brought in line twice is to be brought in line.
-/
namespace ClusterWatch

open Detector Past

namespace Detector

variable {d e : Detector} {snapshot : Snapshot} {nodes : List Node} {c : Cycle} {w : Worker}
  {node : Node}

/-- How a detector differs after some of these nodes have been put under watch. -/
structure Enlarged (d : Detector) (nodes : List Node) (e : Detector) : Prop where
  issued : d.issued ≤ e.issued
  kept : ∀ c ∈ d.monitored.entries, c ∈ e.monitored.entries
  begun : ∀ c ∈ e.monitored.entries, c ∉ d.monitored.entries →
    c.node ∈ nodes ∧ c = Cycle.begin c.node c.generation ∧ d.issued < c.generation.number
  workers : ∃ new, e.workers = d.workers ++ new ∧ ∀ w ∈ new, d.issued < w.generation.number
  bulletin : e.bulletin = d.bulletin

theorem Enlarged.refl (d : Detector) (nodes : List Node) : d.Enlarged nodes d :=
  ⟨Nat.le_refl _, fun _ hc => hc, fun _ hc hnew => absurd hc hnew, ⟨[], by simp⟩, rfl⟩

theorem Enlarged.install (h : d.Enlarged nodes e) (hnode : node ∈ nodes) :
    d.Enlarged nodes (e.install node) := by
  have hissued := h.issued
  rcases e.install_eq node with ⟨-, heq⟩ | ⟨hnew, heq⟩
  · rw [heq]
    exact h
  · rw [heq]
    constructor
    case issued => exact Nat.le_succ_of_le hissued
    case kept =>
      intro c hc
      have hbefore := h.kept c hc
      exact Table.mem_insert.2 (Or.inr ⟨hbefore, Table.key_ne_of_contains_eq_false hnew hbefore⟩)
    case begun =>
      intro c hc habsent
      rcases Table.mem_insert.1 hc with rfl | ⟨hbefore, -⟩
      · exact ⟨hnode, rfl, Nat.lt_succ_of_le hissued⟩
      · exact h.begun c hbefore habsent
    case workers =>
      obtain ⟨new, hworkers, hgenerations⟩ := h.workers
      refine ⟨new ++ [⟨node, ⟨e.issued + 1⟩, false, .ready⟩], ?_, fun w hw => ?_⟩
      · rw [← List.append_assoc, ← hworkers]
        rfl
      · rcases List.mem_append.1 hw with hw | hw
        · exact hgenerations w hw
        · rw [List.mem_singleton.1 hw]
          exact Nat.lt_succ_of_le hissued
    case bulletin => exact h.bulletin

theorem enlarged_foldl_install (nodes : List Node) (d : Detector) :
    d.Enlarged nodes (nodes.foldl install d) :=
  List.foldlRecOn nodes _ (Enlarged.refl d nodes) fun _ h _ hnode => h.install hnode

theorem foldl_install_eq_self (h : ∀ node ∈ nodes, d.monitored.contains node.key = true) :
    nodes.foldl install d = d := by
  refine List.foldlRecOn (motive := fun e => e = d) nodes _ rfl fun e he node hnode => ?_
  rw [he, install, if_pos (h node hnode)]

/-- The workers of the entries that are taken away are told, and nobody else is. -/
theorem foldl_removeCycle_workers (cause : Removal) (cycles : List Cycle) (d : Detector) :
    (cycles.foldl (removeCycle · cause) d).workers = d.workers.map fun w =>
      if ∃ c ∈ cycles, w.generation = c.generation then { w with retired := true } else w := by
  induction cycles generalizing d with
  | nil => simp
  | cons c rest ih =>
    have hstep : (d.removeCycle cause c).workers = d.workers.map fun w =>
        if w.generation = c.generation then { w with retired := true } else w := rfl
    rw [List.foldl_cons, ih, hstep, List.map_map]
    refine List.map_congr_left fun w _ => ?_
    by_cases hfirst : w.generation = c.generation <;> simp [hfirst]

/-- The entries that a reconcile takes away. -/
def departed (d : Detector) (snapshot : Snapshot) : List Cycle :=
  d.monitored.entries.filter fun c => !snapshot.hasNode c.node.id

/-- The detector between the two passes of a reconcile. -/
def pruned (d : Detector) (snapshot : Snapshot) : Detector :=
  (d.departed snapshot).foldl (removeCycle · .left) (d.record (.reconciled snapshot.nodes))

theorem pruned_frame (d : Detector) (snapshot : Snapshot) :
    (d.pruned snapshot).issued = d.issued ∧ (d.pruned snapshot).bulletin = d.bulletin :=
  List.foldlRecOn (motive := fun e : Detector => e.issued = d.issued ∧ e.bulletin = d.bulletin)
    (d.departed snapshot) _ ⟨rfl, rfl⟩ fun _ he _ _ => he

theorem mem_departed :
    c ∈ d.departed snapshot ↔ c ∈ d.monitored.entries ∧ snapshot.hasNode c.node.id = false := by
  simp [departed]

theorem mem_pruned : c ∈ (d.pruned snapshot).monitored.entries ↔
    c ∈ d.monitored.entries ∧ snapshot.hasNode c.node.id = true := by
  refine mem_foldl_removeCycle.trans (and_congr_right fun hc => ⟨fun hstays => ?_, ?_⟩)
  · cases hlisted : snapshot.hasNode c.node.id with
    | true => rfl
    | false => exact absurd rfl (hstays c (mem_departed.2 ⟨hc, hlisted⟩))
  · intro hlisted b hb hkey
    have hunlisted : snapshot.nodes.contains b.key = false := (mem_departed.1 hb).2
    rw [hkey] at hunlisted
    exact Bool.noConfusion (hlisted.symm.trans hunlisted)

theorem pruned_eq_record (h : ∀ c ∈ d.monitored.entries, snapshot.hasNode c.node.id = true) :
    d.pruned snapshot = d.record (.reconciled snapshot.nodes) := by
  have hnone : d.departed snapshot = [] := List.eq_nil_iff_forall_not_mem.2 fun c hc =>
    Bool.noConfusion ((h c (mem_departed.1 hc).1).symm.trans (mem_departed.1 hc).2)
  rw [pruned, hnone]
  rfl

theorem enlarged_reconcile (d : Detector) (snapshot : Snapshot) :
    (d.pruned snapshot).Enlarged (snapshot.nodes.entries.filter fun n => n.id ≠ d.self.id)
      (d.reconcile snapshot) :=
  enlarged_foldl_install _ _

/-- What a reconcile adds to the past: no reports. -/
theorem reconcile_past (d : Detector) (snapshot : Snapshot) :
    ∃ new, (d.reconcile snapshot).past = new ++ d.past ∧
      (∀ node g reason taken, .reported node g reason taken ∉ new) ∧
      ∀ c ∈ d.departed snapshot, .removed c.node c.generation .left ∈ new := by
  obtain ⟨installs, hinstalls, hpast⟩ := foldl_install_past
    (snapshot.nodes.entries.filter fun n => n.id ≠ d.self.id) (d.pruned snapshot)
  have hpruned : (d.pruned snapshot).past =
      ((d.departed snapshot).map fun c => .removed c.node c.generation .left).reverse ++
        .reconciled snapshot.nodes :: d.past := foldl_removeCycle_past ..
  rw [hpruned, List.append_cons, ← List.append_assoc, ← List.append_assoc] at hpast
  refine ⟨_, hpast, fun node g reason taken hreported => ?_, fun c hc => ?_⟩
  · simp only [List.mem_append, List.mem_reverse, List.mem_map, List.mem_singleton, reduceCtorEq,
      and_false, exists_false, or_false] at hreported
    obtain ⟨_, _, heq⟩ := hinstalls _ hreported
    cases heq
  · have hmem : .removed c.node c.generation .left ∈
        (d.departed snapshot).map fun c => Event.removed c.node c.generation .left :=
      List.mem_map_of_mem hc
    simp [hmem]

theorem cycle?_eq_some_iff {id : NodeId} :
    d.cycle? id = some c ↔ c ∈ d.monitored.entries ∧ c.node.id = id :=
  ⟨cycle?_eq_some, fun ⟨hc, hid⟩ => hid ▸ Table.mem_iff_find?.1 hc⟩

theorem mem_reconcile_of_mem (hc : c ∈ d.monitored.entries)
    (hlisted : snapshot.hasNode c.node.id = true) :
    c ∈ (d.reconcile snapshot).monitored.entries :=
  (d.enlarged_reconcile snapshot).kept c (mem_pruned.2 ⟨hc, hlisted⟩)

/-- Every listed node but the detector's own has an entry afterwards. -/
theorem contains_reconcile {node : Node} (hnode : node ∈ snapshot.nodes.entries)
    (hother : node.id ≠ d.self.id) :
    (d.reconcile snapshot).monitored.contains node.key = true :=
  contains_foldl_install
    (Or.inl ⟨node, List.mem_filter.2 ⟨hnode, decide_eq_true hother⟩, rfl⟩)

/-- The entries of a detector that is in line stay, and it has all that it needs. -/
theorem reconcile_reconcile (hself : (d.reconcile snapshot).self = d.self) :
    (d.reconcile snapshot).reconcile snapshot =
      (d.reconcile snapshot).record (.reconciled snapshot.nodes) := by
  have hpruned : (d.reconcile snapshot).pruned snapshot =
      (d.reconcile snapshot).record (.reconciled snapshot.nodes) :=
    pruned_eq_record fun c hc => listed_of_mem_reconcile hc
  have hagain : (d.reconcile snapshot).reconcile snapshot =
      (snapshot.nodes.entries.filter fun n => n.id ≠ (d.reconcile snapshot).self.id).foldl install
        ((d.reconcile snapshot).pruned snapshot) := rfl
  rw [hagain, hpruned]
  refine foldl_install_eq_self fun node hnode => ?_
  obtain ⟨hmem, hother⟩ := List.mem_filter.1 hnode
  exact contains_reconcile hmem (hself ▸ of_decide_eq_true hother)

/-- Workers other than those of departed entries go on, and those of departed entries are told. -/
theorem workers_reconcile (d : Detector) (snapshot : Snapshot) :
    ∃ new, (d.reconcile snapshot).workers =
        (d.workers.map fun w => if ∃ c ∈ d.departed snapshot, w.generation = c.generation
          then { w with retired := true } else w) ++ new ∧
      ∀ w ∈ new, d.issued < w.generation.number := by
  obtain ⟨new, hworkers, hgenerations⟩ := (d.enlarged_reconcile snapshot).workers
  have hpruned : (d.pruned snapshot).workers = _ := foldl_removeCycle_workers ..
  exact ⟨new, hpruned ▸ hworkers, (d.pruned_frame snapshot).1 ▸ hgenerations⟩

/-- Nobody who drives a departed entry goes on without being told. -/
theorem retired_of_departed (hd : d.Enrolled) (hc : c ∈ d.departed snapshot)
    (hw : w ∈ (d.reconcile snapshot).workers) (hg : w.generation = c.generation) :
    w.retired = true := by
  obtain ⟨hired, hworkers, hhired⟩ := d.workers_reconcile snapshot
  rw [hworkers] at hw
  rcases List.mem_append.1 hw with hbefore | hnew
  · obtain ⟨v, -, rfl⟩ := List.mem_map.1 hbefore
    split
    next => rfl
    next hnone =>
      rw [if_neg hnone] at hg
      exact absurd ⟨c, hc, hg⟩ hnone
  · have hlater := hhired w hnew
    have hearlier := hd.begun (hd.entry c (mem_departed.1 hc).1)
    rw [hg] at hlater
    omega

/-- The worker of a departed entry is still there to be told. -/
theorem mem_reconcile_of_departed (hc : c ∈ d.departed snapshot) (hw : w ∈ d.workers)
    (hg : w.generation = c.generation) :
    { w with retired := true } ∈ (d.reconcile snapshot).workers := by
  obtain ⟨hired, hworkers, -⟩ := d.workers_reconcile snapshot
  rw [hworkers]
  exact List.mem_append_left _ (List.mem_map.2 ⟨w, hw, if_pos ⟨c, hc, hg⟩⟩)

theorem mem_reconcile_of_others (hw : w ∈ d.workers)
    (hothers : ∀ c ∈ d.departed snapshot, w.generation ≠ c.generation) :
    w ∈ (d.reconcile snapshot).workers := by
  obtain ⟨hired, hworkers, -⟩ := d.workers_reconcile snapshot
  rw [hworkers]
  refine List.mem_append_left _ (List.mem_map.2 ⟨w, hw, if_neg ?_⟩)
  rintro ⟨c, hc, hg⟩
  exact hothers c hc hg

/-- An entry that a reconcile makes is a fresh one, of a generation not given out before. -/
theorem begun_of_mem_reconcile (hd : d.Enrolled) (hc : c ∈ (d.reconcile snapshot).monitored.entries)
    (hnew : c ∉ d.monitored.entries) :
    c.node ∈ snapshot.nodes.entries ∧ c.failures = 0 ∧ c.phase = .idle ∧
      ∀ node g, .installed node g ∈ d.past → c.generation.newerThan g = true := by
  have habsent : c ∉ (d.pruned snapshot).monitored.entries :=
    fun hpruned => hnew (mem_pruned.1 hpruned).1
  obtain ⟨hnode, hbegun, hissued⟩ := (d.enlarged_reconcile snapshot).begun c hc habsent
  rw [(d.pruned_frame snapshot).1] at hissued
  refine ⟨(List.mem_filter.1 hnode).1, congrArg Cycle.failures hbegun,
    congrArg Cycle.phase hbegun, fun node g hinstalled => ?_⟩
  exact decide_eq_true (Nat.lt_of_le_of_lt (hd.begun hinstalled) hissued)

end Detector

namespace Station

variable {s : Station}

/-- How a detector stands once it has been brought in line with a snapshot. -/
structure InLine (s : Station) (snapshot : Snapshot) (e : Detector) : Prop where
  watched : ∀ id, (e.cycle? id).isSome = true ↔
    snapshot.hasNode id = true ∧ id ≠ s.detector.self.id
  /-- The entry of a node that stays is as it was. -/
  kept : ∀ {id c}, s.detector.cycle? id = some c → snapshot.hasNode id = true →
    e.cycle? id = some c
  begun : ∀ {id c}, s.detector.cycle? id = none → e.cycle? id = some c →
    c.node ∈ snapshot.nodes.entries ∧ c.failures = 0 ∧ c.phase = .idle ∧
      ∀ node g, .installed node g ∈ s.past → c.generation.newerThan g = true
  apart : ∀ {id id' b c}, e.cycle? id = some b → e.cycle? id' = some c →
    b.generation = c.generation → id = id'
  unreported : ∃ new, e.past = new ++ s.past ∧
    ∀ node g reason taken, .reported node g reason taken ∉ new
  unheard : e.bulletin = s.detector.bulletin
  /-- A cycle whose node has left is over, and its worker is told so. -/
  retired : ∀ {id c}, s.detector.cycle? id = some c → snapshot.hasNode id = false →
    e.cycle? id = none ∧ .removed c.node c.generation .left ∈ e.past ∧
      (∀ w ∈ e.workers, w.generation = c.generation → w.retired = true) ∧
      (s.alive = true → ∃ w ∈ e.workers, w.generation = c.generation)
  spared : ∀ w ∈ s.detector.workers,
    (∀ id c, s.detector.cycle? id = some c → snapshot.hasNode id = false →
      w.generation ≠ c.generation) → w ∈ e.workers
  /-- A second time changes nothing; that it was asked for is noted. -/
  again : e.reconcile snapshot = e.record (.reconciled snapshot.nodes)

/-- The nodes under watch are those listed, without the detector's own. -/
theorem Reachable.watched_reconcile (h : s.Reachable) (snapshot : Snapshot) (id : NodeId) :
    ((s.detector.reconcile snapshot).cycle? id).isSome = true ↔
      snapshot.hasNode id = true ∧ id ≠ s.detector.self.id := by
  have hd := h.enrolled
  have turn : Turn true s.detector .nothing (s.detector.reconcile snapshot) := .reconcile snapshot
  have hself : (s.detector.reconcile snapshot).self = s.detector.self := turn.continues.self
  constructor
  · intro hsome
    obtain ⟨c, hfound⟩ := Option.isSome_iff_exists.1 hsome
    obtain ⟨hc, rfl⟩ := cycle?_eq_some hfound
    have hother := (turn.followed hd h.followed).not_self (turn.enrolled hd) hc
    exact ⟨listed_of_mem_reconcile hc, hself ▸ hother⟩
  · rintro ⟨hlisted, hother⟩
    obtain ⟨node, hnode, hkey⟩ := Table.contains_iff.1 hlisted
    obtain rfl : node.id = id := congrArg NodeId.mk hkey
    exact contains_reconcile hnode hother

/-- A reconcile watches exactly the listed nodes, leaves alone what stays and reports nothing. -/
theorem Reachable.reconcile_in_line (h : s.Reachable) (snapshot : Snapshot) :
    s.InLine snapshot (s.detector.reconcile snapshot) := by
  have hd := h.enrolled
  have turn : Turn true s.detector .nothing (s.detector.reconcile snapshot) := .reconcile snapshot
  obtain ⟨new, hpast, hreports, hremovals⟩ := s.detector.reconcile_past snapshot
  have departed {id : NodeId} {c : Cycle} (hfound : s.detector.cycle? id = some c)
      (hunlisted : snapshot.hasNode id = false) : c ∈ s.detector.departed snapshot := by
    obtain ⟨hc, rfl⟩ := cycle?_eq_some hfound
    exact mem_departed.2 ⟨hc, hunlisted⟩
  constructor
  case watched => exact h.watched_reconcile snapshot
  case kept =>
    intro id c hfound hlisted
    obtain ⟨hc, rfl⟩ := cycle?_eq_some hfound
    exact cycle?_eq_some_iff.2 ⟨mem_reconcile_of_mem hc hlisted, rfl⟩
  case begun =>
    intro id c hbefore hfound
    obtain ⟨hc, rfl⟩ := cycle?_eq_some hfound
    refine begun_of_mem_reconcile hd hc fun hheld => ?_
    cases hbefore.symm.trans (cycle?_eq_some_iff.2 ⟨hheld, rfl⟩)
  case apart =>
    intro id id' b c hfound hfound' hg
    obtain ⟨hb, rfl⟩ := cycle?_eq_some hfound
    obtain ⟨hc, rfl⟩ := cycle?_eq_some hfound'
    rw [(turn.enrolled hd).entry_unique hb hc hg]
  case unreported => exact ⟨new, hpast, hreports⟩
  case unheard =>
    exact (s.detector.enlarged_reconcile snapshot).bulletin.trans
      (s.detector.pruned_frame snapshot).2
  case retired =>
    intro id c hfound hunlisted
    have hdeparted := departed hfound hunlisted
    refine ⟨?_, ?_, fun w hw hg => retired_of_departed hd hdeparted hw hg, fun alive => ?_⟩
    · refine Option.not_isSome_iff_eq_none.1 fun hsome => ?_
      have hlisted := ((h.watched_reconcile snapshot id).1 hsome).1
      exact Bool.noConfusion (hunlisted.symm.trans hlisted)
    · rw [hpast]
      exact List.mem_append_left _ (hremovals c hdeparted)
    · obtain ⟨v, hv, hg⟩ := (h.attended alive).attendance.driven c (mem_departed.1 hdeparted).1
      exact ⟨_, mem_reconcile_of_departed hdeparted hv hg, hg⟩
  case spared =>
    intro w hw hothers
    refine mem_reconcile_of_others hw fun c hc hg => ?_
    obtain ⟨hheld, hunlisted⟩ := mem_departed.1 hc
    exact hothers c.node.id c (cycle?_eq_some_iff.2 ⟨hheld, rfl⟩) hunlisted hg
  case again => exact reconcile_reconcile turn.continues.self

/-- The peer has answered once and is resting; then it has left, and the other member has come. -/
def peerLeaves : Station :=
  Trial.after .standard .ideal [
    .reconcile Trial.together, .run true (.worker ⟨1⟩), .run true (.worker ⟨1⟩),
    .run true (.worker ⟨1⟩)] (by decide)

theorem reconcile_in_line_peer_leaves :
    peerLeaves.InLine (Trial.alone.withNode Trial.other)
        (peerLeaves.detector.reconcile (Trial.alone.withNode Trial.other)) ∧
      (peerLeaves.detector.reconcile
        (Trial.alone.withNode Trial.other)).monitored.entries =
          [Cycle.begin Trial.other ⟨2⟩] :=
  ⟨Reachable.reconcile_in_line (Trial.reachable (by decide)) _, by decide⟩

end Station
end ClusterWatch
