import ClusterWatch.Proofs.Detector.Attempts

/-!
What one turn adds to the past. The events of a turn stand side by side, so that what an
event calls for, a removal for its report or for an attempt to connect, can be found right
beside it, and with them goes what the turn is to those who await attempts. Properties of the
past and of the attempts under way are proved from bursts and not from turns.
-/
namespace ClusterWatch

open Past

/-- The event may be part of a reconcile or of a stop. -/
def Event.settles : Event → Bool
  | .reconciled _ => true
  | .stopped => true
  | .installed .. => true
  | .removed _ _ .left => true
  | .removed _ _ .stopped => true
  | _ => false

theorem Table.nodup_entries {α : Type} {key : α → String} (table : Table α key) :
    table.entries.Nodup :=
  table.increasing.imp (S := fun x y => x ≠ y) fun {x y} hlt heq => by
    subst heq
    exact String.lt_irrefl _ hlt

namespace Detector

theorem report_past (d : Detector) (node : Node) (g : Generation) (reason : FailureReason) :
    ∃ taken, (d.report node g reason).past = .reported node g reason taken :: d.past := by
  rw [report_eq]
  exact ⟨_, rfl⟩

theorem leave_past (d : Detector) (alive : Bool) (w : Worker) :
    (d.leave alive w).past = d.past := by
  obtain ⟨gates, heq⟩ := d.leave_eq alive w
  rw [heq]
  rfl

theorem leave_monitored (d : Detector) (alive : Bool) (w : Worker) :
    (d.leave alive w).monitored = d.monitored := by
  obtain ⟨gates, heq⟩ := d.leave_eq alive w
  rw [heq]
  rfl

theorem foldl_removeCycle_past (cause : Removal) (cycles : List Cycle) (d : Detector) :
    (cycles.foldl (removeCycle · cause) d).past =
      (cycles.map fun c => .removed c.node c.generation cause).reverse ++ d.past := by
  induction cycles generalizing d with
  | nil => rfl
  | cons c rest ih =>
    have hstep : (d.removeCycle cause c).past = .removed c.node c.generation cause :: d.past := rfl
    rw [List.foldl_cons, ih, hstep, List.map_cons, List.reverse_cons, List.append_assoc]
    rfl

theorem install_past (d : Detector) (node : Node) :
    (d.install node).past = d.past ∨ ∃ g, (d.install node).past = .installed node g :: d.past := by
  rcases d.install_eq node with ⟨-, heq⟩ | ⟨-, heq⟩
  · rw [heq]
    exact Or.inl rfl
  · rw [heq]
    exact Or.inr ⟨_, rfl⟩

theorem foldl_install_past (nodes : List Node) (d : Detector) :
    ∃ installs, (∀ e ∈ installs, ∃ node g, e = .installed node g) ∧
      (nodes.foldl install d).past = installs ++ d.past := by
  induction nodes generalizing d with
  | nil => exact ⟨[], by simp, rfl⟩
  | cons node rest ih =>
    obtain ⟨installs, hinstalls, hpast⟩ := ih (d.install node)
    rcases d.install_past node with hsame | ⟨g, hinstalled⟩
    · exact ⟨installs, hinstalls, hpast.trans (by rw [hsame])⟩
    · refine ⟨installs ++ [.installed node g], fun e he => ?_, ?_⟩
      · rcases List.mem_append.1 he with he | he
        · exact hinstalls e he
        · exact ⟨node, g, List.mem_singleton.1 he⟩
      · rw [List.foldl_cons, hpast, hinstalled, List.append_assoc]
        rfl

theorem contains_install {d : Detector} {node : Node} {k : String}
    (h : node.key = k ∨ d.monitored.contains k = true) :
    (d.install node).monitored.contains k = true := by
  rcases d.install_eq node with ⟨hin, heq⟩ | ⟨-, heq⟩
  · rw [heq]
    rcases h with rfl | h
    · exact hin
    · exact h
  · rw [heq]
    show (d.monitored.insert (Cycle.begin node ⟨d.issued + 1⟩)).contains k = true
    unfold Table.contains
    rw [Table.find?_insert]
    rcases h with rfl | h
    · rw [if_pos (show (Cycle.begin node _).key = node.key from rfl)]
      rfl
    · split
      · rfl
      · exact h

theorem contains_foldl_install {nodes : List Node} {d : Detector} {k : String}
    (h : (∃ node ∈ nodes, node.key = k) ∨ d.monitored.contains k = true) :
    (nodes.foldl install d).monitored.contains k = true := by
  induction nodes generalizing d with
  | nil => simpa using h
  | cons first rest ih =>
    apply ih
    rcases h with ⟨node, hnode, hk⟩ | h
    · rcases List.mem_cons.1 hnode with rfl | hnode
      · exact Or.inr (contains_install (Or.inl hk))
      · exact Or.inl ⟨node, hnode, hk⟩
    · exact Or.inr (contains_install (Or.inr h))

/-- What a lost connection leads to: an attempt to connect, or a report at once. -/
inductive LossSequel (node : Node) (lost : Generation) (reconnect : Bool) : Aside → Event → Prop
  | attempt (asked : reconnect = true) :
      LossSequel node lost reconnect (.setsOut ⟨node, lost⟩) (.connecting node lost)
  | report (taken : Bool) (refused : reconnect = false) :
      LossSequel node lost reconnect .nothing (.reported node lost .disconnected taken)

theorem lose_past (d : Detector) (cause : Removal) (c : Cycle) (node : Node)
    (lost : Generation) :
    ∃ event, LossSequel node lost d.settings.reconnect
        (if d.settings.reconnect then .setsOut ⟨node, lost⟩ else .nothing) event ∧
      (d.lose cause c node lost).past = event :: .removed c.node c.generation cause :: d.past := by
  unfold lose
  cases d.settings.reconnect with
  | true => exact ⟨_, .attempt rfl, rfl⟩
  | false =>
    obtain ⟨taken, hpast⟩ := (d.removeCycle cause c).report_past node lost .disconnected
    exact ⟨_, .report taken rfl, hpast⟩

/-- The events that one turn of a detector adds to its past, latest first, and what the turn
is to those who await attempts to connect. -/
inductive Burst (d e : Detector) : Aside → List Event → Prop
  | silent : Burst d e .nothing []
  | tell (listener : Listener) (notice : Notice) : Burst d e .nothing [.told listener notice]
  | hand (notice : Notice) : Burst d e .nothing [.handed notice]
  | hear (node : Node) : Burst d e .nothing [.disconnected node]
  | reconcile (nodes : Membership) {installs : List Event} (left : List Cycle)
      (installed : ∀ event ∈ installs, ∃ node g, event = .installed node g)
      (members : ∀ c ∈ left, c ∈ d.monitored.entries) (once : left.Nodup)
      (unlisted : ∀ c ∈ left, nodes.contains c.node.id.text = false)
      (complete : ∀ node ∈ nodes.entries, node.id ≠ d.self.id →
        e.monitored.contains node.key = true) :
      Burst d e .nothing (installs ++
        ((left.map fun c => .removed c.node c.generation .left).reverse ++ [.reconciled nodes]))
  | stop (dropped : List Cycle) (members : ∀ c ∈ dropped, c ∈ d.monitored.entries)
      (once : dropped.Nodup) :
      Burst d e .nothing
        ((dropped.map fun c => .removed c.node c.generation .stopped).reverse ++ [.stopped])
  | send {w : Worker} {c : Cycle} (version : Int) (member : w ∈ d.workers)
      (idle : w.held? = none) (current : d.currentCycle? w = some c) :
      Burst d e .nothing [.pinged w.node w.generation (d.pingRequest w.node version)]
  | abandon {w : Worker} (member : w ∈ d.workers) (retired : w.retired = true) :
      Burst d e .nothing [.abandoned w.node.id w.generation]
  | outlive {w : Worker} (outcome : Outcome) (member : w ∈ d.workers)
      (superseded : d.currentCycle? w = none) :
      Burst d e .nothing [.answered w.node.id w.generation outcome]
  | acknowledge {w : Worker} {c : Cycle} (member : w ∈ d.workers)
      (current : d.currentCycle? w = some c) :
      Burst d e .nothing [.answered w.node.id w.generation .done]
  | retry {w : Worker} {c : Cycle} {error : TransportError} (member : w ∈ d.workers)
      (current : d.currentCycle? w = some c) (counted : error.isDisconnect = false)
      (left : c.failures + 1 < d.settings.retries) :
      Burst d e .nothing [.answered w.node.id w.generation (.failed error)]
  | exhaust {w : Worker} {c : Cycle} {error : TransportError} (taken : Bool)
      (member : w ∈ d.workers) (current : d.currentCycle? w = some c)
      (counted : error.isDisconnect = false) (spent : d.settings.retries ≤ c.failures + 1) :
      Burst d e .nothing [
        .reported w.node w.generation
          (.unresponsive d.settings.retries d.settings.timeoutDuration) taken,
        .removed w.node w.generation .unresponsive,
        .answered w.node.id w.generation (.failed error)]
  | breakOff {w : Worker} {c : Cycle} {error : TransportError} {label : Aside} {event : Event}
      (member : w ∈ d.workers) (current : d.currentCycle? w = some c)
      (lost : error.isDisconnect = true)
      (sequel : LossSequel w.node w.generation d.settings.reconnect label event) :
      Burst d e label [event, .removed w.node w.generation .lostByPing,
        .answered w.node.id w.generation (.failed error)]
  | disconnect {c : Cycle} {node : Node} {label : Aside} {event : Event}
      (member : c ∈ d.monitored.entries) (named : c.node.id = node.id)
      (sequel : LossSequel node c.generation d.settings.reconnect label event) :
      Burst d e label [event, .removed c.node c.generation .lostByEvent]
  | regain (node : Node) (lost : Generation) (asked : d.settings.reconnect = true)
      (present : d.monitored.contains node.key = true)
      (watched : e.monitored.contains node.key = true) :
      Burst d e (.returns ⟨node, lost⟩) [.connected node lost .done]
  | takeOn (node : Node) (lost g : Generation) (asked : d.settings.reconnect = true)
      (absent : d.monitored.contains node.key = false)
      (watched : e.monitored.contains node.key = true) :
      Burst d e (.returns ⟨node, lost⟩) [.installed node g, .connected node lost .done]
  | fail (node : Node) (lost : Generation) (error : TransportError) (taken : Bool)
      (asked : d.settings.reconnect = true) :
      Burst d e (.returns ⟨node, lost⟩)
        [.reported node lost .unreachable taken, .connected node lost (.failed error)]

theorem settles_of_mem_reconcile {nodes : Membership} {installs : List Event} {left : List Cycle}
    (hinstalls : ∀ e ∈ installs, ∃ node g, e = .installed node g) {e : Event}
    (he : e ∈ installs ++ ((left.map fun c => .removed c.node c.generation .left).reverse ++
      [.reconciled nodes])) : e.settles = true := by
  rcases List.mem_append.1 he with he | he
  · obtain ⟨node, g, rfl⟩ := hinstalls e he
    rfl
  · rcases List.mem_append.1 he with he | he
    · obtain ⟨c, -, rfl⟩ := List.mem_map.1 (List.mem_reverse.1 he)
      rfl
    · obtain rfl := List.mem_singleton.1 he
      rfl

theorem settles_of_mem_stop {dropped : List Cycle} {e : Event}
    (he : e ∈ (dropped.map fun c => .removed c.node c.generation .stopped).reverse ++ [.stopped]) :
    e.settles = true := by
  rcases List.mem_append.1 he with he | he
  · obtain ⟨c, -, rfl⟩ := List.mem_map.1 (List.mem_reverse.1 he)
    rfl
  · obtain rfl := List.mem_singleton.1 he
    rfl

private theorem pingSentTo?_of_settles {event : Event} (h : event.settles = true) :
    event.pingSentTo? = none := by
  cases event <;> first | rfl | simp [Event.settles] at h

/-- A turn sends no ping, or it sends one on account of an entry and does nothing else. -/
theorem Burst.pings {d e : Detector} {label : Aside} {new : List Event}
    (burst : d.Burst e label new) :
    (∀ event ∈ new, event.pingSentTo? = none) ∨
      ∃ (w : Worker) (c : Cycle) (version : Int), w ∈ d.workers ∧ w.held? = none ∧
        d.currentCycle? w = some c ∧
        new = [.pinged w.node w.generation (d.pingRequest w.node version)] := by
  cases burst with
  | send version member idle current => exact Or.inr ⟨_, _, version, member, idle, current, rfl⟩
  | reconcile nodes left installed =>
    exact Or.inl fun _ he => pingSentTo?_of_settles (settles_of_mem_reconcile installed he)
  | stop => exact Or.inl fun _ he => pingSentTo?_of_settles (settles_of_mem_stop he)
  | breakOff member current lost sequel | disconnect member named sequel =>
    cases sequel <;> exact Or.inl (by simp [Event.pingSentTo?])
  | _ => exact Or.inl (by simp [Event.pingSentTo?])

theorem endReconnect_burst {d e : Detector} (node : Node) (lost : Generation) (outcome : Outcome)
    (asked : d.settings.reconnect = true)
    (hmonitored : e.monitored = (d.endReconnect node lost outcome).monitored) :
    ∃ new, (d.endReconnect node lost outcome).past = new ++ d.past ∧
      d.Burst e (.returns ⟨node, lost⟩) new := by
  cases outcome with
  | failed error =>
    obtain ⟨taken, hpast⟩ := (d.record (.connected node lost (.failed error))).report_past node lost
      .unreachable
    exact ⟨[_, _], hpast, .fail node lost error taken asked⟩
  | done =>
    let connected := d.record (.connected node lost .done)
    have hsame : d.endReconnect node lost .done = connected.install node := rfl
    rw [hsame] at hmonitored ⊢
    have watched : e.monitored.contains node.key = true :=
      hmonitored ▸ contains_install (Or.inl rfl)
    rcases connected.install_eq node with ⟨present, heq⟩ | ⟨absent, heq⟩
    · rw [heq]
      exact ⟨_, rfl, .regain node lost asked present watched⟩
    · rw [heq]
      exact ⟨_, rfl, .takeOn node lost ⟨d.issued + 1⟩ asked absent watched⟩

theorem reconcile_burst (d : Detector) (s : Snapshot) :
    ∃ new, (d.reconcile s).past = new ++ d.past ∧ d.Burst (d.reconcile s) .nothing new := by
  let left := d.monitored.entries.filter fun c => !s.hasNode c.node.id
  let others := s.nodes.entries.filter fun n => n.id ≠ d.self.id
  obtain ⟨installs, hinstalls, hpast⟩ := foldl_install_past others
    (left.foldl (removeCycle · .left) (d.record (.reconciled s.nodes)))
  refine ⟨_, ?_, .reconcile s.nodes left hinstalls (fun c hc => (List.mem_filter.1 hc).1)
    (d.monitored.nodup_entries.filter _) (fun c hc => ?_) fun node hnode hother => ?_⟩
  · rw [foldl_removeCycle_past] at hpast
    refine hpast.trans ?_
    simp [past, Detector.record]
  · simpa [Snapshot.hasNode] using (List.mem_filter.1 hc).2
  · exact contains_foldl_install
      (Or.inl ⟨node, List.mem_filter.2 ⟨hnode, by simpa using hother⟩, rfl⟩)

theorem stop_burst (d : Detector) :
    ∃ new, d.stop.past = new ++ d.past ∧ d.Burst d.stop .nothing new := by
  refine ⟨_, ?_, .stop d.monitored.entries (fun _ hc => hc) d.monitored.nodup_entries⟩
  simpa [Detector.stop, past, Detector.record] using
    foldl_removeCycle_past .stopped d.monitored.entries (d.record .stopped)

/-- What the turn is to those who await attempts, the workers among them. -/
def Tells (d e : Detector) (aside label : Aside) : Prop :=
  ∀ before after, aside.Moves before after → label.Moves (d.attempts before) (e.attempts after)

section Tells

variable {d e : Detector} {aside : Aside} {w : Worker}

theorem tells_of_perm (h : e.underway.Perm d.underway) : d.Tells e aside aside :=
  fun _ _ moves => moves.beside h

theorem tells_of_eq (h : e.underway = d.underway) : d.Tells e aside aside :=
  tells_of_perm (List.Perm.of_eq h)

/-- A worker that awaited nothing goes. -/
theorem tells_leave (he : e.Enrolled) (hw : w ∈ e.workers) (idle : w.errand? = none)
    (h : e.underway.Perm d.underway) {alive : Bool} : d.Tells (e.leave alive w) aside aside :=
  tells_of_perm ((underway_depart he hw idle alive).trans h)

/-- A worker that awaited nothing turns to something that is no attempt. -/
theorem tells_setStage (he : e.Enrolled) (hw : w ∈ e.workers) (idle : w.errand? = none)
    (h : e.underway.Perm d.underway) {stage : Stage} (hstage : stage.connects = false) :
    d.Tells (e.setStage w.generation stage) aside aside :=
  tells_of_perm ((underway_rest he hw idle hstage).trans h)

/-- A worker that awaited nothing takes up an attempt. -/
theorem tells_connect (he : e.Enrolled) (hw : w ∈ e.workers) (idle : w.errand? = none)
    (h : e.underway = d.underway) {flight : Flight} :
    d.Tells (e.setStage w.generation (.connecting flight)) .nothing
      (.setsOut ⟨w.node, w.generation⟩) := by
  intro before after moves
  have hperm := underway_setStage he hw idle (.connecting flight)
  rw [h] at hperm
  exact hperm.append moves

/-- A worker goes whose attempt has come out. -/
theorem tells_return (he : e.Enrolled) (hw : w ∈ e.workers) (connects : w.stage.connects = true)
    (h : e.underway = d.underway) {alive : Bool} :
    d.Tells (e.leave alive w) .nothing (.returns ⟨w.node, w.generation⟩) := by
  intro before after moves
  have hperm := underway_leave he hw alive
  rw [h, Worker.errand?_of_connects connects] at hperm
  exact hperm.append moves.symm

end Tells

/-- The events that are new make one burst, which tells those who await attempts what happens to
them. -/
def Bursts (d e : Detector) (aside : Aside) : Prop :=
  ∃ label new, e.past = new ++ d.past ∧ d.Burst e label new ∧ d.Tells e aside label

section Lasting

variable {d : Detector} {w : Worker} {c : Cycle} {gate : Nat} {flight : Flight}
  {error : TransportError}

/-- The worker of the current cycle drives its entry. -/
theorem Enrolled.driven (hd : d.Enrolled) (member : w ∈ d.workers)
    (current : d.currentCycle? w = some c) :
    c ∈ d.monitored.entries ∧ c.node = w.node ∧ c.generation = w.generation := by
  obtain ⟨hc, -, hg⟩ := currentCycle?_eq_some current
  exact ⟨hc, hd.entry_node member hc hg, hg⟩

/-- Whoever awaits the answer to a ping awaits no attempt to connect. -/
theorem errand?_of_pinging (stage : w.stage = .pinging gate flight) : w.errand? = none :=
  Worker.errand?_eq_none (stage ▸ rfl)

theorem exhaust_bursts (hd : d.Enrolled) (member : w ∈ d.workers)
    (stage : w.stage = .pinging gate flight) (current : d.currentCycle? w = some c)
    (counted : error.isDisconnect = false) (spent : d.settings.retries ≤ c.failures + 1)
    (alive : Bool) :
    d.Bursts ((((d.record (.answered w.node.id w.generation (.failed error))).removeCycle
      .unresponsive c).report w.node w.generation
        (.unresponsive d.settings.retries d.settings.timeoutDuration)).leave alive w) .nothing := by
  obtain ⟨hc, hnode, hg⟩ := hd.driven member current
  let answered := d.record (.answered w.node.id w.generation (.failed error))
  let removed := answered.removeCycle .unresponsive c
  have hanswered : answered.Enrolled := hd.record rfl
  have hwaits : { w with retired := true } ∈ removed.workers :=
    mem_removeCycle (d := answered) member hg _
  have hunderway : removed.underway = d.underway := underway_removeCycle _ _
  have hremoved : removed.past = .removed w.node w.generation .unresponsive :: answered.past := by
    rw [← hnode, ← hg]
    rfl
  obtain ⟨taken, hpast⟩ := removed.report_past w.node w.generation
    (.unresponsive d.settings.retries d.settings.timeoutDuration)
  refine ⟨_, _, ?_, .exhaust taken member current counted spent, ?_⟩
  · rw [leave_past, hpast, hremoved]
    rfl
  · exact tells_leave (w := { w with retired := true })
      (hanswered.removeCycle hc).report (mem_report hwaits _ _ _) (errand?_of_pinging stage)
      (List.Perm.of_eq ((underway_report _ _ _).trans hunderway))

/-- The connection is lost, and the worker sets out to connect again. -/
theorem breakOff_bursts (hd : d.Enrolled) (member : w ∈ d.workers)
    (stage : w.stage = .pinging gate flight) (current : d.currentCycle? w = some c)
    (lost : error.isDisconnect = true) (allowed : d.settings.reconnect = true) (next : Flight) :
    d.Bursts (((d.record (.answered w.node.id w.generation (.failed error))).lose .lostByPing c
      w.node w.generation).setStage w.generation (.connecting next)) .nothing := by
  obtain ⟨hc, hnode, hg⟩ := hd.driven member current
  let answered := d.record (.answered w.node.id w.generation (.failed error))
  have hanswered : answered.Enrolled := hd.record rfl
  obtain ⟨event, hsequel, hpast⟩ := answered.lose_past .lostByPing c w.node w.generation
  rw [hnode, hg] at hpast
  refine ⟨_, [_, _, _], hpast, .breakOff member current lost hsequel, ?_⟩
  rw [if_pos (show answered.settings.reconnect = true from allowed)]
  exact tells_connect (w := { w with retired := true }) (hanswered.lose hc)
    (mem_lose (d := answered) member hg _ _ _) (errand?_of_pinging stage) (underway_lose _ _ _ _)

/-- The connection is lost and not tried again. -/
theorem giveUp_bursts (hd : d.Enrolled) (member : w ∈ d.workers)
    (stage : w.stage = .pinging gate flight) (current : d.currentCycle? w = some c)
    (lost : error.isDisconnect = true) (refused : d.settings.reconnect = false) (alive : Bool) :
    d.Bursts (((d.record (.answered w.node.id w.generation (.failed error))).lose .lostByPing c
      w.node w.generation).leave alive w) .nothing := by
  obtain ⟨hc, hnode, hg⟩ := hd.driven member current
  let answered := d.record (.answered w.node.id w.generation (.failed error))
  have hanswered : answered.Enrolled := hd.record rfl
  have hrefused : answered.settings.reconnect = false := refused
  obtain ⟨event, hsequel, hpast⟩ := answered.lose_past .lostByPing c w.node w.generation
  rw [hnode, hg] at hpast
  refine ⟨_, _, (leave_past _ _ _).trans hpast, .breakOff member current lost hsequel, ?_⟩
  rw [if_neg (Bool.eq_false_iff.1 hrefused)]
  exact tells_leave (w := { w with retired := true }) (hanswered.lose hc)
    (mem_lose (d := answered) member hg _ _ _) (errand?_of_pinging stage)
    (List.Perm.of_eq (underway_lose _ _ _ _))

/-- An acknowledgement clears the count, and its worker still awaits nothing. -/
theorem underway_cleared (hd : d.Enrolled) (member : w ∈ d.workers)
    (stage : w.stage = .pinging gate flight) (current : d.currentCycle? w = some c) :
    let cleared := (d.record (.answered w.node.id w.generation .done)).putCycle
      { c with failures := 0 }
    cleared.Enrolled ∧ (cleared.setStage w.generation .ready).underway.Perm d.underway := by
  intro cleared
  have hanswered : (d.record (.answered w.node.id w.generation .done)).Enrolled := hd.record rfl
  have hcleared : cleared.Enrolled := hanswered.putCycle (hd.driven member current).1
  exact ⟨hcleared, underway_rest hcleared member (errand?_of_pinging stage) rfl⟩

end Lasting

theorem Turn.burst {lives : Bool} {aside : Aside} {d e : Detector}
    (turn : Turn lives d aside e) (hd : d.Enrolled) : d.Bursts e aside := by
  have hanswered (w : Worker) (outcome : Outcome) :
      (d.record (.answered w.node.id w.generation outcome)).Enrolled := hd.record rfl
  have hidle {w : Worker} {stage : Stage} (h : w.stage = stage) (hs : stage.connects = false) :
      w.errand? = none := Worker.errand?_eq_none (h ▸ hs)
  have hsame {u : Detector} : u.underway.Perm u.underway := List.Perm.refl _
  cases turn with
  | pass => exact ⟨_, [], rfl, .silent, tells_of_eq rfl⟩
  | tell listener notice => exact ⟨_, _, rfl, .tell listener notice, tells_of_eq rfl⟩
  | hand notice => exact ⟨_, _, rfl, .hand notice, tells_of_eq rfl⟩
  | hear node => exact ⟨_, _, rfl, .hear node, tells_of_eq rfl⟩
  | reconcile snapshot =>
    obtain ⟨new, hpast, hburst⟩ := d.reconcile_burst snapshot
    exact ⟨_, new, hpast, hburst, tells_of_eq (underway_reconcile snapshot)⟩
  | stop =>
    obtain ⟨new, hpast, hburst⟩ := d.stop_burst
    exact ⟨_, new, hpast, hburst, tells_of_eq underway_stop⟩
  | land g now outcome =>
    refine ⟨_, [], rfl, .silent, tells_of_eq (underway_updateWorker fun w => ?_)⟩
    unfold Station.landFlight
    cases hstage : w.stage <;> simp [Worker.errand?, Stage.connects, hstage]
  | @queue w member stage =>
    obtain ⟨gates, made, heq⟩ := d.gateFor_eq w.node.id
    rw [heq]
    exact ⟨_, [], rfl, .silent, tells_setStage (e := { d with gates, gatesMade := made }) hd member
      (hidle stage rfl) hsame rfl⟩
  | @depart w alive member idle =>
    have hnone : w.errand? = none := Worker.errand?_eq_none (by
      unfold Worker.engaged at idle
      cases hstage : w.stage <;> simp_all [Stage.connects])
    exact ⟨_, [], leave_past _ _ _, .silent, tells_leave hd member hnone hsame⟩
  | wake member stage due =>
    exact ⟨_, [], rfl, .silent, tells_setStage hd member (hidle stage rfl) hsame rfl⟩
  | @send w c gate version reply member stage free current =>
    have hsent : ((d.putCycle { c with phase := .awaiting }).record
        (.pinged w.node w.generation (d.pingRequest w.node version))).Enrolled :=
      (hd.putCycle (hd.driven member current).1).record rfl
    exact ⟨_, _, rfl, .send version member (by simp [Worker.held?, stage]) current,
      tells_setStage hsent member (hidle stage rfl) hsame rfl⟩
  | abandon member stage retired =>
    exact ⟨_, _, leave_past _ _ _, .abandon member retired,
      tells_leave (hd.record rfl) member (errand?_of_pinging stage) hsame⟩
  | outlive member stage due superseded =>
    exact ⟨_, _, leave_past _ _ _, .outlive _ member superseded,
      tells_leave (hanswered _ _) member (errand?_of_pinging stage) hsame⟩
  | @rest w c gate flight member stage due current =>
    obtain ⟨hcleared, hready⟩ := underway_cleared hd member stage current
    exact ⟨_, _, rfl, .acknowledge member current,
      tells_setStage (w := { w with stage := .ready })
        (hcleared.setStage.putCycle Table.mem_insert_self) (mem_setStage member .ready) rfl hready
        rfl⟩
  | @finish w c gate flight alive member stage due current =>
    obtain ⟨hcleared, hready⟩ := underway_cleared hd member stage current
    exact ⟨_, _, leave_past _ _ _, .acknowledge member current,
      tells_leave (w := { w with stage := .ready }) hcleared.setStage (mem_setStage member .ready)
        rfl hready⟩
  | @retry w c gate flight error member stage due current counted left =>
    exact ⟨_, _, rfl, .retry member current counted left,
      tells_setStage ((hanswered w _).putCycle (hd.driven member current).1) member
        (errand?_of_pinging stage) hsame rfl⟩
  | exhaust member stage due current counted spent =>
    exact exhaust_bursts hd member stage current counted spent _
  | breakOff member stage due current lost allowed =>
    exact breakOff_bursts hd member stage current lost allowed _
  | giveUp member stage due current lost refused =>
    exact giveUp_bursts hd member stage current lost refused _
  | @disconnect c node found =>
    obtain ⟨hc, hid⟩ := cycle?_eq_some found
    obtain ⟨event, hsequel, hpast⟩ := d.lose_past .lostByEvent c node c.generation
    exact ⟨_, _, hpast, .disconnect hc hid hsequel, tells_of_eq (underway_lose _ _ _ _)⟩
  | @reconnect node lost outcome begun =>
    obtain ⟨new, hpast, hburst⟩ := endReconnect_burst node lost outcome begun.allowed rfl
    exact ⟨_, new, hpast, hburst, tells_of_eq (underway_endReconnect node lost outcome)⟩
  | @workerReconnect w flight outcome alive member stage due allowed =>
    obtain ⟨new, hpast, hburst⟩ := endReconnect_burst _ _ outcome allowed
      (leave_monitored (d.endReconnect w.node w.generation outcome) alive w)
    exact ⟨_, new, (leave_past _ _ _).trans hpast, hburst,
      tells_return hd.endReconnect (mem_endReconnect member _ _ _) (stage ▸ rfl)
        (underway_endReconnect _ _ _)⟩

/-- The detector goes on by one burst; what belongs together before does so afterwards. -/
structure Grows (d e : Detector) (label : Aside) (new : List Event) : Prop where
  enrolled : d.Enrolled
  enrolledStill : e.Enrolled
  self : e.self = d.self
  settings : e.settings = d.settings
  past : e.past = new ++ d.past
  burst : d.Burst e label new

theorem Turn.grows {lives : Bool} {aside : Aside} {d e : Detector} (turn : Turn lives d aside e)
    (hd : d.Enrolled) : ∃ label new, d.Grows e label new ∧ d.Tells e aside label := by
  obtain ⟨label, new, hpast, hburst, htells⟩ := turn.burst hd
  have hcontinues := turn.continues
  exact ⟨label, new, ⟨hd, turn.enrolled hd, hcontinues.self, hcontinues.settings, hpast, hburst⟩,
    htells⟩

end Detector

/-- What one burst after another keeps, of the detector and of the attempts under way, holds
wherever a station can come. -/
theorem Station.Reachable.keepBursts {P : Detector → List Detector.Errand → Prop}
    {s : Station} (h : s.Reachable)
    (start : ∀ self cluster settings, P (.start self cluster settings) [])
    (burst : ∀ {lives aside d e label new before after}, P d before →
      Detector.Turn lives d aside e → d.Grows e label new → label.Moves before after →
      P e after) : P s.detector s.attempts := by
  refine (h.keepBoth (P := fun d errands => d.Enrolled ∧ P d (d.attempts errands))
    (fun self cluster settings => ?_) ?_).2
  · exact ⟨Detector.start_enrolled self cluster settings, start self cluster settings⟩
  · rintro lives aside d e before after ⟨hd, hkept⟩ turn moves
    obtain ⟨label, new, hgrows, htells⟩ := turn.grows hd
    exact ⟨hgrows.enrolledStill, burst hkept turn hgrows (htells before after moves)⟩

end ClusterWatch
