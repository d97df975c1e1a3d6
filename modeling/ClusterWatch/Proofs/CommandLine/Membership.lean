import Mathlib.Data.List.Forall2
import Mathlib.Data.List.Induction
import ClusterWatch.Proofs.CommandLine.Understanding
import ClusterWatch.Proofs.Detector.FirstMembership

/-!
What a command line makes of a node's surroundings. Its peers are read one after the other, wherever
they stand among the other arguments, and make up the first snapshot together with the node itself.
A member is known by its id, so a peer that is given again replaces what was said of it before, the
node's own record included. The node does not watch itself, whatever its peers are called.
-/
namespace ClusterWatch

section LastOf

variable {nodes peers : List Node} {node peer : Node} {s : Snapshot}

/-- Of the records with its id, the node's is the last in the list. -/
def LastOf (nodes : List Node) (node : Node) : Prop :=
  ∃ before after, nodes = before ++ node :: after ∧ ∀ later ∈ after, later.id ≠ node.id

theorem lastOf_concat : LastOf (nodes ++ [peer]) node ↔
    node = peer ∨ (LastOf nodes node ∧ peer.id ≠ node.id) := by
  constructor
  · rintro ⟨before, after, hsplit, hlast⟩
    rcases List.eq_nil_or_concat after with rfl | ⟨between, last, rfl⟩
    · exact .inl (List.append_singleton_inj.1 hsplit).2.symm
    · rw [List.concat_eq_append, ← List.cons_append, ← List.append_assoc] at hsplit
      obtain ⟨rfl, rfl⟩ := List.append_singleton_inj.1 hsplit
      rw [List.concat_eq_append, List.forall_mem_append, List.forall_mem_singleton] at hlast
      exact .inr ⟨⟨before, between, rfl, hlast.1⟩, hlast.2⟩
  · rintro (rfl | ⟨⟨before, after, rfl, hlast⟩, hpeer⟩)
    · exact ⟨nodes, [], rfl, fun _ h => absurd h List.not_mem_nil⟩
    · refine ⟨before, after ++ [peer], by simp, ?_⟩
      exact List.forall_mem_append.2 ⟨hlast, List.forall_mem_singleton.2 hpeer⟩

theorem exists_lastOf (h : peer ∈ nodes) : ∃ node, LastOf nodes node ∧ node.id = peer.id := by
  induction nodes using List.reverseRecOn with
  | nil => cases h
  | append_singleton nodes last ih =>
    by_cases hid : last.id = peer.id
    · exact ⟨last, lastOf_concat.2 (.inl rfl), hid⟩
    · rcases List.mem_append.1 h with hmem | hmem
      · obtain ⟨node, hlast, heq⟩ := ih hmem
        exact ⟨node, lastOf_concat.2 (.inr ⟨hlast, heq ▸ hid⟩), heq⟩
      · exact absurd (congrArg Node.id (List.mem_singleton.1 hmem)).symm hid

theorem LastOf.mem (h : LastOf nodes node) : node ∈ nodes := by
  obtain ⟨before, after, rfl, -⟩ := h
  exact List.mem_append_right _ List.mem_cons_self

theorem Node.key_ne_iff : peer.key ≠ node.key ↔ peer.id ≠ node.id :=
  not_congr ⟨fun h => congrArg NodeId.mk h, fun h => congrArg NodeId.text h⟩

/-- Nodes that are put into a snapshot one after the other replace each other by their ids. -/
theorem Snapshot.mem_foldl_withNode :
    node ∈ (peers.foldl Snapshot.withNode s).nodes.entries ↔
      LastOf peers node ∨ (node ∈ s.nodes.entries ∧ ∀ peer ∈ peers, peer.id ≠ node.id) := by
  induction peers using List.reverseRecOn with
  | nil =>
    have hnone : ¬ LastOf [] node := fun h => absurd h.mem List.not_mem_nil
    simp [hnone]
  | append_singleton peers last ih =>
    have hinsert : ((peers ++ [last]).foldl Snapshot.withNode s).nodes =
        (peers.foldl Snapshot.withNode s).nodes.insert last := by
      rw [List.foldl_append]
      rfl
    rw [hinsert, Table.mem_insert, ih, lastOf_concat, Node.key_ne_iff, List.forall_mem_append,
      List.forall_mem_singleton]
    tauto

theorem Snapshot.foldl_withNode_frame (peers : List Node) (s : Snapshot) :
    (peers.foldl Snapshot.withNode s).version = s.version ∧
      (peers.foldl Snapshot.withNode s).coordinator = s.coordinator :=
  List.foldlRecOn (motive := fun t : Snapshot =>
    t.version = s.version ∧ t.coordinator = s.coordinator) peers _ ⟨rfl, rfl⟩ fun _ h _ _ => h

end LastOf

namespace CommandLine

/-- The values given with a flag, in their order. -/
def valuesOf (flag : String) : List String → List String
  | other :: value :: rest =>
      if other = flag then value :: valuesOf flag rest else valuesOf flag rest
  | _ => []

/-- The value says who the peer is and where it is to be reached; the id ends at the first at
sign. -/
def Describes (value : String) (node : Node) : Prop :=
  ∃ (id text : String) (address : Net.SocketAddress), value = id ++ "@" ++ text ∧
    '@' ∉ id.toList ∧ Net.SocketAddress.parse? text = some address ∧
    .named ⟨id⟩ address none = node

/-- The last name counts, and every peer is kept. -/
structure Draft.Gathers (d : Draft) (arguments : List String) (next : Draft) : Prop where
  name : next.name = (valuesOf "--name" arguments).getLast?.or d.name
  peers : ∃ peers, next.peers = d.peers ++ peers ∧
    List.Forall₂ Describes (valuesOf "--peer" arguments) peers

section Arguments

variable {d between next : Draft} {flag value other : String} {rest arguments : List String}

theorem valuesOf_same : valuesOf flag (flag :: value :: rest) = value :: valuesOf flag rest :=
  if_pos rfl

theorem valuesOf_other (h : other ≠ flag) :
    valuesOf flag (other :: value :: rest) = valuesOf flag rest :=
  if_neg h

theorem Draft.Takes.gathers (h : d.Takes flag value between) (hrest : between.Gathers rest next) :
    d.Gathers (flag :: value :: rest) next := by
  obtain ⟨hname, hpeers⟩ := hrest
  cases h with
  | bind | cluster | config =>
    refine ⟨?_, ?_⟩
    · rwa [valuesOf_other (by decide)]
    · rwa [valuesOf_other (by decide)]
  | name =>
    refine ⟨?_, ?_⟩
    · rw [hname, valuesOf_same, List.getLast?_cons]
      cases (valuesOf "--name" rest).getLast? <;> rfl
    · rwa [valuesOf_other (by decide)]
  | @peer id text address first fit =>
    refine ⟨?_, ?_⟩
    · rwa [valuesOf_other (by decide)]
    · obtain ⟨peers, happend, hdescribed⟩ := hpeers
      refine ⟨.named ⟨id⟩ address none :: peers, ?_, ?_⟩
      · rw [happend, List.append_assoc]
        rfl
      · rw [valuesOf_same]
        exact .cons ⟨id, text, address, rfl, first, fit, rfl⟩ hdescribed

theorem takeAll_gathers : {arguments : List String} → {d next : Draft} →
    d.takeAll arguments = .ok next → d.Gathers arguments next
  | [], _, _, h => by
    cases h
    exact ⟨rfl, [], (List.append_nil _).symm, .nil⟩
  | [_], _, _, h => by
    cases h
    exact ⟨rfl, [], (List.append_nil _).symm, .nil⟩
  | _ :: _ :: _, _, _, h => by
    obtain ⟨between, htake, hrest⟩ := bind_eq_ok_iff.1 h
    exact (Draft.take_eq_ok_iff.1 htake).gathers (takeAll_gathers hrest)

end Arguments

/-- What the arguments say of the node and of its peers is what the command line holds. -/
structure SaidBy (line : CommandLine) (arguments : List String) : Prop where
  name : line.name = (valuesOf "--name" arguments).getLast?
  peers : List.Forall₂ Describes (valuesOf "--peer" arguments) line.peers

theorem saidBy_of_parse {arguments : List String} {line : CommandLine}
    (h : parse arguments = .ok line) : line.SaidBy arguments := by
  unfold parse at h
  split at h
  next => cases h
  next =>
    obtain ⟨d, hall, hline⟩ := bind_eq_ok_iff.1 h
    obtain ⟨hname, peers, hpeers, hdescribed⟩ := takeAll_gathers hall
    split at hline
    next => cases hline
    next =>
      obtain rfl := Except.ok.inj hline
      refine ⟨hname.trans (Option.or_none), ?_⟩
      rwa [hpeers]

/-- The first snapshot of a cluster: the node itself, which coordinates it, and its peers, each as
it was described last. -/
structure Portrays (snapshot : Snapshot) (self : Node) (peers : List Node) : Prop where
  version : snapshot.version = 1
  coordinator : snapshot.coordinator = some self.id
  ids : ∀ id, snapshot.hasNode id = true ↔ id = self.id ∨ ∃ peer ∈ peers, peer.id = id
  members : ∀ node, node ∈ snapshot.nodes.entries ↔
    LastOf peers node ∨ (node = self ∧ ∀ peer ∈ peers, peer.id ≠ self.id)

section Outset

variable {line : CommandLine} {arguments : List String} {self node : Node} {cluster : ClusterName}

theorem mem_snapshot : node ∈ (line.snapshot self cluster).nodes.entries ↔
    LastOf line.peers node ∨ (node = self ∧ ∀ peer ∈ line.peers, peer.id ≠ self.id) := by
  have hself : node ∈ (((Snapshot.empty cluster).next.withNode self).withCoordinator
      self.id).nodes.entries ↔ node = self := List.mem_singleton
  rw [snapshot, Snapshot.mem_foldl_withNode, hself]
  exact or_congr_right (and_congr_right fun heq => by rw [heq])

theorem snapshot_portrays (line : CommandLine) (self : Node) (cluster : ClusterName) :
    Portrays (line.snapshot self cluster) self line.peers := by
  obtain ⟨hversion, hcoordinator⟩ := Snapshot.foldl_withNode_frame line.peers
    (((Snapshot.empty cluster).next.withNode self).withCoordinator self.id)
  constructor
  case version => exact hversion
  case coordinator => exact hcoordinator
  case ids =>
    intro id
    constructor
    · intro hlisted
      obtain ⟨node, hnode, hkey⟩ := Table.contains_iff.1 hlisted
      obtain rfl : node.id = id := congrArg NodeId.mk hkey
      rcases mem_snapshot.1 hnode with hlast | ⟨rfl, -⟩
      · exact .inr ⟨node, hlast.mem, rfl⟩
      · exact .inl rfl
    · intro hid
      have hpeer {peer : Node} (hmem : peer ∈ line.peers) :
          (line.snapshot self cluster).hasNode peer.id = true := by
        obtain ⟨node, hlast, heq⟩ := exists_lastOf hmem
        exact heq ▸ Table.contains_of_mem (mem_snapshot.2 (.inl hlast))
      rcases hid with rfl | ⟨peer, hmem, rfl⟩
      · by_cases hnamed : ∃ peer ∈ line.peers, peer.id = self.id
        · obtain ⟨peer, hmem, heq⟩ := hnamed
          exact heq ▸ hpeer hmem
        · have hself : self ∈ (line.snapshot self cluster).nodes.entries :=
            mem_snapshot.2 (.inr ⟨rfl, fun peer hmem heq => hnamed ⟨peer, hmem, heq⟩⟩)
          exact Table.contains_of_mem hself
      · exact hpeer hmem
  case members => exact fun node => mem_snapshot

/-- The nodes to be watched are the peers as they were last described, but for the node itself. -/
theorem mem_snapshot_other :
    node ∈ (line.snapshot self cluster).nodes.entries ∧ node.id ≠ self.id ↔
      LastOf line.peers node ∧ node.id ≠ self.id := by
  refine and_congr_left fun hother => mem_snapshot.trans (or_iff_left ?_)
  rintro ⟨rfl, -⟩
  exact hother rfl

/-- The arguments are read as they stand, the first snapshot is made of what they say, and whoever
follows the membership first watches each peer once, where it was last said to be. Until then
anything may happen that does not settle what is watched. -/
theorem membership_as_given (accepted : parse arguments = .ok line) (self : Node)
    (cluster : ClusterName) (settings : DetectionSettings) (link : Link) :
    line.SaidBy arguments ∧ Portrays (line.snapshot self cluster) self line.peers ∧
      ∀ actions s, (Station.start self cluster settings (line.snapshot self cluster) link).acts
        actions = some s → (∀ action ∈ actions, action.settles = false) →
          ∀ index < s.followers.length, ∀ heed, ∃ t, s.run heed (.follower index) = some t ∧
            t.detector.WatchesAnew fun node => LastOf line.peers node ∧ node.id ≠ self.id := by
  refine ⟨saidBy_of_parse accepted, snapshot_portrays line self cluster, ?_⟩
  intro actions s hacts hopen index hindex heed
  have hawaiting := (Station.start_awaiting self cluster settings _ link).acts hopen hacts
  obtain ⟨t, hrun, hreconciled⟩ := hawaiting.run_follower hindex heed
  have hreachable : s.Reachable := ⟨_, _, _, _, _, actions, hacts⟩
  have hself : s.detector.self = self :=
    (Station.acts_continues (Station.start_permitted self cluster settings _ link) hacts).self
  have hwatches := hawaiting.unoccupied.watchesAnew hreachable.enrolled (line.snapshot self cluster)
  simp only [hself, mem_snapshot_other] at hwatches
  exact ⟨t, hrun, hreconciled ▸ hwatches⟩

def loopback (id : String) (socket : UInt16) : Node :=
  .named ⟨id⟩ (.v4 ⟨127, 0, 0, 1⟩ socket) none

/-- One peer is given twice, and the node itself is given as a peer. -/
def givenTwice : List String := [
  "--peer", "b@127.0.0.1:5001", "--bind", "127.0.0.1:5000", "--name", "x",
  "--peer", "a@127.0.0.1:5003", "--peer", "b@127.0.0.1:5002", "--name", "a"]

def readTwice : CommandLine :=
  ⟨.v4 ⟨127, 0, 0, 1⟩ 5000, some "a", none, none,
    [loopback "b" 5001, loopback "a" 5003, loopback "b" 5002]⟩

def startedTwice : Station :=
  .start (loopback "a" 5000) ⟨"c"⟩ .standard (readTwice.snapshot (loopback "a" 5000) ⟨"c"⟩) .silent

/-- A loss of connection has been told of and the cluster has been closed, but the follower has not
been at work yet. -/
def beforehand : List Action := [
  .addListener ⟨"log", false⟩, .follow, .disconnectEvent (loopback "b" 5001), .run true .feed,
  .closeSupplier]

def awaitedTwice : Station := (startedTwice.acts beforehand).get (by decide)

theorem membership_as_given_twice :
    parse givenTwice = .ok readTwice ∧
      Portrays (readTwice.snapshot (loopback "a" 5000) ⟨"c"⟩) (loopback "a" 5000)
        readTwice.peers ∧
      ∃ t, awaitedTwice.run true (.follower 0) = some t ∧
        t.detector.WatchesAnew (fun node => LastOf readTwice.peers node ∧ node.id ≠ ⟨"a"⟩) ∧
        t.detector.monitored.entries = [Cycle.begin (loopback "b" 5002) ⟨1⟩] := by
  have accepted : parse givenTwice = .ok readTwice := by decide
  obtain ⟨-, hportrays, hwatches⟩ :=
    membership_as_given accepted (loopback "a" 5000) ⟨"c"⟩ .standard .silent
  have hacts : startedTwice.acts beforehand = some awaitedTwice := (Option.some_get _).symm
  obtain ⟨t, hrun, hanew⟩ :=
    hwatches beforehand awaitedTwice hacts (by decide) 0 (by decide) true
  have hentries : (awaitedTwice.run true (.follower 0)).map (·.detector.monitored.entries) =
      some [Cycle.begin (loopback "b" 5002) ⟨1⟩] := by decide
  rw [hrun] at hentries
  exact ⟨accepted, hportrays, t, hrun, hanew, Option.some.inj hentries⟩

end Outset

end CommandLine
end ClusterWatch
