import ClusterWatch.Proofs.Wire.Canonical
import ClusterWatch.Wire.Envelope

/-!
What is written can be read back. Every record that fits its words is read back from what it is
written as, whatever follows; of an address flow and scope stay behind. Nothing else can be read,
so no two records that differ in what travels are written alike, and bytes that break off before
the end of a record are not read at all.
-/
namespace ClusterWatch

open Wire Wire.Format

/-- All of the record has room in the words that it is written in. -/
structure PingRequest.Writable (r : PingRequest) : Prop where
  target : TextWritable r.target.text
  cluster : ∀ name ∈ r.cluster, TextWritable name.text
  coordinator : TextWritable r.coordinator.text
  version : SignedWritable r.version

structure Node.Writable (n : Node) : Prop where
  id : TextWritable n.id.text
  name : TextWritable n.name

structure TaskId.Writable (t : TaskId) : Prop where
  node : TextWritable t.node
  number : SignedWritable t.number

structure DetectionSettings.Writable (s : DetectionSettings) : Prop where
  interval : s.interval < UInt64.size
  timeout : s.timeout < UInt64.size
  retries : s.retries < UInt32.size

def ReadinessSettings.Writable (s : ReadinessSettings) : Prop := s.defaultTimeout < UInt64.size

structure NodeSettings.Writable (s : NodeSettings) : Prop where
  cluster : TextWritable s.cluster
  detection : s.detection.Writable
  readiness : s.readiness.Writable

/-- What is left of a node once it has travelled in a message. -/
def Node.travelled (n : Node) : Node := { n with address := n.address.travelled }

namespace Wire

def Envelope.Writable : Envelope → Prop
  | .request number action ping => number < UInt64.size ∧ TextWritable action ∧ ping.Writable
  | .response number => number < UInt64.size
  | .error number message => number < UInt64.size ∧ TextWritable message

theorem canonical_nodeId : nodeId.Canonical fun id => TextWritable id.text :=
  canonical_text.wrapped (fun _ => rfl) (fun _ => rfl)

theorem canonical_clusterName : clusterName.Canonical fun name => TextWritable name.text :=
  canonical_text.wrapped (fun _ => rfl) (fun _ => rfl)

theorem canonical_ipv4 : ipv4.Canonical fun _ => True := by
  have hoctets := canonical_octet.pair (canonical_octet.pair (canonical_octet.pair canonical_octet))
  apply (hoctets.wrapped (fun _ => rfl) (fun _ => rfl)).congr
  simp

theorem toNat_joined (high low : UInt8) :
    (high.toUInt16 * 256 + low.toUInt16).toNat = high.toNat * 256 + low.toNat := by
  have hhigh := high.toNat_lt
  have hlow := low.toNat_lt
  have hsize : (256 : UInt16).toNat = 256 := rfl
  rw [UInt16.toNat_add, UInt16.toNat_mul, hsize, UInt8.toNat_toUInt16, UInt8.toNat_toUInt16]
  omega

theorem canonical_group : group.Canonical fun _ => True := by
  have hsize : (256 : UInt16).toNat = 256 := rfl
  apply (canonical_octet.pair canonical_octet).via
  · rintro ⟨high, low⟩ -
    have hhigh := high.toNat_lt
    have hlow := low.toNat_lt
    refine ⟨trivial, Prod.ext ?_ ?_⟩
    · show (_ / 256 : UInt16).toUInt8 = high
      apply UInt8.toNat_inj.1
      rw [UInt16.toNat_toUInt8, UInt16.toNat_div, toNat_joined, hsize]
      omega
    · show UInt16.toUInt8 _ = low
      apply UInt8.toNat_inj.1
      rw [UInt16.toNat_toUInt8, toNat_joined]
      omega
  · rintro g -
    have hg := g.toNat_lt
    refine ⟨⟨trivial, trivial⟩, ?_⟩
    apply UInt16.toNat_inj.1
    rw [toNat_joined, UInt16.toNat_toUInt8, UInt16.toNat_toUInt8, UInt16.toNat_div, hsize]
    omega

theorem canonical_ipv6 : ipv6.Canonical fun _ => True := by
  have hgroups := canonical_group.pair (canonical_group.pair (canonical_group.pair
    (canonical_group.pair (canonical_group.pair (canonical_group.pair
      (canonical_group.pair canonical_group))))))
  apply (hgroups.wrapped (fun _ => rfl) (fun _ => rfl)).congr
  simp

theorem canonical_socketNumber : socketNumber.Canonical fun _ => True := by
  apply (canonical_word 2).via
  · intro n hn
    exact ⟨trivial, UInt16.toNat_ofNat_of_lt hn⟩
  · rintro number -
    exact ⟨number.toNat_lt, UInt16.ofNat_toNat⟩

/-- Of a version 6 address only what has no flow and no scope can be read. -/
theorem canonical_address : address.Canonical fun a => a.travelled = a := by
  have hv4 := canonical_ipv4.pair canonical_socketNumber
  have hv6 := canonical_ipv6.pair canonical_socketNumber
  intro bytes a rest
  constructor
  · intro h
    obtain ⟨kind, tail, -, hbytes, h⟩ := (canonical_word 4).bind_iff.1 h
    match kind, h with
    | 0, h =>
      obtain ⟨v, -, rfl, hwritten⟩ := hv4.tagged (fun v => Net.SocketAddress.v4 v.1 v.2) hbytes h
      exact ⟨rfl, hwritten⟩
    | 1, h =>
      obtain ⟨v, -, rfl, hwritten⟩ :=
        hv6.tagged (fun v => Net.SocketAddress.v6 v.1 v.2 0 0) hbytes h
      exact ⟨rfl, hwritten⟩
    | kind + 2, h => cases h
  · rintro ⟨htravelled, hbytes⟩
    cases a with
    | v4 ip socket =>
      have hsplit := hbytes.trans (List.append_assoc ..)
      apply (canonical_word 4).bind_iff.2 ⟨0, _, by decide, hsplit, ?_⟩
      exact hv4.bind_iff.2 ⟨(ip, socket), rest, ⟨trivial, trivial⟩, rfl, rfl⟩
    | v6 ip socket flow scope =>
      cases htravelled
      have hsplit := hbytes.trans (List.append_assoc ..)
      apply (canonical_word 4).bind_iff.2 ⟨1, _, by decide, hsplit, ?_⟩
      exact hv6.bind_iff.2 ⟨(ip, socket), rest, ⟨trivial, trivial⟩, rfl, rfl⟩

theorem canonical_node : node.Canonical fun n => n.Writable ∧ n.travelled = n := by
  have hfields := canonical_nodeId.pair (canonical_text.pair canonical_address)
  apply (hfields.wrapped (fun _ => rfl) (fun _ => rfl)).congr
  intro n
  constructor
  · rintro ⟨hid, hname, haddress⟩
    exact ⟨⟨hid, hname⟩, congrArg (Node.mk n.id n.name) haddress⟩
  · rintro ⟨⟨hid, hname⟩, htravelled⟩
    exact ⟨hid, hname, congrArg Node.address htravelled⟩

theorem canonical_pingRequest : pingRequest.Canonical PingRequest.Writable := by
  have hfields := canonical_nodeId.pair (canonical_clusterName.optional.pair
    (canonical_nodeId.pair canonical_signedWord))
  apply (hfields.wrapped (fun _ => rfl) (fun _ => rfl)).congr
  intro r
  constructor
  · rintro ⟨htarget, hcluster, hcoordinator, hversion⟩
    exact ⟨htarget, hcluster, hcoordinator, hversion⟩
  · rintro ⟨htarget, hcluster, hcoordinator, hversion⟩
    exact ⟨htarget, hcluster, hcoordinator, hversion⟩

theorem canonical_taskId : taskId.Canonical TaskId.Writable := by
  have hfields := canonical_text.pair canonical_signedWord
  apply (hfields.wrapped (fun _ => rfl) (fun _ => rfl)).congr
  intro t
  exact ⟨fun h => ⟨h.1, h.2⟩, fun h => ⟨h.node, h.number⟩⟩

theorem canonical_detectionSettings :
    detectionSettings.Canonical DetectionSettings.Writable := by
  have hfields := (canonical_word 8).pair ((canonical_word 8).pair ((canonical_word 4).pair
    (canonical_flag.pair canonical_flag)))
  apply (hfields.wrapped (fun _ => rfl) (fun _ => rfl)).congr
  intro s
  constructor
  · rintro ⟨hinterval, htimeout, hretries, -⟩
    exact ⟨hinterval, htimeout, hretries⟩
  · rintro ⟨hinterval, htimeout, hretries⟩
    exact ⟨hinterval, htimeout, hretries, trivial, trivial⟩

theorem canonical_readinessSettings :
    readinessSettings.Canonical ReadinessSettings.Writable :=
  (canonical_word 8).wrapped (fun _ => rfl) (fun _ => rfl)

theorem canonical_nodeSettings : nodeSettings.Canonical NodeSettings.Writable := by
  have hfields := canonical_text.pair
    (canonical_detectionSettings.pair canonical_readinessSettings)
  apply (hfields.wrapped (fun _ => rfl) (fun _ => rfl)).congr
  intro s
  exact ⟨fun h => ⟨h.1, h.2.1, h.2.2⟩, fun h => ⟨h.cluster, h.detection, h.readiness⟩⟩

theorem Envelope.canonical : Envelope.format.Canonical Envelope.Writable := by
  have hrequest := (canonical_word 8).pair (canonical_text.pair canonical_pingRequest)
  have herror := (canonical_word 8).pair canonical_text
  intro bytes e rest
  constructor
  · intro h
    obtain ⟨kind, tail, -, hbytes, h⟩ := (canonical_word 4).bind_iff.1 h
    match kind, h with
    | 0, h =>
      obtain ⟨v, hwritable, rfl, hwritten⟩ :=
        hrequest.tagged (fun v => Envelope.request v.1 v.2.1 v.2.2) hbytes h
      exact ⟨hwritable, hwritten⟩
    | 1, h =>
      obtain ⟨v, hwritable, rfl, hwritten⟩ := (canonical_word 8).tagged Envelope.response hbytes h
      exact ⟨hwritable, hwritten⟩
    | 2, h =>
      obtain ⟨v, hwritable, rfl, hwritten⟩ :=
        herror.tagged (fun v => Envelope.error v.1 v.2) hbytes h
      exact ⟨hwritable, hwritten⟩
    | kind + 3, h => cases h
  · rintro ⟨hwritable, hbytes⟩
    cases e with
    | request number action ping =>
      have hsplit := hbytes.trans (List.append_assoc ..)
      apply (canonical_word 4).bind_iff.2 ⟨0, _, by decide, hsplit, ?_⟩
      exact hrequest.bind_iff.2 ⟨(number, action, ping), rest, hwritable, rfl, rfl⟩
    | response number =>
      have hsplit := hbytes.trans (List.append_assoc ..)
      apply (canonical_word 4).bind_iff.2 ⟨1, _, by decide, hsplit, ?_⟩
      exact (canonical_word 8).bind_iff.2 ⟨number, rest, hwritable, rfl, rfl⟩
    | error number message =>
      have hsplit := hbytes.trans (List.append_assoc ..)
      apply (canonical_word 4).bind_iff.2 ⟨2, _, by decide, hsplit, ?_⟩
      exact herror.bind_iff.2 ⟨(number, message), rest, hwritable, rfl, rfl⟩

theorem Envelope.decode?_encode {e : Envelope} (h : e.Writable) : decode? e.encode = some e := by
  have hread := (Envelope.canonical e.encode e []).2 ⟨h, (List.append_nil _).symm⟩
  rw [decode?, hread]
  rfl

namespace Format

variable {α : Type} {format : Format α} {Writable : α → Prop} {travelled : α → α}

/-- What a format does to values that it has room for, `travelled v` being what is left of `v` at
the other end. -/
structure Faithful (format : Format α) (Writable : α → Prop) (travelled : α → α) : Prop where
  /-- What is written is read back, whatever follows. -/
  read_back : ∀ v rest, Writable v →
    format.decode (format.encode v ++ rest) = some (travelled v, rest)
  /-- Bytes are read as a value only if they begin with what the value is written as. -/
  written : ∀ bytes v rest, format.decode bytes = some (v, rest) →
    Writable v ∧ travelled v = v ∧ bytes = format.encode v ++ rest
  /-- Values are told apart by what they are written as. -/
  encode_eq_iff : ∀ v w, Writable v → Writable w →
    (format.encode v = format.encode w ↔ travelled v = travelled w)
  /-- Bytes that break off are not read. -/
  broken_off : ∀ v bytes, Writable v → bytes <+: format.encode v → bytes ≠ format.encode v →
    format.decode bytes = none

theorem Canonical.faithful (h : format.Canonical fun v => Writable v ∧ travelled v = v)
    (hkept : ∀ v, Writable v → Writable (travelled v) ∧ travelled (travelled v) = travelled v)
    (hsame : ∀ v, format.encode (travelled v) = format.encode v) :
    format.Faithful Writable travelled := by
  have hback : ∀ v rest, Writable v →
      format.decode (format.encode v ++ rest) = some (travelled v, rest) := by
    intro v rest hv
    rw [← hsame v]
    exact (h _ (travelled v) rest).2 ⟨hkept v hv, rfl⟩
  refine ⟨hback, ?_, ?_, ?_⟩
  · intro bytes v rest hread
    obtain ⟨⟨hv, htravelled⟩, hbytes⟩ := (h bytes v rest).1 hread
    exact ⟨hv, htravelled, hbytes⟩
  · intro v w hv hw
    constructor
    · intro heq
      have hread := hback v [] hv
      rw [heq, hback w [] hw] at hread
      exact (congrArg Prod.fst (Option.some.inj hread)).symm
    · intro heq
      rw [← hsame v, heq, hsame w]
  · intro v bytes hv hprefix hne
    obtain ⟨missing, hmissing⟩ := hprefix
    cases hread : format.decode bytes with
    | none => rfl
    | some found =>
      -- What was read would be all of the value, so nothing would be missing.
      obtain ⟨w, rest⟩ := found
      obtain ⟨hw, hbytes⟩ := (h bytes w rest).1 hread
      have hlonger := (h (format.encode v) w (rest ++ missing)).2 ⟨hw, by simp [← hmissing, hbytes]⟩
      have hwhole := hback v [] hv
      rw [List.append_nil, hlonger, Option.some.injEq, Prod.mk.injEq] at hwhole
      obtain ⟨-, hnothing⟩ := List.append_eq_nil_iff.1 hwhole.2
      rw [hnothing, List.append_nil] at hmissing
      exact absurd hmissing hne

theorem Canonical.faithful_id (h : format.Canonical Writable) : format.Faithful Writable id := by
  apply (h.congr fun v => (and_iff_left rfl).symm).faithful
  · intro v hv
    exact ⟨hv, rfl⟩
  · intro v
    rfl

end Format

theorem encode_travelled (n : Node) : node.encode n.travelled = node.encode n := by
  obtain ⟨id, name, address⟩ := n
  cases address <;> rfl

theorem travelled_travelled (n : Node) : n.travelled.travelled = n.travelled := by
  obtain ⟨id, name, address⟩ := n
  cases address <;> rfl

/-- Every record that travels or is kept is read back from what it is written as, and from nothing
else; of the address of a node flow and scope stay behind. -/
theorem formats_faithful :
    Envelope.format.Faithful Envelope.Writable id ∧
      pingRequest.Faithful PingRequest.Writable id ∧
      nodeId.Faithful (fun i => TextWritable i.text) id ∧
      clusterName.Faithful (fun name => TextWritable name.text) id ∧
      node.Faithful Node.Writable Node.travelled ∧
      taskId.Faithful TaskId.Writable id ∧
      detectionSettings.Faithful DetectionSettings.Writable id ∧
      readinessSettings.Faithful ReadinessSettings.Writable id ∧
      nodeSettings.Faithful NodeSettings.Writable id := by
  have hnode : node.Faithful Node.Writable Node.travelled := by
    apply canonical_node.faithful
    · intro n hn
      exact ⟨⟨hn.id, hn.name⟩, travelled_travelled n⟩
    · exact encode_travelled
  exact ⟨Envelope.canonical.faithful_id, canonical_pingRequest.faithful_id,
    canonical_nodeId.faithful_id, canonical_clusterName.faithful_id, hnode,
    canonical_taskId.faithful_id, canonical_detectionSettings.faithful_id,
    canonical_readinessSettings.faithful_id, canonical_nodeSettings.faithful_id⟩

/-- A node on a link of its own: it is read back without the link, and not at all without its last
byte. -/
def linkLocal : Node := ⟨⟨"n"⟩, "né", .v6 ⟨0xfe80, 0, 0, 0, 0, 0, 0, 1⟩ 9200 7 3⟩

theorem formats_faithful_linkLocal :
    linkLocal.Writable ∧
      node.decode (node.encode linkLocal ++ [1, 2]) =
        some (⟨⟨"n"⟩, "né", .v6 ⟨0xfe80, 0, 0, 0, 0, 0, 0, 1⟩ 9200 0 0⟩, [1, 2]) ∧
      node.decode (node.encode linkLocal).dropLast = none := by
  have hwritable : linkLocal.Writable := ⟨by decide, by decide⟩
  have hfaithful := formats_faithful.2.2.2.2.1
  refine ⟨hwritable, hfaithful.read_back linkLocal [1, 2] hwritable, ?_⟩
  apply hfaithful.broken_off linkLocal _ hwritable (List.dropLast_prefix _)
  decide

end Wire
end ClusterWatch
