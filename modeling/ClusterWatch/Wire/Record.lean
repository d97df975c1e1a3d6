import ClusterWatch.Ping.Request
import ClusterWatch.Settings.Basic
import ClusterWatch.Task.Id
import ClusterWatch.Wire.Format

/-!
The formats of the records that nodes exchange or keep: their fields one after the other,
in a fixed order and without names. An address begins with its kind in a word of four
bytes; of a version 6 address the groups travel, and its flow and scope stay behind.
-/
namespace ClusterWatch.Wire

open Format

def nodeId : Format NodeId := text.via NodeId.mk NodeId.text

def clusterName : Format ClusterName := text.via ClusterName.mk ClusterName.text

def ipv4 : Format Net.Ipv4 :=
  (octet.pair (octet.pair (octet.pair octet))).via
    (fun (a, b, c, d) => ⟨a, b, c, d⟩) (fun ip => (ip.a, ip.b, ip.c, ip.d))

/-- A group of sixteen bits, its upper half first. -/
def group : Format UInt16 :=
  (octet.pair octet).via (fun (high, low) => high.toUInt16 * 256 + low.toUInt16)
    (fun g => ((g / 256).toUInt8, g.toUInt8))

def ipv6 : Format Net.Ipv6 :=
  (group.pair (group.pair (group.pair (group.pair
    (group.pair (group.pair (group.pair group))))))).via
    (fun (a, b, c, d, e, f, g, h) => ⟨a, b, c, d, e, f, g, h⟩)
    (fun ip => (ip.a, ip.b, ip.c, ip.d, ip.e, ip.f, ip.g, ip.h))

def socketNumber : Format UInt16 := (word 2).via Nat.toUInt16 UInt16.toNat

def variant : Format Nat := word 4

def address : Format Net.SocketAddress where
  encode
    | .v4 ip socket => variant.encode 0 ++ (ipv4.pair socketNumber).encode (ip, socket)
    | .v6 ip socket _ _ => variant.encode 1 ++ (ipv6.pair socketNumber).encode (ip, socket)
  decode bytes := do
    let (kind, bytes) ← variant.decode bytes
    match kind with
    | 0 =>
        let ((ip, socket), bytes) ← (ipv4.pair socketNumber).decode bytes
        return (.v4 ip socket, bytes)
    | 1 =>
        let ((ip, socket), bytes) ← (ipv6.pair socketNumber).decode bytes
        return (.v6 ip socket 0 0, bytes)
    | _ => none

def node : Format Node :=
  (nodeId.pair (text.pair address)).via (fun (id, name, address) => ⟨id, name, address⟩)
    (fun n => (n.id, n.name, n.address))

def pingRequest : Format PingRequest :=
  (nodeId.pair ((optional clusterName).pair (nodeId.pair (signedWord 8)))).via
    (fun (target, cluster, coordinator, version) => ⟨target, cluster, coordinator, version⟩)
    (fun r => (r.target, r.cluster, r.coordinator, r.version))

def taskId : Format TaskId :=
  (text.pair (signedWord 8)).via (fun (node, number) => ⟨node, number⟩)
    (fun t => (t.node, t.number))

def detectionSettings : Format DetectionSettings :=
  ((word 8).pair ((word 8).pair ((word 4).pair (flag.pair flag)))).via
    (fun (interval, timeout, retries, reconnect, followDisconnects) =>
      ⟨interval, timeout, retries, reconnect, followDisconnects⟩)
    (fun s => (s.interval, s.timeout, s.retries, s.reconnect, s.followDisconnects))

def readinessSettings : Format ReadinessSettings :=
  (word 8).via ReadinessSettings.mk ReadinessSettings.defaultTimeout

def nodeSettings : Format NodeSettings :=
  (text.pair (detectionSettings.pair readinessSettings)).via
    (fun (cluster, detection, readiness) => ⟨cluster, detection, readiness⟩)
    (fun s => (s.cluster, s.detection, s.readiness))

end ClusterWatch.Wire
