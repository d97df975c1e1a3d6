import ClusterWatch.Json.Form
import ClusterWatch.Net.SocketAddress.Reader
import ClusterWatch.Ping.Request
import ClusterWatch.Settings.Basic
import ClusterWatch.Task.Id

/-!
The JSON forms of the records that nodes exchange or keep. Addresses are texts. Of a ping
the cluster may be left out, except in an array; of settings everything may.
-/
namespace ClusterWatch.Json

open Form

def bound64 : Nat := UInt64.size

def word64 : Form Nat := natural bound64

def word32 : Form Nat := natural ClusterWatch.Text.bound32

def signed64 : Form Int := integer ClusterWatch.Text.signedBound64

def member (name : String) (v : Value) : Text × Value := (some name, v)

def nodeId : Form NodeId := text.via (fun s => some ⟨s⟩) NodeId.text

def clusterName : Form ClusterName := text.via (fun s => some ⟨s⟩) ClusterName.text

def address : Form Net.SocketAddress :=
  text.via Net.SocketAddress.parse? Net.SocketAddress.text

def node : Form Node where
  write n := .object [
    member "id" (nodeId.write n.id),
    member "name" (text.write n.name),
    member "addr" (address.write n.address)]
  read v := do
    match (← v.given? ["id", "name", "addr"]).fields with
    | [id, name, addr] =>
        return ⟨← nodeId.required id, ← text.required name, ← address.required addr⟩
    | _ => none

def pingRequest : Form PingRequest where
  write r := .object [
    member "target_node" (nodeId.write r.target),
    member "cluster_name" ((optional clusterName).write r.cluster),
    member "coordinator_node" (nodeId.write r.coordinator),
    member "cluster_state_version" (signed64.write r.version)]
  read v := do
    let given ← v.given? ["target_node", "cluster_name", "coordinator_node", "cluster_state_version"]
    match given.fields with
    | [target, cluster, coordinator, version] =>
        let cluster ←
          if given.byPosition then (optional clusterName).required cluster
          else (optional clusterName).orDefault none cluster
        return ⟨← nodeId.required target, cluster, ← nodeId.required coordinator,
          ← signed64.required version⟩
    | _ => none

def taskId : Form TaskId where
  write t := .object [
    member "node_id" (text.write t.node),
    member "id" (signed64.write t.number)]
  read v := do
    match (← v.given? ["node_id", "id"]).fields with
    | [node, number] => return ⟨← text.required node, ← signed64.required number⟩
    | _ => none

def detectionSettings : Form DetectionSettings where
  write s := .object [
    member "ping_interval_ms" (word64.write s.interval),
    member "ping_timeout_ms" (word64.write s.timeout),
    member "ping_retries" (word32.write s.retries),
    member "connect_on_network_disconnect" (flag.write s.reconnect),
    member "register_connection_listener" (flag.write s.followDisconnects)]
  read v := do
    let standard := DetectionSettings.standard
    match (← v.given? ["ping_interval_ms", "ping_timeout_ms", "ping_retries",
      "connect_on_network_disconnect", "register_connection_listener"]).fields with
    | [interval, timeout, retries, reconnect, followDisconnects] =>
        return {
          interval := ← word64.orDefault standard.interval interval
          timeout := ← word64.orDefault standard.timeout timeout
          retries := ← word32.orDefault standard.retries retries
          reconnect := ← flag.orDefault standard.reconnect reconnect
          followDisconnects := ← flag.orDefault standard.followDisconnects followDisconnects }
    | _ => none

def readinessSettings : Form ReadinessSettings where
  write s := .object [member "default_timeout_ms" (word64.write s.defaultTimeout)]
  read v := do
    match (← v.given? ["default_timeout_ms"]).fields with
    | [timeout] => return ⟨← word64.orDefault ReadinessSettings.standard.defaultTimeout timeout⟩
    | _ => none

def nodeSettings : Form NodeSettings where
  write s := .object [
    member "cluster_name" (text.write s.cluster),
    member "fault_detection" (detectionSettings.write s.detection),
    member "readiness" (readinessSettings.write s.readiness)]
  read v := do
    let standard := NodeSettings.standard
    match (← v.given? ["cluster_name", "fault_detection", "readiness"]).fields with
    | [cluster, detection, readiness] =>
        return {
          cluster := ← text.orDefault standard.cluster cluster
          detection := ← detectionSettings.orDefault standard.detection detection
          readiness := ← readinessSettings.orDefault standard.readiness readiness }
    | _ => none

end ClusterWatch.Json
