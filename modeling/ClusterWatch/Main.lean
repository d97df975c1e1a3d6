import ClusterWatch.Membership.FreshId
import ClusterWatch.Responder
import Std.Async.Signal
import Std.Async.Timer
import Std.Async.UDP

/-!
The program that runs a node. It reads its command line and its settings, opens its socket,
and then waits for what comes first: a datagram, the next time at which something is due, or
an interrupt, on which it shuts down.
-/
namespace ClusterWatch.Main

open Std.Async

private def outward : Net.SocketAddress → Std.Net.SocketAddress
  | .v4 ip socket => .v4 ⟨.ofParts ip.a ip.b ip.c ip.d, socket⟩
  | .v6 ip socket _ _ => .v6 ⟨.ofParts ip.a ip.b ip.c ip.d ip.e ip.f ip.g ip.h, socket⟩

private def inward : Std.Net.SocketAddress → Net.SocketAddress
  | .v4 ⟨ip, socket⟩ =>
      let o := ip.octets
      .v4 ⟨o[0], o[1], o[2], o[3]⟩ socket
  | .v6 ⟨ip, socket⟩ =>
      let s := ip.segments
      .v6 ⟨s[0], s[1], s[2], s[3], s[4], s[5], s[6], s[7]⟩ socket 0 0

private def randomWord (bytes : USize) : IO Nat := do
  return (← IO.getRandomBytes bytes).data.foldl (fun n byte => 256 * n + byte.toNat) 0

private def freshId : IO NodeId := do
  return .ofRandom (← randomWord 4) (← randomWord 2) (← randomWord 2) (← randomWord 2)
    (← randomWord 6)

private def log (line : String) : IO Unit := do
  IO.println line
  (← IO.getStdout).flush

private def complain (message : String) : IO UInt32 := do
  IO.eprintln ("Error: " ++ message)
  return 1

private def fileContent (path : String) : IO (Option (List UInt8)) := do
  match ← (IO.FS.readBinFile path).toBaseIO with
  | .ok bytes => return some bytes.data.toList
  | .error _ => return none

/-- Whether a datagram that was not sent failed for another cause than its destination. -/
private def reachable : IO.Error → Bool
  | .resourceVanished .. => false
  | .noSuchThing .. => false
  | .unsupportedOperation _ details => details ≠ "address not available"
  | _ => true

private def sendPing (socket : UDP.Socket) (r : Responder) (ping : Responder.Outgoing) :
    IO Responder := do
  match ping.bytes with
  | none => return r.fail ping true "message too long"
  | some bytes =>
      match ← (socket.send bytes.toByteArray (some (outward ping.node.address))).block.toBaseIO with
      | .ok () => return r
      | .error e => return r.fail ping (reachable e) (toString e)

private def carryOut (socket : UDP.Socket) (r : Responder) : Responder.Effect → IO Responder
  | .ping outgoing => sendPing socket r outgoing
  | .log line => do
      log line
      return r

private def receive (socket : UDP.Socket) (r : Responder) (bytes : Wire.Bytes)
    (source : Net.SocketAddress) : IO Responder := do
  let (replies, r) := r.receive bytes source
  for reply in replies do
    match ← (socket.send reply.toByteArray (some (outward source))).block.toBaseIO with
    | .ok () => pure ()
    | .error e => log ("Failed to reply to " ++ source.text ++ ": " ++ toString e)
  return r

/-- What a node wakes up for. -/
private inductive Wake where
  | due
  | interrupted
  | datagram (bytes : Wire.Bytes) (source : Option Net.SocketAddress)

/-- No datagram is larger. -/
private def receiveRoom : UInt64 := 65536

private def listen (socket : UDP.Socket) : IO (AsyncTask Wake) := do
  return (← (socket.recv receiveRoom).toIO).map fun (bytes, source) =>
    .datagram bytes.data.toList (source.map inward)

private def interruption : IO (AsyncTask Wake) := do
  return (← (← Signal.Waiter.mk .sigint false).wait).map fun _ => .interrupted

/-- Milliseconds between two reports on how the node is doing. -/
private def statsInterval : Nat := 5000

/-- Milliseconds to wait after nothing could be received. -/
private def deafInterval : UInt32 := 100

/-- What a node has at hand while it runs. -/
private structure Site where
  socket : UDP.Socket
  interrupt : AsyncTask Wake
  /-- When the node was started; its own times are counted from there. -/
  began : Nat

private def Site.now (site : Site) : IO Nat := do return (← IO.monoMsNow) - site.began

/-- Sleeps until an interrupt, a datagram, or the given time. -/
private def Site.sleep (site : Site) (incoming : AsyncTask Wake) (time : Nat) :
    IO (Except IO.Error Wake) := do
  let alarm ← (Sleep.mk (.ofNat (time - (← site.now)))).block
  let due := (← alarm.wait.toIO).map fun _ => .due
  let wake ← IO.waitAny [site.interrupt, incoming, due]
  alarm.stop
  return wake

/-- Goes on until the interrupt. -/
private partial def Site.serve (site : Site) (incoming : AsyncTask Wake) (nextStats : Nat)
    (r : Responder) : IO Unit := do
  let now ← site.now
  let (effects, r) := (r.advanceTo now).post
  let r ← effects.foldlM (carryOut site.socket) r
  if nextStats ≤ now then
    r.stats.forM (log ·)
    site.serve incoming (nextStats + statsInterval) r
  else
    let next := if effects.isEmpty then (r.nextWake? nextStats).getD nextStats else now
    match ← site.sleep incoming next with
    | .ok .due => site.serve incoming nextStats r
    | .ok .interrupted =>
        log Responder.farewell
        discard <| r.shutDown.post.1.foldlM (carryOut site.socket) r
    | .ok (.datagram _ none) => site.serve (← listen site.socket) nextStats r
    | .ok (.datagram bytes (some source)) =>
        let r ← receive site.socket (r.advanceTo (← site.now)) bytes source
        site.serve (← listen site.socket) nextStats r
    | .error e =>
        log ("Failed to receive a datagram: " ++ toString e)
        IO.sleep deafInterval
        site.serve (← listen site.socket) nextStats r

private def openSocket (address : Net.SocketAddress) : IO (UDP.Socket × Net.SocketAddress) := do
  let socket ← UDP.Socket.mk
  socket.bind (outward address)
  return (socket, inward (← socket.getSockName))

private def runNode (line : CommandLine) (settings : NodeSettings) : IO UInt32 := do
  match ← (openSocket line.bind).toBaseIO with
  | .error e => complain (TransportError.io (toString e)).message
  | .ok (socket, address) =>
      let id ← match line.name with
        | some name => pure ⟨name⟩
        | none => freshId
      let self := Node.named id address none
      log (Responder.greeting self.text line.bind)
      let site : Site := ⟨socket, ← interruption, ← IO.monoMsNow⟩
      log "Press Ctrl+C to shutdown"
      site.serve (← listen socket) 0 (.opening line self settings)
      return 0

def run (arguments : List String) : IO UInt32 := do
  match CommandLine.parse arguments with
  | .error .tooFew =>
      for line in CommandLineError.help do IO.eprintln line
      return 1
  | .error e => complain e.message
  | .ok line =>
      let content ← match line.config with
        | some path => fileContent path
        | none => pure none
      match line.settings content with
      | .error e => complain e.message
      | .ok settings => runNode line settings

end ClusterWatch.Main

/-- Runs a node from its command line, and exits with 1 if it cannot be started. -/
def main (arguments : List String) : IO UInt32 := ClusterWatch.Main.run arguments
