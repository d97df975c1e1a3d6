import ClusterWatch.Transport.Endpoint

/-!
Rehearsals of an endpoint that sends pings. Some pings are sent, some datagrams come in, and
then the time of the pings that are still open runs out. A ping that is too large to be
sent fails at once.
-/
namespace ClusterWatch.Exchange

structure Call where
  target : NodeId
  address : Net.SocketAddress
  ping : PingRequest
  limit : Duration

/-- A call that has been made, with its number and the datagram that went out for it. -/
structure Made where
  call : Call
  number : Nat
  bytes : Option Wire.Bytes

structure Report where
  wires : List (Option Wire.Bytes)
  outcomes : List Outcome
  /-- How many pings were open before and after the datagrams came in. -/
  openBefore : Nat
  openAfter : Nat

private def make (e : Endpoint) (call : Call) : Made × Endpoint :=
  let (next, bytes) := e.send call.target call.address call.ping
  (⟨call, e.next, bytes⟩, next)

private def makeAll (e : Endpoint) : List Call → List Made × Endpoint
  | [] => ([], e)
  | call :: rest =>
      let (made, e) := make e call
      let (others, e) := makeAll e rest
      (made :: others, e)

/-- Nobody answers requests at this end. -/
private def nobody : Option (PingRequest → Except PingRefusal Unit) := none

private def hear (e : Endpoint) :
    List (Wire.Bytes × Net.SocketAddress) → List (Nat × Outcome) × Endpoint
  | [] => ([], e)
  | (bytes, source) :: rest =>
      let (e, reception) := e.receive nobody bytes source
      let (later, e) := hear e rest
      match reception with
      | .closed number outcome => ((number, outcome) :: later, e)
      | _ => (later, e)

private def outcome (heard : List (Nat × Outcome)) (made : Made) : Outcome :=
  match made.bytes with
  | none => .failed (.io "datagram too large")
  | some _ =>
      (heard.lookup made.number).getD (.failed (.timeout made.call.target made.call.limit))

def run (e : Endpoint) (calls : List Call) (datagrams : List (Wire.Bytes × Net.SocketAddress)) :
    Report × Endpoint :=
  let (made, sent) := makeAll e calls
  let (heard, after) := hear sent datagrams
  (⟨made.map Made.bytes, made.map (outcome heard), sent.opened.length, after.opened.length⟩,
    made.foldl (fun e made => e.forget made.number) after)

end ClusterWatch.Exchange
