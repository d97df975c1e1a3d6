import ClusterWatch.Proofs.Detector.Sending
import ClusterWatch.Proofs.Transport.Correlation
import ClusterWatch.Proofs.Wire.Faithful

/-!
A ping on its way to another node and back. What a detector asks is written, carried under a number
of its sender's, read by whoever is at the address and judged there; the verdict comes back under
the same number and finds the call that waits for it. So whether a ping is acknowledged depends on
its target and on the two clusters alone, whatever texts they are named by.
-/
namespace ClusterWatch

namespace Endpoint

open Wire Wire.Format

variable {number : Nat} {ping : PingRequest} {message : String}

/-- A datagram that leaves the socket holds whatever it is to carry, its version apart. -/
theorem writable_request (hnumber : number < UInt64.size) (hversion : SignedWritable ping.version)
    (h : sendable (request number ping).encode = true) : (request number ping).Writable := by
  have hlength : (request number ping).encode.length ≤ maxDatagram := of_decide_eq_true h
  have hsize : maxDatagram < UInt64.size := by decide
  have hsplit : (request number ping).encode.length =
      (Envelope.kind.encode 0).length + ((word 8).encode number).length +
        (text.encode PingRequest.action).length + (nodeId.encode ping.target).length +
        ((optional clusterName).encode ping.cluster).length +
        (nodeId.encode ping.coordinator).length + ((signedWord 8).encode ping.version).length := by
    show List.length ((_ : Bytes) ++ (_ ++ (_ ++ (_ ++ (_ ++ (_ ++ _)))))) = _
    simp only [List.length_append]
    omega
  refine ⟨hnumber, by decide, ?_, ?_, ?_, hversion⟩
  · have htarget : (nodeId.encode ping.target).length ≤ maxDatagram := by omega
    exact textWritable_of_length_le htarget hsize
  · intro name hname
    have hcluster : ((optional clusterName).encode ping.cluster).length =
        (text.encode name.text).length + 1 := by
      rw [Option.mem_def.1 hname]
      rfl
    exact textWritable_of_length_le (n := maxDatagram) (by omega) hsize
  · have hcoordinator : (nodeId.encode ping.coordinator).length ≤ maxDatagram := by omega
    exact textWritable_of_length_le hcoordinator hsize

theorem writable_error (hnumber : number < UInt64.size)
    (h : sendable (Envelope.error number message).encode = true) :
    (Envelope.error number message).Writable := by
  have hlength : (Envelope.error number message).encode.length ≤ maxDatagram := of_decide_eq_true h
  have hsize : maxDatagram < UInt64.size := by decide
  have hsplit : (Envelope.error number message).encode.length =
      (Envelope.kind.encode 2).length + ((word 8).encode number).length +
        (text.encode message).length := by
    show List.length ((_ : Bytes) ++ (_ ++ _)) = _
    simp only [List.length_append]
    omega
  exact ⟨hnumber, textWritable_of_length_le (n := maxDatagram) (by omega) hsize⟩

end Endpoint

namespace Station

variable {s : Station} {request : PingRequest}

theorem receivePing_refused {refusal : PingRefusal} (alive : s.alive = true)
    (h : request.refusal? s.detector.self.id s.detector.cluster = some refusal) :
    s.receivePing request = .error refusal := by
  rw [receivePing, if_pos alive, Detector.receivePing, h]
  rfl

/-- A ping that is not refused is news, and nothing else comes of it. -/
theorem receivePing_welcome (alive : s.alive = true)
    (h : request.refusal? s.detector.self.id s.detector.cluster = none) :
    s.receivePing request = .ok { s with detector := { s.detector with
      bulletin := (s.detector.bulletin.submit? (.pingReceived request)).getD
        s.detector.bulletin } } := by
  rw [receivePing, if_pos alive, Detector.receivePing, h]
  cases s.detector.bulletin.submit? (.pingReceived request) <;> rfl

end Station

/-- Whoever refuses a ping of a detector is not whom it means, or is of another cluster. -/
theorem Detector.refusal?_pingRequest (d : Detector) (target : Node) (version : Int) (self : NodeId)
    (cluster : ClusterName) :
    (d.pingRequest target version).refusal? self cluster =
      if target.id ≠ self then some (.targetMismatch target.id self)
      else if d.cluster.text = "" ∨ d.cluster = cluster then none
      else some (.clusterMismatch d.cluster cluster) := rfl

namespace Endpoint

/-- A ping that comes in whole is answered from what is said of it. -/
theorem receive_request {σ : Type} (e : Endpoint) {number : Nat} {ping : PingRequest}
    (h : (request number ping).Writable) (handle : PingRequest → Except PingRefusal σ)
    (source : Net.SocketAddress) :
    e.receive (some handle) (request number ping).encode source =
      (e, match handle ping with
        | .ok accepted => .answered (Wire.Envelope.response number).encode (some accepted)
        | .error refusal =>
            .answered (Wire.Envelope.error number refusal.message).encode none) := by
  rw [receive, Wire.Envelope.decode?_encode h]
  cases hhandle : handle ping <;> simp [request, respond, hhandle]

end Endpoint

/-- The call has carried the ping to the node, and waits for an answer. -/
structure Call.Carries (call : Call) (target : Node) (request : PingRequest) : Prop where
  node : call.node = target.id
  address : call.address = target.address
  ping : call.ping = request
  waiting : call.stage = .waiting
  unanswered : call.answer = none

/-- Once the reply has come in from where the call went to, the call comes out like this, whatever
happens besides before it goes on. -/
def Correspondence.Resolves (c : Correspondence) (call : Call) (reply : Wire.Bytes)
    (outcome : Outcome) : Prop :=
  ∀ handler later last, (∀ action ∈ later, ∀ move, action ≠ .move call.number move) →
    c.acts (.receive handler reply call.address :: later) = some last →
      ∃ final, last.act (.move call.number .resume) = some final ∧
        final.outcomes = (call.number, outcome) :: last.outcomes

namespace Correspondence

variable {c : Correspondence} {call : Call} {actions : List Action} {reply : Wire.Bytes}
  {verdict : NodeId → Outcome}

theorem resolves_of_answers (hacts : start.acts actions = some c) (held : call ∈ c.calls)
    (waiting : call.stage = .waiting) (unanswered : call.answer = none)
    (answers : AnswersPing reply call.number verdict) :
    c.Resolves call reply (verdict call.node) := by
  intro handler later last hstill hlater
  let heard := actions ++ .receive handler reply call.address :: later
  have sound : c.Sound heard :=
    acts_sound (sound_start heard) (fun action h => List.mem_append_left _ h) hacts
  have hopen : call.isOpen = true := by simp [Call.isOpen, Call.underWay, waiting, unanswered]
  obtain ⟨next, hact, hrest⟩ := runs_cons.1 hlater
  have hnext : next = (c.forget call.number).hand call.number (verdict call.node) := by
    rw [← sound.receive_open held hopen answers]
    exact (Option.some.inj hact).symm
  let answered : Call := { call with answer := some (verdict call.node) }
  have hanswered : answered ∈ next.calls := by
    rw [hnext]
    exact List.mem_map.2 ⟨call, held, if_pos rfl⟩
  have soundNext : next.Sound heard :=
    (act_step sound hact).sound sound (List.mem_append_right _ List.mem_cons_self)
  have hheard : ∀ action ∈ later, action ∈ heard := fun action h =>
    List.mem_append_right _ (List.mem_cons_of_mem _ h)
  have hkept : answered ∈ last.calls :=
    acts_keeps soundNext hheard hrest hanswered (by simp [answered, Call.isOpen]) hstill
  have soundLast := acts_sound soundNext hheard hrest
  refine ⟨last.finish answered (verdict call.node), ?_, rfl⟩
  have hfind : last.find? call.number = some answered := soundLast.find?_eq hkept
  rw [act, hfind, Option.bind_some, move, if_pos waiting]
  exact soundLast.resume_eq hkept waiting

end Correspondence

/-- What comes of a ping from `A` to a node that is thought to be where `B` is: how it comes out for
its sender, and in what state it leaves its receiver. -/
structure Crossed (A B : Station) (target : Node) (request : PingRequest) (outcome : Outcome)
    (after : Station) : Prop where
  request_eq : request = ⟨target.id, some A.detector.cluster, A.detector.self.id,
    A.supplier.current.version⟩
  acknowledged_iff : outcome = .done ↔ target.id = B.detector.self.id ∧
    (A.detector.cluster.text = "" ∨ A.detector.cluster = B.detector.cluster)
  misdirected : target.id ≠ B.detector.self.id →
    outcome = .failed (.remote target.id
      (PingRefusal.targetMismatch target.id B.detector.self.id).message)
  foreign : target.id = B.detector.self.id → outcome ≠ .done →
    outcome = .failed (.remote target.id
      (PingRefusal.clusterMismatch A.detector.cluster B.detector.cluster).message)
  noticed : outcome = .done → B.detector.bulletin.shut = false →
    after.detector.bulletin.waiting = B.detector.bulletin.waiting ++ [.pingReceived request]
  unnoticed : outcome ≠ .done ∨ B.detector.bulletin.shut = true → after = B
  monitored : after.detector.monitored = B.detector.monitored

section Crossing

variable {A B : Station} {target : Node} {g : Generation} {request : PingRequest}

theorem crossed_of_refusal {refusal : PingRefusal} (sends : A.Sends target g request)
    (h : request.refusal? B.detector.self.id B.detector.cluster = some refusal) :
    Crossed A B target request (.failed (.remote target.id refusal.message)) B := by
  obtain rfl := sends.request_eq
  rw [Detector.refusal?_pingRequest] at h
  constructor
  case request_eq => rfl
  case acknowledged_iff =>
    refine ⟨fun hdone => (nomatch hdone), ?_⟩
    rintro ⟨hself, hcluster⟩
    rw [if_neg (not_not_intro hself), if_pos hcluster] at h
    cases h
  case misdirected =>
    intro hother
    rw [if_pos hother] at h
    cases h
    rfl
  case foreign =>
    intro hself _
    rw [if_neg (not_not_intro hself)] at h
    split at h
    · cases h
    · cases h
      rfl
  case noticed => exact fun hdone => nomatch hdone
  case unnoticed => exact fun _ => rfl
  case monitored => rfl

theorem crossed_of_welcome (sends : A.Sends target g request)
    (h : request.refusal? B.detector.self.id B.detector.cluster = none) :
    Crossed A B target request .done { B with detector := { B.detector with
      bulletin := (B.detector.bulletin.submit? (.pingReceived request)).getD
        B.detector.bulletin } } := by
  obtain rfl := sends.request_eq
  rw [Detector.refusal?_pingRequest] at h
  have hwelcome : target.id = B.detector.self.id ∧
      (A.detector.cluster.text = "" ∨ A.detector.cluster = B.detector.cluster) := by
    split at h
    · cases h
    next hself =>
      split at h
      next hcluster => exact ⟨Classical.not_not.1 hself, hcluster⟩
      · cases h
  constructor
  case request_eq => rfl
  case acknowledged_iff => exact ⟨fun _ => hwelcome, fun _ => rfl⟩
  case misdirected => exact fun hother => absurd hwelcome.1 hother
  case foreign => exact fun _ hrefused => absurd rfl hrefused
  case noticed =>
    intro _ hopen
    simp [Bulletin.submit?, hopen]
  case unnoticed =>
    rintro (hrefused | hshut)
    · exact absurd rfl hrefused
    · simp [Bulletin.submit?, hshut]
  case monitored => rfl

/-- A ping is acknowledged if it reaches whom it means and both are of one cluster, or its sender's
has no name; otherwise its sender is told why not. Its receiver has news of it if it is acknowledged
and has not been shut, and is the same as before in every other way. -/
theorem pings_cross {actions : List Correspondence.Action} {c : Correspondence} {call : Call}
    (sends : A.Sends target g request)
    (hversion : Wire.Format.SignedWritable A.supplier.current.version)
    (hacts : Correspondence.start.acts actions = some c) (hfew : c.calls.length < UInt64.size)
    (held : call ∈ c.calls) (carries : call.Carries target request) (alive : B.alive = true)
    (e : Endpoint) (source : Net.SocketAddress) :
    ∃ reply accepted outcome,
      e.receive (some B.receivePing) call.bytes source = (e, .answered reply accepted) ∧
        Crossed A B target request outcome (accepted.getD B) ∧
          (Endpoint.sendable reply = true → c.Resolves call reply outcome) := by
  have sound : c.Sound actions := Correspondence.acts_sound (Correspondence.sound_start actions)
    (fun _ h => h) hacts
  have hnumber : call.number < UInt64.size := Nat.lt_of_le_of_lt (sound.number_le held) hfew
  have hwritable : (Endpoint.request call.number request).Writable := by
    have hfits := (sound.orderly call held).fits
    rw [carries.waiting] at hfits
    have hsame : request.version = A.supplier.current.version :=
      congrArg PingRequest.version sends.request_eq
    apply Endpoint.writable_request hnumber (hsame ▸ hversion)
    rw [← carries.ping]
    exact hfits
  have hreceive := e.receive_request hwritable B.receivePing source
  have hresolves {reply : Wire.Bytes} {verdict : NodeId → Outcome}
      (answers : AnswersPing reply call.number verdict) :
      c.Resolves call reply (verdict target.id) := by
    rw [← carries.node]
    exact Correspondence.resolves_of_answers hacts held carries.waiting carries.unanswered answers
  rw [Call.bytes, carries.ping]
  cases hrefusal : request.refusal? B.detector.self.id B.detector.cluster with
  | none =>
    rw [Station.receivePing_welcome alive hrefusal] at hreceive
    refine ⟨_, _, .done, hreceive, crossed_of_welcome sends hrefusal, fun _ => ?_⟩
    have hread := Wire.Envelope.decode?_encode (e := .response call.number) hnumber
    exact hresolves (.acknowledges hread)
  | some refusal =>
    rw [Station.receivePing_refused alive hrefusal] at hreceive
    refine ⟨_, _, _, hreceive, crossed_of_refusal sends hrefusal, fun hsendable => ?_⟩
    have hread := Wire.Envelope.decode?_encode (Endpoint.writable_error hnumber hsendable)
    exact hresolves (.refuses hread)

end Crossing

section Trial

/-- The home node is about to ping its peer. -/
def calling : Station :=
  Trial.after .standard .silent [.reconcile Trial.together, .run true (.worker ⟨1⟩)] (by decide)

def called : Station := .start Trial.peer ⟨"trial"⟩ .standard Trial.together .silent

def trialPing : PingRequest := ⟨Trial.peer.id, some ⟨"trial"⟩, Trial.home.id, -1⟩

def carryingActions : List Correspondence.Action :=
  [.call Trial.peer.id Trial.peer.address trialPing (.ofSeconds 30 0), .move 1 .enter,
    .move 1 .sent]

def carrying : Correspondence := (Correspondence.start.acts carryingActions).get (by decide +kernel)

def carrier : Call :=
  ⟨1, Trial.peer.id, Trial.peer.address, trialPing, .ofSeconds 30 0, .waiting, none⟩

theorem pings_cross_peer :
    calling.Sends Trial.peer ⟨1⟩ trialPing ∧
      Wire.Format.SignedWritable calling.supplier.current.version ∧
      Correspondence.start.acts carryingActions = some carrying ∧
      carrying.calls.length < UInt64.size ∧ carrier ∈ carrying.calls ∧
      carrier.Carries Trial.peer trialPing ∧ called.alive = true ∧
      ∃ reply accepted,
        Endpoint.start.receive (some called.receivePing) carrier.bytes default =
          (Endpoint.start, .answered reply accepted) ∧
        (accepted.getD called).detector.bulletin.waiting = [.pingReceived trialPing] ∧
        (Endpoint.sendable reply = true → carrying.Resolves carrier reply .done) := by
  have sends : calling.Sends Trial.peer ⟨1⟩ trialPing :=
    ⟨true, (calling.run true (.worker ⟨1⟩)).get (by decide), (Option.some_get _).symm, by decide⟩
  have hversion : Wire.Format.SignedWritable calling.supplier.current.version := by decide
  have hacts : Correspondence.start.acts carryingActions = some carrying :=
    (Option.some_get _).symm
  have hfew : carrying.calls.length < UInt64.size := by decide +kernel
  have held : carrier ∈ carrying.calls := by decide +kernel
  have carries : carrier.Carries Trial.peer trialPing := ⟨rfl, rfl, rfl, rfl, rfl⟩
  have alive : called.alive = true := by decide
  obtain ⟨reply, accepted, outcome, hreceive, crossed, hresolves⟩ :=
    pings_cross sends hversion hacts hfew held carries alive Endpoint.start default
  obtain rfl : outcome = .done := crossed.acknowledged_iff.2 (by decide)
  exact ⟨sends, hversion, hacts, hfew, held, carries, alive, reply, accepted, hreceive,
    crossed.noticed rfl (by decide), hresolves⟩

end Trial

end ClusterWatch
