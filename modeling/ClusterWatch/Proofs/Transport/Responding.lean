import ClusterWatch.Proofs.Transport.Crossing
import ClusterWatch.Transport.Network

/-!
Requests are answered once, and answers never. A datagram under way is good for one delivery, and a
request for one more, since its reply is none. Each delivery uses up one of these, so what has been
sent, doubled or forged comes to an end by itself.
-/
namespace ClusterWatch

open Wire

namespace Wire.Envelope

/-- What has been read stands at the beginning of the bytes. -/
theorem written_of_read {bytes : Bytes} {e : Envelope} (read : decode? bytes = some e) :
    e.Writable ∧ ∃ rest, bytes = e.encode ++ rest := by
  obtain ⟨⟨other, rest⟩, hread, rfl⟩ := Option.map_eq_some_iff.1 read
  obtain ⟨hwritable, hbytes⟩ := (Envelope.canonical bytes other rest).1 hread
  exact ⟨hwritable, rest, hbytes⟩

theorem response_not_request (n number : Nat) (action : String) (ping : PingRequest) :
    decode? (response n).encode ≠ some (.request number action ping) := by
  intro read
  obtain ⟨-, rest, hbytes⟩ := written_of_read read
  cases congrArg List.head? hbytes

theorem error_not_request (n number : Nat) (message action : String) (ping : PingRequest) :
    decode? (error n message).encode ≠ some (.request number action ping) := by
  intro read
  obtain ⟨-, rest, hbytes⟩ := written_of_read read
  cases congrArg List.head? hbytes

end Wire.Envelope

namespace Endpoint

variable {σ : Type} {handler : Option (PingRequest → Except PingRefusal σ)} {action : String}
  {ping : PingRequest} {number : Nat} {reply : Envelope}

/-- Why a request is not acknowledged, as its sender is told. -/
inductive Rejection (handler : Option (PingRequest → Except PingRefusal σ)) (action : String)
    (ping : PingRequest) : String → Prop
  | unknown (unknown : action ≠ PingRequest.action) :
      Rejection handler action ping ("no handler for action [" ++ action ++ "]")
  | unregistered (known : action = PingRequest.action) (missing : handler = none) :
      Rejection handler action ping ("no handler registered for [" ++ action ++ "]")
  | refused {handle : PingRequest → Except PingRefusal σ} {refusal : PingRefusal}
      (known : action = PingRequest.action) (registered : handler = some handle)
      (refuses : handle ping = .error refusal) :
      Rejection handler action ping refusal.message

/-- The reply acknowledges the request exactly if it is a ping and somebody accepts it; otherwise
it says why not. -/
structure Fitting (handler : Option (PingRequest → Except PingRefusal σ)) (number : Nat)
    (action : String) (ping : PingRequest) (reply : Envelope) : Prop where
  acknowledges : reply = .response number ↔ action = PingRequest.action ∧
    ∃ handle accepted, handler = some handle ∧ handle ping = .ok accepted
  refuses : reply ≠ .response number →
    ∃ text, Rejection handler action ping text ∧ reply = .error number text

theorem Rejection.fitting {text : String} (rejection : Rejection handler action ping text) :
    Fitting handler number action ping (.error number text) where
  acknowledges := by
    constructor
    · exact nofun
    · rintro ⟨known, handle, accepted, registered, accepts⟩
      cases rejection with
      | unknown unknown => exact absurd known unknown
      | unregistered _ missing => cases missing.symm.trans registered
      | refused _ registered' refuses =>
        cases registered'.symm.trans registered
        cases refuses.symm.trans accepts
  refuses _ := ⟨text, rejection, rfl⟩

theorem respond_fitting (handler : Option (PingRequest → Except PingRefusal σ)) (number : Nat)
    (action : String) (ping : PingRequest) :
    Fitting handler number action ping (respond handler number action ping).1 := by
  unfold respond
  split
  next unknown => exact (Rejection.unknown unknown).fitting
  next known =>
    have known : action = PingRequest.action := Decidable.not_not.1 known
    cases handler with
    | none => exact (Rejection.unregistered known rfl).fitting
    | some handle =>
      cases hhandle : handle ping with
      | ok accepted =>
        simp only [hhandle]
        exact ⟨iff_of_true rfl ⟨known, handle, accepted, rfl, hhandle⟩, fun h => absurd rfl h⟩
      | error refusal =>
        simp only [hhandle]
        exact (Rejection.refused known rfl hhandle).fitting

theorem Fitting.cases (fitting : Fitting handler number action ping reply) :
    reply = .response number ∨ ∃ text, reply = .error number text := by
  by_cases h : reply = .response number
  · exact .inl h
  · obtain ⟨text, -, heq⟩ := fitting.refuses h
    exact .inr ⟨text, heq⟩

/-- A reply that leaves the socket is read as what it is. -/
theorem Fitting.readable (fitting : Fitting handler number action ping reply)
    (hnumber : number < UInt64.size) (h : sendable reply.encode = true) :
    Envelope.decode? reply.encode = some reply := by
  rcases fitting.cases with rfl | ⟨text, rfl⟩
  · exact Envelope.decode?_encode hnumber
  · exact Envelope.decode?_encode (writable_error hnumber h)

end Endpoint

namespace Datagram

def isRequest (d : Datagram) : Bool :=
  match Envelope.decode? d.bytes with
  | some (.request ..) => true
  | _ => false

/-- An end may send the second when the first comes in, in some state and with somebody to ask. -/
def Prompts (d d' : Datagram) : Prop :=
  ∃ (e : Endpoint) (handler : Option Correspondence.Handler), e.reply? handler d = some d'

variable {d : Datagram}

theorem isRequest_iff :
    d.isRequest = true ↔
      ∃ number action ping, Envelope.decode? d.bytes = some (.request number action ping) := by
  unfold isRequest
  split
  next number action ping read => exact iff_of_true rfl ⟨number, action, ping, read⟩
  next other =>
    refine iff_of_false Bool.false_ne_true ?_
    rintro ⟨number, action, ping, read⟩
    exact other number action ping read

theorem unread_or_answers (d : Datagram) (h : d.isRequest = false) :
    Envelope.decode? d.bytes = none ∨ ∃ number outcome, AnswersPing d.bytes number outcome := by
  cases read : Envelope.decode? d.bytes with
  | none => exact .inl rfl
  | some envelope =>
    cases envelope with
    | request number action ping =>
      exact absurd (isRequest_iff.2 ⟨number, action, ping, read⟩) (Bool.eq_false_iff.1 h)
    | response number => exact .inr ⟨number, _, .acknowledges read⟩
    | error number message => exact .inr ⟨number, _, .refuses read⟩

end Datagram

/-- What an end makes of one datagram, in the state that it is in. -/
structure Correspondence.Responds (c : Correspondence) (handler : Option Handler) (d : Datagram) :
    Prop where
  unread : Envelope.decode? d.bytes = none → c.receive handler d.bytes d.source = c
  /-- Nothing goes back unless it is a request, and it is all the same whom one could ask. -/
  unanswered : d.isRequest = false → ∀ {σ : Type}
    (one other : Option (PingRequest → Except PingRefusal σ)),
      c.endpoint.reply? one d = none ∧
        c.endpoint.receive one d.bytes d.source = c.endpoint.receive other d.bytes d.source
  /-- One reply goes back for a request, and nothing else changes. -/
  answered : ∀ {number action ping},
    Envelope.decode? d.bytes = some (.request number action ping) →
      ∃ reply, Endpoint.Fitting handler number action ping reply ∧
        c.endpoint.reply? handler d = some ⟨d.target, d.source, reply.encode⟩ ∧
        (Endpoint.sendable reply.encode = true → Envelope.decode? reply.encode = some reply) ∧
        c.receive handler d.bytes d.source = c

namespace Endpoint

variable {σ : Type} {d : Datagram} {number : Nat} {action : String} {ping : PingRequest}

theorem reply?_request (e : Endpoint) (handler : Option (PingRequest → Except PingRefusal σ))
    (read : Envelope.decode? d.bytes = some (.request number action ping)) :
    e.reply? handler d =
      some ⟨d.target, d.source, (respond handler number action ping).1.encode⟩ := by
  rw [reply?, receive, read]

/-- Whatever is no request is dropped, or closes a ping of this end's. -/
theorem reply?_of_not_request (e : Endpoint)
    (handler : Option (PingRequest → Except PingRefusal σ)) (h : d.isRequest = false) :
    e.reply? handler d = none := by
  rcases d.unread_or_answers h with read | ⟨number, outcome, answers⟩
  · rw [reply?, receive, read]
  · rw [reply?, receive_of_answers answers]
    cases hfound : e.opened.find? fun p => p.number = number ∧ p.address = d.source <;>
      simp only [close, hfound]

theorem receive_of_not_request (e : Endpoint)
    (one other : Option (PingRequest → Except PingRefusal σ)) (h : d.isRequest = false) :
    e.receive one d.bytes d.source = e.receive other d.bytes d.source := by
  rcases d.unread_or_answers h with read | ⟨number, outcome, answers⟩
  · rw [receive, receive, read]
  · rw [receive_of_answers answers, receive_of_answers answers]

end Endpoint

theorem Correspondence.responds (c : Correspondence) (handler : Option Handler) (d : Datagram) :
    c.Responds handler d where
  unread read := by
    rw [receive, Endpoint.receive, read]
  unanswered h _ one other :=
    ⟨c.endpoint.reply?_of_not_request one h, c.endpoint.receive_of_not_request one other h⟩
  answered {number action ping} read := by
    have fitting := Endpoint.respond_fitting handler number action ping
    obtain ⟨hwritable, -⟩ := Envelope.written_of_read read
    refine ⟨_, fitting, c.endpoint.reply?_request handler read,
      fitting.readable hwritable.1, ?_⟩
    rw [receive, Endpoint.receive, read]

namespace Datagram

variable {d d' : Datagram}

/-- Only a request prompts a datagram, which goes back and is no request itself. -/
theorem Prompts.back (prompts : d.Prompts d') :
    d.isRequest = true ∧ d'.isRequest = false ∧ d'.source = d.target ∧ d'.target = d.source := by
  obtain ⟨e, handler, hreply⟩ := prompts
  cases hrequest : d.isRequest with
  | false => cases (e.reply?_of_not_request handler hrequest).symm.trans hreply
  | true =>
    obtain ⟨number, action, ping, read⟩ := isRequest_iff.1 hrequest
    have fitting := Endpoint.respond_fitting handler number action ping
    obtain rfl := Option.some.inj ((e.reply?_request handler read).symm.trans hreply)
    refine ⟨rfl, Bool.eq_false_iff.2 fun h => ?_, rfl, rfl⟩
    obtain ⟨number', action', ping', hread⟩ := isRequest_iff.1 h
    rcases fitting.cases with heq | ⟨text, heq⟩
    · exact Envelope.response_not_request _ _ _ _ (heq ▸ hread)
    · exact Envelope.error_not_request _ _ _ _ _ (heq ▸ hread)

end Datagram

namespace Network

variable {n next last : Network} {action : Action} {actions : List Action} {d d' : Datagram}
  {handler : Option Correspondence.Handler} {taken : Bool}

/-- How many deliveries what is under way is good for. -/
def weight (n : Network) : Nat := n.underWay.length + n.underWay.countP Datagram.isRequest

def Action.delivers : Action → Bool
  | .deliver .. => true
  | _ => false

/-- It puts a datagram under way that is not a reply. -/
def Action.arrives : Action → Bool
  | .move _ _ .sent => true
  | .double _ => true
  | .forge _ => true
  | _ => false

theorem prompts_of_mem_replies (h : d' ∈ n.replies d handler taken) : d.Prompts d' := by
  obtain ⟨hreply, -⟩ := Option.mem_filter_iff.1 (Option.mem_toList.1 h)
  exact ⟨(n.ends d.target).endpoint, handler, hreply⟩

theorem length_replies_le (n : Network) (d : Datagram)
    (handler : Option Correspondence.Handler) (taken : Bool) :
    (n.replies d handler taken).length ≤ 1 :=
  Option.length_toList_le

theorem weight_send (n : Network) (datagrams : List Datagram) :
    (n.send datagrams).weight =
      n.weight + datagrams.length + datagrams.countP Datagram.isRequest := by
  simp only [weight, send, List.length_append, List.countP_append]
  omega

theorem weight_send_le (n : Network) (datagrams : List Datagram) :
    (n.send datagrams).weight ≤ n.weight + 2 * datagrams.length := by
  have hcount : datagrams.countP Datagram.isRequest ≤ datagrams.length := List.countP_le_length
  rw [weight_send]
  omega

theorem length_outgoing (address : Net.SocketAddress) (call : Call) (move : Call.Move)
    (number : Nat) :
    (outgoing address call move).length =
      if (Action.move address number move).arrives then 1 else 0 := by
  cases move <;> rfl

theorem weight_take (h : d ∈ n.underWay) :
    (n.take d).weight + 1 + (if d.isRequest then 1 else 0) = n.weight := by
  have hperm := List.perm_cons_erase h
  have hlength := hperm.length_eq
  have hcount := hperm.countP_eq Datagram.isRequest
  rw [List.length_cons] at hlength
  rw [List.countP_cons] at hcount
  show (n.underWay.erase d).length + (n.underWay.erase d).countP Datagram.isRequest + 1 + _ =
    n.underWay.length + n.underWay.countP Datagram.isRequest
  omega

theorem weight_put (n : Network) (address : Net.SocketAddress) (c : Correspondence) :
    (n.put address c).weight = n.weight := rfl

/-- The replies to a datagram weigh less than the datagram. -/
theorem weight_replies (n : Network) (d : Datagram) (handler : Option Correspondence.Handler)
    (taken : Bool) :
    (n.replies d handler taken).length +
      (n.replies d handler taken).countP Datagram.isRequest ≤ if d.isRequest then 1 else 0 := by
  have hcount : (n.replies d handler taken).countP Datagram.isRequest = 0 := by
    refine List.countP_eq_zero.2 fun d' h => ?_
    obtain ⟨-, hreply, -⟩ := (prompts_of_mem_replies h).back
    simp [hreply]
  have hlength := n.length_replies_le d handler taken
  split
  next hrequest => omega
  next hrequest =>
    have hnone : n.replies d handler taken = [] := by
      refine List.eq_nil_iff_forall_not_mem.2 fun d' h => ?_
      exact hrequest (prompts_of_mem_replies h).back.1
    simp [hnone]

theorem weight_deliver (h : d ∈ n.underWay) (handler : Option Correspondence.Handler)
    (taken : Bool) : (n.deliver d handler taken).weight + 1 ≤ n.weight := by
  have htake := weight_take h
  have hreplies := n.weight_replies d handler taken
  rw [deliver, weight_send, weight_put]
  omega

/-- Each delivery takes one off the weight, and whatever arrives adds two at the most. -/
theorem act_weight (hact : n.act action = some next) :
    (if action.delivers then 1 else 0) + next.weight ≤
      n.weight + 2 * (if action.arrives then 1 else 0) := by
  cases action with
  | call address node target ping limit =>
    obtain rfl := Option.some.inj hact
    show 0 + n.weight ≤ n.weight + 0
    omega
  | move address number move =>
    obtain ⟨call, -, hmove⟩ := Option.bind_eq_some_iff.1 hact
    obtain ⟨c, -, rfl⟩ := Option.map_eq_some_iff.1 hmove
    have hweight := weight_send_le (n.put address c) (outgoing address call move)
    rw [length_outgoing address call move number] at hweight
    exact (Nat.zero_add _).symm ▸ hweight
  | deliver d handler taken =>
    obtain ⟨held, heq⟩ := Option.ite_none_right_eq_some.1 hact
    obtain rfl := Option.some.inj heq
    have hweight := weight_deliver held handler taken
    show 1 + _ ≤ n.weight + 0
    omega
  | double d =>
    obtain ⟨-, heq⟩ := Option.ite_none_right_eq_some.1 hact
    obtain rfl := Option.some.inj heq
    exact (Nat.zero_add _).symm ▸ weight_send_le n [d]
  | lose d =>
    obtain ⟨held, heq⟩ := Option.ite_none_right_eq_some.1 hact
    obtain rfl := Option.some.inj heq
    have hweight := weight_take held
    show 0 + _ ≤ n.weight + 0
    omega
  | forge d =>
    obtain rfl := Option.some.inj hact
    exact (Nat.zero_add _).symm ▸ weight_send_le n [d]

theorem acts_weight (hacts : n.acts actions = some last) :
    actions.countP Action.delivers + last.weight ≤
      n.weight + 2 * actions.countP Action.arrives := by
  induction actions generalizing n with
  | nil =>
    obtain rfl := Option.some.inj hacts
    exact Nat.le_of_eq (Nat.add_comm ..)
  | cons action rest ih =>
    obtain ⟨next, hact, hrest⟩ := Option.bind_eq_some_iff.1 hacts
    have hstep := act_weight hact
    have hlater := ih hrest
    rw [List.countP_cons, List.countP_cons]
    omega

/-- What comes of datagrams in a network, at the end of a run from `n`. -/
structure Settling (n : Network) (actions : List Action) (last : Network) : Prop where
  responds : ∀ address handler d, (last.ends address).Responds handler d
  /-- What is delivered is gone, and one datagram at most takes its place. -/
  delivered : ∀ {d handler taken next}, last.act (.deliver d handler taken) = some next →
    ∃ sent : Option Datagram, (∀ d' ∈ sent, d.Prompts d') ∧
      next.underWay = last.underWay.erase d ++ sent.toList
  /-- A request is replied to, should the socket take the reply. -/
  replied : ∀ {d handler next}, d.isRequest = true →
    last.act (.deliver d handler true) = some next →
      ∃ d', d.Prompts d' ∧ (Endpoint.sendable d'.bytes = true →
        next.underWay = last.underWay.erase d ++ [d'])
  /-- Nothing but a request is replied to, and so nothing is replied to a reply. -/
  prompted : ∀ {d d' : Datagram}, d.Prompts d' → d.isRequest = true ∧ d'.source = d.target ∧
    d'.target = d.source ∧ ∀ d'', ¬ d'.Prompts d''
  /-- There are no more deliveries than all that was under way, or has arrived, is good for. -/
  bounded : actions.countP Action.delivers + last.weight ≤
    n.weight + 2 * actions.countP Action.arrives

/-- However datagrams are delivered, lost, doubled and forged, each request is answered once and no
answer is, so nothing that ends of sockets tell each other goes on forever. -/
theorem exchanges_settle (hacts : n.acts actions = some last) : Settling n actions last := by
  constructor
  case responds =>
    intro address handler d
    exact (last.ends address).responds handler d
  case delivered =>
    intro d handler taken next hact
    obtain ⟨-, heq⟩ := Option.ite_none_right_eq_some.1 hact
    obtain rfl := Option.some.inj heq
    refine ⟨_, fun d' h => ?_, rfl⟩
    exact prompts_of_mem_replies (Option.mem_toList.2 h)
  case replied =>
    intro d handler next hrequest hact
    obtain ⟨-, heq⟩ := Option.ite_none_right_eq_some.1 hact
    obtain rfl := Option.some.inj heq
    obtain ⟨number, action, ping, read⟩ := Datagram.isRequest_iff.1 hrequest
    have hreply := (last.ends d.target).endpoint.reply?_request handler read
    refine ⟨_, ⟨_, handler, hreply⟩, fun hsendable => ?_⟩
    show last.underWay.erase d ++ last.replies d handler true = _
    rw [replies, hreply, Option.filter_some, Bool.true_and, if_pos hsendable]
    rfl
  case prompted =>
    intro d d' prompts
    obtain ⟨hrequest, hreply, hback⟩ := prompts.back
    refine ⟨hrequest, hback.1, hback.2, fun d'' hagain => ?_⟩
    exact Bool.noConfusion (hreply.symm.trans hagain.back.1)
  case bounded => exact acts_weight hacts

section Trial

def homeAddress : Net.SocketAddress := .v4 ⟨127, 0, 0, 1⟩ 4699

def trialPing : PingRequest := ⟨⟨"peer"⟩, none, ⟨"home"⟩, 7⟩

def asked : Datagram :=
  ⟨homeAddress, Correspondence.peerAddress, (Endpoint.request 1 trialPing).encode⟩

def acknowledged : Datagram :=
  ⟨Correspondence.peerAddress, homeAddress, (Envelope.response 1).encode⟩

def refusedMismatch : Datagram :=
  ⟨Correspondence.peerAddress, homeAddress,
    (Envelope.error 1 (PingRefusal.targetMismatch ⟨"peer"⟩ ⟨"other"⟩).message).encode⟩

/-- A ping is doubled on its way, accepted once and then refused; the refusal comes in first, and so
does not matter what else does. -/
def doubledActions : List Action :=
  [.call homeAddress ⟨"peer"⟩ Correspondence.peerAddress trialPing (.ofSeconds 30 0),
    .move homeAddress 1 .enter, .move homeAddress 1 .sent, .double asked,
    .deliver asked (some fun _ => .ok ()) true,
    .deliver asked (some fun _ => .error (.targetMismatch ⟨"peer"⟩ ⟨"other"⟩)) true,
    .deliver refusedMismatch none true, .deliver acknowledged none true,
    .move homeAddress 1 .resume]

def doubled : Network := (start.acts doubledActions).get (by decide +kernel)

theorem exchanges_settle_doubled :
    start.acts doubledActions = some doubled ∧ Settling start doubledActions doubled ∧
      doubled.underWay = [] ∧ (doubled.ends homeAddress).outcomes.map Prod.fst = [1] := by
  have hacts : start.acts doubledActions = some doubled := (Option.some_get _).symm
  exact ⟨hacts, exchanges_settle hacts, by decide +kernel, by decide +kernel⟩

end Trial

end Network
end ClusterWatch
