import ClusterWatch.Proofs.Others
import ClusterWatch.Transport.Correspondence

/-!
Which answers close which calls. Numbers lead back from answers to calls: the open pings of an end
are its calls that are under way and have no answer, and every other answer, however it came about,
is dropped. What ends a call, be it an answer, its time, the socket or whoever made it, takes the
entry of that call with it and of no other.
-/
namespace ClusterWatch

/-- The datagram answers the ping of a number; what that makes of the ping may name its node. -/
inductive AnswersPing (bytes : Wire.Bytes) (number : Nat) : (NodeId → Outcome) → Prop
  | acknowledges (read : Wire.Envelope.decode? bytes = some (.response number)) :
      AnswersPing bytes number fun _ => .done
  | refuses {message : String}
      (read : Wire.Envelope.decode? bytes = some (.error number message)) :
      AnswersPing bytes number fun node => .failed (.remote node message)

namespace Endpoint

variable {σ : Type} {e : Endpoint} {handler : Option (PingRequest → Except PingRefusal σ)}
  {bytes : Wire.Bytes} {source : Net.SocketAddress} {number : Nat} {outcome : NodeId → Outcome}

theorem receive_of_answers (h : AnswersPing bytes number outcome) :
    e.receive handler bytes source = e.close number source outcome := by
  cases h with
  | acknowledges read => rw [receive, read]
  | refuses read => rw [receive, read]

/-- A datagram that answers nothing leaves the endpoint as it is. -/
theorem receive_of_no_answer (h : ∀ number outcome, ¬ AnswersPing bytes number outcome) :
    (e.receive handler bytes source).1 = e ∧
      ∀ number outcome, (e.receive handler bytes source).2 ≠ .closed number outcome := by
  unfold receive
  cases read : Wire.Envelope.decode? bytes with
  | none => exact ⟨rfl, fun _ _ hclosed => nomatch hclosed⟩
  | some envelope =>
    cases envelope with
    | request number action ping => exact ⟨rfl, fun _ _ hclosed => nomatch hclosed⟩
    | response number => exact absurd (.acknowledges read) (h number _)
    | error number message => exact absurd (.refuses read) (h number _)

end Endpoint

namespace Call

/-- It is under way, and no answer has come. -/
def isOpen (call : Call) : Bool := call.underWay && call.answer.isNone

def openPing? (call : Call) : Option OpenPing := if call.isOpen then some call.entry else none

/-- How it came out, under its number. -/
def record? (call : Call) : Option (Nat × Outcome) :=
  match call.stage with
  | .settled outcome => some (call.number, outcome)
  | _ => none

def ended (call : Call) : Bool :=
  match call.stage with
  | .settled _ => true
  | .abandoned => true
  | _ => false

/-- How a call may come out. Its time can only run out while it has no answer. -/
inductive Ending (call : Call) : Outcome → Prop
  | answered {outcome : Outcome} (h : call.answer = some outcome) : Ending call outcome
  | refused (unreachable : Bool) (reason : String) :
      Ending call (call.refusal unreachable reason)
  | expired (h : call.answer = none) : Ending call call.timeout

/-- An answer to the call has come in from where the call went to, and made this of it. -/
def Heard (call : Call) (actions : List Correspondence.Action) (outcome : Outcome) : Prop :=
  ∃ handler bytes verdict, .receive handler bytes call.address ∈ actions ∧
    AnswersPing bytes call.number verdict ∧ verdict call.node = outcome

/-- What a call at a stage has gone through. -/
def Fits (call : Call) : Stage → Prop
  | .numbered => call.answer = none
  | .waiting => Endpoint.sendable call.bytes = true
  | .settled outcome => call.Ending outcome
  | _ => True

/-- What holds of each call by itself, where `heard` has all that was done. -/
structure Orderly (heard : List Correspondence.Action) (call : Call) : Prop where
  fits : call.Fits call.stage
  genuine : ∀ outcome, call.answer = some outcome → call.Heard heard outcome

variable {call : Call} {p : OpenPing} {heard : List Correspondence.Action}

theorem Orderly.proceed (orderly : call.Orderly heard) {stage : Stage} (fits : call.Fits stage) :
    Orderly heard { call with stage } where
  fits := by
    cases stage with
    | settled outcome =>
      cases fits with
      | answered h => exact .answered h
      | refused unreachable reason => exact .refused unreachable reason
      | expired h => exact .expired h
    | _ => exact fits
  genuine := orderly.genuine

theorem openPing?_of_isOpen (h : call.isOpen = true) : call.openPing? = some call.entry := if_pos h

theorem openPing?_of_shut (h : ¬ call.isOpen = true) : call.openPing? = none := if_neg h

theorem openPing?_eq_some : call.openPing? = some p ↔ call.isOpen = true ∧ call.entry = p := by
  simp [openPing?]

theorem number_of_openPing? (call : Call) (p : OpenPing) (h : call.openPing? = some p) :
    p.number = call.number := by
  obtain ⟨-, rfl⟩ := openPing?_eq_some.1 h
  rfl

theorem number_of_record? (call : Call) (r : Nat × Outcome) (h : call.record? = some r) :
    r.1 = call.number := by
  unfold record? at h
  split at h
  · cases h
    rfl
  · cases h

/-- A call that is settled, or given up, is open no more. -/
theorem openPing?_of_ended (h : call.ended = true) : call.openPing? = none := by
  unfold ended at h
  split at h <;> simp_all [openPing?, isOpen, underWay]

theorem record?_of_ongoing (h : call.ended = false) : call.record? = none := by
  unfold record?
  split
  next hstage => simp [ended, hstage] at h
  · rfl

theorem underWay_iff : call.underWay = true ↔ call.stage = .sending ∨ call.stage = .waiting :=
  decide_eq_true_iff

theorem ongoing_of_underWay (h : call.underWay = true) : call.ended = false := by
  rcases underWay_iff.1 h with hstage | hstage <;> simp [ended, hstage]

end Call

namespace Correspondence

variable {c next last : Correspondence} {call : Call} {action : Action}
  {actions heard : List Action} {handler : Option Handler} {bytes : Wire.Bytes}
  {source : Net.SocketAddress} {number : Nat} {outcome : NodeId → Outcome}

def others (c : Correspondence) (call : Call) : List Call :=
  c.calls.filter fun other => other.number ≠ call.number

/-- The numbers of the calls count them, the open pings are the calls that have no answer yet, and
the outcomes are those of the calls that are settled. -/
structure Sound (heard : List Action) (c : Correspondence) : Prop where
  counted : c.endpoint.next = c.calls.length + 1
  numbers : c.calls.map Call.number = List.range' 1 c.calls.length
  pending : c.endpoint.opened.Perm (c.calls.filterMap Call.openPing?)
  recorded : c.outcomes.Perm (c.calls.filterMap Call.record?)
  orderly : ∀ call ∈ c.calls, call.Orderly heard

theorem sound_start (heard : List Action) : start.Sound heard where
  counted := rfl
  numbers := rfl
  pending := .nil
  recorded := .nil
  orderly _ held := absurd held List.not_mem_nil

namespace Sound

theorem distinct (sound : c.Sound heard) : (c.calls.map Call.number).Nodup := by
  rw [sound.numbers]
  exact List.nodup_range'

theorem eq_of_number (sound : c.Sound heard) {other : Call} (held : call ∈ c.calls)
    (hother : other ∈ c.calls) (heq : other.number = call.number) : other = call :=
  Option.some.inj ((find?_eq_some_of_key hother sound.distinct).symm.trans
    (heq ▸ find?_eq_some_of_key held sound.distinct))

theorem mem_opened (sound : c.Sound heard) {p : OpenPing} :
    p ∈ c.endpoint.opened ↔ ∃ call ∈ c.calls, call.isOpen = true ∧ call.entry = p := by
  rw [sound.pending.mem_iff, List.mem_filterMap]
  simp only [Call.openPing?_eq_some]

theorem pending_others (sound : c.Sound heard) (held : call ∈ c.calls) :
    c.endpoint.opened.Perm (call.openPing?.toList ++ (c.others call).filterMap Call.openPing?) :=
  sound.pending.trans (filterMap_perm_others held sound.distinct)

theorem pending_forget (sound : c.Sound heard) (call : Call) :
    (c.endpoint.forget call.number).opened.Perm ((c.others call).filterMap Call.openPing?) := by
  have hfilter := sound.pending.filter fun p => p.number ≠ call.number
  rwa [filter_filterMap_key Call.number_of_openPing?] at hfilter

/-- What is recorded is recorded of the others, as long as the call has not ended. -/
theorem recorded_others (sound : c.Sound heard) (held : call ∈ c.calls)
    (hongoing : call.ended = false) :
    c.outcomes.Perm ((c.others call).filterMap Call.record?) := by
  have hperm := sound.recorded.trans (filterMap_perm_others held sound.distinct)
  rwa [Call.record?_of_ongoing hongoing] at hperm

/-- One call is changed. It is enough to know of the open pings and of the outcomes what has become
of those of that call. -/
theorem amend (sound : c.Sound heard) (held : call ∈ c.calls) (change : Call → Call)
    (hnumber : ∀ call, (change call).number = call.number) (orderly : (change call).Orderly heard)
    {endpoint : Endpoint} {outcomes : List (Nat × Outcome)}
    (counted : endpoint.next = c.endpoint.next)
    (pending : endpoint.opened.Perm
      ((change call).openPing?.toList ++ (c.others call).filterMap Call.openPing?))
    (recorded : outcomes.Perm
      ((change call).record?.toList ++ (c.others call).filterMap Call.record?)) :
    Sound heard { c.amend call.number change with endpoint, outcomes } where
  counted := by
    show endpoint.next = (c.calls.map _).length + 1
    rw [List.length_map, counted, sound.counted]
  numbers := by
    show (c.calls.map _).map Call.number = List.range' 1 (c.calls.map _).length
    rw [List.map_map, List.length_map, ← sound.numbers]
    refine List.map_congr_left fun other _ => ?_
    rw [Function.comp_apply]
    split
    · exact hnumber other
    · rfl
  pending := pending.trans (filterMap_perm_changed held sound.distinct change).symm
  recorded := recorded.trans (filterMap_perm_changed held sound.distinct change).symm
  orderly other hother := by
    obtain ⟨before, hbefore, rfl⟩ := List.mem_map.1 hother
    split
    next heq =>
      obtain rfl := sound.eq_of_number held hbefore heq
      exact orderly
    · exact sound.orderly before hbefore

/-- What has been left for a call, or what has ended it, shows in that call alone. -/
theorem forgotten (sound : c.Sound heard) (held : call ∈ c.calls) (change : Call → Call)
    (hnumber : ∀ call, (change call).number = call.number) (orderly : (change call).Orderly heard)
    (hshut : (change call).openPing? = none) {outcomes : List (Nat × Outcome)}
    (recorded : outcomes.Perm
      ((change call).record?.toList ++ (c.others call).filterMap Call.record?)) :
    Sound heard { (c.forget call.number).amend call.number change with outcomes } := by
  refine sound.amend held change hnumber orderly rfl ?_ recorded
  rw [hshut]
  exact sound.pending_forget call

/-- The call that an answer is for is found by the number and the source of the answer. -/
theorem close_open (sound : c.Sound heard) (held : call ∈ c.calls) (hopen : call.isOpen = true)
    (outcome : NodeId → Outcome) :
    c.endpoint.close (σ := Unit) call.number call.address outcome =
      (c.endpoint.forget call.number, .closed call.number (outcome call.node)) := by
  have hentry : call.entry ∈ c.endpoint.opened := sound.mem_opened.2 ⟨call, held, hopen, rfl⟩
  unfold Endpoint.close
  cases hfound : c.endpoint.opened.find? fun p =>
      p.number = call.number ∧ p.address = call.address with
  | none =>
    have hnot := List.find?_eq_none.1 hfound call.entry hentry
    simp [Call.entry] at hnot
  | some p =>
    obtain ⟨other, hother, -, rfl⟩ := sound.mem_opened.1 (List.mem_of_find?_eq_some hfound)
    have hnumber := List.find?_some hfound
    obtain rfl := sound.eq_of_number held hother (of_decide_eq_true hnumber).1
    rfl

theorem close_shut (sound : c.Sound heard)
    (hshut : ∀ call ∈ c.calls, call.number = number → call.isOpen = true → call.address ≠ source)
    (outcome : NodeId → Outcome) :
    c.endpoint.close (σ := Unit) number source outcome = (c.endpoint, .dropped) := by
  have hnone : c.endpoint.opened.find? (fun p => p.number = number ∧ p.address = source) =
      none := by
    refine List.find?_eq_none.2 fun p hp => ?_
    obtain ⟨call, held, hopen, rfl⟩ := sound.mem_opened.1 hp
    intro h
    obtain ⟨hnumber, haddress⟩ := of_decide_eq_true h
    exact hshut call held hnumber hopen haddress
  rw [Endpoint.close, hnone]

/-- An answer to an open call, from where the call went to, is left for it and closes its ping. -/
theorem receive_open (sound : c.Sound heard) (held : call ∈ c.calls) (hopen : call.isOpen = true)
    (answers : AnswersPing bytes call.number outcome) :
    c.receive handler bytes call.address =
      (c.forget call.number).hand call.number (outcome call.node) := by
  rw [receive, Endpoint.receive_of_answers answers, sound.close_open held hopen]
  rfl

/-- A datagram that answers no open call from where that call went to changes nothing. -/
theorem receive_shut (sound : c.Sound heard)
    (hshut : ∀ call ∈ c.calls, ∀ outcome, AnswersPing bytes call.number outcome →
      call.isOpen = true → call.address ≠ source) :
    c.receive handler bytes source = c := by
  by_cases hanswers : ∃ number outcome, AnswersPing bytes number outcome
  · obtain ⟨number, outcome, answers⟩ := hanswers
    have hclose : c.endpoint.close (σ := Unit) number source outcome =
        (c.endpoint, .dropped) := by
      apply sound.close_shut
      intro call held hnumber
      exact hshut call held outcome (hnumber ▸ answers)
    rw [receive, Endpoint.receive_of_answers answers, hclose]
  · have hnone : ∀ number outcome, ¬ AnswersPing bytes number outcome :=
      fun number outcome answers => hanswers ⟨number, outcome, answers⟩
    obtain ⟨hsame, hclosed⟩ : (c.endpoint.receive handler bytes source).1 = c.endpoint ∧ _ :=
      Endpoint.receive_of_no_answer hnone
    unfold receive
    cases hreceive : c.endpoint.receive handler bytes source with
    | mk endpoint reception =>
      rw [hreceive] at hsame hclosed
      obtain rfl : endpoint = c.endpoint := hsame
      cases reception with
      | closed number outcome => exact absurd rfl (hclosed number outcome)
      | _ => rfl

end Sound

/-- All that an action does, where what is said of the calls is sound. -/
inductive Step (c : Correspondence) : Action → Correspondence → Prop
  | call {node : NodeId} {address : Net.SocketAddress} {ping : PingRequest} {limit : Duration} :
      Step c (.call node address ping limit) (c.call node address ping limit)
  | enter {call : Call} (held : call ∈ c.calls) (stage : call.stage = .numbered) :
      Step c (.move call.number .enter) (c.enter call)
  | sent {call : Call} (held : call ∈ c.calls) (stage : call.stage = .sending)
      (fits : Endpoint.sendable call.bytes = true) :
      Step c (.move call.number .sent) (c.sent call)
  | finish {call : Call} {move : Call.Move} {outcome : Outcome} (held : call ∈ c.calls)
      (underWay : call.underWay = true) (ending : call.Ending outcome) :
      Step c (.move call.number move) (c.finish call outcome)
  | abandon {call : Call} (held : call ∈ c.calls) (underWay : call.underWay = true) :
      Step c (.move call.number .abandon) (c.abandon call)
  | answer {call : Call} {handler : Option Handler} {bytes : Wire.Bytes}
      {outcome : NodeId → Outcome} (held : call ∈ c.calls) (opened : call.isOpen = true)
      (answers : AnswersPing bytes call.number outcome) :
      Step c (.receive handler bytes call.address)
        ((c.forget call.number).hand call.number (outcome call.node))
  | ignore {handler : Option Handler} {bytes : Wire.Bytes} {source : Net.SocketAddress} :
      Step c (.receive handler bytes source) c

theorem mem_of_find? (h : c.find? number = some call) :
    call ∈ c.calls ∧ call.number = number := by
  unfold find? at h
  have hnumber := List.find?_some h
  exact ⟨List.mem_of_find?_eq_some h, of_decide_eq_true hnumber⟩

theorem move_step (sound : c.Sound heard) (held : call ∈ c.calls) {move : Call.Move}
    (h : c.move call move = some next) : c.Step (.move call.number move) next := by
  cases move with
  | enter =>
    obtain ⟨stage, ⟨⟩⟩ := Option.ite_none_right_eq_some.1 h
    exact .enter held stage
  | sent =>
    obtain ⟨⟨stage, fits⟩, ⟨⟩⟩ := Option.ite_none_right_eq_some.1 h
    exact .sent held stage fits
  | refuse unreachable reason =>
    obtain ⟨stage, ⟨⟩⟩ := Option.ite_none_right_eq_some.1 h
    exact .finish held (Call.underWay_iff.2 (.inl stage)) (.refused unreachable reason)
  | resume =>
    obtain ⟨stage, hresume⟩ := Option.ite_none_right_eq_some.1 h
    have underWay : call.underWay = true := Call.underWay_iff.2 (.inr stage)
    unfold resume at hresume
    cases hanswer : call.answer with
    | some outcome =>
      rw [hanswer] at hresume
      obtain rfl := Option.some.inj hresume
      exact .finish held underWay (.answered hanswer)
    | none =>
      -- it is open, so its entry is there, and it cannot be resumed
      have hopen : call.isOpen = true := by simp [Call.isOpen, underWay, hanswer]
      have hentry : call.entry ∈ c.endpoint.opened := sound.mem_opened.2 ⟨call, held, hopen, rfl⟩
      simp only [hanswer, if_pos hentry] at hresume
      cases hresume
  | expire =>
    obtain ⟨⟨stage, hanswer⟩, ⟨⟩⟩ := Option.ite_none_right_eq_some.1 h
    exact .finish held (Call.underWay_iff.2 (.inr stage)) (.expired hanswer)
  | abandon =>
    obtain ⟨underWay, ⟨⟩⟩ := Option.ite_none_right_eq_some.1 h
    exact .abandon held underWay

theorem act_step (sound : c.Sound heard) (h : c.act action = some next) : c.Step action next := by
  cases action with
  | call node address ping limit =>
    obtain rfl := Option.some.inj h
    exact .call
  | move number move =>
    obtain ⟨call, hfind, hmove⟩ := Option.bind_eq_some_iff.1 h
    obtain ⟨held, rfl⟩ := mem_of_find? hfind
    exact move_step sound held hmove
  | receive handler bytes source =>
    obtain rfl := Option.some.inj h
    by_cases hanswer : ∃ call ∈ c.calls, ∃ outcome, AnswersPing bytes call.number outcome ∧
        call.isOpen = true ∧ call.address = source
    · obtain ⟨call, held, outcome, answers, hopen, rfl⟩ := hanswer
      rw [sound.receive_open held hopen answers]
      exact .answer held hopen answers
    · rw [sound.receive_shut fun call held outcome answers hopen haddress =>
        hanswer ⟨call, held, outcome, answers, hopen, haddress⟩]
      exact .ignore

namespace Sound

theorem begin (sound : c.Sound heard) (node : NodeId) (address : Net.SocketAddress)
    (ping : PingRequest) (limit : Duration) : (c.call node address ping limit).Sound heard where
  counted := by
    show c.endpoint.next + 1 = (c.calls ++ [_]).length + 1
    rw [List.length_append, sound.counted]
    rfl
  numbers := by
    show (c.calls ++ [_]).map Call.number = List.range' 1 (c.calls ++ [_]).length
    rw [List.map_append, List.length_append, List.length_singleton, List.range'_1_concat,
      ← sound.numbers, List.map_singleton, sound.counted, Nat.add_comm]
  pending := by
    show c.endpoint.opened.Perm ((c.calls ++ [_]).filterMap Call.openPing?)
    rw [List.filterMap_append]
    exact (List.append_nil _).symm ▸ sound.pending
  recorded := by
    show c.outcomes.Perm ((c.calls ++ [_]).filterMap Call.record?)
    rw [List.filterMap_append]
    exact (List.append_nil _).symm ▸ sound.recorded
  orderly other hother := by
    rcases List.mem_append.1 hother with hbefore | hnew
    · exact sound.orderly other hbefore
    · obtain rfl := List.mem_singleton.1 hnew
      exact ⟨rfl, nofun⟩

theorem enter (sound : c.Sound heard) (held : call ∈ c.calls) (stage : call.stage = .numbered) :
    (c.enter call).Sound heard := by
  have orderly := sound.orderly call held
  have hanswer : call.answer = none := by
    have hfits := orderly.fits
    rwa [stage] at hfits
  have hshut : call.openPing? = none := by
    simp [Call.openPing?, Call.isOpen, Call.underWay, stage]
  have hopen : Call.openPing? { call with stage := .sending } = some call.entry :=
    if_pos (by simp [Call.isOpen, Call.underWay, hanswer])
  refine sound.amend held (fun call => { call with stage := .sending }) (fun _ => rfl)
    (orderly.proceed trivial) rfl ?_ (sound.recorded_others held (by simp [Call.ended, stage]))
  have hothers := sound.pending_others held
  rw [hshut] at hothers
  rw [hopen]
  exact (hothers.append_right [call.entry]).trans List.perm_append_comm

theorem sent (sound : c.Sound heard) (held : call ∈ c.calls) (stage : call.stage = .sending)
    (fits : Endpoint.sendable call.bytes = true) : (c.sent call).Sound heard := by
  have hentry : Call.openPing? { call with stage := .waiting } = call.openPing? := by
    simp [Call.openPing?, Call.isOpen, Call.underWay, stage, Call.entry]
  refine sound.amend held (fun call => { call with stage := .waiting }) (fun _ => rfl)
    ((sound.orderly call held).proceed fits) rfl ?_
    (sound.recorded_others held (by simp [Call.ended, stage]))
  rw [hentry]
  exact sound.pending_others held

/-- An answer that has come in from where the call went to may be left for it. -/
theorem hand (sound : c.Sound heard) (held : call ∈ c.calls) (underWay : call.underWay = true)
    {verdict : Outcome} (hheard : call.Heard heard verdict) :
    ((c.forget call.number).hand call.number verdict).Sound heard := by
  have hongoing := Call.ongoing_of_underWay underWay
  refine sound.forgotten held (fun call => { call with answer := some verdict }) (fun _ => rfl)
    ?_ ?_ ?_
  · refine ⟨?_, fun other hother => Option.some.inj hother ▸ hheard⟩
    have hfits := (sound.orderly call held).fits
    show Call.Fits { call with answer := _ } call.stage
    rcases Call.underWay_iff.1 underWay with stage | stage
    · rw [stage]
      exact trivial
    · rw [stage] at hfits ⊢
      exact hfits
  · simp [Call.openPing?, Call.isOpen]
  · have hrecord : Call.record? { call with answer := some verdict } = none :=
      Call.record?_of_ongoing hongoing
    rw [hrecord]
    exact sound.recorded_others held hongoing

end Sound

theorem Step.sound (sound : c.Sound heard) (haction : action ∈ heard) (step : c.Step action next) :
    next.Sound heard := by
  cases step with
  | call => exact sound.begin _ _ _ _
  | enter held stage => exact sound.enter held stage
  | sent held stage fits => exact sound.sent held stage fits
  | @finish call move outcome held underWay ending =>
    have hothers := sound.recorded_others held (Call.ongoing_of_underWay underWay)
    exact sound.forgotten held (fun call => { call with stage := .settled outcome }) (fun _ => rfl)
      ((sound.orderly call held).proceed ending) (Call.openPing?_of_ended rfl) (hothers.cons _)
  | @abandon call held underWay =>
    exact sound.forgotten held (fun call => { call with stage := .abandoned }) (fun _ => rfl)
      ((sound.orderly call held).proceed trivial) (Call.openPing?_of_ended rfl)
      (sound.recorded_others held (Call.ongoing_of_underWay underWay))
  | answer held opened answers =>
    have underWay := (Bool.and_eq_true_iff.1 opened).1
    exact sound.hand held underWay ⟨_, _, _, haction, answers, rfl⟩
  | ignore => exact sound

theorem acts_sound (sound : c.Sound heard) (hheard : ∀ action ∈ actions, action ∈ heard)
    (hacts : c.acts actions = some last) : last.Sound heard := by
  induction actions generalizing c with
  | nil =>
    obtain rfl := Option.some.inj hacts
    exact sound
  | cons action rest ih =>
    obtain ⟨next, hact, hrest⟩ := Option.bind_eq_some_iff.1 hacts
    obtain ⟨haction, hlater⟩ := List.forall_mem_cons.1 hheard
    exact ih ((act_step sound hact).sound sound haction) hlater hrest

theorem filterMap_openPing? (calls : List Call) :
    calls.filterMap Call.openPing? = (calls.filter Call.isOpen).map Call.entry := by
  induction calls with
  | nil => rfl
  | cons call rest ih =>
    by_cases hopen : call.isOpen = true
    · rw [List.filterMap_cons_some (Call.openPing?_of_isOpen hopen),
        List.filter_cons_of_pos hopen, List.map_cons, ih]
    · rw [List.filterMap_cons_none (Call.openPing?_of_shut hopen),
        List.filter_cons_of_neg hopen, ih]

theorem mem_amend_of_ne {change : Call → Call} (held : call ∈ c.calls)
    (hne : call.number ≠ number) : call ∈ (c.amend number change).calls :=
  List.mem_map.2 ⟨call, held, if_neg hne⟩

namespace Sound

theorem find?_eq (sound : c.Sound heard) (held : call ∈ c.calls) :
    c.find? call.number = some call :=
  find?_eq_some_of_key held sound.distinct

/-- A call with its entry in place cannot be resumed, and one without it has its answer. -/
theorem resume_eq (sound : c.Sound heard) (held : call ∈ c.calls) (stage : call.stage = .waiting) :
    c.resume call = call.answer.map (c.finish call) := by
  unfold resume
  cases hanswer : call.answer with
  | some outcome => rfl
  | none =>
    have hopen : call.isOpen = true := by simp [Call.isOpen, Call.underWay, stage, hanswer]
    exact if_pos (sound.mem_opened.2 ⟨call, held, hopen, rfl⟩)

theorem number_le (sound : c.Sound heard) (held : call ∈ c.calls) :
    call.number ≤ c.calls.length := by
  have hmem : call.number ∈ List.range' 1 c.calls.length :=
    sound.numbers ▸ List.mem_map_of_mem held
  obtain ⟨-, hlt⟩ := List.mem_range'_1.1 hmem
  omega

theorem once (sound : c.Sound heard) : (c.outcomes.map Prod.fst).Nodup :=
  (sound.recorded.map Prod.fst).nodup_iff.2
    (sound.distinct.sublist (map_filterMap_sublist Call.number_of_record? c.calls))

theorem drained (sound : c.Sound heard) (hended : ∀ call ∈ c.calls, call.ended = true) :
    c.endpoint.opened = [] := by
  have hnone : c.calls.filterMap Call.openPing? = [] := List.filterMap_eq_nil_iff.2 fun call held =>
    Call.openPing?_of_ended (hended call held)
  exact (hnone ▸ sound.pending).eq_nil

end Sound

/-- A call that an action may change: it has not ended, and it is the one that is moved, or it is
open to an answer. -/
structure Touched (call : Call) (action : Action) : Prop where
  ongoing : call.ended = false
  aimed : (∃ move, action = .move call.number move) ∨ call.isOpen = true

theorem keeps_others {touched : Call} {change : Call → Call} (held : touched ∈ c.calls)
    (htouched : Touched touched action)
    (hcalls : next.calls = (c.amend touched.number change).calls) :
    ∃ touched ∈ c.calls, Touched touched action ∧
      ∀ call ∈ c.calls, call.number ≠ touched.number → call ∈ next.calls := by
  refine ⟨touched, held, htouched, fun call hcall hne => ?_⟩
  rw [hcalls]
  exact mem_amend_of_ne hcall hne

/-- An action changes no call, or one that it may change and no other. -/
theorem Step.touches (step : c.Step action next) :
    (∀ call ∈ c.calls, call ∈ next.calls) ∨
      ∃ touched ∈ c.calls, Touched touched action ∧
        ∀ call ∈ c.calls, call.number ≠ touched.number → call ∈ next.calls := by
  cases step with
  | call => exact .inl fun call held => List.mem_append_left _ held
  | @enter call held stage =>
    have hongoing : call.ended = false := by simp [Call.ended, stage]
    exact .inr (keeps_others held ⟨hongoing, .inl ⟨_, rfl⟩⟩ rfl)
  | @sent call held stage =>
    have hongoing : call.ended = false := by simp [Call.ended, stage]
    exact .inr (keeps_others held ⟨hongoing, .inl ⟨_, rfl⟩⟩ rfl)
  | finish held underWay | abandon held underWay =>
    have hongoing := Call.ongoing_of_underWay underWay
    exact .inr (keeps_others held ⟨hongoing, .inl ⟨_, rfl⟩⟩ rfl)
  | answer held opened =>
    have hongoing := Call.ongoing_of_underWay (Bool.and_eq_true_iff.1 opened).1
    exact .inr (keeps_others held ⟨hongoing, .inr opened⟩ rfl)
  | ignore => exact .inl fun call held => held

/-- A call that an action may not change stays as it is. -/
theorem Step.keeps (sound : c.Sound heard) (step : c.Step action next) (held : call ∈ c.calls)
    (huntouched : ¬ Touched call action) : call ∈ next.calls := by
  rcases step.touches with hall | ⟨touched, hother, htouched, hrest⟩
  · exact hall call held
  · apply hrest call held
    intro heq
    obtain rfl := sound.eq_of_number hother held heq
    exact huntouched htouched

/-- A call that has its answer stays as it is until it moves. -/
theorem acts_keeps (sound : c.Sound heard) (hheard : ∀ action ∈ actions, action ∈ heard)
    (hacts : c.acts actions = some last) (held : call ∈ c.calls) (hshut : call.isOpen = false)
    (hstill : ∀ action ∈ actions, ∀ move, action ≠ .move call.number move) :
    call ∈ last.calls := by
  induction actions generalizing c with
  | nil =>
    obtain rfl := Option.some.inj hacts
    exact held
  | cons action rest ih =>
    obtain ⟨next, hact, hrest⟩ := Option.bind_eq_some_iff.1 hacts
    obtain ⟨haction, hlater⟩ := List.forall_mem_cons.1 hheard
    obtain ⟨hmove, hmoves⟩ := List.forall_mem_cons.1 hstill
    have step := act_step sound hact
    refine ih (step.sound sound haction) hlater hrest (step.keeps sound held ?_) hmoves
    rintro ⟨-, ⟨move, heq⟩ | hopen⟩
    · exact hmove move heq
    · exact Bool.noConfusion (hshut.symm.trans hopen)

/-- How calls and datagrams go together at the end of a run. -/
structure Correlated (actions : List Action) (c : Correspondence) : Prop where
  /-- No number is used twice, and there is room for each in a datagram. -/
  distinct : (c.calls.map Call.number).Nodup
  bounded : ∀ call ∈ c.calls, call.number < UInt64.size
  /-- Open are the calls that are under way and have no answer, and nothing else. -/
  pending : c.endpoint.opened.Perm ((c.calls.filter Call.isOpen).map Call.entry)
  /-- An answer to an open call, from where that call went to, is left for it. -/
  answered : ∀ {handler bytes outcome call}, call ∈ c.calls →
    AnswersPing bytes call.number outcome → call.isOpen = true →
      c.act (.receive handler bytes call.address) =
        some ((c.forget call.number).hand call.number (outcome call.node))
  /-- Every other datagram changes nothing. -/
  ignored : ∀ {handler bytes source}, (∀ call ∈ c.calls, ∀ outcome,
    AnswersPing bytes call.number outcome → call.isOpen = true → call.address ≠ source) →
      c.act (.receive handler bytes source) = some c
  /-- Whatever has been left for a call is what an answer to it from there says. -/
  genuine : ∀ call ∈ c.calls, ∀ outcome, call.answer = some outcome → call.Heard actions outcome
  /-- Whoever waits comes out with what has been left for him, and waits on if there is nothing. -/
  resumed : ∀ call ∈ c.calls, call.stage = .waiting →
    c.act (.move call.number .resume) = call.answer.map (c.finish call)
  ending : ∀ call ∈ c.calls, ∀ outcome, call.stage = .settled outcome → call.Ending outcome
  /-- The outcomes are those of the calls that are settled, one of each. -/
  recorded : c.outcomes.Perm (c.calls.filterMap Call.record?)
  once : (c.outcomes.map Prod.fst).Nodup
  final : ∀ call ∈ c.calls, call.ended = true →
    ∀ {action next}, c.act action = some next → call ∈ next.calls
  drained : (∀ call ∈ c.calls, call.ended = true) → c.endpoint.opened = []

/-- Answers find the calls that they belong to, in whatever order calls are made, answered, given up
or run out of time, and whatever else comes in. -/
theorem answers_correlated (hacts : start.acts actions = some last)
    (hfew : last.calls.length < UInt64.size) : Correlated actions last := by
  have sound : last.Sound actions := acts_sound (sound_start actions) (fun _ h => h) hacts
  constructor
  case distinct => exact sound.distinct
  case bounded =>
    intro call held
    have hle := sound.number_le held
    omega
  case pending =>
    rw [← filterMap_openPing?]
    exact sound.pending
  case answered =>
    intro handler bytes outcome call held answers hopen
    rw [act, sound.receive_open held hopen answers]
  case ignored =>
    intro handler bytes source hshut
    rw [act, sound.receive_shut hshut]
  case genuine =>
    intro call held
    exact (sound.orderly call held).genuine
  case resumed =>
    intro call held stage
    rw [act, sound.find?_eq held, Option.bind_some, move, if_pos stage]
    exact sound.resume_eq held stage
  case ending =>
    intro call held outcome stage
    have hfits := (sound.orderly call held).fits
    rwa [stage] at hfits
  case recorded => exact sound.recorded
  case once => exact sound.once
  case final =>
    intro call held hended action next hact
    apply (act_step sound hact).keeps sound held
    intro touched
    exact Bool.noConfusion (hended.symm.trans touched.ongoing)
  case drained => exact sound.drained

section Trial

def peerAddress : Net.SocketAddress := .v4 ⟨127, 0, 0, 1⟩ 4700

def strangerAddress : Net.SocketAddress := .v4 ⟨127, 0, 0, 1⟩ 4701

def trialCall : Action :=
  .call ⟨"peer"⟩ peerAddress ⟨⟨"peer"⟩, none, ⟨"home"⟩, 7⟩ (.ofSeconds 30 0)

def acknowledgment (number : Nat) : Wire.Bytes := (Wire.Envelope.response number).encode

/-- Three calls: one is answered twice, after somebody else has tried to, one runs out of time and
is answered then, and one is given up. -/
def crossedActions : List Action :=
  [trialCall, trialCall, .move 2 .enter, .move 1 .enter, .move 1 .sent, .move 2 .sent,
    .receive none (acknowledgment 1) strangerAddress, .receive none (acknowledgment 1) peerAddress,
    .move 2 .expire, .receive none (acknowledgment 1) peerAddress,
    .receive none (acknowledgment 2) peerAddress, .move 1 .resume, trialCall, .move 3 .enter,
    .move 3 .abandon]

def crossed : Correspondence := (start.acts crossedActions).get (by decide +kernel)

theorem answers_correlated_crossed :
    start.acts crossedActions = some crossed ∧ crossed.calls.length < UInt64.size ∧
      Correlated crossedActions crossed ∧ crossed.endpoint.opened = [] ∧
      crossed.outcomes =
        [(1, .done), (2, .failed (.timeout ⟨"peer"⟩ (.ofSeconds 30 0)))] := by
  have hacts : start.acts crossedActions = some crossed := (Option.some_get _).symm
  have hfew : crossed.calls.length < UInt64.size := by decide +kernel
  exact ⟨hacts, hfew, answers_correlated hacts hfew, by decide +kernel, by decide +kernel⟩

end Trial

end Correspondence
end ClusterWatch
