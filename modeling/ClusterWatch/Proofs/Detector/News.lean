import ClusterWatch.Proofs.Detector.Submission
import ClusterWatch.Proofs.Listener.Delivery

/-!
The news of a detector. Whatever is done to a station, something can be done in a newsroom that
leaves the same listeners registered, the same news waiting and the same listeners told of the same
news. So whatever holds of every newsroom holds of what a station tells its listeners, and of the
order in which it does; and what a station reports is what is submitted to them.
-/
namespace ClusterWatch

open Detector NewsEvent

/-- What is submitted by the event, and whether it is taken. -/
def NewsEvent.submission? : NewsEvent → Option (Notice × Bool)
  | .submitted notice accepted => some (notice, accepted)
  | _ => none

/-- The failure that becomes news by the event, if it is a report that is taken. -/
def Event.news? : Event → Option Notice
  | .reported node _ reason true => some (.nodeFailed node reason)
  | _ => none

namespace Newsroom

variable {n next : Newsroom} {d e : Detector} {due : List (Listener × Notice)}
  {actions rest : List Action}

/-- The newsroom agrees with the detector on who is registered, what waits and what has been told,
and has these listeners still to tell of what it has handed over. -/
structure Shows (n : Newsroom) (d : Detector) (due : List (Listener × Notice)) : Prop where
  registry : n.registry = d.registry
  bulletin : n.bulletin = d.bulletin
  free : n.held = none
  pending : n.pending = due
  /-- The failures among the news that was submitted are those that were reported. -/
  reported : (n.past.filterMap submission?).filter (·.1.isFailure) = d.past.filterMap Event.report?
  handed : n.past.filterMap handed? = d.past.filterMap Event.handed?
  told : n.past.filterMap called? = d.past.filterMap Event.told?

theorem submit_eq (n : Newsroom) (notice : Notice) :
    n.submit notice = { n with bulletin := n.bulletin.offer [notice] }.record
      (.submitted notice (!n.bulletin.shut)) := by
  rw [submit, Bulletin.offer_singleton, Bulletin.submit?]
  cases n.bulletin.shut <;> rfl

/-- Pieces of news are submitted one after another. -/
theorem acts_submit (n : Newsroom) (notices : List Notice) :
    ∃ next, n.acts (notices.map .submit) = some next ∧
      next.registry = n.registry ∧ next.bulletin = n.bulletin.offer notices ∧
      next.held = n.held ∧ next.pending = n.pending ∧
      next.past.filterMap submission? =
        (notices.map (·, !n.bulletin.shut)).reverse ++ n.past.filterMap submission? ∧
      next.past.filterMap handed? = n.past.filterMap handed? ∧
      next.past.filterMap called? = n.past.filterMap called? := by
  induction notices generalizing n with
  | nil => exact ⟨n, rfl, rfl, (n.bulletin.offer_nil).symm, rfl, rfl, rfl, rfl, rfl⟩
  | cons notice notices ih =>
    obtain ⟨next, hacts, hregistry, hbulletin, hheld, hpending, hsubmitted, hhanded, hcalled⟩ :=
      ih (n.submit notice)
    rw [submit_eq] at hregistry hbulletin hheld hpending hsubmitted hhanded hcalled
    refine ⟨next, hacts, hregistry, ?_, hheld, hpending, ?_, hhanded, hcalled⟩
    · exact hbulletin.trans (n.bulletin.offer_offer [notice] notices)
    · rw [hsubmitted, List.map_cons, List.reverse_cons, List.append_assoc]
      rfl

namespace Shows

theorem submits {heard : List Event} (shows : n.Shows d due) (h : d.Submits e heard) :
    ∃ actions next, n.acts actions = some next ∧ next.Shows e due := by
  obtain ⟨notices, hbulletin, hnews⟩ := h.submitted
  obtain ⟨next, hacts, hregistry, hoffered, hheld, hpending, hsubmitted, hhanded, hcalled⟩ :=
    n.acts_submit notices
  refine ⟨_, next, hacts, {
    registry := (hregistry.trans shows.registry).trans h.registry.symm
    bulletin := by rw [hoffered, shows.bulletin, hbulletin]
    free := hheld.trans shows.free
    pending := hpending.trans shows.pending
    reported := ?_
    handed := (hhanded.trans shows.handed).trans h.unhanded.symm
    told := (hcalled.trans shows.told).trans h.untold.symm }⟩
  have hfailures : (notices.map (·, !n.bulletin.shut)).filter (·.1.isFailure) =
      (notices.filter Notice.isFailure).map (·, !n.bulletin.shut) := List.filter_map
  rw [hsubmitted, List.filter_append, List.filter_reverse, hfailures, shows.bulletin,
    shows.reported, hnews]

theorem shut (shows : n.Shows d due) :
    n.shut.Shows { d with bulletin := d.bulletin.shutdown } due :=
  { shows with bulletin := congrArg Bulletin.shutdown shows.bulletin }

theorem add (shows : n.Shows d due) (listener : Listener) :
    (n.add listener).Shows { d with registry := d.registry.add listener } due :=
  { shows with registry := congrArg (·.add listener) shows.registry }

/-- A removal takes out the same registration, or none. -/
theorem remove (shows : n.Shows d due) (listener : Listener) :
    (n.remove listener).Shows
      { d with registry := (d.registry.remove? listener).getD d.registry } due := by
  have hregistry := shows.registry
  unfold Newsroom.remove
  rw [hregistry]
  cases d.registry.remove? listener with
  | some registry => exact { shows with registry := rfl }
  | none => exact { shows with registry := hregistry }

/-- The listeners are told one after another. -/
theorem tell (shows : n.Shows d due) :
    ∃ actions next, n.acts actions = some next ∧ next.Shows
      (due.foldl (fun d (listener, notice) => d.record (.told listener notice)) d) [] := by
  induction due generalizing n d with
  | nil => exact ⟨[], n, rfl, shows⟩
  | cons pair due ih =>
    obtain ⟨listener, notice⟩ := pair
    let called : Newsroom :=
      { n with pending := due }.record (.called listener notice listener.panics)
    have hcall : n.act (.call listener.panics) = some called := by
      simp only [Newsroom.act, call?, shows.pending]
      rfl
    have hcalled : called.Shows (d.record (.told listener notice)) due :=
      { shows with
        pending := rfl
        told := congrArg ((listener, notice) :: ·) shows.told }
    obtain ⟨actions, next, hacts, hnext⟩ := ih hcalled
    exact ⟨.call listener.panics :: actions, next, Option.bind_eq_some_iff.2 ⟨called, hcall, hacts⟩,
      hnext⟩

theorem deliver (shows : n.Shows d []) (h : d.deliver? = some e) :
    ∃ actions next, n.acts actions = some next ∧ next.Shows e [] := by
  obtain ⟨⟨notice, bulletin⟩, hnext, rfl⟩ := Option.map_eq_some_iff.1 h
  let taken : Newsroom := { n with bulletin, held := some notice }
  have htake : n.act .take = some taken := by
    simp [Newsroom.act, take?, shows.free, shows.pending, shows.bulletin, hnext, taken]
  let handed : Newsroom :=
    { taken with held := none, pending := d.registry.told notice }.record (.handed notice)
  have hhand : taken.act .hand = some handed := by
    simp [Newsroom.act, hand?, taken, handed, shows.registry]
  have hhanded :
      handed.Shows ({ d with bulletin }.record (.handed notice)) (d.registry.told notice) :=
    { shows with
      bulletin := rfl
      free := rfl
      pending := rfl
      handed := congrArg (notice :: ·) shows.handed }
  obtain ⟨actions, next, hacts, hshows⟩ := hhanded.tell
  refine ⟨.take :: .hand :: actions, next, ?_, hshows⟩
  exact Option.bind_eq_some_iff.2
    ⟨taken, htake, Option.bind_eq_some_iff.2 ⟨handed, hhand, hacts⟩⟩

end Shows

end Newsroom

namespace Station

variable {s t : Station} {n : Newsroom}

/-- Whatever is done to a station, a newsroom can keep up with it. -/
theorem act_shown {action : Action} (permitted : s.Permitted) (shows : n.Shows s.detector [])
    (h : s.act action = some t) :
    ∃ actions next, n.acts actions = some next ∧ next.Shows t.detector [] := by
  cases haside : action.aside with
  | true =>
    obtain ⟨heard, submits, -⟩ := act_hears permitted h haside
    exact shows.submits submits
  | false =>
    cases action with
    | close =>
      obtain rfl := of_owned h
      obtain ⟨actions, next, hacts, hnext⟩ := shows.submits s.detector.stop_submits
      have hshut : n.acts (actions ++ [.shut]) = some next.shut := runs_append hacts [.shut]
      exact ⟨_, next.shut, hshut, hnext.shut⟩
    | addListener listener =>
      obtain rfl := of_owned h
      exact ⟨[.add listener], _, rfl, shows.add listener⟩
    | removeListener listener =>
      obtain rfl := of_owned h
      refine ⟨[.remove listener], _, rfl, ?_⟩
      have hremoved := shows.remove listener
      unfold removeListener?
      cases hfound : s.detector.registry.remove? listener with
      | none | some =>
        rw [hfound] at hremoved
        exact hremoved
    | run heed activity =>
      cases activity with
      | delivery =>
        obtain ⟨d, hd, rfl⟩ := Option.map_eq_some_iff.1 h
        exact shows.deliver hd
      | worker | handler | feed | follower => cases haside
    | elapse time =>
      obtain rfl := Option.some.inj h
      exact ⟨[], n, rfl, { shows with }⟩
    | _ => cases haside

theorem acts_shown {actions : List Action} (permitted : s.Permitted)
    (shows : n.Shows s.detector []) (h : s.acts actions = some t) :
    ∃ done next, n.acts done = some next ∧ next.Shows t.detector [] := by
  induction actions generalizing s n with
  | nil =>
    obtain rfl := Option.some.inj h
    exact ⟨[], n, rfl, shows⟩
  | cons action rest ih =>
    obtain ⟨u, hact, hrest⟩ := Option.bind_eq_some_iff.1 h
    obtain ⟨done, next, hdone, hnext⟩ := act_shown permitted shows hact
    obtain ⟨later, last, hlater, hlast⟩ := ih (act_advances permitted hact).2 hnext hrest
    exact ⟨done ++ later, last, (runs_append hdone later).trans hlater, hlast⟩

/-- What a station has told its listeners is what some newsroom has, and so is what it has still to
tell them. -/
theorem Reachable.shown (h : s.Reachable) :
    ∃ actions n, Newsroom.start.acts actions = some n ∧ n.Shows s.detector [] := by
  obtain ⟨self, cluster, settings, initial, link, actions, hacts⟩ := h
  have hstart : Newsroom.start.Shows (start self cluster settings initial link).detector [] :=
    ⟨rfl, rfl, rfl, rfl, rfl, rfl, rfl⟩
  exact acts_shown (start_permitted self cluster settings initial link) hstart hacts

/-- The failures that have been submitted, in order: those that have been handed over to the
listeners, and those that wait for it. -/
def submitted (s : Station) : List Notice :=
  (inOrder Event.handed? s.past ++ s.detector.bulletin.waiting).filter Notice.isFailure

/-- What is reported is submitted to the listeners. -/
structure ReportsSubmitted (s : Station) : Prop where
  /-- The reports that were taken are the failures that have been submitted, in the same order. -/
  queued : inOrder Event.news? s.past = s.submitted
  /-- A report is turned away only by a bulletin that has been shut. -/
  refused : ∀ node g reason, .reported node g reason false ∈ s.past →
    s.detector.bulletin.shut = true
  /-- The listeners are told of what is handed over as those of a newsroom are. -/
  shown : ∃ actions n, Newsroom.start.acts actions = some n ∧ n.Shows s.detector []

/-- What of the submissions was taken. -/
private def taken? : Notice × Bool → Option Notice
  | (notice, true) => some notice
  | (_, false) => none

private theorem taken?_report? (past : Past) :
    (past.filterMap Event.report?).filterMap taken? = past.filterMap Event.news? := by
  rw [List.filterMap_filterMap]
  refine List.filterMap_congr fun e _ => ?_
  cases e with
  | reported node g reason taken => cases taken <;> rfl
  | _ => rfl

private theorem taken?_submission? (past : List NewsEvent) :
    ((past.filterMap submission?).filter (·.1.isFailure)).filterMap taken? =
      (past.filterMap accepted?).filter Notice.isFailure := by
  rw [List.filterMap_filter, List.filterMap_filterMap, List.filter_filterMap]
  refine List.filterMap_congr fun e _ => ?_
  cases e with
  | submitted notice accepted =>
    cases accepted <;> cases hfailure : notice.isFailure <;>
      simp [submission?, accepted?, taken?, hfailure, Option.filter]
  | _ => rfl

theorem Reachable.reports_submitted (h : s.Reachable) : s.ReportsSubmitted := by
  obtain ⟨actions, n, hacts, shows⟩ := h.shown
  have sound : n.Sound := Newsroom.sound_start.acts hacts
  constructor
  case queued =>
    have haccepted : (n.past.filterMap accepted?).filter Notice.isFailure =
        s.past.filterMap Event.news? := by
      rw [← taken?_submission?, shows.reported]
      exact taken?_report? s.past
    have hhanded : inOrder handed? n.past = inOrder Event.handed? s.past := by
      simp only [inOrder, List.filterMap_reverse, shows.handed]
      rfl
    have hqueue := sound.queue
    rw [shows.free, Option.toList_none, List.append_nil, shows.bulletin, hhanded] at hqueue
    rw [submitted, ← hqueue, inOrder, inOrder, List.filterMap_reverse, List.filterMap_reverse,
      List.filter_reverse, haccepted]
  case refused =>
    intro node g reason hmem
    have hreport : (.nodeFailed node reason, false) ∈ s.past.filterMap Event.report? :=
      List.mem_filterMap.2 ⟨_, hmem, rfl⟩
    have hsubmission : (.nodeFailed node reason, false) ∈ n.past.filterMap submission? :=
      (List.mem_filter.1 (shows.reported.symm ▸ hreport)).1
    obtain ⟨e, he, hsubmitted⟩ := List.mem_filterMap.1 hsubmission
    cases e with
    | submitted notice accepted =>
      obtain ⟨-, rfl⟩ := Prod.mk.inj (Option.some.inj hsubmitted)
      exact shows.bulletin ▸ sound.shut_of_refused he
    | _ => cases hsubmitted
  case shown => exact ⟨actions, n, hacts, shows⟩

/-- As long as the bulletin is not shut, whatever is reported is submitted. -/
theorem ReportsSubmitted.mem_submitted (h : s.ReportsSubmitted) {node : Node} {g : Generation}
    {reason : FailureReason} {taken : Bool} (isOpen : s.detector.bulletin.shut = false)
    (hmem : .reported node g reason taken ∈ s.past) : .nodeFailed node reason ∈ s.submitted := by
  cases taken with
  | false => exact absurd ((h.refused node g reason hmem).symm.trans isOpen) (by decide)
  | true =>
    rw [← h.queued]
    exact List.mem_filterMap.2 ⟨_, List.mem_reverse.2 hmem, rfl⟩

end Station
end ClusterWatch
