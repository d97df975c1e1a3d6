import ClusterWatch.Proofs.Detector.Reach

/-!
What goes out in a ping. Of all that a worker may do in one stretch only the sending of a ping is
noted first as one, so whatever ping is noted tells who asks whom, and what cluster and what version
the sender has at that moment.
-/
namespace ClusterWatch.Station

open Detector

variable {s t : Station} {w : Worker} {target : Node} {g : Generation} {request : PingRequest}

theorem endWorker_past (s : Station) (w : Worker) : (s.endWorker w).past = s.past := by
  obtain ⟨alive, -, heq⟩ := endWorker_eq s w
  obtain ⟨gates, hleave⟩ := s.detector.leave_eq alive w
  rw [heq, hleave]
  rfl

theorem endWorker_continues {d : Detector} (h : d.Continues s.detector) :
    d.Continues (s.endWorker w).detector := by
  obtain ⟨alive, -, heq⟩ := endWorker_eq s w
  rw [heq]
  exact h.leave

theorem afterDisconnect_continues {d : Detector} (h : d.Continues s.detector) (node : Node)
    (lost : Generation) : d.Continues (s.afterDisconnect node lost).1.detector := by
  obtain ⟨link, heq, -⟩ := afterDisconnect_eq s node lost
  rw [heq]
  dsimp only
  split
  · exact h.record
  · exact h.report

theorem loseByPing_continues {d : Detector} {c : Cycle} (h : d.Continues s.detector) :
    d.Continues (s.loseByPing w c).detector := by
  let dropped : Station := { s with detector := s.detector.removeCycle .lostByPing c }
  have hdropped : d.Continues dropped.detector := h.removeCycle
  have hlost := afterDisconnect_continues hdropped w.node w.generation
  unfold loseByPing
  split
  next hlose =>
    rw [hlose] at hlost
    exact ⟨hlost.self, hlost.settings, hlost.past⟩
  next hlose =>
    rw [hlose] at hlost
    exact endWorker_continues hlost

/-- How a ping has come out is noted before anything is made of it. -/
theorem settlePing_continues (s : Station) (w : Worker) (outcome : Outcome) :
    (s.detector.record (.answered w.node.id w.generation outcome)).Continues
      (s.settlePing w outcome).detector := by
  have hd := Continues.refl (s.detector.record (.answered w.node.id w.generation outcome))
  unfold settlePing
  dsimp only
  split
  · exact endWorker_continues hd
  next c current =>
    cases outcome with
    | done =>
      dsimp only [acknowledge]
      split
      · exact ⟨hd.self, hd.settings, hd.past⟩
      · exact endWorker_continues ⟨hd.self, hd.settings, hd.past⟩
    | failed error =>
      dsimp only
      split
      · exact loseByPing_continues hd
      · dsimp only [countFailure]
        split
        · exact ⟨hd.self, hd.settings, hd.past⟩
        · exact endWorker_continues hd.removeCycle.report

/-- A worker that sends a ping tells its node whom it means to reach, and who asks, what cluster
it belongs to and what version it knows at this moment. -/
theorem runWorker_pinged {heed : Bool} (h : s.runWorker heed w = some t)
    (hpast : t.past = .pinged target g request :: s.past) :
    request = s.detector.pingRequest target s.supplier.current.version := by
  have hsame : t.past ≠ s.past := by
    rw [hpast]
    exact List.cons_ne_self _ _
  -- Whatever is noted first is all that is noted, and it is the ping.
  have hfirst : ∀ e, (s.detector.record e).Continues t.detector →
      e = .pinged target g request := by
    intro e continues
    have hsuffix : e :: s.past <:+ .pinged target g request :: s.past := hpast ▸ continues.past
    exact (List.cons.inj (hsuffix.eq_of_length rfl)).1
  have hend : s.endWorker w ≠ t := by
    rintro rfl
    exact hsame (endWorker_past s w)
  have habandon : s.abandonPing w ≠ t := by
    rintro rfl
    cases hfirst (.abandoned w.node.id w.generation) (endWorker_continues (.refl _))
  unfold runWorker at h
  cases stage : w.stage with
  | ready =>
    simp only [stage] at h
    split at h
    · obtain rfl := Option.some.inj h
      obtain ⟨gates, made, heq⟩ := s.detector.gateFor_eq w.node.id
      refine absurd ?_ hsame
      unfold queueWorker
      dsimp only
      rw [heq]
      rfl
    · exact absurd (Option.some.inj h) hend
  | queued gate =>
    simp only [stage] at h
    split at h
    · exact absurd (Option.some.inj h) hend
    · split at h
      · cases h
      · split at h
        · exact absurd (Option.some.inj h) hend
        · obtain rfl := Option.some.inj h
          cases hpast
          rfl
  | pinging gate flight =>
    simp only [stage] at h
    split at h
    · exact absurd (Option.some.inj h) habandon
    · split at h
      · obtain rfl := Option.some.inj h
        cases hfirst _ (settlePing_continues s w _)
      · split at h
        · exact absurd (Option.some.inj h) habandon
        · cases h
  | resting wake =>
    simp only [stage] at h
    split at h
    · exact absurd (Option.some.inj h) hend
    · split at h
      · cases h
      · obtain rfl := Option.some.inj h
        exact absurd rfl hsame
  | connecting flight =>
    simp only [stage] at h
    obtain ⟨outcome, -, rfl⟩ := Option.map_eq_some_iff.1 h
    have hconnected : (s.detector.record (.connected w.node w.generation outcome)).Continues
        (s.endReconnect w.node w.generation outcome).detector := by
      have hd := Continues.refl (s.detector.record (.connected w.node w.generation outcome))
      cases outcome with
      | done => exact hd.install
      | failed error => exact hd.report
    cases hfirst _ (endWorker_continues hconnected)

/-- A stretch of the cycle's worker in which a ping goes out to the node. -/
def Sends (s : Station) (target : Node) (g : Generation) (request : PingRequest) : Prop :=
  ∃ heed t, s.run heed (.worker g) = some t ∧ t.past = .pinged target g request :: s.past

theorem Sends.request_eq (h : s.Sends target g request) :
    request = s.detector.pingRequest target s.supplier.current.version := by
  obtain ⟨heed, t, hrun, hpast⟩ := h
  obtain ⟨w, -, hworker⟩ := Option.bind_eq_some_iff.1 hrun
  exact runWorker_pinged hworker hpast

end ClusterWatch.Station
