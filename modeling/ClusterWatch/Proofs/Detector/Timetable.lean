import ClusterWatch.Proofs.Detector.Past

/-!
The timetable of a cycle. When a cycle pings its node, and when and how it comes to its end, is
laid down by the settings and by what becomes of each of its pings: an attempt is over when its
answer comes or when its time is up, whichever is first, and what it has come to decides on the
next beat. The timetable knows nothing of workers, gates or turns.
-/
namespace ClusterWatch

/-- What an attempt has come to. -/
inductive Verdict where
  | acknowledged
  | failed
  /-- The connection was lost. -/
  | lost
deriving DecidableEq, Repr

def Outcome.verdict : Outcome → Verdict
  | .done => .acknowledged
  | .failed error => if error.isDisconnect then .lost else .failed

namespace DetectionSettings

/-- How long an attempt takes, by the answer to its ping. -/
def span (settings : DetectionSettings) : Reply → Nat
  | .never => settings.timeout
  | .after delay _ => min delay settings.timeout

/-- An answer counts only if it comes before the attempt is given up. -/
def verdict (settings : DetectionSettings) : Reply → Verdict
  | .never => .failed
  | .after delay outcome => if delay < settings.timeout then outcome.verdict else .failed

end DetectionSettings

/-- A ping with the failures in a row behind it, or how the cycle ends. -/
inductive Beat where
  | ping (time failures : Nat)
  | report (time : Nat)
  | loss (time : Nat)
deriving DecidableEq, Repr

def Beat.time : Beat → Nat
  | .ping time _ => time
  | .report time => time
  | .loss time => time

/-- What the history tells of a cycle while it goes its own way. -/
inductive Deed where
  | pings (node : Node)
  | ends (node : Node) (cause : Removal)
  | reports (node : Node) (attempts : Nat) (limit : Duration)
deriving DecidableEq

def Deed.isPing : Deed → Bool
  | .pings _ => true
  | _ => false

def Event.deed? (g : Generation) : Event → Option Deed
  | .pinged node h _ => if h = g then some (.pings node) else none
  | .removed node h cause => if h = g then some (.ends node cause) else none
  | .reported node h (.unresponsive attempts limit) _ =>
      if h = g then some (.reports node attempts limit) else none
  | _ => none

namespace History

/-- The deeds of a cycle with their times, earliest first. -/
def deeds (history : History) (g : Generation) : List (Nat × Deed) :=
  (history.filterMap fun entry => (entry.2.deed? g).map (entry.1, ·)).reverse

/-- When the cycle has pinged its node, earliest first. -/
def pingTimes (history : History) (g : Generation) : List Nat :=
  ((history.deeds g).filter (·.2.isPing)).map Prod.fst

variable {history : History} {g : Generation} {time : Nat} {event : Event}

theorem deeds_cons_of_none (h : event.deed? g = none) :
    deeds ((time, event) :: history) g = history.deeds g := by
  simp [deeds, h]

theorem deeds_cons_of_some {deed : Deed} (h : event.deed? g = some deed) :
    deeds ((time, event) :: history) g = history.deeds g ++ [(time, deed)] := by
  simp [deeds, h]

/-- A report among the deeds has been made. -/
theorem reported_of_mem_deeds {node : Node} {attempts : Nat} {limit : Duration}
    (h : (time, .reports node attempts limit) ∈ history.deeds g) :
    ∃ taken, .reported node g (.unresponsive attempts limit) taken ∈ history.map Prod.snd := by
  obtain ⟨⟨stamp, e⟩, he, hdeed⟩ := List.mem_filterMap.1 (List.mem_reverse.1 h)
  obtain ⟨deed, hfound, heq⟩ := Option.map_eq_some_iff.1 hdeed
  obtain ⟨-, rfl⟩ := Prod.mk.inj heq
  have hmem : e ∈ history.map Prod.snd := List.mem_map.2 ⟨_, he, rfl⟩
  cases e with
  | reported n k reason taken =>
    cases reason with
    | unresponsive a l =>
      obtain ⟨rfl, hreports⟩ := Option.ite_none_right_eq_some.1 hfound
      obtain ⟨rfl, rfl, rfl⟩ := Deed.reports.inj (Option.some.inj hreports)
      exact ⟨taken, hmem⟩
    | _ => cases hfound
  | pinged | removed =>
    obtain ⟨-, hother⟩ := Option.ite_none_right_eq_some.1 hfound
    cases hother
  | _ => cases hfound

theorem deeds_append_of_none {new : History} (h : ∀ entry ∈ new, entry.2.deed? g = none) :
    deeds (new ++ history) g = history.deeds g := by
  induction new with
  | nil => rfl
  | cons entry rest ih =>
    rw [List.cons_append, deeds_cons_of_none (h entry List.mem_cons_self)]
    exact ih fun other hother => h other (List.mem_cons_of_mem _ hother)

end History

/-- What decides on the beats of a cycle: whose cycle it is, how it is set, when it begins, and what
becomes of its pings, in the order in which it sends them. -/
structure Timetable where
  node : Node
  settings : DetectionSettings
  begun : Nat
  replies : Nat → Reply

namespace Timetable

variable (t : Timetable)

/-- What follows on a ping that is over and had so many failures behind it. -/
def sequel (ended failures : Nat) : Verdict → Beat
  | .acknowledged => .ping (ended + t.settings.interval) 0
  | .failed =>
      if failures + 1 = t.settings.retries then .report ended else .ping ended (failures + 1)
  | .lost => .loss ended

/-- A ping is followed by something, and an end by nothing. -/
def next? (reply : Reply) : Beat → Option Beat
  | .ping time failures =>
      some (t.sequel (time + t.settings.span reply) failures (t.settings.verdict reply))
  | .report _ => none
  | .loss _ => none

/-- The beats of the cycle by number, until it has ended. -/
def beat? : Nat → Option Beat
  | 0 => some (.ping t.begun 0)
  | k + 1 => (beat? k).bind (t.next? (t.replies k))

/-- What a beat puts into the history. -/
def deeds : Beat → List (Nat × Deed)
  | .ping time _ => [(time, .pings t.node)]
  | .report time => [(time, .ends t.node .unresponsive),
      (time, .reports t.node t.settings.retries t.settings.timeoutDuration)]
  | .loss time => [(time, .ends t.node .lostByPing)]

/-- The deeds of the first `k` beats. -/
def course (k : Nat) : List (Nat × Deed) :=
  (List.range k).flatMap fun i => (t.beat? i).toList.flatMap t.deeds

variable {t} {k : Nat} {b : Beat}

theorem course_succ (h : t.beat? k = some b) : t.course (k + 1) = t.course k ++ t.deeds b := by
  simp [course, List.range_succ, h]

theorem exists_ping_of_succ (h : t.beat? (k + 1) = some b) :
    ∃ time failures, t.beat? k = some (.ping time failures) := by
  obtain ⟨before, hbefore, hnext⟩ := Option.bind_eq_some_iff.1 h
  cases before with
  | ping time failures => exact ⟨time, failures, hbefore⟩
  | report | loss => cases hnext

/-- After an end there are no more beats. -/
theorem beat?_succ_of_end (h : t.beat? k = some b)
    (hend : ∀ time failures, b ≠ .ping time failures) : t.beat? (k + 1) = none := by
  cases hnext : t.beat? (k + 1) with
  | none => rfl
  | some _ =>
    obtain ⟨time, failures, hping⟩ := exists_ping_of_succ hnext
    exact absurd (Option.some.inj (h.symm.trans hping)) (hend time failures)

theorem beat?_succ {time failures : Nat} (h : t.beat? k = some (.ping time failures)) :
    t.beat? (k + 1) = some (t.sequel (time + t.settings.span (t.replies k)) failures
      (t.settings.verdict (t.replies k))) := by
  rw [beat?, h, Option.bind_some]
  rfl

/-- As many pings as beats, as long as the cycle goes on. -/
theorem course_pings (h : t.beat? k = some b) :
    (((t.course k).filter (·.2.isPing)).map Prod.fst).length = k := by
  induction k generalizing b with
  | zero => rfl
  | succ k ih =>
    obtain ⟨time, failures, hping⟩ := exists_ping_of_succ h
    rw [course_succ hping, List.filter_append, List.map_append, List.length_append, ih hping]
    rfl

/-- The failures in a row stay below the number of attempts that is allowed. -/
theorem failures_lt (hretries : 0 < t.settings.retries) {time failures : Nat}
    (h : t.beat? k = some (.ping time failures)) : failures < t.settings.retries := by
  induction k generalizing time failures with
  | zero =>
    obtain ⟨-, rfl⟩ := Beat.ping.inj (Option.some.inj h)
    exact hretries
  | succ k ih =>
    obtain ⟨sent, before, hping⟩ := exists_ping_of_succ h
    have hbefore := ih hping
    rw [beat?_succ hping, Option.some.injEq, sequel.eq_def] at h
    split at h
    · obtain ⟨-, rfl⟩ := Beat.ping.inj h
      exact hretries
    · split at h
      · cases h
      · obtain ⟨-, rfl⟩ := Beat.ping.inj h
        omega
    · cases h

section Silent

/-- A node that never answers is pinged anew whenever an attempt is given up. -/
theorem beat?_of_silent (silent : ∀ i, t.replies i = .never) (hk : k < t.settings.retries) :
    t.beat? k = some (.ping (t.begun + k * t.settings.timeout) k) := by
  induction k with
  | zero => simp [beat?]
  | succ k ih =>
    have hping := ih (by omega)
    have hlast : ¬ k + 1 = t.settings.retries := by omega
    rw [beat?_succ hping, silent k]
    simp only [sequel, DetectionSettings.verdict, DetectionSettings.span, if_neg hlast]
    rw [Nat.succ_mul, Nat.add_assoc]

/-- It is reported when the last attempt that is allowed is given up. -/
theorem beat?_retries_of_silent (silent : ∀ i, t.replies i = .never)
    (hretries : 0 < t.settings.retries) :
    t.beat? t.settings.retries =
      some (.report (t.begun + t.settings.retries * t.settings.timeout)) := by
  obtain ⟨last, hlast⟩ := Nat.exists_eq_succ_of_ne_zero (Nat.ne_of_gt hretries)
  have hping := beat?_of_silent silent (k := last) (by omega)
  rw [hlast, beat?_succ hping, silent last]
  simp only [sequel, DetectionSettings.verdict, DetectionSettings.span, hlast, Nat.succ_eq_add_one,
    ↓reduceIte]
  rw [Nat.succ_mul, Nat.add_assoc]

theorem course_of_silent (silent : ∀ i, t.replies i = .never) (hk : k ≤ t.settings.retries) :
    t.course k = (List.range k).map fun i => (t.begun + i * t.settings.timeout, .pings t.node) := by
  induction k with
  | zero => rfl
  | succ k ih =>
    rw [course_succ (beat?_of_silent silent hk), ih (by omega), List.range_succ, List.map_append]
    rfl

theorem exists_beat_of_silent (silent : ∀ i, t.replies i = .never)
    (hretries : 0 < t.settings.retries) (hk : k ≤ t.settings.retries) :
    ∃ b, t.beat? k = some b := by
  rcases Nat.lt_or_eq_of_le hk with hlt | rfl
  · exact ⟨_, beat?_of_silent silent hlt⟩
  · exact ⟨_, beat?_retries_of_silent silent hretries⟩

theorem time_le_of_silent (silent : ∀ i, t.replies i = .never) (hretries : 0 < t.settings.retries)
    (hk : k ≤ t.settings.retries) (h : t.beat? k = some b) :
    b.time ≤ t.begun + t.settings.retries * t.settings.timeout := by
  rcases Nat.lt_or_eq_of_le hk with hlt | rfl
  · obtain rfl := Option.some.inj (h.symm.trans (beat?_of_silent silent hlt))
    exact Nat.add_le_add_left (Nat.mul_le_mul_right _ hk) _
  · obtain rfl := Option.some.inj (h.symm.trans (beat?_retries_of_silent silent hretries))
    exact Nat.le_refl _

end Silent

/-- The second of three attempts is acknowledged, and the count of failures begins anew. -/
example : (List.range 6).map (Timetable.beat?
      ⟨default, ⟨1000, 300, 3, false, true⟩, 50,
        fun i => if i = 1 then .after 20 .done else .never⟩) =
    [some (.ping 50 0), some (.ping 350 1), some (.ping 1370 0), some (.ping 1670 1),
      some (.ping 1970 2), some (.report 2270)] := by decide

end Timetable
end ClusterWatch
