import ClusterWatch.Cluster.Editing

/-!
No update is lost. The version of a proper revision is one above that of the snapshot it was made
from, so a revision that is accepted was made from the snapshot that it replaces, and a client that
was overtaken by another is refused.
-/
namespace ClusterWatch

namespace Snapshot

variable {s : Snapshot} {edits : List Edit}

theorem version_edit {e : Edit} (hnext : e ≠ .next) (hversion : e.setsVersion = false) :
    (s.edit e).version = s.version := by
  cases e with
  | next => exact absurd rfl hnext
  | version n => cases hversion
  | _ => rfl

theorem version_editAll_of_count_zero (hversion : ∀ e ∈ edits, e.setsVersion = false)
    (hcount : edits.count .next = 0) : (s.editAll edits).version = s.version := by
  induction edits generalizing s with
  | nil => rfl
  | cons e rest ih =>
    have hnext : e ≠ .next := fun heq => List.count_eq_zero.1 hcount (heq ▸ List.mem_cons_self)
    rw [List.count_cons_of_ne hnext] at hcount
    have hrest := ih (s := s.edit e) (fun f hf => hversion f (List.mem_cons_of_mem e hf)) hcount
    exact hrest.trans (version_edit hnext (hversion e List.mem_cons_self))

/-- Where the version is moved on once, it does not matter when. -/
theorem version_editAll_of_count_one (hversion : ∀ e ∈ edits, e.setsVersion = false)
    (hcount : edits.count .next = 1) : (s.editAll edits).version = max s.version 0 + 1 := by
  induction edits generalizing s with
  | nil => cases hcount
  | cons e rest ih =>
    have hrest : ∀ f ∈ rest, f.setsVersion = false :=
      fun f hf => hversion f (List.mem_cons_of_mem e hf)
    by_cases hnext : e = .next
    · subst hnext
      rw [List.count_cons_self] at hcount
      exact version_editAll_of_count_zero (s := s.next) hrest (Nat.succ.inj hcount)
    · rw [List.count_cons_of_ne hnext] at hcount
      have hsame := version_edit (s := s) hnext (hversion e List.mem_cons_self)
      rw [← hsame]
      exact ih (s := s.edit e) hrest hcount

end Snapshot

theorem Revision.version_snapshot {r : Revision} (h : r.isProper = true) :
    r.snapshot.version = max r.base.version 0 + 1 := by
  rw [isProper, Bool.and_eq_true, decide_eq_true_iff, List.all_eq_true] at h
  exact Snapshot.version_editAll_of_count_one (fun e he => by simpa using h.2 e he) h.1

namespace Editing

variable {e next last : Editing} {action : Action} {actions : List Action} {client : Nat}
  {r : Revision}

theorem offer?_eq_some (h : e.offer? client = some r) :
    e.revisions client = some r ∧ r.isProper = true :=
  Option.filter_eq_some_iff.1 h

/-- What an action does: a revision is accepted, or the current snapshot stays. Besides that it
touches the revision of one client alone, and gives a new base only by reading. -/
inductive Step (e : Editing) : Action → Editing → Prop
  | accept {client : Nat} {r : Revision} (offered : e.revisions client = some r)
      (proper : r.isProper = true) (newer : e.supplier.current.version < r.snapshot.version)
      (accepted : e.acceptance? (.publish client) = some r) :
      Step e (.publish client)
        ⟨{ e.supplier with current := r.snapshot, accepted := e.supplier.accepted + 1 },
          Function.update e.revisions client none⟩
  | refuse {client : Nat} (refused : e.acceptance? (.publish client) = none) :
      Step e (.publish client) ⟨e.supplier, Function.update e.revisions client none⟩
  | read (client : Nat) :
      Step e (.read client) ⟨e.supplier,
        Function.update e.revisions client (some ⟨e.supplier.current, []⟩)⟩
  | edit {client : Nat} {r : Revision} (edit : Snapshot.Edit)
      (held : e.revisions client = some r) :
      Step e (.edit client edit) ⟨e.supplier,
        Function.update e.revisions client (some { r with edits := r.edits ++ [edit] })⟩
  | close : Step e .close ⟨e.supplier.close, e.revisions⟩

theorem act_step (h : e.act action = some next) : e.Step action next := by
  cases action with
  | read client =>
    obtain rfl := Option.some.inj h
    exact .read client
  | edit client edit =>
    obtain ⟨r, held, rfl⟩ := Option.map_eq_some_iff.1 h
    exact .edit edit held
  | publish client =>
    obtain ⟨r, hoffer, rfl⟩ := Option.map_eq_some_iff.1 h
    obtain ⟨held, proper⟩ := offer?_eq_some hoffer
    unfold publish
    cases hpublish : e.supplier.publish r.snapshot with
    | ok supplier =>
      obtain ⟨-, newer, rfl⟩ := Supplier.publish_eq_ok hpublish
      refine .accept held proper newer ?_
      rw [acceptance?, hoffer, Option.filter_some, hpublish]
      rfl
    | error refusal =>
      refine .refuse ?_
      rw [acceptance?, hoffer, Option.filter_some, hpublish]
      rfl
  | close =>
    obtain rfl := Option.some.inj h
    exact .close

/-- What a client holds was made from the current snapshot, or the client has been overtaken. -/
def Sound (e : Editing) : Prop :=
  ∀ client r, e.revisions client = some r →
    r.base = e.supplier.current ∨ max r.base.version 0 + 1 ≤ e.supplier.current.version

/-- A revision that is newer than the current snapshot was made from it. -/
theorem Sound.base_eq (sound : e.Sound) (held : e.revisions client = some r)
    (proper : r.isProper = true) (newer : e.supplier.current.version < r.snapshot.version) :
    r.base = e.supplier.current := by
  have hversion := Revision.version_snapshot proper
  exact (sound client r held).resolve_right (by omega)

/-- The current snapshot moves on by what is accepted only, and what is accepted was made from
it. -/
theorem Step.current (sound : e.Sound) (step : e.Step action next) :
    e.acceptance? action = none ∧ next.supplier.current = e.supplier.current ∨
      ∃ r, e.acceptance? action = some r ∧
        next.supplier.current = e.supplier.current.editAll r.edits ∧
        next.supplier.current.version = max e.supplier.current.version 0 + 1 := by
  cases step with
  | accept held proper newer accepted =>
    have hbase := sound.base_eq held proper newer
    refine .inr ⟨_, accepted, congrArg (Snapshot.editAll · _) hbase, ?_⟩
    rw [← hbase]
    exact Revision.version_snapshot proper
  | refuse refused => exact .inl ⟨refused, rfl⟩
  | read | edit | close => exact .inl ⟨rfl, rfl⟩

/-- What a client holds it held before, but for further edits, or it has just read it. -/
theorem Step.origin (step : e.Step action next) (held : next.revisions client = some r) :
    (∃ old, e.revisions client = some old ∧ r.base = old.base) ∨
      action = .read client ∧ r.base = e.supplier.current ∧ next.supplier = e.supplier := by
  cases step with
  | @accept other | @refuse other =>
    by_cases hclient : client = other
    · simp [hclient] at held
    · exact .inl ⟨r, by simpa [hclient] using held, rfl⟩
  | read other =>
    by_cases hclient : client = other
    · simp only [hclient, Function.update_self, Option.some.injEq] at held
      subst held hclient
      exact .inr ⟨rfl, rfl, rfl⟩
    · exact .inl ⟨r, by simpa [hclient] using held, rfl⟩
  | @edit other old edit hold =>
    by_cases hclient : client = other
    · simp only [hclient, Function.update_self, Option.some.injEq] at held
      subst held hclient
      exact .inl ⟨old, hold, rfl⟩
    · exact .inl ⟨r, by simpa [hclient] using held, rfl⟩
  | close => exact .inl ⟨r, held, rfl⟩

theorem Step.sound (step : e.Step action next) (sound : e.Sound) : next.Sound := by
  intro client r held
  rcases step.origin held with ⟨old, hold, hbase⟩ | ⟨-, hbase, hsupplier⟩
  · rw [hbase]
    have hold := sound client old hold
    rcases step.current sound with ⟨-, hsame⟩ | ⟨accepted, -, -, hversion⟩
    · rw [hsame]
      exact hold
    · right
      rcases hold with hcurrent | hovertaken
      · rw [hcurrent]
        omega
      · omega
  · rw [hsupplier]
    exact .inl hbase

theorem start_sound (localNode : Node) (initial : Snapshot) : (start localNode initial).Sound :=
  fun _ _ held => by cases held

theorem acts_sound (sound : e.Sound) (hacts : e.acts actions = some last) : last.Sound := by
  induction actions generalizing e with
  | nil =>
    obtain rfl := Option.some.inj hacts
    exact sound
  | cons action rest ih =>
    obtain ⟨next, hact, hrest⟩ := Option.bind_eq_some_iff.1 hacts
    exact ih ((act_step hact).sound sound) hrest

theorem acceptances_cons (hact : e.act action = some next) (rest : List Action) :
    e.acceptances (action :: rest) = (e.acceptance? action).toList ++ next.acceptances rest := by
  rw [acceptances, hact]
  rfl

/-- The edits of all that has been accepted make the current snapshot. -/
theorem acts_current (sound : e.Sound) (hacts : e.acts actions = some last) :
    last.supplier.current =
      (e.acceptances actions).foldl (fun s r => s.editAll r.edits) e.supplier.current := by
  induction actions generalizing e with
  | nil =>
    obtain rfl := Option.some.inj hacts
    rfl
  | cons action rest ih =>
    obtain ⟨next, hact, hrest⟩ := Option.bind_eq_some_iff.1 hacts
    have step := act_step hact
    rw [ih (step.sound sound) hrest, acceptances_cons hact]
    rcases step.current sound with ⟨hnone, hsame⟩ | ⟨r, hsome, hmoved, -⟩
    · rw [hnone, hsame]
      rfl
    · rw [hsome, hmoved]
      rfl

/-- Every acceptance takes the version beyond what could be made from the snapshot before it. -/
theorem acts_version (sound : e.Sound) (hacts : e.acts actions = some last) :
    e.supplier.current.version ≤ last.supplier.current.version ∧
      (e.acceptances actions ≠ [] →
        max e.supplier.current.version 0 + 1 ≤ last.supplier.current.version) := by
  induction actions generalizing e with
  | nil =>
    obtain rfl := Option.some.inj hacts
    exact ⟨Int.le_refl _, fun h => absurd rfl h⟩
  | cons action rest ih =>
    obtain ⟨next, hact, hrest⟩ := Option.bind_eq_some_iff.1 hacts
    have step := act_step hact
    obtain ⟨hle, hbeyond⟩ := ih (step.sound sound) hrest
    rw [acceptances_cons hact]
    rcases step.current sound with ⟨hnone, hsame⟩ | ⟨r, -, -, hversion⟩
    · rw [hnone]
      exact hsame ▸ ⟨hle, hbeyond⟩
    · exact ⟨by omega, fun _ => by omega⟩

/-- As long as a client does not read, it goes by what it has read. -/
theorem acts_base (hacts : e.acts actions = some last) (unread : .read client ∉ actions)
    (held : last.revisions client = some r) :
    ∃ old, e.revisions client = some old ∧ r.base = old.base := by
  induction actions generalizing e with
  | nil =>
    obtain rfl := Option.some.inj hacts
    exact ⟨r, held, rfl⟩
  | cons action rest ih =>
    obtain ⟨next, hact, hrest⟩ := Option.bind_eq_some_iff.1 hacts
    obtain ⟨old, hold, hbase⟩ := ih hrest fun hmem => unread (List.mem_cons_of_mem _ hmem)
    rcases (act_step hact).origin hold with ⟨older, holder, hsame⟩ | ⟨heq, -⟩
    · exact ⟨older, holder, hbase.trans hsame⟩
    · exact absurd (heq ▸ List.mem_cons_self) unread

theorem isProper_of_act (hact : e.act (.publish client) = some next)
    (held : e.revisions client = some r) : r.isProper = true := by
  obtain ⟨offered, hoffer, -⟩ := Option.map_eq_some_iff.1 hact
  obtain ⟨hold, proper⟩ := offer?_eq_some hoffer
  exact Option.some.inj (hold.symm.trans held) ▸ proper

/-- What comes of the publications on a run. -/
structure Preserved (first : Editing) (actions : List Action) (last : Editing) : Prop where
  /-- All edits that have been accepted are there, in their order. -/
  current : last.supplier.current =
    (first.acceptances actions).foldl (fun s r => s.editAll r.edits) first.supplier.current
  /-- What is accepted was made from the snapshot that it replaces. -/
  based : ∀ {before after client mid r supplier}, actions = before ++ .publish client :: after →
    first.acts before = some mid → mid.revisions client = some r →
    mid.supplier.publish r.snapshot = .ok supplier →
    r.base = mid.supplier.current ∧ supplier.current = mid.supplier.current.editAll r.edits
  /-- While the supplier is open, a client is refused just if somebody else's revision has been
  accepted since it read. -/
  stale : ∀ {before between after client seen mid r},
    actions = before ++ .read client :: between ++ .publish client :: after →
    .read client ∉ between → first.acts before = some seen →
    seen.acts (.read client :: between) = some mid → mid.revisions client = some r →
    mid.supplier.closed = false →
    ((∃ current offered, mid.supplier.publish r.snapshot = .error (.stale current offered)) ↔
      seen.acceptances (.read client :: between) ≠ [])

variable {localNode : Node} {initial : Snapshot}

/-- Clients that publish one version after what they have read do not undo what others have done,
whatever the order of their steps. -/
theorem updates_preserved (hacts : (start localNode initial).acts actions = some last) :
    (start localNode initial).Preserved actions last := by
  have hfirst := start_sound localNode initial
  constructor
  case current => exact acts_current hfirst hacts
  case based =>
    rintro before after client mid r supplier rfl hbefore held accepted
    have hafter := (runs_append hbefore _).symm.trans hacts
    obtain ⟨next, hact, -⟩ := Option.bind_eq_some_iff.1 hafter
    obtain ⟨-, newer, rfl⟩ := Supplier.publish_eq_ok accepted
    have hbase := (acts_sound hfirst hbefore).base_eq held (isProper_of_act hact held) newer
    exact ⟨hbase, congrArg (Snapshot.editAll · r.edits) hbase⟩
  case stale =>
    rintro before between after client seen mid r rfl unread hbefore hbetween held hopen
    rw [List.append_assoc] at hacts
    have hread := (runs_append hbefore _).symm.trans hacts
    have hafter := (runs_append hbetween _).symm.trans hread
    obtain ⟨next, hact, -⟩ := Option.bind_eq_some_iff.1 hafter
    have hseen := acts_sound hfirst hbefore
    have hbase : r.base = seen.supplier.current := by
      obtain ⟨reading, hreading, hrest⟩ := runs_cons.1 hbetween
      obtain rfl := Option.some.inj hreading
      obtain ⟨old, hold, hsame⟩ := acts_base hrest unread held
      simp only [Function.update_self, Option.some.injEq] at hold
      rw [hsame, ← hold]
    have hversion := Revision.version_snapshot (isProper_of_act hact held)
    rw [Supplier.publish_stale_iff hopen, hversion, hbase]
    refine ⟨fun hstale hnone => ?_, (acts_version hseen hbetween).2⟩
    have hcurrent := acts_current hseen hbetween
    rw [hnone, List.foldl_nil] at hcurrent
    rw [hcurrent] at hstale
    omega

section Trial

def member (name : String) : Node := ⟨⟨name⟩, name, default⟩

def unheardOf : Editing := .start (member "home") (.empty ⟨"trial"⟩)

/-- Two clients read the snapshot of a cluster of which nothing has been heard; the slower one is
refused, and reads again. -/
def overtakingActions : List Action :=
  [.read 0, .read 1, .edit 0 .next, .edit 0 (.withNode (member "first")),
    .edit 1 (.withNode (member "second")), .edit 1 .next, .publish 0, .publish 1, .read 1,
    .edit 1 .next, .edit 1 (.withNode (member "second")), .publish 1]

def overtaken : Editing := (unheardOf.acts overtakingActions).get (by decide)

theorem updates_preserved_overtaken :
    unheardOf.acts overtakingActions = some overtaken ∧
      unheardOf.Preserved overtakingActions overtaken ∧
      (unheardOf.acceptances overtakingActions).map (·.edits) =
        [[.next, .withNode (member "first")], [.next, .withNode (member "second")]] ∧
      overtaken.supplier.current.version = 2 ∧
      overtaken.supplier.current.hasNode ⟨"first"⟩ = true ∧
      overtaken.supplier.current.hasNode ⟨"second"⟩ = true := by
  have hacts : unheardOf.acts overtakingActions = some overtaken := (Option.some_get _).symm
  exact ⟨hacts, updates_preserved hacts, by decide, by decide, by decide, by decide⟩

end Trial

end Editing

end ClusterWatch
