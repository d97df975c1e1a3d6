import ClusterWatch.Json.Reader
import ClusterWatch.Proofs.Json.Scanning

/-!
Documents and the values read from them. The tokens of a value, read where a value may come,
complete the value and leave what is open as it was; and whatever has been read is the beginning
of everything open. So a text is read as a value if and only if it is a document of the value.
-/
namespace ClusterWatch.Json

@[elab_as_elim, induction_eliminator]
theorem Value.induction {P : Value → Prop} (null : P .null) (bool : ∀ b, P (.bool b))
    (number : ∀ n, P (.number n)) (text : ∀ t, P (.text t))
    (array : ∀ items, (∀ v ∈ items, P v) → P (.array items))
    (object : ∀ members, (∀ m ∈ members, P m.2) → P (.object members)) (v : Value) : P v :=
  match v with
  | .null => null
  | .bool b => bool b
  | .number n => number n
  | .text t => text t
  | .array items => array items fun v _ => Value.induction null bool number text array object v
  | .object members =>
      object members fun (name, v) hm =>
        have : 1 + sizeOf name + sizeOf v < sizeOf members := List.sizeOf_lt_of_mem hm
        Value.induction null bool number text array object v
termination_by sizeOf v

namespace Value

section Tokens

variable {v : Value} {items : List Value} {members : List (Text × Value)} {name : Text}

theorem itemTokens_cons (hitems : items ≠ []) :
    itemTokens (v :: items) = v.tokens ++ .comma :: itemTokens items := by
  cases items with
  | nil => exact absurd rfl hitems
  | cons w items => rw [itemTokens]

theorem memberTokens_cons (hmembers : members ≠ []) :
    memberTokens ((name, v) :: members) =
      .text name :: .colon :: (v.tokens ++ .comma :: memberTokens members) := by
  cases members with
  | nil => exact absurd rfl hmembers
  | cons m members => rw [memberTokens]

/-- The tokens of items, each with the comma after it. -/
def ledTokens (items : List Value) : List Token :=
  items.flatMap fun v => v.tokens ++ [.comma]

/-- The tokens of members, each with the comma after it. -/
def ledMembers (members : List (Text × Value)) : List Token :=
  members.flatMap fun m => .text m.1 :: .colon :: (m.2.tokens ++ [.comma])

theorem itemTokens_concat : itemTokens (items ++ [v]) = ledTokens items ++ v.tokens := by
  induction items with
  | nil =>
    rw [List.nil_append, itemTokens]
    rfl
  | cons w items ih =>
    rw [List.cons_append, itemTokens_cons (by simp), ih]
    simp [ledTokens]

theorem memberTokens_concat : memberTokens (members ++ [(name, v)]) =
    ledMembers members ++ .text name :: .colon :: v.tokens := by
  induction members with
  | nil =>
    rw [List.nil_append, memberTokens]
    rfl
  | cons m members ih =>
    rw [List.cons_append, memberTokens_cons (by simp), ih]
    simp [ledMembers]

end Tokens

section Separated

theorem separated_itemTokens {items : List Value} (h : ∀ v ∈ items, Separated v.tokens) :
    Separated (itemTokens items) := by
  induction items with
  | nil => exact .nil
  | cons v items ih =>
    obtain ⟨hv, hitems⟩ := List.forall_mem_cons.1 h
    by_cases hnil : items = []
    · subst hnil
      exact hv
    · rw [itemTokens_cons hnil]
      exact hv.append_closing rfl (ih hitems)

theorem separated_memberTokens {members : List (Text × Value)}
    (h : ∀ m ∈ members, Separated m.2.tokens) : Separated (memberTokens members) := by
  induction members with
  | nil => exact .nil
  | cons m members ih =>
    obtain ⟨hv, hmembers⟩ := List.forall_mem_cons.1 h
    have hname {us : List Token} (hus : Separated us) :
        Separated (.text m.1 :: .colon :: us) :=
      @Separated.append_closing _ [.text m.1] _ (.singleton _) rfl hus
    by_cases hnil : members = []
    · subst hnil
      exact hname hv
    · rw [memberTokens_cons hnil]
      exact hname (hv.append_closing rfl (ih hmembers))

theorem separated_tokens (v : Value) : Separated v.tokens := by
  induction v with
  | null | bool | number | text => exact .singleton _
  | array items ih =>
    have hclose := (separated_itemTokens ih).append_closing (t := .closeBracket) rfl .nil
    exact @Separated.append_closing _ [] _ .nil rfl hclose
  | object members ih =>
    have hclose := (separated_memberTokens ih).append_closing (t := .closeBrace) rfl .nil
    exact @Separated.append_closing _ [] _ .nil rfl hclose

end Separated

end Value

/-- The tokens read of an array or object that is open, up to the value that is being read. -/
def Frame.opened : Frame → List Token
  | .array items => .openBracket :: Value.ledTokens items.reverse
  | .object members name =>
      .openBrace :: (Value.ledMembers members.reverse ++ [.text name, .colon])

/-- The tokens read of all that is open, which stands latest first. -/
def openedTokens (frames : List Frame) : List Token := frames.reverse.flatMap Frame.opened

@[simp] theorem openedTokens_cons (frame : Frame) (frames : List Frame) :
    openedTokens (frame :: frames) = openedTokens frames ++ frame.opened := by
  simp [openedTokens]

namespace Reading

open Value

variable {r r' : Reading} {frames : List Frame} {t : Token} {ts : List Token}

section Complete

/-- What may begin a value may begin the first item, and closes no array. -/
theorem step_itemOrClose (h : step ⟨.array [] :: frames, .value⟩ t = some r) :
    step ⟨frames, .itemOrClose⟩ t = some r := by
  cases t with
  | closeBracket => cases h
  | _ => exact h

theorem leads_itemOrClose (h : Leads step ⟨.array [] :: frames, .value⟩ ts r) (hts : ts ≠ []) :
    Leads step ⟨frames, .itemOrClose⟩ ts r := by
  cases ts with
  | nil => exact absurd rfl hts
  | cons t ts =>
    obtain ⟨r', hstep, h⟩ := leads_cons_iff.1 h
    exact .cons (step_itemOrClose hstep) h

theorem takes_items {v : Value} {items : List Value}
    (h : ∀ w ∈ v :: items, ∀ frames, Leads step ⟨frames, .value⟩ w.tokens (complete frames w))
    (done : List Value) : Leads step ⟨.array done :: frames, .value⟩
      (itemTokens (v :: items) ++ [.closeBracket])
      (complete frames (.array (done.reverse ++ v :: items))) := by
  obtain ⟨hv, hitems⟩ := List.forall_mem_cons.1 h
  induction items generalizing v done with
  | nil =>
    refine (hv _).append (.cons ?_ rfl)
    simp [step, complete]
  | cons w items ih =>
    obtain ⟨hw, hitems'⟩ := List.forall_mem_cons.1 hitems
    rw [itemTokens_cons (by simp), List.append_assoc]
    refine (hv _).append (.cons rfl ?_)
    simpa using ih hitems (v :: done) hw hitems'

theorem takes_members {name : Text} {v : Value} {members : List (Text × Value)}
    (h : ∀ m ∈ (name, v) :: members, ∀ frames,
      Leads step ⟨frames, .value⟩ m.2.tokens (complete frames m.2))
    (done : List (Text × Value)) : Leads step ⟨frames, .name done⟩
      (memberTokens ((name, v) :: members) ++ [.closeBrace])
      (complete frames (.object (done.reverse ++ (name, v) :: members))) := by
  obtain ⟨hv, hmembers⟩ := List.forall_mem_cons.1 h
  induction members generalizing name v done with
  | nil =>
    refine .cons rfl (.cons rfl ((hv _).append (.cons ?_ rfl)))
    simp [step, complete]
  | cons m members ih =>
    obtain ⟨hm, hmembers'⟩ := List.forall_mem_cons.1 hmembers
    rw [memberTokens_cons (by simp)]
    simp only [List.cons_append, List.append_assoc]
    refine .cons rfl (.cons rfl ((hv _).append (.cons rfl ?_)))
    simpa using ih hmembers ((name, v) :: done) hm hmembers'

theorem takes_value (v : Value) : ∀ frames, Leads step ⟨frames, .value⟩ v.tokens (complete frames v) := by
  induction v with
  | null | bool | number | text => exact fun _ => rfl
  | array items ih =>
    intro frames
    refine .cons rfl ?_
    cases items with
    | nil => rfl
    | cons v items => exact leads_itemOrClose (takes_items ih []) (by simp)
  | object members ih =>
    intro frames
    refine .cons rfl ?_
    cases members with
    | nil => rfl
    | cons m members =>
      have hmembers := @takes_members frames _ _ _ ih []
      -- The tokens of members begin with a name, which may come first just as well as later.
      cases members with
      | nil => exact hmembers
      | cons => exact hmembers

end Complete

section Sound

/-- The tokens read of what is still to be opened, or has just been completed. -/
inductive Taken : Expect → List Token → Prop
  | value : Taken .value []
  | itemOrClose : Taken .itemOrClose [.openBracket]
  | nameOrClose : Taken (.nameOrClose []) [.openBrace]
  | name {members : List (Text × Value)} :
      Taken (.name members) (.openBrace :: ledMembers members.reverse)
  | colon {members : List (Text × Value)} {name : Text} :
      Taken (.colon members name) (.openBrace :: (ledMembers members.reverse ++ [.text name]))
  | after {v : Value} : Taken (.after v) v.tokens

/-- What has been read is the beginning of all that is open, from the outermost inwards. -/
def Stands (r : Reading) (ts : List Token) : Prop :=
  ∃ back, ts = openedTokens r.frames ++ back ∧ Taken r.expect back

theorem Stands.value_iff : Stands ⟨frames, .value⟩ ts ↔ ts = openedTokens frames := by
  constructor
  · rintro ⟨back, rfl, hback⟩
    cases hback
    exact List.append_nil _
  · rintro rfl
    exact ⟨[], (List.append_nil _).symm, .value⟩

theorem Stands.beginValue (h : beginValue frames t = some r) :
    r.Stands (openedTokens frames ++ [t]) := by
  cases t with
  | openBrace => cases h; exact ⟨_, rfl, .nameOrClose⟩
  | openBracket => cases h; exact ⟨_, rfl, .itemOrClose⟩
  | text t => cases h; exact ⟨_, rfl, @Taken.after (.text t)⟩
  | number n => cases h; exact ⟨_, rfl, @Taken.after (.number n)⟩
  | bool b => cases h; exact ⟨_, rfl, @Taken.after (.bool b)⟩
  | null => cases h; exact ⟨_, rfl, @Taken.after .null⟩
  | closeBrace | closeBracket | colon | comma => cases h

theorem Stands.after (frames : List Frame) (v : Value) (hts : ts = openedTokens frames ++ v.tokens) :
    (complete frames v).Stands ts := ⟨_, hts, .after⟩

theorem Stands.step (h : r.Stands ts) (hstep : r.step t = some r') : r'.Stands (ts ++ [t]) := by
  obtain ⟨frames, expect⟩ := r
  obtain ⟨back, rfl, hback⟩ := h
  rw [List.append_assoc]
  cases hback with
  | value => exact .beginValue hstep
  | itemOrClose =>
    simp only [Reading.step] at hstep
    split at hstep
    · cases hstep
      exact .after _ _ (by simp [tokens, itemTokens])
    · simpa [Frame.opened, ledTokens] using Stands.beginValue hstep
  | nameOrClose =>
    simp only [Reading.step] at hstep
    split at hstep
    · cases hstep
      exact .after _ _ (by simp [tokens, memberTokens])
    · cases hstep
      exact ⟨_, rfl, .colon⟩
    · cases hstep
  | name =>
    simp only [Reading.step] at hstep
    split at hstep <;> cases hstep
    exact ⟨_, rfl, .colon⟩
  | @colon members name =>
    simp only [Reading.step] at hstep
    split at hstep <;> cases hstep
    exact Stands.value_iff.2 (by simp [Frame.opened])
  | @after v =>
    simp only [Reading.step] at hstep
    split at hstep <;> cases hstep
    · refine Stands.value_iff.2 ?_
      simp [Frame.opened, ledTokens]
    · refine .after _ _ ?_
      simp [Frame.opened, tokens, itemTokens_concat]
    · refine ⟨_, ?_, .name⟩
      simp [Frame.opened, ledMembers]
    · refine .after _ _ ?_
      simp [Frame.opened, tokens, memberTokens_concat]

theorem value?_eq_some_iff {v : Value} : r.value? = some v ↔ r = complete [] v := by
  obtain ⟨frames, expect⟩ := r
  unfold value?
  split
  next hframes hexpect =>
    simp only at hframes hexpect
    simp [complete, hframes, hexpect]
  next hnone =>
    refine iff_of_false (fun h => nomatch h) ?_
    rintro ⟨⟩
    exact hnone v rfl rfl

end Sound

end Reading

theorem Value.ofTokens?_eq_some_iff {ts : List Token} {v : Value} :
    Value.ofTokens? ts = some v ↔ ts = v.tokens := by
  constructor
  · intro h
    obtain ⟨r, hr, hvalue⟩ := Option.bind_eq_some_iff.1 h
    rw [Reading.value?_eq_some_iff.1 hvalue] at hr
    have hstart : Reading.start.Stands [] := Reading.Stands.value_iff.2 rfl
    obtain ⟨back, hback, htaken⟩ := Leads.keeps (fun _ _ _ _ => Reading.Stands.step) hr hstart
    cases htaken
    exact hback
  · rintro rfl
    exact Option.bind_eq_some_iff.2 ⟨_, Reading.takes_value v [], rfl⟩

/-- A text is read as a value if and only if it is a document of the value. -/
theorem Value.parse?_eq_some_iff {text : String} {v : Value} :
    Value.parse? text = some v ↔ v.Document text.toList := by
  constructor
  · intro h
    obtain ⟨ts, hts, hvalue⟩ := Option.bind_eq_some_iff.1 h
    rw [ofTokens?_eq_some_iff.1 hvalue] at hts
    exact written_of_tokens? hts
  · intro h
    exact Option.bind_eq_some_iff.2
      ⟨_, tokens?_of_written h v.separated_tokens, ofTokens?_eq_some_iff.2 rfl⟩

end ClusterWatch.Json
