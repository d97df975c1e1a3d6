import ClusterWatch.Proofs.Json.Writing
import ClusterWatch.Proofs.Wire.Faithful
import ClusterWatch.Settings.Document

/-!
Settings in JSON documents. All that a document says of the settings is what it enters under the
known names, each given at most once; what is not entered keeps its standard value. Neither the
order of the members nor those with other names matter, nor how the document is written, as long as
all names can be told: half of a pair of units is no text, and nothing is read from an object with
such a name. Settings that were read have passed their check, and settings that pass it are read
back from what they are written as.
-/
namespace ClusterWatch

section Entries

/-- What may be entered of the settings. -/
structure DetectionSettings.Entries where
  interval : Option Nat
  timeout : Option Nat
  retries : Option Nat
  reconnect : Option Bool
  followDisconnects : Option Bool

structure ReadinessSettings.Entries where
  defaultTimeout : Option Nat

structure NodeSettings.Entries where
  cluster : Option String
  detection : Option DetectionSettings.Entries
  readiness : Option ReadinessSettings.Entries

def DetectionSettings.Entries.settings (e : Entries) : DetectionSettings where
  interval := e.interval.getD standard.interval
  timeout := e.timeout.getD standard.timeout
  retries := e.retries.getD standard.retries
  reconnect := e.reconnect.getD standard.reconnect
  followDisconnects := e.followDisconnects.getD standard.followDisconnects

def ReadinessSettings.Entries.settings (e : Entries) : ReadinessSettings where
  defaultTimeout := e.defaultTimeout.getD standard.defaultTimeout

def NodeSettings.Entries.settings (e : Entries) : NodeSettings where
  cluster := e.cluster.getD standard.cluster
  detection := (e.detection.map (·.settings)).getD standard.detection
  readiness := (e.readiness.map (·.settings)).getD standard.readiness

end Entries

namespace Json

def IsText (s : String) (v : Value) : Prop := v = .text (some s)

def IsWord (bound n : Nat) (v : Value) : Prop := v = .number (.whole n) ∧ n < bound

def IsFlag (b : Bool) (v : Value) : Prop := v = .bool b

section Fields

variable {ε α : Type} {standIn : ε → List (Text × Value) → Prop} {stands : ε → Value → Prop}
variable {name : String} {members : List (Text × Value)}

def IsObject (standIn : ε → List (Text × Value) → Prop) (e : ε) (v : Value) : Prop :=
  ∃ members, v = .object members ∧ standIn e members

/-- What the members enter under the name. At most one of them has it, and its value stands for
what is entered. -/
inductive Entered (stands : ε → Value → Prop) (name : String) (members : List (Text × Value)) :
    Option ε → Prop
  | absent : (∀ m ∈ members, m.1 ≠ some name) → Entered stands name members none
  | once {front back : List (Text × Value)} {v : Value} {e : ε} :
      members = front ++ (some name, v) :: back → (∀ m ∈ front ++ back, m.1 ≠ some name) →
      stands e v → Entered stands name members (some e)

/-- What stands for an entry may be told by what else holds of the member that has it. -/
theorem Entered.imp {stands' : ε → Value → Prop} {entry : Option ε}
    (h : Entered stands name members entry)
    (himp : ∀ e v, (some name, v) ∈ members → stands e v → stands' e v) :
    Entered stands' name members entry := by
  cases h with
  | absent h => exact .absent h
  | once hsplit h hv => exact .once hsplit h (himp _ _ (by simp [hsplit]) hv)

theorem under_eq_nil (h : ∀ m ∈ members, m.1 ≠ some name) : Value.under name members = [] := by
  simpa [Value.under] using h

theorem under_split {front back : List (Text × Value)} {v : Value}
    (h : ∀ m ∈ front ++ back, m.1 ≠ some name) :
    Value.under name (front ++ (some name, v) :: back) = [v] := by
  obtain ⟨hfront, hback⟩ := List.forall_mem_append.1 h
  have happend : Value.under name (front ++ (some name, v) :: back) =
      Value.under name front ++ v :: Value.under name back := by
    simp [Value.under]
  rw [happend, under_eq_nil hfront, under_eq_nil hback]
  rfl

/-- A field for which something is entered takes that, and any other its standard value. -/
theorem Entered.field {form : Form α} {f : ε → α} {entry : Option ε}
    (h : Entered stands name members entry)
    (hread : ∀ e v, stands e v → form.read v = some (f e)) (standard : α) :
    ∃ field, Value.atMostOne (Value.under name members) = some field ∧
      form.orDefault standard field = some ((entry.map f).getD standard) := by
  cases h with
  | absent h =>
    rw [under_eq_nil h]
    exact ⟨none, rfl, rfl⟩
  | once hsplit h hv =>
    rw [hsplit, under_split h]
    exact ⟨some _, rfl, hread _ _ hv⟩

theorem read_text {s : String} {v : Value} (h : IsText s v) : Form.text.read v = some (id s) := by
  cases h
  rfl

theorem read_natural {bound n : Nat} {v : Value} (h : IsWord bound n v) :
    (Form.natural bound).read v = some (id n) := by
  obtain ⟨rfl, hn⟩ := h
  exact if_pos hn

theorem read_flag {b : Bool} {v : Value} (h : IsFlag b v) : Form.flag.read v = some (id b) := by
  cases h
  rfl

end Fields

end Json

open Json

/-- The members enter the settings given and no others, whatever else they say. -/
structure DetectionSettings.Entries.StandIn (e : Entries) (members : List (Text × Value)) :
    Prop where
  interval : Entered (IsWord UInt64.size) "ping_interval_ms" members e.interval
  timeout : Entered (IsWord UInt64.size) "ping_timeout_ms" members e.timeout
  retries : Entered (IsWord UInt32.size) "ping_retries" members e.retries
  reconnect : Entered IsFlag "connect_on_network_disconnect" members e.reconnect
  followDisconnects : Entered IsFlag "register_connection_listener" members e.followDisconnects

def ReadinessSettings.Entries.StandIn (e : Entries) (members : List (Text × Value)) : Prop :=
  Entered (IsWord UInt64.size) "default_timeout_ms" members e.defaultTimeout

structure NodeSettings.Entries.StandIn (e : Entries) (members : List (Text × Value)) :
    Prop where
  cluster : Entered IsText "cluster_name" members e.cluster
  detection : Entered (IsObject DetectionSettings.Entries.StandIn) "fault_detection" members
    e.detection
  readiness : Entered (IsObject ReadinessSettings.Entries.StandIn) "readiness" members e.readiness

def Json.Named (members : List (Text × Value)) : Prop := ∀ m ∈ members, m.1.isSome = true

instance (members : List (Text × Value)) : Decidable (Named members) :=
  inferInstanceAs (Decidable (∀ m ∈ members, _))

/-- All names can be told, those of other members too. -/
structure NodeSettings.Legible (members : List (Text × Value)) : Prop where
  names : Named members
  nested : ∀ name ∈ ["fault_detection", "readiness"], ∀ inner,
    (some name, .object inner) ∈ members → Named inner

section Reading

variable {members : List (Text × Value)}

theorem Json.given?_object {names : List String} (h : Named members) :
    (Value.object members).given? names =
      (names.mapM fun name => Value.atMostOne (Value.under name members)).map
        fun fields => ⟨fields, false⟩ :=
  if_pos (List.all_eq_true.2 h)

theorem DetectionSettings.Entries.StandIn.read {e : Entries} (h : e.StandIn members)
    (named : Named members) :
    detectionSettings.read (.object members) = some e.settings := by
  obtain ⟨interval, hinterval, hinterval'⟩ :=
    h.interval.field (fun _ _ => read_natural) standard.interval
  obtain ⟨timeout, htimeout, htimeout'⟩ :=
    h.timeout.field (fun _ _ => read_natural) standard.timeout
  obtain ⟨retries, hretries, hretries'⟩ :=
    h.retries.field (fun _ _ => read_natural) standard.retries
  obtain ⟨reconnect, hreconnect, hreconnect'⟩ :=
    h.reconnect.field (fun _ _ => read_flag) standard.reconnect
  obtain ⟨follow, hfollow, hfollow'⟩ :=
    h.followDisconnects.field (fun _ _ => read_flag) standard.followDisconnects
  simp [detectionSettings, given?_object named, hinterval, htimeout, hretries, hreconnect,
    hfollow, word64, word32, bound64, Text.bound32, hinterval', htimeout', hretries', hreconnect',
    hfollow', settings]

theorem ReadinessSettings.Entries.StandIn.read {e : Entries} (h : e.StandIn members)
    (named : Named members) :
    readinessSettings.read (.object members) = some e.settings := by
  obtain ⟨timeout, htimeout, htimeout'⟩ :=
    Entered.field h (fun _ _ => read_natural) standard.defaultTimeout
  simp [readinessSettings, given?_object named, htimeout, word64, bound64, htimeout', settings]

theorem NodeSettings.Entries.StandIn.read {e : Entries} (h : e.StandIn members)
    (legible : Legible members) : nodeSettings.read (.object members) = some e.settings := by
  obtain ⟨cluster, hcluster, hcluster'⟩ :=
    h.cluster.field (fun _ _ => read_text) standard.cluster
  have hdetects : Entered (fun (e : DetectionSettings.Entries) v =>
      detectionSettings.read v = some e.settings) "fault_detection" members e.detection :=
    h.detection.imp fun _ _ hmem ⟨inner, hinner, he⟩ =>
      hinner ▸ he.read (legible.nested _ (by simp) inner (hinner ▸ hmem))
  have hreads : Entered (fun (e : ReadinessSettings.Entries) v =>
      readinessSettings.read v = some e.settings) "readiness" members e.readiness :=
    h.readiness.imp fun _ _ hmem ⟨inner, hinner, he⟩ =>
      hinner ▸ he.read (legible.nested _ (by simp) inner (hinner ▸ hmem))
  obtain ⟨detection, hdetection, hdetection'⟩ :=
    hdetects.field (fun _ _ => id) standard.detection
  obtain ⟨readiness, hreadiness, hreadiness'⟩ :=
    hreads.field (fun _ _ => id) standard.readiness
  simp [nodeSettings, given?_object legible.names, hcluster, hdetection, hreadiness, hcluster',
    hdetection', hreadiness', settings]

theorem DetectionSettings.read_write {s : DetectionSettings} (h : s.Writable) :
    detectionSettings.read (detectionSettings.write s) = some s := by
  have hgiven : (detectionSettings.write s).given? ["ping_interval_ms", "ping_timeout_ms",
      "ping_retries", "connect_on_network_disconnect", "register_connection_listener"] =
      some ⟨[some (word64.write s.interval), some (word64.write s.timeout),
        some (word32.write s.retries), some (Form.flag.write s.reconnect),
        some (Form.flag.write s.followDisconnects)], false⟩ := rfl
  have hinterval : word64.read (word64.write s.interval) = some s.interval := if_pos h.interval
  have htimeout : word64.read (word64.write s.timeout) = some s.timeout := if_pos h.timeout
  have hretries : word32.read (word32.write s.retries) = some s.retries := if_pos h.retries
  have hflag (b : Bool) : Form.flag.read (Form.flag.write b) = some b := rfl
  simp only [detectionSettings] at hgiven ⊢
  rw [hgiven]
  simp [Form.orDefault, hinterval, htimeout, hretries, hflag]

theorem ReadinessSettings.read_write {s : ReadinessSettings} (h : s.Writable) :
    readinessSettings.read (readinessSettings.write s) = some s := by
  have hgiven : (readinessSettings.write s).given? ["default_timeout_ms"] =
      some ⟨[some (word64.write s.defaultTimeout)], false⟩ := rfl
  have htimeout : word64.read (word64.write s.defaultTimeout) = some s.defaultTimeout := if_pos h
  simp only [readinessSettings] at hgiven ⊢
  rw [hgiven]
  simp [Form.orDefault, htimeout]

theorem NodeSettings.read_write {s : NodeSettings} (hdetection : s.detection.Writable)
    (hreadiness : s.readiness.Writable) : nodeSettings.read (nodeSettings.write s) = some s := by
  have hgiven : (nodeSettings.write s).given? ["cluster_name", "fault_detection", "readiness"] =
      some ⟨[some (Form.text.write s.cluster), some (detectionSettings.write s.detection),
        some (readinessSettings.write s.readiness)], false⟩ := rfl
  have hcluster : Form.text.read (Form.text.write s.cluster) = some s.cluster := rfl
  simp only [nodeSettings] at hgiven ⊢
  rw [hgiven]
  simp [Form.orDefault, hcluster, s.detection.read_write hdetection,
    s.readiness.read_write hreadiness]

end Reading

section Checking

theorem DetectionSettings.validate_eq_ok_iff {s : DetectionSettings} :
    s.validate = .ok () ↔ s.interval ≠ 0 ∧ s.timeout ≠ 0 ∧ s.retries ≠ 0 := by
  unfold validate
  split_ifs <;> simp [*]

theorem NodeSettings.validate_eq_ok_iff {s : NodeSettings} :
    s.validate = .ok () ↔ (∃ c ∈ s.cluster.toList, Text.isBlank c = false) ∧
      s.detection.interval ≠ 0 ∧ s.detection.timeout ≠ 0 ∧ s.detection.retries ≠ 0 := by
  have hblank : (∃ c ∈ s.cluster.toList, Text.isBlank c = false) ↔
      Text.strip s.cluster.toList ≠ [] := by
    simp [Text.strip_eq_nil_iff]
  rw [hblank, ← DetectionSettings.validate_eq_ok_iff, validate]
  split_ifs with hstrip <;> simp [hstrip]

namespace NodeSettings

variable {text : String} {s : NodeSettings}

theorem ofDocument_of_read (h : (Value.parse? text).bind nodeSettings.read = some s) :
    ofDocument text = match s.validate with
      | .ok () => .ok s
      | .error e => .error (.invalid e) := by
  cases hvalid : s.validate <;> simp [ofDocument, h, hvalid]

theorem ofDocument_eq_ok_iff {r : NodeSettings} :
    ofDocument text = .ok r ↔
      (Value.parse? text).bind nodeSettings.read = some r ∧ r.validate = .ok () := by
  cases hread : (Value.parse? text).bind nodeSettings.read with
  | none => simp [ofDocument, hread]
  | some s =>
    rw [ofDocument_of_read hread, Option.some.injEq]
    cases hvalid : s.validate with
    | ok =>
      rw [Except.ok.injEq]
      exact (and_iff_left_of_imp fun h => h ▸ hvalid).symm
    | error e =>
      refine iff_of_false (fun h => nomatch h) ?_
      rintro ⟨rfl, hr⟩
      rw [hvalid] at hr
      cases hr

/-- A name that breaks a pair of units in two is no text, and nothing is read from an object with
such a name. -/
theorem ofDocument_broken_name {members : List (Text × Value)}
    (h : (Value.object members).Document text.toList) (hbroken : ∃ m ∈ members, m.1 = none) :
    ofDocument text = .error .unfit := by
  have hnames : (members.all fun m => m.1.isSome) = false := by simpa using hbroken
  have hread : (Value.parse? text).bind nodeSettings.read = none := by
    rw [Value.parse?_eq_some_iff.2 h]
    simp [nodeSettings, Value.given?, hnames]
  rw [ofDocument, hread]

/-- An empty object but for a member whose name is half of a pair of units. -/
def brokenName : String := "\x7b\"\\ud800\": 1\x7d"

/-- A member that is of no other account may be one for whose name nothing is read. -/
theorem broken_name_unread : ¬∀ (text : String) (members : List (Text × Value)) (e : Entries),
    (Value.object members).Document text.toList → e.StandIn members →
    (∃ c ∈ e.settings.cluster.toList, Text.isBlank c = false) → e.settings.detection.interval ≠ 0 →
    e.settings.detection.timeout ≠ 0 → e.settings.detection.retries ≠ 0 →
    ∃ s, ofDocument text = .ok s := by
  intro h
  have hdocument : (Value.object [(none, .number (.whole 1))]).Document brokenName.toList :=
    written_of_tokens? (by decide +kernel)
  have hstand : Entries.StandIn ⟨none, none, none⟩ [(none, .number (.whole 1))] :=
    ⟨.absent (by decide), .absent (by decide), .absent (by decide)⟩
  have hvalid : (Entries.settings ⟨none, none, none⟩).validate = .ok () := by decide
  obtain ⟨hcluster, hinterval, htimeout, hretries⟩ := NodeSettings.validate_eq_ok_iff.1 hvalid
  obtain ⟨s, hs⟩ := h brokenName _ _ hdocument hstand hcluster hinterval htimeout hretries
  rw [ofDocument_broken_name hdocument ⟨_, List.mem_singleton.2 rfl, rfl⟩] at hs
  cases hs

/-- What settings a document comes to goes by what it enters under the known names, and it comes
to any exactly if they pass their check. -/
theorem documents_read :
    (∀ (text : String) (members : List (Text × Value)) (e : Entries),
      (Value.object members).Document text.toList → e.StandIn members → Legible members →
        ofDocument text = (match e.settings.validate with
          | .ok () => .ok e.settings
          | .error error => .error (.invalid error)) ∧
        ((∃ s, ofDocument text = .ok s) ↔
          (∃ c ∈ e.settings.cluster.toList, Text.isBlank c = false) ∧
            e.settings.detection.interval ≠ 0 ∧ e.settings.detection.timeout ≠ 0 ∧
            e.settings.detection.retries ≠ 0)) ∧
      (∀ (text : String) (s : NodeSettings), ofDocument text = .ok s → s.validate = .ok ()) ∧
      (∀ s : NodeSettings, s.detection.Writable → s.readiness.Writable →
        (ofDocument s.toDocument = .ok s ↔ s.validate = .ok ())) := by
  refine ⟨fun text members e hdocument hstand legible => ?_, fun text s h => (ofDocument_eq_ok_iff.1 h).2,
    fun s hdetection hreadiness => ?_⟩
  · have hread : (Value.parse? text).bind nodeSettings.read = some e.settings := by
      rw [Value.parse?_eq_some_iff.2 hdocument]
      exact hstand.read legible
    refine ⟨ofDocument_of_read hread, ?_⟩
    simp only [ofDocument_eq_ok_iff, hread, Option.some.injEq, exists_eq_left',
      validate_eq_ok_iff]
  · have hread : (Value.parse? s.toDocument).bind nodeSettings.read = some s := by
      rw [toDocument, Value.parse?_toText]
      exact read_write hdetection hreadiness
    rw [ofDocument_eq_ok_iff, hread]
    exact and_iff_right rfl

/-- With the members in another order, with others among them, blanks and escapes. -/
def rearranged : String :=
  "\x7b \"readiness\": \x7b\"note\": [-1e5, \x7b\x7d], \"default_timeout_ms\": 5\x7d,\n" ++
  "\"cluster\\u005fname\": \"b\\u00f6oks\", \"owner\": \"\\ud800\",\t" ++
  "\"fault_detection\": \x7b\"ping_retries\": 7\x7d\x7d"

def rearrangedMembers : List (Text × Value) := [
  (some "readiness", .object [(some "note", .array [.number .other, .object []]),
    (some "default_timeout_ms", .number (.whole 5))]),
  (some "cluster_name", .text (some "böoks")),
  (some "owner", .text none),
  (some "fault_detection", .object [(some "ping_retries", .number (.whole 7))])]

def rearrangedEntries : Entries :=
  ⟨some "böoks", some ⟨none, none, some 7, none, none⟩, some ⟨some 5⟩⟩

theorem documents_read_rearranged :
    let s : NodeSettings := ⟨"böoks", ⟨1000, 30000, 7, false, true⟩, ⟨5⟩⟩
    ofDocument rearranged = .ok s ∧ ofDocument s.toDocument = .ok s := by
  have hdocument : (Value.object rearrangedMembers).Document rearranged.toList :=
    written_of_tokens? (by decide +kernel)
  have hdetection : IsObject DetectionSettings.Entries.StandIn ⟨none, none, some 7, none, none⟩
      (.object [(some "ping_retries", .number (.whole 7))]) := by
    refine ⟨_, rfl, .absent (by decide), .absent (by decide), ?_, .absent (by decide),
      .absent (by decide)⟩
    exact @Entered.once _ _ _ _ [] [] _ _ rfl (by decide) ⟨rfl, by decide⟩
  have hreadiness : IsObject ReadinessSettings.Entries.StandIn ⟨some 5⟩
      (.object [(some "note", .array [.number .other, .object []]),
        (some "default_timeout_ms", .number (.whole 5))]) := by
    refine ⟨_, rfl, ?_⟩
    exact @Entered.once _ _ _ _ [_] [] _ _ rfl (by decide) ⟨rfl, by decide⟩
  have hstand : rearrangedEntries.StandIn rearrangedMembers := by
    refine ⟨?_, ?_, ?_⟩
    · exact @Entered.once _ _ _ _ [_] [_, _] _ _ rfl (by decide) rfl
    · exact @Entered.once _ _ _ _ [_, _, _] [] _ _ rfl (by decide) hdetection
    · exact @Entered.once _ _ _ _ [] [_, _, _] _ _ rfl (by decide) hreadiness
  have hvalid : rearrangedEntries.settings.validate = .ok () := by decide +kernel
  have hlegible : Legible rearrangedMembers := by
    refine ⟨by decide, fun name hname inner hinner => ?_⟩
    simp only [rearrangedMembers, List.mem_cons, List.not_mem_nil, or_false, Prod.mk.injEq,
      Value.object.injEq] at hname hinner
    rcases hname with rfl | rfl
    all_goals
      obtain rfl : inner = _ := by simpa using hinner
      decide
  have hread := (documents_read.1 rearranged rearrangedMembers rearrangedEntries hdocument
    hstand hlegible).1
  rw [hvalid] at hread
  have hback := documents_read.2.2 rearrangedEntries.settings ⟨by decide, by decide, by decide⟩
    (by decide : 5 < UInt64.size)
  exact ⟨hread, hback.2 hvalid⟩

end NodeSettings

end Checking

end ClusterWatch
