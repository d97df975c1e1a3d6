import Mathlib.Data.List.Basic
import ClusterWatch.CommandLine

/-!
Which command lines are accepted. Arguments are taken two at a time, so a command line is accepted
if it is a sequence of flags with values that are fit for them, one of which says where to bind.
The last of an odd number of arguments is not looked at, whatever it is: a command line is accepted
with one argument that nothing has been made of, and that is all that can be left over.
-/
namespace ClusterWatch.CommandLine

/-- What a draft becomes by a flag and a value that is fit for it. -/
inductive Draft.Takes (d : Draft) : (flag value : String) → Draft → Prop
  | bind {value : String} {address : Net.SocketAddress}
      (fit : Net.SocketAddress.parse? value = some address) :
      d.Takes "--bind" value { d with bind := some address }
  | name {value : String} : d.Takes "--name" value { d with name := some value }
  | cluster {value : String} : d.Takes "--cluster" value { d with cluster := some value }
  | config {value : String} : d.Takes "--config" value { d with config := some value }
  /-- The id ends at the first at sign. -/
  | peer {id text : String} {address : Net.SocketAddress} (first : '@' ∉ id.toList)
      (fit : Net.SocketAddress.parse? text = some address) :
      d.Takes "--peer" (id ++ "@" ++ text) { d with peers := d.peers ++ [.named ⟨id⟩ address none] }

/-- A flag that there is, with a value that is fit for it. -/
inductive Understood : (flag value : String) → Prop
  | bind {value : String} (fit : (Net.SocketAddress.parse? value).isSome = true) :
      Understood "--bind" value
  | name {value : String} : Understood "--name" value
  | cluster {value : String} : Understood "--cluster" value
  | config {value : String} : Understood "--config" value
  /-- The id ends at the first at sign. -/
  | peer {id text : String} (first : '@' ∉ id.toList)
      (fit : (Net.SocketAddress.parse? text).isSome = true) :
      Understood "--peer" (id ++ "@" ++ text)

/-- Flags with their values, one pair after the other. -/
def unpaired (pairs : List (String × String)) : List String := pairs.flatMap fun p => [p.1, p.2]

/-- The arguments are flags with their values and nothing else. -/
def UnderstoodInFull (arguments : List String) : Prop :=
  ∃ pairs, arguments = unpaired pairs ∧ (∀ p ∈ pairs, Understood p.1 p.2) ∧
    "--bind" ∈ pairs.map Prod.fst

section Values

theorem splitAtFirst_eq_some_iff {mark : Char} {text front back : List Char} :
    splitAtFirst mark text = some (front, back) ↔ text = front ++ mark :: back ∧ mark ∉ front := by
  induction text generalizing front with
  | nil => simp [splitAtFirst]
  | cons c rest ih =>
    rw [splitAtFirst]
    split
    next hc =>
      subst hc
      constructor
      · rintro ⟨⟩
        exact ⟨rfl, List.not_mem_nil⟩
      · rintro ⟨hsplit, hfirst⟩
        cases front with
        | nil =>
          obtain ⟨-, rfl⟩ := List.cons.inj hsplit
          rfl
        | cons d front =>
          obtain ⟨rfl, -⟩ := List.cons.inj hsplit
          exact absurd List.mem_cons_self hfirst
    next hc =>
      constructor
      · intro h
        obtain ⟨⟨front', back'⟩, hrest, heq⟩ := Option.map_eq_some_iff.1 h
        cases heq
        obtain ⟨rfl, hfirst⟩ := ih.1 hrest
        exact ⟨rfl, List.not_mem_cons_of_ne_of_not_mem (Ne.symm hc) hfirst⟩
      · rintro ⟨hsplit, hfirst⟩
        cases front with
        | nil => exact absurd (List.cons.inj hsplit).1 hc
        | cons d front =>
          obtain ⟨rfl, hrest⟩ := List.cons.inj hsplit
          rw [ih.2 ⟨hrest, fun hmem => hfirst (List.mem_cons_of_mem _ hmem)⟩]
          rfl

theorem address_eq_ok_iff {text : String} {found : Net.SocketAddress} :
    address text = .ok found ↔ Net.SocketAddress.parse? text = some found := by
  unfold address
  cases Net.SocketAddress.parse? text <;> simp

theorem map_eq_ok_iff {ε α β : Type} {f : α → β} {x : Except ε α} {b : β} :
    x.map f = .ok b ↔ ∃ a, x = .ok a ∧ f a = b := by
  cases x <;> simp [Except.map]

theorem peer_eq_ok_iff {given : String} {node : Node} :
    peer given = .ok node ↔
      ∃ (id text : String) (address : Net.SocketAddress), given = id ++ "@" ++ text ∧
        '@' ∉ id.toList ∧ Net.SocketAddress.parse? text = some address ∧
        .named ⟨id⟩ address none = node := by
  constructor
  · intro h
    unfold peer at h
    split at h
    next => cases h
    next id text hsplit =>
      obtain ⟨found, haddress, hnode⟩ := map_eq_ok_iff.1 h
      obtain ⟨hgiven, hfirst⟩ := splitAtFirst_eq_some_iff.1 hsplit
      refine ⟨String.ofList id, String.ofList text, found, ?_, ?_, address_eq_ok_iff.1 haddress,
        hnode⟩
      · apply String.toList_injective
        simpa using hgiven
      · rwa [String.toList_ofList]
  · rintro ⟨id, text, found, rfl, hfirst, hfit, hnode⟩
    have hsplit : splitAtFirst '@' (id ++ "@" ++ text).toList = some (id.toList, text.toList) :=
      splitAtFirst_eq_some_iff.2 ⟨by simp, hfirst⟩
    unfold peer
    rw [hsplit]
    simpa [map_eq_ok_iff, address_eq_ok_iff] using ⟨found, hfit, hnode⟩

end Values

section Drafts

variable {d next : Draft} {flag value : String} {pairs : List (String × String)}

theorem Draft.take_eq_ok_iff : d.take flag value = .ok next ↔ d.Takes flag value next := by
  constructor
  · intro h
    unfold Draft.take at h
    split at h
    · obtain ⟨found, haddress, rfl⟩ := map_eq_ok_iff.1 h
      exact .bind (address_eq_ok_iff.1 haddress)
    · cases h
      exact .name
    · cases h
      exact .cluster
    · cases h
      exact .config
    · obtain ⟨node, hpeer, rfl⟩ := map_eq_ok_iff.1 h
      obtain ⟨id, text, found, rfl, hfirst, hfit, rfl⟩ := peer_eq_ok_iff.1 hpeer
      exact .peer hfirst hfit
    · cases h
  · intro h
    cases h with
    | bind fit => exact map_eq_ok_iff.2 ⟨_, address_eq_ok_iff.2 fit, rfl⟩
    | name => rfl
    | cluster => rfl
    | config => rfl
    | peer first fit =>
      exact map_eq_ok_iff.2 ⟨_, peer_eq_ok_iff.2 ⟨_, _, _, rfl, first, fit, rfl⟩, rfl⟩

theorem Draft.Takes.understood (h : d.Takes flag value next) : Understood flag value := by
  cases h with
  | bind fit => exact .bind (Option.isSome_of_eq_some fit)
  | name => exact .name
  | cluster => exact .cluster
  | config => exact .config
  | peer first fit => exact .peer first (Option.isSome_of_eq_some fit)

/-- Whether a flag and its value are understood does not depend on what came before them. -/
theorem Understood.takes (h : Understood flag value) (d : Draft) :
    ∃ next, d.Takes flag value next := by
  cases h with
  | bind fit =>
    obtain ⟨address, fit⟩ := Option.isSome_iff_exists.1 fit
    exact ⟨_, .bind fit⟩
  | name => exact ⟨_, .name⟩
  | cluster => exact ⟨_, .cluster⟩
  | config => exact ⟨_, .config⟩
  | peer first fit =>
    obtain ⟨address, fit⟩ := Option.isSome_iff_exists.1 fit
    exact ⟨_, .peer first fit⟩

theorem Draft.Takes.bind_isSome_iff (h : d.Takes flag value next) :
    next.bind.isSome = true ↔ flag = "--bind" ∨ d.bind.isSome = true := by
  cases h <;> simp

theorem takeAll_unpaired_cons (d : Draft) (p : String × String) (pairs : List (String × String)) :
    d.takeAll (unpaired (p :: pairs)) =
      (d.take p.1 p.2).bind fun next => next.takeAll (unpaired pairs) := rfl

/-- The last of an odd number of arguments makes no difference. -/
theorem takeAll_leftover (d : Draft) (pairs : List (String × String)) (leftover : Option String) :
    d.takeAll (unpaired pairs ++ leftover.toList) = d.takeAll (unpaired pairs) := by
  induction pairs generalizing d with
  | nil => cases leftover <;> rfl
  | cons p pairs ih => exact congrArg ((d.take p.1 p.2).bind ·) (funext ih)

theorem bind_eq_ok_iff {ε α β : Type} {x : Except ε α} {f : α → Except ε β} {b : β} :
    x.bind f = .ok b ↔ ∃ a, x = .ok a ∧ f a = .ok b := by
  cases x <;> simp [Except.bind]

theorem takeAll_isOk_iff : (∃ next, d.takeAll (unpaired pairs) = .ok next) ↔
    ∀ p ∈ pairs, Understood p.1 p.2 := by
  induction pairs generalizing d with
  | nil => exact iff_of_true ⟨d, rfl⟩ (fun _ hp => nomatch hp)
  | cons p pairs ih =>
    rw [takeAll_unpaired_cons, List.forall_mem_cons]
    constructor
    · rintro ⟨last, h⟩
      obtain ⟨next, htake, hrest⟩ := bind_eq_ok_iff.1 h
      exact ⟨(Draft.take_eq_ok_iff.1 htake).understood, ih.1 ⟨last, hrest⟩⟩
    · rintro ⟨hp, hpairs⟩
      obtain ⟨next, htakes⟩ := hp.takes d
      obtain ⟨last, hrest⟩ := ih (d := next).2 hpairs
      exact ⟨last, bind_eq_ok_iff.2 ⟨next, Draft.take_eq_ok_iff.2 htakes, hrest⟩⟩

theorem bind_isSome_of_takeAll (h : d.takeAll (unpaired pairs) = .ok next) :
    next.bind.isSome = true ↔ "--bind" ∈ pairs.map Prod.fst ∨ d.bind.isSome = true := by
  induction pairs generalizing d with
  | nil =>
    cases h
    simp
  | cons p pairs ih =>
    obtain ⟨between, htake, hrest⟩ := bind_eq_ok_iff.1 (takeAll_unpaired_cons d p pairs ▸ h)
    have hbind := (Draft.take_eq_ok_iff.1 htake).bind_isSome_iff
    rw [ih hrest, hbind, List.map_cons, List.mem_cons, eq_comm (a := "--bind"), or_left_comm,
      or_assoc]

end Drafts

section Arguments

variable {arguments : List String}

theorem parse_isOk_iff : (∃ line, parse arguments = .ok line) ↔
    2 ≤ arguments.length ∧
      ∃ d, Draft.empty.takeAll arguments = .ok d ∧ d.bind.isSome = true := by
  unfold parse
  split
  next hfew => exact iff_of_false (fun ⟨_, h⟩ => nomatch h) (fun h => absurd h.1 (by omega))
  next hmany =>
    constructor
    · rintro ⟨line, h⟩
      obtain ⟨d, hall, h⟩ := bind_eq_ok_iff.1 h
      refine ⟨by omega, d, hall, ?_⟩
      cases hbind : d.bind with
      | none => simp [hbind] at h
      | some address => rfl
    · rintro ⟨-, d, hall, hbind⟩
      obtain ⟨address, hbind⟩ := Option.isSome_iff_exists.1 hbind
      refine ⟨⟨address, d.name, d.cluster, d.config, d.peers⟩, bind_eq_ok_iff.2 ⟨d, hall, ?_⟩⟩
      rw [hbind]

theorem exists_unpaired : (arguments : List String) →
    ∃ pairs, ∃ leftover : Option String, arguments = unpaired pairs ++ leftover.toList
  | [] => ⟨[], none, rfl⟩
  | [last] => ⟨[], some last, rfl⟩
  | flag :: value :: rest => by
    obtain ⟨pairs, leftover, hrest⟩ := exists_unpaired rest
    exact ⟨(flag, value) :: pairs, leftover, congrArg (flag :: value :: ·) hrest⟩

theorem length_unpaired (pairs : List (String × String)) :
    (unpaired pairs).length = 2 * pairs.length := by
  simp [unpaired, List.length_flatMap, Nat.mul_comm]

theorem UnderstoodInFull.length_even (h : UnderstoodInFull arguments) :
    arguments.length % 2 = 0 := by
  obtain ⟨pairs, rfl, -, -⟩ := h
  rw [length_unpaired, Nat.mul_mod_right]

theorem parse_unpaired_isOk_iff {pairs : List (String × String)} {leftover : Option String} :
    (∃ line, parse (unpaired pairs ++ leftover.toList) = .ok line) ↔
      (∀ p ∈ pairs, Understood p.1 p.2) ∧ "--bind" ∈ pairs.map Prod.fst := by
  rw [parse_isOk_iff, takeAll_leftover, List.length_append, length_unpaired]
  constructor
  · rintro ⟨-, d, hall, hbind⟩
    refine ⟨takeAll_isOk_iff.1 ⟨d, hall⟩, ?_⟩
    exact ((bind_isSome_of_takeAll hall).1 hbind).resolve_right Bool.false_ne_true
  · rintro ⟨hpairs, hbind⟩
    obtain ⟨d, hall⟩ := takeAll_isOk_iff.2 hpairs
    have hsome : 0 < pairs.length := by
      have hnames := List.length_pos_of_mem hbind
      rwa [List.length_map] at hnames
    exact ⟨by omega, d, hall, (bind_isSome_of_takeAll hall).2 (.inl hbind)⟩

/-- A command line is accepted if it is understood in full, or would be without its last argument;
so those of an even length are understood in full if they are accepted at all. -/
theorem accepted_iff (arguments : List String) :
    ((∃ line, parse arguments = .ok line) ↔
      UnderstoodInFull arguments ∨
        ∃ front last, arguments = front ++ [last] ∧ UnderstoodInFull front) ∧
    (UnderstoodInFull arguments ↔
      (∃ line, parse arguments = .ok line) ∧ arguments.length % 2 = 0) := by
  have hfull : ∀ given, UnderstoodInFull given → ∀ leftover : Option String,
      ∃ line, parse (given ++ leftover.toList) = .ok line := by
    rintro given ⟨pairs, rfl, hpairs, hbind⟩ leftover
    exact parse_unpaired_isOk_iff.2 ⟨hpairs, hbind⟩
  have haccepted : (∃ line, parse arguments = .ok line) ↔
      UnderstoodInFull arguments ∨
        ∃ front last, arguments = front ++ [last] ∧ UnderstoodInFull front := by
    constructor
    · intro hparse
      obtain ⟨pairs, leftover, rfl⟩ := exists_unpaired arguments
      obtain ⟨hpairs, hbind⟩ := parse_unpaired_isOk_iff.1 hparse
      cases leftover with
      | none => exact .inl ⟨pairs, List.append_nil _, hpairs, hbind⟩
      | some last => exact .inr ⟨_, last, rfl, pairs, rfl, hpairs, hbind⟩
    · rintro (h | ⟨front, last, rfl, h⟩)
      · simpa using hfull arguments h none
      · exact hfull front h (some last)
  refine ⟨haccepted, fun h => ⟨haccepted.2 (.inl h), h.length_even⟩, ?_⟩
  rintro ⟨hparse, heven⟩
  rcases haccepted.1 hparse with h | ⟨front, last, rfl, h⟩
  · exact h
  · have hfront := h.length_even
    rw [List.length_append, List.length_singleton] at heven
    omega

/-- The flag at the end is none that there is, and it has no value. -/
theorem accepts_unknown_last_argument :
    (∃ line, parse ["--bind", "127.0.0.1:0", "--name", "a", "--verbose"] = .ok line) ∧
      ¬ UnderstoodInFull ["--bind", "127.0.0.1:0", "--name", "a", "--verbose"] := by
  have hpairs : ∀ p ∈ [("--bind", "127.0.0.1:0"), ("--name", "a")], Understood p.1 p.2 := by
    rw [List.forall_mem_cons, List.forall_mem_singleton]
    exact ⟨.bind (by decide), .name⟩
  constructor
  · exact (@parse_unpaired_isOk_iff _ (some "--verbose")).2 ⟨hpairs, by decide⟩
  · intro h
    cases h.length_even

end Arguments

end ClusterWatch.CommandLine
