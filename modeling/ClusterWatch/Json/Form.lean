import ClusterWatch.Json.Value

/-!
How values of other types stand in JSON documents. A record is an object with a member for
each of its fields, in any order and among others that are passed over, or an array of its
fields in order. A field may be given once only. Settings may leave out fields, in an array
the last ones; other records may leave out members that are optional, and no array items.
-/
namespace ClusterWatch.Json

structure Form (α : Type) where
  write : α → Value
  read : Value → Option α

namespace Form

variable {α β : Type}

def text : Form String where
  write s := .text (some s)
  read
    | .text (some s) => some s
    | _ => none

/-- A whole number below the bound. -/
def natural (bound : Nat) : Form Nat where
  write n := .number (.whole n)
  read
    | .number (.whole (.ofNat n)) => if n < bound then some n else none
    | _ => none

/-- A whole number from the negated bound up to but not including the bound. -/
def integer (bound : Nat) : Form Int where
  write i := .number (.whole i)
  read
    | .number (.whole i) => if -(bound : Int) ≤ i ∧ i < bound then some i else none
    | _ => none

def flag : Form Bool where
  write b := .bool b
  read
    | .bool b => some b
    | _ => none

def unit : Form Unit where
  write _ := .null
  read
    | .null => some ()
    | _ => none

def optional (form : Form α) : Form (Option α) where
  write
    | none => .null
    | some a => form.write a
  read
    | .null => some none
    | v => (form.read v).map some

def via (form : Form α) (wrap : α → Option β) (unwrap : β → α) : Form β where
  write b := form.write (unwrap b)
  read v := (form.read v).bind wrap

end Form

namespace Value

/-- What is given of the fields of a record, in order, and whether it is given by position. -/
structure Given where
  fields : List (Option Value)
  byPosition : Bool

/-- The values under a name, in a list of members whose names all have characters. -/
def under (name : String) (members : List (Text × Value)) : List Value :=
  (members.filter fun m => m.1 == some name).map Prod.snd

def atMostOne : List Value → Option (Option Value)
  | [] => some none
  | [v] => some (some v)
  | _ => none

def given? (names : List String) : Value → Option Given
  | .object members =>
      if members.all fun m => m.1.isSome then
        (names.mapM fun name => atMostOne (under name members)).map fun fields => ⟨fields, false⟩
      else none
  | .array items =>
      if items.length ≤ names.length then
        some ⟨items.map some ++ List.replicate (names.length - items.length) none, true⟩
      else none
  | _ => none

end Value

namespace Form

variable {α : Type}

/-- A field that has to be there. -/
def required (form : Form α) (v : Option Value) : Option α := v.bind form.read

/-- A field that may be left out for the value given. -/
def orDefault (form : Form α) (standard : α) : Option Value → Option α
  | none => some standard
  | some v => form.read v

end Form
end ClusterWatch.Json
