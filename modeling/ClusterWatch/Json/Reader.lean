import ClusterWatch.Json.Token

/-!
Reading a JSON document. Its tokens are taken one at a time; what has been opened and not
closed stands on a stack, so documents may be nested as deeply as they like. A document is
one value, with nothing but white space around it.
-/
namespace ClusterWatch.Json

/-- An array or object that is still open, with what it holds so far, latest first. -/
inductive Frame where
  | array (items : List Value)
  /-- The name is that of the member whose value is being read. -/
  | object (members : List (Text × Value)) (name : Text)

/-- What may come next. -/
inductive Expect where
  | value
  | itemOrClose
  | nameOrClose (members : List (Text × Value))
  | name (members : List (Text × Value))
  | colon (members : List (Text × Value)) (name : Text)
  /-- A value is complete. -/
  | after (v : Value)

structure Reading where
  frames : List Frame
  expect : Expect

namespace Reading

def start : Reading := ⟨[], .value⟩

def complete (frames : List Frame) (v : Value) : Reading := ⟨frames, .after v⟩

def beginValue (frames : List Frame) : Token → Option Reading
  | .openBrace => some ⟨frames, .nameOrClose []⟩
  | .openBracket => some ⟨frames, .itemOrClose⟩
  | .text t => some (complete frames (.text t))
  | .number n => some (complete frames (.number n))
  | .bool b => some (complete frames (.bool b))
  | .null => some (complete frames .null)
  | _ => none

def step (r : Reading) (token : Token) : Option Reading :=
  match r.expect with
  | .value => beginValue r.frames token
  | .itemOrClose =>
      match token with
      | .closeBracket => some (complete r.frames (.array []))
      | _ => beginValue (.array [] :: r.frames) token
  | .nameOrClose members =>
      match token with
      | .closeBrace => some (complete r.frames (.object members.reverse))
      | .text name => some ⟨r.frames, .colon members name⟩
      | _ => none
  | .name members =>
      match token with
      | .text name => some ⟨r.frames, .colon members name⟩
      | _ => none
  | .colon members name =>
      match token with
      | .colon => some ⟨.object members name :: r.frames, .value⟩
      | _ => none
  | .after v =>
      match r.frames, token with
      | .array items :: frames, .comma => some ⟨.array (v :: items) :: frames, .value⟩
      | .array items :: frames, .closeBracket =>
          some (complete frames (.array (v :: items).reverse))
      | .object members name :: frames, .comma => some ⟨frames, .name ((name, v) :: members)⟩
      | .object members name :: frames, .closeBrace =>
          some (complete frames (.object ((name, v) :: members).reverse))
      | _, _ => none

/-- The value, if nothing is left open. -/
def value? (r : Reading) : Option Value :=
  match r.frames, r.expect with
  | [], .after v => some v
  | _, _ => none

end Reading

def Value.ofTokens? (tokens : List Token) : Option Value :=
  (tokens.foldlM Reading.step Reading.start).bind Reading.value?

def Value.parse? (text : String) : Option Value :=
  (tokens? text.toList).bind Value.ofTokens?

end ClusterWatch.Json
