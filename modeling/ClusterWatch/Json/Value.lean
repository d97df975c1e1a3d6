/-!
Values of JSON documents. Numbers are kept only as far as anything asks for them: as whole
numbers where they are written as such, and as some other number otherwise. A text that is
escaped into half a character pair has no characters; such a text may stand in a document,
and only whoever wants to read it is refused.
-/
namespace ClusterWatch.Json

inductive Number where
  | whole (n : Int)
  /-- Written with a fraction or an exponent, or as a negative zero. -/
  | other
deriving DecidableEq, Repr

/-- Characters, or nothing where half a pair stands alone. -/
abbrev Text := Option String

inductive Value where
  | null
  | bool (b : Bool)
  | number (n : Number)
  | text (t : Text)
  | array (items : List Value)
  | object (members : List (Text × Value))

end ClusterWatch.Json
