import ClusterWatch.Json.Token

/-!
How a JSON document may be written. A value is a sequence of tokens, each token may be written in
one of several ways, and blanks may stand before, between and after the tokens. That describes all
documents of a value and says nothing of how a document is read.
-/
namespace ClusterWatch.Json

def Blank (cs : List Char) : Prop := ∀ c ∈ cs, c = ' ' ∨ c = '\n' ∨ c = '\r' ∨ c = '\t'

section Numbers

def Digits (ds : List Char) : Prop := ds ≠ [] ∧ ∀ c ∈ ds, c.isDigit = true

/-- The number that digits stand for. -/
def decimal (ds : List Char) : Nat := Nat.ofDigitChars 10 ds 0

/-- Digits of which the first is zero only where it is the only one. -/
structure Whole (ds : List Char) : Prop where
  digits : Digits ds
  leading : ds.head? = some '0' → ds = ['0']

/-- Digits with or without a sign. -/
inductive Signed : List Char → Prop
  | unsigned {ds : List Char} : Digits ds → Signed ds
  | plus {ds : List Char} : Digits ds → Signed ('+' :: ds)
  | minus {ds : List Char} : Digits ds → Signed ('-' :: ds)

inductive Exponent : List Char → Prop
  | lower {cs : List Char} : Signed cs → Exponent ('e' :: cs)
  | upper {cs : List Char} : Signed cs → Exponent ('E' :: cs)

/-- A fraction, an exponent, or both. -/
inductive Tail : List Char → Prop
  | fraction {ds : List Char} : Digits ds → Tail ('.' :: ds)
  | exponent {cs : List Char} : Exponent cs → Tail cs
  | both {ds cs : List Char} : Digits ds → Exponent cs → Tail ('.' :: (ds ++ cs))

inductive Number.Written : Number → List Char → Prop
  | whole {ds : List Char} : Whole ds → Written (.whole (decimal ds)) ds
  | negative {ds : List Char} : Whole ds → decimal ds ≠ 0 →
      Written (.whole (-(decimal ds : Int))) ('-' :: ds)
  | negativeZero {ds : List Char} : Whole ds → decimal ds = 0 → Written .other ('-' :: ds)
  | other {ds tail : List Char} : Whole ds → Tail tail → Written .other (ds ++ tail)
  | negativeOther {ds tail : List Char} : Whole ds → Tail tail →
      Written .other ('-' :: (ds ++ tail))

end Numbers

section Texts

/-- A digit of a number in hexadecimal, in either case. -/
def HexDigit (d : Nat) (c : Char) : Prop :=
  "0123456789abcdef".toList[d]? = some c ∨ "0123456789ABCDEF".toList[d]? = some c

/-- The letters that stand for a character behind a backslash. -/
inductive Letter : (letter meant : Char) → Prop
  | quote : Letter '"' '"'
  | backslash : Letter '\\' '\\'
  | slash : Letter '/' '/'
  | backspace : Letter 'b' '\x08'
  | formFeed : Letter 'f' '\x0c'
  | lineFeed : Letter 'n' '\n'
  | carriageReturn : Letter 'r' '\r'
  | tab : Letter 't' '\t'

/-- What stands between the quotes. -/
inductive Piece.Written : List Piece → List Char → Prop
  | nil : Written [] []
  | plain {c : Char} {ps : List Piece} {cs : List Char} : ' ' ≤ c → c ≠ '"' → c ≠ '\\' →
      Written ps cs → Written (.char c :: ps) (c :: cs)
  | letter {l c : Char} {ps : List Piece} {cs : List Char} : Letter l c →
      Written ps cs → Written (.char c :: ps) ('\\' :: l :: cs)
  | unit {i j k l : Nat} {p q r s : Char} {ps : List Piece} {cs : List Char} :
      HexDigit i p → HexDigit j q → HexDigit k r → HexDigit l s → Written ps cs →
      Written (.unit (((i * 16 + j) * 16 + k) * 16 + l) :: ps) ('\\' :: 'u' :: p :: q :: r :: s :: cs)

/-- The characters that pieces stand for. Of a character that does not fit into one unit of sixteen
bits, one unit holds the higher and the next the lower ten bits. -/
inductive Piece.Characters : List Piece → List Char → Prop
  | nil : Characters [] []
  | char {c : Char} {ps : List Piece} {text : List Char} :
      Characters ps text → Characters (.char c :: ps) (c :: text)
  | unit {n : Nat} {ps : List Piece} {text : List Char} : n < 0xd800 ∨ 0xe000 ≤ n →
      Characters ps text → Characters (.unit n :: ps) (Char.ofNat n :: text)
  | pair {high low : Nat} {ps : List Piece} {text : List Char} :
      0xd800 ≤ high → high < 0xdc00 → 0xdc00 ≤ low → low < 0xe000 → Characters ps text →
      Characters (.unit high :: .unit low :: ps)
        (Char.ofNat (0x10000 + (high - 0xd800) * 0x400 + (low - 0xdc00)) :: text)

inductive Quoted : Text → List Char → Prop
  | text {ps : List Piece} {cs text : List Char} : Piece.Written ps cs →
      Piece.Characters ps text → Quoted (some (String.ofList text)) ('"' :: (cs ++ ['"']))
  /-- Half a pair of units stands alone. -/
  | broken {ps : List Piece} {cs : List Char} : Piece.Written ps cs →
      (∀ text, ¬ Piece.Characters ps text) → Quoted none ('"' :: (cs ++ ['"']))

end Texts

section Documents

inductive Token.Written : Token → List Char → Prop
  | openBrace : Written .openBrace ['\x7b']
  | closeBrace : Written .closeBrace ['\x7d']
  | openBracket : Written .openBracket ['[']
  | closeBracket : Written .closeBracket [']']
  | colon : Written .colon [':']
  | comma : Written .comma [',']
  | text {t : Text} {cs : List Char} : Quoted t cs → Written (.text t) cs
  | number {n : Number} {cs : List Char} : n.Written cs → Written (.number n) cs
  | true : Written (.bool true) "true".toList
  | false : Written (.bool false) "false".toList
  | null : Written .null "null".toList

/-- Tokens with any blanks around them. -/
inductive Written : List Token → List Char → Prop
  | nil {cs : List Char} : Blank cs → Written [] cs
  | cons {t : Token} {ts : List Token} {blank cs rest : List Char} :
      Blank blank → t.Written cs → Written ts rest → Written (t :: ts) (blank ++ (cs ++ rest))

namespace Value

mutual

def tokens : Value → List Token
  | .null => [.null]
  | .bool b => [.bool b]
  | .number n => [.number n]
  | .text t => [.text t]
  | .array items => .openBracket :: (itemTokens items ++ [.closeBracket])
  | .object members => .openBrace :: (memberTokens members ++ [.closeBrace])

def itemTokens : List Value → List Token
  | [] => []
  | [v] => v.tokens
  | v :: w :: rest => v.tokens ++ .comma :: itemTokens (w :: rest)

def memberTokens : List (Text × Value) → List Token
  | [] => []
  | [(name, v)] => .text name :: .colon :: v.tokens
  | (name, v) :: next :: rest =>
      .text name :: .colon :: (v.tokens ++ .comma :: memberTokens (next :: rest))

end

/-- The text is a document of the value. -/
def Document (v : Value) (text : List Char) : Prop := Written v.tokens text

end Value

theorem Blank.nil : Blank [] := fun _ hc => nomatch hc

theorem Blank.append {cs ds : List Char} (h : Blank cs) (h' : Blank ds) : Blank (cs ++ ds) :=
  fun c hc => (List.mem_append.1 hc).elim (h c) (h' c)

namespace Written

variable {t : Token} {ts us : List Token} {cs ds : List Char}

theorem blank_append (hblank : Blank cs) (h : Written ts ds) : Written ts (cs ++ ds) := by
  cases h with
  | nil hds => exact .nil (hblank.append hds)
  | cons hfirst ht hrest =>
    rw [← List.append_assoc]
    exact .cons (hblank.append hfirst) ht hrest

theorem append (h : Written ts cs) (h' : Written us ds) : Written (ts ++ us) (cs ++ ds) := by
  induction h with
  | nil hblank => exact h'.blank_append hblank
  | cons hblank ht _ ih =>
    rw [List.append_assoc, List.append_assoc]
    exact .cons hblank ht ih

theorem token (h : t.Written cs) : Written [t] cs := by
  simpa using Written.cons .nil h (.nil .nil)

end Written

end Documents

end ClusterWatch.Json
