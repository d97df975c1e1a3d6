import ClusterWatch.Json.Value
import ClusterWatch.Text.Decimal

/-!
The tokens of JSON text. The text is read once from left to right, one character at a time,
and nothing is read again: the state between two characters is what has been begun, a text,
a number or a word, and the tokens that are complete, latest first.
-/
namespace ClusterWatch.Json

inductive Token where
  | openBrace
  | closeBrace
  | openBracket
  | closeBracket
  | colon
  | comma
  | text (t : Text)
  | number (n : Number)
  | bool (b : Bool)
  | null
deriving DecidableEq, Repr

/-- A piece of a quoted text: a character, or a unit of sixteen bits given by its number. -/
inductive Piece where
  | char (c : Char)
  | unit (n : Nat)
deriving DecidableEq, Repr

namespace Piece

def isHigh (n : Nat) : Bool := 0xd800 ≤ n && n < 0xdc00

def isLow (n : Nat) : Bool := 0xdc00 ≤ n && n < 0xe000

/-- The characters of the pieces behind those read so far, which stand latest first. -/
def joinOnto (done : List Char) : List Piece → Option (List Char)
  | [] => some done.reverse
  | .char c :: rest => joinOnto (c :: done) rest
  | .unit n :: rest =>
      if isHigh n then
        match rest with
        | .unit m :: rest =>
            if isLow m then
              joinOnto (Char.ofNat (0x10000 + (n - 0xd800) * 0x400 + (m - 0xdc00)) :: done) rest
            else none
        | _ => none
      else if isLow n then none
      else joinOnto (Char.ofNat n :: done) rest

/-- The characters of the pieces; two units make one character if and only if they pair up. -/
def join (pieces : List Piece) : Option (List Char) := joinOnto [] pieces

end Piece

/-- What has been begun; what has been read of it stands latest first. -/
inductive Begun where
  | nothing
  | quoted (pieces : List Piece)
  | escaped (pieces : List Piece)
  /-- A unit in hexadecimal, with how many of its four digits are still to come. -/
  | hex (pieces : List Piece) (missing : Nat) (value : Nat)
  | number (chars : List Char)
  | word (chars : List Char)
deriving DecidableEq, Repr

structure Scan where
  begun : Begun
  tokens : List Token

def isSpace (c : Char) : Bool := c = ' ' || c = '\n' || c = '\r' || c = '\t'

def isNumberChar (c : Char) : Bool :=
  c.isDigit || c = '-' || c = '+' || c = '.' || c = 'e' || c = 'E'

def hexDigit? (c : Char) : Option Nat :=
  if c.isDigit then some (c.toNat - '0'.toNat)
  else if 'a' ≤ c ∧ c ≤ 'f' then some (c.toNat - 'a'.toNat + 10)
  else if 'A' ≤ c ∧ c ≤ 'F' then some (c.toNat - 'A'.toNat + 10)
  else none

/-- The character that a letter stands for behind a backslash. -/
def escape? : Char → Option Char
  | '"' => some '"'
  | '\\' => some '\\'
  | '/' => some '/'
  | 'b' => some '\x08'
  | 'f' => some '\x0c'
  | 'n' => some '\n'
  | 'r' => some '\r'
  | 't' => some '\t'
  | _ => none

def word? (chars : List Char) : Option Token :=
  if chars = "true".toList then some (.bool true)
  else if chars = "false".toList then some (.bool false)
  else if chars = "null".toList then some .null
  else none

def isExponent : List Char → Bool
  | '+' :: digits => (Text.natural? digits).isSome
  | '-' :: digits => (Text.natural? digits).isSome
  | digits => (Text.natural? digits).isSome

/-- What may follow the whole part of a number that is not a whole number. -/
def isTail : List Char → Bool
  | '.' :: rest =>
      let digits := rest.takeWhile Char.isDigit
      !digits.isEmpty && match rest.dropWhile Char.isDigit with
        | [] => true
        | e :: rest => (e = 'e' || e = 'E') && isExponent rest
  | e :: rest => (e = 'e' || e = 'E') && isExponent rest
  | [] => false

/-- A whole part has no leading zeros; zero itself is the only one that begins with one. -/
def magnitude? (digits : List Char) : Option Nat :=
  match digits with
  | '0' :: _ :: _ => none
  | _ => Text.natural? digits

def Number.ofChars? (chars : List Char) : Option Number :=
  let (negative, rest) := match chars with
    | '-' :: rest => (true, rest)
    | rest => (false, rest)
  (magnitude? (rest.takeWhile Char.isDigit)).bind fun n =>
    match rest.dropWhile Char.isDigit with
    | [] =>
        if negative then some (if n = 0 then .other else .whole (-(n : Int)))
        else some (.whole n)
    | tail => if isTail tail then some .other else none

namespace Scan

def start : Scan := ⟨.nothing, []⟩

def put (s : Scan) (token : Token) : Scan := ⟨.nothing, token :: s.tokens⟩

/-- A number or word that has been begun is complete. -/
def finish (s : Scan) : Option Scan :=
  match s.begun with
  | .nothing => some s
  | .number chars => (Number.ofChars? chars.reverse).map fun n => s.put (.number n)
  | .word chars => (word? chars.reverse).map s.put
  | _ => none

/-- A character where nothing has been begun. -/
def fresh (s : Scan) (c : Char) : Option Scan :=
  match c with
  | '\x7b' => some (s.put .openBrace)
  | '\x7d' => some (s.put .closeBrace)
  | '[' => some (s.put .openBracket)
  | ']' => some (s.put .closeBracket)
  | ':' => some (s.put .colon)
  | ',' => some (s.put .comma)
  | '"' => some { s with begun := .quoted [] }
  | _ =>
      if isSpace c then some s
      else if c.isDigit || c = '-' then some { s with begun := .number [c] }
      else if c.isAlpha then some { s with begun := .word [c] }
      else none

def step (s : Scan) (c : Char) : Option Scan :=
  match s.begun with
  | .nothing => s.fresh c
  | .quoted pieces =>
      if c = '"' then some (s.put (.text ((Piece.join pieces.reverse).map String.ofList)))
      else if c = '\\' then some { s with begun := .escaped pieces }
      else if c < ' ' then none
      else some { s with begun := .quoted (.char c :: pieces) }
  | .escaped pieces =>
      if c = 'u' then some { s with begun := .hex pieces 4 0 }
      else (escape? c).map fun meant => { s with begun := .quoted (.char meant :: pieces) }
  | .hex pieces missing value =>
      (hexDigit? c).map fun digit =>
        let value := value * 16 + digit
        if missing ≤ 1 then { s with begun := .quoted (.unit value :: pieces) }
        else { s with begun := .hex pieces (missing - 1) value }
  | .number chars =>
      if isNumberChar c then some { s with begun := .number (c :: chars) }
      else s.finish.bind fun s => s.fresh c
  | .word chars =>
      if c.isAlpha then some { s with begun := .word (c :: chars) }
      else s.finish.bind fun s => s.fresh c

end Scan

def tokens? (text : List Char) : Option (List Token) :=
  ((text.foldlM Scan.step Scan.start).bind Scan.finish).map fun s => s.tokens.reverse

end ClusterWatch.Json
