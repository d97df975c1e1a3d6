import ClusterWatch.Json.Value

/-!
Writing a JSON document in one line without spaces. Quotes, backslashes and control
characters are escaped and nothing else is. What has no one written form, a number that is
not whole or a text without characters, is written as the shortest that reads as such.
-/
namespace ClusterWatch.Json

def hexDigit (n : Nat) : Char := (Nat.toDigits 16 n).headD '0'

def escaped (c : Char) : List Char :=
  match c with
  | '"' => ['\\', '"']
  | '\\' => ['\\', '\\']
  | '\x08' => ['\\', 'b']
  | '\x0c' => ['\\', 'f']
  | '\n' => ['\\', 'n']
  | '\r' => ['\\', 'r']
  | '\t' => ['\\', 't']
  | _ =>
      if c < ' ' then ['\\', 'u', '0', '0', hexDigit (c.toNat / 16), hexDigit (c.toNat % 16)]
      else [c]

def writeText : Text → List Char
  | some t => '"' :: t.toList.flatMap escaped ++ ['"']
  | none => "\"\\ud800\"".toList

def writeNumber : Number → List Char
  | .whole n => (toString n).toList
  | .other => "-0".toList

namespace Value

mutual

def write : Value → List Char
  | .null => "null".toList
  | .bool true => "true".toList
  | .bool false => "false".toList
  | .number n => writeNumber n
  | .text t => writeText t
  | .array items => '[' :: writeItems items ++ [']']
  | .object members => '\x7b' :: writeMembers members ++ ['\x7d']

def writeItems : List Value → List Char
  | [] => []
  | [v] => v.write
  | v :: w :: rest => v.write ++ ',' :: writeItems (w :: rest)

def writeMembers : List (Text × Value) → List Char
  | [] => []
  | [(name, v)] => writeText name ++ ':' :: v.write
  | (name, v) :: next :: rest =>
      writeText name ++ ':' :: v.write ++ ',' :: writeMembers (next :: rest)

end

def toText (v : Value) : String := String.ofList v.write

end Value
end ClusterWatch.Json
