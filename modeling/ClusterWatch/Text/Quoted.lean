import ClusterWatch.Text.Unprintable

/-!
Quoted text for people who inspect a value. Quotes and backslashes are written behind a
backslash, line ends, tabs and the null character by their letters, and every other
character that leaves no mark of its own by its number in hexadecimal.
-/
namespace ClusterWatch.Text

private def quotedChar (c : Char) : List Char :=
  match c with
  | '\t' => ['\\', 't']
  | '\r' => ['\\', 'r']
  | '\n' => ['\\', 'n']
  | '\x00' => ['\\', '0']
  | '"' => ['\\', '"']
  | '\\' => ['\\', '\\']
  | _ =>
      if isUnprintable c then
        ['\\', 'u', '\x7b'] ++ Nat.toDigits 16 c.toNat ++ ['\x7d']
      else [c]

def quoted (text : String) : String :=
  String.ofList ('"' :: text.toList.flatMap quotedChar ++ ['"'])

end ClusterWatch.Text
