import NetNames.Text.Hex
import NetNames.Text.Ignorable
import NetNames.Text.Marks
import NetNames.Text.Unseen

/-!
Text between double quotes. Quotes, backslashes and line ends are escaped, and characters that
would not be seen are shown by their code points.
-/
namespace NetNames.Text

def isSeen (c : Char) : Bool := !(isMark c || isIgnorable c || isUnseen c)

def quotedChar (c : Char) : List Char :=
  match c with
  | '"' => ['\\', '"']
  | '\\' => ['\\', '\\']
  | '\t' => ['\\', 't']
  | '\n' => ['\\', 'n']
  | '\r' => ['\\', 'r']
  | '\x00' => ['\\', '0']
  | c =>
    if isSeen c then [c]
    else ['\\', 'u', '\x7b'] ++ hexDigits c.toNat ++ ['\x7d']

def quoted (s : String) : String :=
  String.ofList ('"' :: (s.toList.flatMap quotedChar ++ ['"']))

end NetNames.Text
