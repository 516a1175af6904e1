import RecipientCallout.Text.Hex
import RecipientCallout.Text.Hidden

/-!
# Quoted text

A text in double quotes on one line, for messages: quotes, backslashes, line ends, tabs and NUL are
written with a backslash, and characters that would not show on their own by their code point.
-/

namespace RecipientCallout.Text

/-- The written form of a character inside quotes. -/
def quotedChar (c : Char) : List Char :=
  match c with
  | '"' => ['\\', '"']
  | '\\' => ['\\', '\\']
  | '\n' => ['\\', 'n']
  | '\r' => ['\\', 'r']
  | '\t' => ['\\', 't']
  | '\x00' => ['\\', '0']
  | c => if isHidden c then "\\u\x7b".toList ++ hexDigits c.toNat ++ ['\x7d'] else [c]

/-- A text in quotes. -/
def quoted (s : String) : String :=
  String.ofList ('"' :: s.toList.flatMap quotedChar ++ ['"'])

end RecipientCallout.Text
