import ApiProxy.Text.Hidden

/-!
# Texts as literals

How a text is shown inside a message: in double quotes, with escapes for quotes, backslashes
and characters that would not show.
-/

namespace ApiProxy.Text

/-- A code point in braces, as hexadecimal digits in lower case. -/
def codePointEscape (c : Char) : List Char :=
  '\\' :: 'u' :: '\x7b' :: (Nat.toDigits 16 c.toNat ++ ['\x7d'])

/-- How a character stands in a literal. -/
def literalChar (c : Char) : List Char :=
  match c with
  | '"' => ['\\', '"']
  | '\\' => ['\\', '\\']
  | '\x00' => ['\\', '0']
  | '\t' => ['\\', 't']
  | '\n' => ['\\', 'n']
  | '\r' => ['\\', 'r']
  | c => if isHidden c then codePointEscape c else [c]

/-- A text as a literal in double quotes. -/
def literal (s : String) : String :=
  String.ofList ('"' :: (s.toList.flatMap literalChar ++ ['"']))

end ApiProxy.Text
