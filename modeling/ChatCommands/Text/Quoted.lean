import ChatCommands.Text.Printable

/-! # Quoted display

Texts shown between double quotes, with everything escaped that would not show as itself.
-/

namespace ChatCommands.Text

/-- The code point in hexadecimal digits between braces. -/
def escapeCodePoint (c : Char) : List Char :=
  "\\u\x7b".toList ++ Nat.toDigits 16 c.toNat ++ ['}']

def escapeChar (c : Char) : List Char :=
  match c with
  | '\x00' => ['\\', '0']
  | '\t' => ['\\', 't']
  | '\r' => ['\\', 'r']
  | '\n' => ['\\', 'n']
  | '"' => ['\\', '"']
  | '\\' => ['\\', '\\']
  | c => if extendsGrapheme c || !isPrintable c then escapeCodePoint c else [c]

def quoted (s : String) : String :=
  String.ofList ('"' :: s.toList.flatMap escapeChar ++ ['"'])

end ChatCommands.Text
