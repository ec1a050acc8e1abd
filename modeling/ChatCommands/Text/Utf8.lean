/-! # Byte offsets

Offsets into messages count the bytes of the UTF-8 encoding.
-/

namespace ChatCommands.Text

def byteLength (s : List Char) : Nat :=
  s.foldr (·.utf8Size + ·) 0

/-- Cuts a text after its first `n` bytes, provided that this is between two characters. -/
def cutAtByte? : List Char → Nat → Option (List Char × List Char)
  | s, 0 => some ([], s)
  | [], _ + 1 => none
  | c :: cs, n + 1 =>
    if c.utf8Size ≤ n + 1 then
      (cutAtByte? cs (n + 1 - c.utf8Size)).map fun (front, back) => (c :: front, back)
    else none

end ChatCommands.Text
