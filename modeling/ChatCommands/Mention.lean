import ChatCommands.Number.Decimal
import ChatCommands.Text.DecimalDigit
import ChatCommands.Text.Utf8

/-! # Mentions

A user is mentioned as `<@id>` or `<@!id>`, with an id of 1 to 20 digits.
-/

namespace ChatCommands

open Number Text

/-- A mention at the start of a text, and the text after it. -/
structure Mention where
  user : UInt64
  written : List Char
  rest : List Char

namespace Mention

/-- Reads the digits and the closing bracket after `opening`. -/
def close? (opening body : List Char) : Option Mention := do
  let digits := body.takeWhile isDecimalDigit
  match body.dropWhile isDecimalDigit with
  | '>' :: rest =>
    if 1 ≤ digits.length && digits.length ≤ 20 then
      let id ← (readDecimal maxWord digits).toOption
      some ⟨UInt64.ofNat id, opening ++ digits ++ ['>'], rest⟩
    else none
  | _ => none

/-- The mention at the start of a text. Ids that are no 64-bit numbers in ASCII digits mention
nobody. -/
def leading? : List Char → Option Mention
  | '<' :: '@' :: '!' :: body => close? ['<', '@', '!'] body
  | '<' :: '@' :: body => close? ['<', '@'] body
  | _ => none

end Mention

end ChatCommands
