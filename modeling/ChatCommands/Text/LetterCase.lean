import ChatCommands.Text.CaseTable

/-! # Letter case

Full lower- and upper-casing of texts. Both may change the number of characters, and a capital
sigma that ends a word becomes the final form.
-/

namespace ChatCommands.Text

def lowerChar (c : Char) : List Char :=
  if c.toNat < 0x80 then [c.toLower]
  else if c.toNat == 0x130 then ['i', '\u0307']
  else [((lowerRuns.findSome? (·.map? c.toNat)).map Char.ofNat).getD c]

def upperChar (c : Char) : List Char :=
  if c.toNat < 0x80 then [c.toUpper]
  else match upperExpansions.lookup c.toNat with
    | some expansion => expansion.map Char.ofNat
    | none => [((upperRuns.findSome? (·.map? c.toNat)).map Char.ofNat).getD c]

/-- Whether the nearest character that is not case-ignorable is cased. -/
def meetsCased (s : List Char) : Bool :=
  ((s.dropWhile (inSpans caseIgnorableSpans)).head?.map (inSpans casedSpans)).getD false

/-- Lower-cases a text whose preceding characters, nearest first, are `before`. -/
def lowerAfter (before : List Char) : List Char → List Char
  | [] => []
  | c :: cs =>
    (if c == 'Σ' then [if meetsCased before && !meetsCased cs then 'ς' else 'σ'] else lowerChar c)
      ++ lowerAfter (c :: before) cs

def lowercase (s : String) : String :=
  String.ofList (lowerAfter [] s.toList)

def uppercase (s : String) : String :=
  String.ofList (s.toList.flatMap upperChar)

/-- Folds the ASCII letters alone. -/
def asciiLowercase (s : List Char) : List Char :=
  s.map Char.toLower

end ChatCommands.Text
