import ChatCommands.Number.Numeral
import ChatCommands.Toml.Lexical

/-! # Scalars of TOML

Numbers, booleans and date-times: the values that are written without delimiters.
-/

namespace ChatCommands.Toml

open Number

/-- Digits in which single underscores may stand between two digits. `afterDigit` tells whether a
digit directly precedes. -/
def isDigitRun (isDigit : Char → Bool) (afterDigit : Bool) : List Char → Bool
  | [] => afterDigit
  | c :: cs =>
    if c == '_' then afterDigit && isDigitRun isDigit false cs
    else isDigit c && isDigitRun isDigit true cs

def isDecimalRun (s : List Char) : Bool :=
  isDigitRun Char.isDigit false s

/-- Decimal digits without a leading zero. -/
def isWhole (s : List Char) : Bool :=
  isDecimalRun s && (s.head? != some '0' || s.length == 1)

def runValue (base : Nat) (s : List Char) : Nat :=
  (s.filter (· != '_')).foldl (fun n c => base * n + hexDigitValue c) 0

/-- A number in a base of its own, which takes no sign. -/
def basedInteger? (base : Nat) (isDigit : Char → Bool) (s : List Char) : Option Int :=
  if isDigitRun isDigit false s then some (runValue base s) else none

def signed (s : List Char) : Bool × List Char :=
  match s with
  | '-' :: cs => (true, cs)
  | '+' :: cs => (false, cs)
  | cs => (false, cs)

/-- An integer of 64 bits. -/
def integer? (s : List Char) : Option Int := do
  let n ← match s with
    | '0' :: 'x' :: cs => basedInteger? 16 isHexDigit cs
    | '0' :: 'o' :: cs => basedInteger? 8 (fun c => '0' ≤ c && c ≤ '7') cs
    | '0' :: 'b' :: cs => basedInteger? 2 (fun c => c == '0' || c == '1') cs
    | s =>
      let (negative, digits) := signed s
      if isWhole digits then
        some (if negative then -(runValue 10 digits : Int) else runValue 10 digits)
      else none
  if Int64.minValue.toInt ≤ n && n ≤ Int64.maxValue.toInt then some n else none

/-- Digits, then a fraction or an exponent or both. -/
def isDecimalFloat (s : List Char) : Bool :=
  let isPart := fun c : Char => c.isDigit || c == '_'
  let whole := s.takeWhile isPart
  let rest := s.dropWhile isPart
  let exponentOk := fun (s : List Char) => match s with
    | [] => true
    | c :: cs => (c == 'e' || c == 'E') && isDecimalRun (signed cs).2
  isWhole whole &&
    match rest with
    | '.' :: cs => isDecimalRun (cs.takeWhile isPart) && exponentOk (cs.dropWhile isPart)
    | [] => false
    | rest => exponentOk rest

/-- A float, which may be infinite only if it says so or is negative. -/
def isFloat (s : List Char) : Bool :=
  let (negative, unsigned) := signed s
  unsigned == "inf".toList || unsigned == "nan".toList ||
    (isDecimalFloat unsigned &&
      (negative || (readFinite? (unsigned.filter (· != '_'))).isSome))

/-- A number of `count` digits between two bounds. -/
def field? (count low high : Nat) (s : List Char) : Option (Nat × List Char) :=
  let digits := s.take count
  if digits.length == count && digits.all Char.isDigit then
    let n := digitsValue digits
    if low ≤ n && n ≤ high then some (n, s.drop count) else none
  else none

def literally? (c : Char) : List Char → Option (List Char)
  | a :: rest => if a == c then some rest else none
  | [] => none

def daysOf (year month : Nat) : Nat :=
  if month == 2 then
    if year % 4 == 0 && (year % 100 != 0 || year % 400 == 0) then 29 else 28
  else if [4, 6, 9, 11].contains month then 30 else 31

/-- The text after a date. -/
def date? (s : List Char) : Option (List Char) := do
  let (year, s) ← field? 4 0 9999 s
  let (month, s) ← field? 2 1 12 (← literally? '-' s)
  let (_, s) ← field? 2 1 (daysOf year month) (← literally? '-' s)
  some s

/-- The text after a time of day. -/
def timeOfDay? (s : List Char) : Option (List Char) := do
  let (_, s) ← field? 2 0 23 s
  let (_, s) ← field? 2 0 59 (← literally? ':' s)
  let (_, s) ← field? 2 0 60 (← literally? ':' s)
  match s with
  | '.' :: cs => if cs.head?.any Char.isDigit then some (cs.dropWhile Char.isDigit) else none
  | s => some s

/-- The text after an offset from universal time. -/
def offset? (s : List Char) : Option (List Char) :=
  match s with
  | 'Z' :: rest => some rest
  | 'z' :: rest => some rest
  | c :: rest =>
    if c == '+' || c == '-' then do
      let (_, s) ← field? 2 0 23 rest
      let (_, s) ← field? 2 0 59 (← literally? ':' s)
      some s
    else none
  | [] => none

def isDate (s : List Char) : Bool :=
  date? s == some []

/-- A time of day with an optional offset, up to the end. -/
def isTime (s : List Char) : Bool :=
  match timeOfDay? s with
  | none => false
  | some [] => true
  | some rest => offset? rest == some []

/-- A date, a time of day without an offset, or both with a letter between them. -/
def isDateTime (s : List Char) : Bool :=
  isDate s || timeOfDay? s == some [] ||
    match date? s with
    | some (c :: rest) => (c == 'T' || c == 't') && isTime rest
    | _ => false

def isScalarChar (c : Char) : Bool :=
  !(isBlank c || c == '\n' || c == '\r' || c == ',' || c == ']' || c == '}' || c == '#')

/-- The value that a word without delimiters denotes. -/
def scalarOf? (word : List Char) : Option Value :=
  if word == "true".toList then some (.boolean true)
  else if word == "false".toList then some (.boolean false)
  else if isDateTime word then some (.dateTime (String.ofList word))
  else match integer? word with
    | some n => some (.integer n)
    | none => if isFloat word then some (.float (String.ofList word)) else none

/-- A scalar. One blank may separate a date from a time of day. -/
def scalar? : Reader Value := fun s =>
  let word := s.takeWhile isScalarChar
  let rest := s.dropWhile isScalarChar
  let continued := match rest with
    | ' ' :: more => isDate word && isTime (more.takeWhile isScalarChar)
    | _ => false
  if continued then
    let more := (rest.drop 1).takeWhile isScalarChar
    some (.dateTime (String.ofList (word ++ ' ' :: more)), (rest.drop 1).dropWhile isScalarChar)
  else (scalarOf? word).map fun v => (v, rest)

end ChatCommands.Toml
