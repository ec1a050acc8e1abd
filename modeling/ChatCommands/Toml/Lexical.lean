import ChatCommands.Number.Decimal
import ChatCommands.Toml.Value

/-! # Lexical elements of TOML

Blanks, comments and line ends, the four kinds of strings, and keys.
-/

namespace ChatCommands.Toml

open Number

def isBlank (c : Char) : Bool :=
  c == ' ' || c == '\t'

def skipBlanks (s : List Char) : List Char :=
  s.dropWhile isBlank

/-- A character that may stand in a comment or a string as itself. -/
def isPlain (c : Char) : Bool :=
  c == '\t' || (0x20 ≤ c.toNat && c.toNat != 0x7F)

/-- The text after a line end. -/
def newline? : List Char → Option (List Char)
  | '\n' :: cs => some cs
  | '\r' :: '\n' :: cs => some cs
  | _ => none

def skipComment : List Char → List Char
  | '#' :: cs => cs.dropWhile isPlain
  | cs => cs

/-- Skips blanks, comments and line ends, at most `fuel` lines of them. -/
def skipLines : Nat → List Char → List Char
  | 0, s => s
  | fuel + 1, s =>
    let s := skipComment (skipBlanks s)
    match newline? s with
    | some rest => skipLines fuel rest
    | none => s

def isHexDigit (c : Char) : Bool :=
  c.isDigit || ('a' ≤ c && c ≤ 'f') || ('A' ≤ c && c ≤ 'F')

def hexDigitValue (c : Char) : Nat :=
  if c.isDigit then digitValue c else c.toLower.toNat - 'a'.toNat + 10

/-- A character given by `count` hexadecimal digits. -/
def codePoint? (count : Nat) : Reader Char := fun s =>
  let digits := s.take count
  let n := digits.foldl (fun n c => 16 * n + hexDigitValue c) 0
  if digits.length == count && digits.all isHexDigit && n.isValidChar then
    some (Char.ofNat n, s.drop count)
  else none

/-- The character that an escape stands for, given the text after the backslash. -/
def escape? : Reader Char
  | 'b' :: cs => some ('\x08', cs)
  | 't' :: cs => some ('\t', cs)
  | 'n' :: cs => some ('\n', cs)
  | 'f' :: cs => some ('\x0c', cs)
  | 'r' :: cs => some ('\r', cs)
  | '"' :: cs => some ('"', cs)
  | '\\' :: cs => some ('\\', cs)
  | 'u' :: cs => codePoint? 4 cs
  | 'U' :: cs => codePoint? 8 cs
  | _ => none

/-- Puts a character in front of what was read. -/
def andThen (c : Char) (r : Option (List Char × List Char)) : Option (List Char × List Char) :=
  r.map fun (body, rest) => (c :: body, rest)

/-- The rest of a basic string and its closing quote. -/
def basicBody? : Nat → Reader (List Char)
  | 0, _ => none
  | fuel + 1, s =>
    match s with
    | '"' :: rest => some ([], rest)
    | '\\' :: cs => (escape? cs).bind fun (c, rest) => andThen c (basicBody? fuel rest)
    | c :: cs => if isPlain c then andThen c (basicBody? fuel cs) else none
    | [] => none

/-- The rest of a literal string and its closing apostrophe. -/
def literalBody? : Reader (List Char) := fun s =>
  let isInside := fun c => isPlain c && c != '\x27'
  match s.dropWhile isInside with
  | '\x27' :: rest => some (s.takeWhile isInside, rest)
  | _ => none

/-- The end of a multi-line string, whose delimiter may follow up to two of its own marks. -/
def closeMultiline? (mark : Char) : Reader (List Char)
  | a :: b :: c :: rest =>
    if a == mark && b == mark && c == mark then
      let inside := (rest.takeWhile (· == mark)).take 2
      some (inside, rest.drop inside.length)
    else none
  | _ => none

/-- Skips blanks and line ends, at most `fuel` lines of them. -/
def skipBlankLines : Nat → List Char → List Char
  | 0, s => s
  | fuel + 1, s =>
    let s := skipBlanks s
    match newline? s with
    | some rest => skipBlankLines fuel rest
    | none => s

/-- The text after a backslash at the end of a line, and after all white space that follows. -/
def lineContinuation? (s : List Char) : Option (List Char) :=
  (newline? (skipBlanks s)).map (skipBlankLines s.length)

def multilineBasicBody? : Nat → Reader (List Char)
  | 0, _ => none
  | fuel + 1, s =>
    match closeMultiline? '"' s with
    | some closed => some closed
    | none =>
      match newline? s with
      | some rest => andThen '\n' (multilineBasicBody? fuel rest)
      | none =>
        match s with
        | '\\' :: cs =>
          match lineContinuation? cs with
          | some rest => multilineBasicBody? fuel rest
          | none => (escape? cs).bind fun (c, rest) => andThen c (multilineBasicBody? fuel rest)
        | c :: cs => if isPlain c then andThen c (multilineBasicBody? fuel cs) else none
        | [] => none

def multilineLiteralBody? : Nat → Reader (List Char)
  | 0, _ => none
  | fuel + 1, s =>
    match closeMultiline? '\x27' s with
    | some closed => some closed
    | none =>
      match newline? s with
      | some rest => andThen '\n' (multilineLiteralBody? fuel rest)
      | none =>
        match s with
        | c :: cs => if isPlain c then andThen c (multilineLiteralBody? fuel cs) else none
        | [] => none

/-- A string on one line. -/
def lineString? : Reader String := fun s =>
  (match s with
  | '"' :: cs => basicBody? s.length cs
  | '\x27' :: cs => literalBody? cs
  | _ => none).map fun (body, rest) => (String.ofList body, rest)

/-- A string of any kind. A line end right after an opening delimiter does not count. -/
def string? : Reader String := fun s =>
  let open? := fun cs => (newline? cs).getD cs
  match s with
  | '"' :: '"' :: '"' :: cs =>
    (multilineBasicBody? s.length (open? cs)).map fun (body, rest) => (String.ofList body, rest)
  | '\x27' :: '\x27' :: '\x27' :: cs =>
    (multilineLiteralBody? s.length (open? cs)).map fun (body, rest) => (String.ofList body, rest)
  | _ => lineString? s

def isBareKeyChar (c : Char) : Bool :=
  c.isAlphanum || c == '_' || c == '-'

def simpleKey? : Reader String := fun s =>
  match s.takeWhile isBareKeyChar with
  | [] => lineString? s
  | bare => some (String.ofList bare, s.dropWhile isBareKeyChar)

/-- How many parts a key may have, and how deep arrays and inline tables may nest. -/
def depthLimit : Nat := 79

/-- A key of one to `limit` parts with points between them; blanks may surround each part. -/
def keyUpTo? : Nat → Reader (List String)
  | 0, _ => none
  | limit + 1, s => do
    let (part, rest) ← simpleKey? (skipBlanks s)
    match skipBlanks rest with
    | '.' :: rest => (keyUpTo? limit rest).map fun (parts, rest) => (part :: parts, rest)
    | rest => some ([part], rest)

def key? : Reader (List String) :=
  keyUpTo? depthLimit

end ChatCommands.Toml
