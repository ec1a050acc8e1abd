import ChatCommands.Toml.Scalar

/-! # TOML documents

A document is a list of statements: headers, which open a table, and assignments to the table
opened last. Statements build up a tree of nodes, where no key is set twice and no table is opened
twice.
-/

namespace ChatCommands.Toml

/-- What a table owes its existence to. -/
inductive Origin
  /-- A header of its own. -/
  | header
  /-- The header of a table below it. -/
  | implied
  /-- A key with several parts. -/
  | dotted
  deriving DecidableEq, Repr

inductive Node
  /-- A value in itself, to which nothing can be added. -/
  | value (v : Value)
  | table (origin : Origin) (entries : List (String × Node))
  /-- Tables under one header with double brackets, in order. -/
  | tables (elements : List (List (String × Node)))

abbrev Entries := List (String × Node)

namespace Entries

/-- Replaces the node under a key, or adds it. -/
def put (entries : Entries) (key : String) (node : Node) : Entries :=
  match entries with
  | [] => [(key, node)]
  | (k, n) :: rest => if k == key then (k, node) :: rest else (k, n) :: put rest key node

/-- Changes the last of a list of tables. -/
def onLast (elements : List Entries) (change : Entries → Option Entries) : Option (List Entries) :=
  match elements.getLast? with
  | none => none
  | some last => (change last).map fun last => elements.dropLast ++ [last]

/-- Changes the table that the last header opened. -/
def atHeader (change : Entries → Option Entries) : List String → Entries → Option Entries
  | [], entries => change entries
  | key :: rest, entries =>
    match entries.lookup key with
    | some (.table origin sub) =>
      (atHeader change rest sub).map fun sub => entries.put key (.table origin sub)
    | some (.tables elements) =>
      (onLast elements (atHeader change rest)).map fun elements =>
        entries.put key (.tables elements)
    | _ => none

/-- Opens a table. Tables above it come into being where they are missing, and one that did so
before may be opened once. -/
def openTable : List String → Entries → Option Entries
  | [], _ => none
  | [key], entries =>
    match entries.lookup key with
    | none => some (entries.put key (.table .header []))
    | some (.table .implied sub) => some (entries.put key (.table .header sub))
    | _ => none
  | key :: rest, entries =>
    match entries.lookup key with
    | none => (openTable rest []).map fun sub => entries.put key (.table .implied sub)
    | some (.table origin sub) =>
      (openTable rest sub).map fun sub => entries.put key (.table origin sub)
    | some (.tables elements) =>
      (onLast elements (openTable rest)).map fun elements => entries.put key (.tables elements)
    | some (.value _) => none

/-- Opens another table of a list of tables. -/
def openElement : List String → Entries → Option Entries
  | [], _ => none
  | [key], entries =>
    match entries.lookup key with
    | none => some (entries.put key (.tables [[]]))
    | some (.tables elements) => some (entries.put key (.tables (elements ++ [[]])))
    | _ => none
  | key :: rest, entries =>
    match entries.lookup key with
    | none => (openElement rest []).map fun sub => entries.put key (.table .implied sub)
    | some (.table origin sub) =>
      (openElement rest sub).map fun sub => entries.put key (.table origin sub)
    | some (.tables elements) =>
      (onLast elements (openElement rest)).map fun elements => entries.put key (.tables elements)
    | some (.value _) => none

/-- Sets a key that is not set yet. Only tables that came into being by keys with several parts
take in further ones of their keys. -/
def assign (v : Value) : List String → Entries → Option Entries
  | [], _ => none
  | [key], entries =>
    match entries.lookup key with
    | none => some (entries.put key (.value v))
    | some _ => none
  | key :: rest, entries =>
    let isLast := rest.length == 1
    match entries.lookup key with
    | none => (assign v rest []).map fun sub => entries.put key (.table .dotted sub)
    | some (.table origin sub) =>
      if origin == .header || (isLast && origin != .dotted) then none
      else (assign v rest sub).map fun sub => entries.put key (.table origin sub)
    | some (.tables elements) =>
      if isLast then none
      else (onLast elements (assign v rest)).map fun elements => entries.put key (.tables elements)
    | some (.value _) => none

end Entries

mutual

def Node.toValue : Node → Value
  | .value v => v
  | .table _ entries => .table (valuesOf entries)
  | .tables elements => .array (tablesOf elements)

def valuesOf : List (String × Node) → List (String × Value)
  | [] => []
  | (key, node) :: rest => (key, node.toValue) :: valuesOf rest

def tablesOf : List (List (String × Node)) → List Value
  | [] => []
  | entries :: rest => .table (valuesOf entries) :: tablesOf rest

end

mutual

/-- A value in which arrays and inline tables nest at most `levels` deep. -/
def value? : Nat → Nat → Reader Value
  | 0, _, _ => none
  | fuel + 1, levels, s =>
    match s, levels with
    | '[' :: _, 0 => none
    | '[' :: cs, levels + 1 =>
      (elements? fuel levels cs).map fun (vs, rest) => (.array vs, rest)
    | '\x7b' :: _, 0 => none
    | '\x7b' :: cs, levels + 1 => inlineTable? fuel levels (skipBlanks cs)
    | '"' :: _, _ => (string? s).map fun (text, rest) => (.string text, rest)
    | '\x27' :: _, _ => (string? s).map fun (text, rest) => (.string text, rest)
    | _, _ => scalar? s

/-- The elements of an array and its closing bracket. A comma may follow the last element. -/
def elements? : Nat → Nat → Reader (List Value)
  | 0, _, _ => none
  | fuel + 1, levels, s =>
    match skipLines s.length s with
    | ']' :: rest => some ([], rest)
    | s => do
      let (v, rest) ← value? fuel levels s
      match skipLines rest.length rest with
      | ',' :: rest => (elements? fuel levels rest).map fun (vs, rest) => (v :: vs, rest)
      | ']' :: rest => some ([v], rest)
      | _ => none

/-- The pairs of an inline table and its closing brace. -/
def inlineTable? : Nat → Nat → Reader Value
  | 0, _, _ => none
  | fuel + 1, levels, s =>
    match s with
    | '\x7d' :: rest => some (.table [], rest)
    | s => (pairs? fuel levels [] s).map fun (entries, rest) => (.table (valuesOf entries), rest)

/-- One or more pairs, added to those read before, and the closing brace. -/
def pairs? : Nat → Nat → Entries → Reader Entries
  | 0, _, _, _ => none
  | fuel + 1, levels, entries, s => do
    let (key, rest) ← key? s
    match rest with
    | '=' :: rest =>
      let (v, rest) ← value? fuel levels (skipBlanks rest)
      let entries ← Entries.assign v key entries
      match skipBlanks rest with
      | ',' :: rest => pairs? fuel levels entries rest
      | '\x7d' :: rest => some (entries, rest)
      | _ => none
    | _ => none

end

inductive Statement
  | table (path : List String)
  | element (path : List String)
  | assign (key : List String) (v : Value)

/-- The statement at the start of a line that is neither blank nor a comment. -/
def statement? : Reader Statement := fun s =>
  match s with
  | '[' :: '[' :: cs => do
    let (path, rest) ← key? cs
    match rest with
    | ']' :: ']' :: rest => some (.element path, rest)
    | _ => none
  | '[' :: cs => do
    let (path, rest) ← key? cs
    match rest with
    | ']' :: rest => some (.table path, rest)
    | _ => none
  | s => do
    let (key, rest) ← key? s
    match rest with
    | '=' :: rest =>
      (value? (2 * s.length) depthLimit (skipBlanks rest)).map fun (v, rest) => (.assign key v, rest)
    | _ => none

/-- All statements, each on a line of its own. -/
def statements? : Nat → List Char → Option (List Statement)
  | 0, _ => none
  | fuel + 1, s =>
    match skipLines s.length s with
    | [] => some []
    | s => do
      let (statement, rest) ← statement? s
      match skipComment (skipBlanks rest) with
      | [] => some [statement]
      | rest => (statements? fuel (← newline? rest)).map (statement :: ·)

/-- Carries out statements on the tree built so far, with the path of the table opened last. -/
def execute : List Statement → List String → Entries → Option Entries
  | [], _, root => some root
  | .table path :: rest, _, root => (Entries.openTable path root).bind (execute rest path)
  | .element path :: rest, _, root => (Entries.openElement path root).bind (execute rest path)
  | .assign key v :: rest, current, root =>
    (Entries.atHeader (Entries.assign v key) current root).bind (execute rest current)

/-- The root table of a document. A byte order mark may precede it. -/
def parse? (text : String) : Option (List (String × Value)) := do
  let s := match text.toList with
    | '\uFEFF' :: cs => cs
    | cs => cs
  let statements ← statements? (s.length + 1) s
  let root ← execute statements [] []
  some (valuesOf root)

end ChatCommands.Toml
