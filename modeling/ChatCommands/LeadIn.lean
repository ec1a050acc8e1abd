import ChatCommands.Mention
import ChatCommands.Message

/-! # Lead-ins

A message addresses the agent by how it starts: with a mention of it, with an agreed mark, or, in
private, with nothing at all. Stripping a lead-in cuts the text in two and loses none of it.
-/

namespace ChatCommands

open Text

/-- A mark that commands may start with. -/
inductive LeadIn
  | literal (mark : String)
  /-- Reports the byte length of the mark at the start of a text, for marks that depend on the
  context. -/
  | predicate (length? : List Char → Context → Option Nat)

/-- The text after a mark, when the text starts with it. -/
def afterMark? : List Char → List Char → Option (List Char)
  | [], text => some text
  | _ :: _, [] => none
  | m :: mark, c :: text => if m == c then afterMark? mark text else none

/-- Cuts a text after the mark. Empty literals never match, and lengths that do not end between two
characters of the text count for nothing. -/
def LeadIn.cut? (leadIn : LeadIn) (text : List Char) (ctx : Context) :
    Option (List Char × List Char) :=
  match leadIn with
  | literal mark =>
    if mark.isEmpty then none
    else (afterMark? mark.toList text).map fun rest => (mark.toList, rest)
  | predicate length? => (length? text ctx).bind (cutAtByte? text)

/-- All lead-ins in force. -/
structure LeadIns where
  marks : List LeadIn := []
  /-- The user whose mention addresses the agent. -/
  mentionOf? : Option UInt64 := none
  /-- Private messages may do without a lead-in. -/
  optionalInPrivate : Bool := false

namespace LeadIns

def add (leadIns : LeadIns) (leadIn : LeadIn) : LeadIns :=
  { leadIns with marks := leadIns.marks ++ [leadIn] }

/-- Cuts a text after a mention of the user that addresses the agent. -/
def cutMention? (leadIns : LeadIns) (text : List Char) : Option (List Char × List Char) :=
  match leadIns.mentionOf?, Mention.leading? text with
  | some id, some mention =>
    if mention.user == id then some (mention.written, mention.rest) else none
  | _, _ => none

/-- Cuts a text after its lead-in: a mention first, then the marks in the order in which they were
added, then, in private, nothing. -/
def strip? (leadIns : LeadIns) (text : List Char) (ctx : Context) :
    Option (List Char × List Char) :=
  (leadIns.cutMention? text).or <|
  (leadIns.marks.findSome? (·.cut? text ctx)).or <|
  if leadIns.optionalInPrivate && ctx.isPrivate then some ([], text) else none

end LeadIns

end ChatCommands
