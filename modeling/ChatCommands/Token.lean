import ChatCommands.Text.Space

/-! # Tokens

Messages are split into tokens at white space. A token in double quotes may hold white space, and
a backslash keeps a quote or a white space character from ending its token.
-/

namespace ChatCommands

open Text

structure Token where
  value : List Char
  /-- The text after the token, without the white space that separates them. -/
  leftover : List Char
  /-- The token stood in a closed pair of quotes. -/
  quoted : Bool
  /-- The text opened a quote and never closed it, and was split at white space instead. -/
  unterminated : Bool
  deriving DecidableEq, Repr

namespace Token

/-- The text before the first quote that no backslash directly precedes, and the text after that
quote. `escaped` says whether a backslash directly precedes the text. -/
def closeQuote? (escaped : Bool) : List Char → Option (List Char × List Char)
  | [] => none
  | c :: cs =>
    if c == '"' && !escaped then some ([], cs)
    else (closeQuote? (c == '\\') cs).map fun (inner, after) => (c :: inner, after)

/-- Splits before the first white space that no backslash directly precedes. -/
def splitSpace (escaped : Bool) : List Char → List Char × List Char
  | [] => ([], [])
  | c :: cs =>
    if isSpace c && !escaped then ([], c :: cs)
    else
      let tail := splitSpace (c == '\\') cs
      (c :: tail.1, tail.2)

/-- Drops the backslash before each quote. -/
def unescapeQuotes : List Char → List Char
  | '\\' :: '"' :: cs => '"' :: unescapeQuotes cs
  | c :: cs => c :: unescapeQuotes cs
  | [] => []

/-- Drops the backslash before each quote and each white space character. -/
def unescape : List Char → List Char
  | [] => []
  | c :: cs =>
    if c == '\\' && cs.head?.any (fun next => next == '"' || isSpace next) then unescape cs
    else c :: unescape cs

/-- The token in front of a text that starts with no quote, or whose quote does not count. -/
def bare (text : List Char) (unterminated : Bool) : Token :=
  let (raw, after) := splitSpace false text
  ⟨unescape raw, trimStart after, false, unterminated⟩

/-- The token in front of a text that starts with no white space. -/
def front (acceptQuote : Bool) (text : List Char) : Token :=
  match acceptQuote, text with
  | true, '"' :: body =>
    match closeQuote? false body with
    | some (inner, after) => ⟨unescapeQuotes inner, trimStart after, true, false⟩
    | none => bare text true
  | _, _ => bare text false

/-- Splits the next token off a text, past leading white space. -/
def split (acceptQuote : Bool) (text : List Char) : Token :=
  front acceptQuote (trimStart text)

theorem length_closeQuote? {escaped : Bool} {s inner after : List Char}
    (h : closeQuote? escaped s = some (inner, after)) :
    inner.length + after.length + 1 = s.length := by
  induction s generalizing escaped inner with
  | nil => simp [closeQuote?] at h
  | cons c cs ih =>
    rw [closeQuote?] at h
    split at h
    · simp only [Option.some.injEq, Prod.mk.injEq] at h
      simp [← h.1, ← h.2]
    · obtain ⟨⟨a, b⟩, hab, heq⟩ := Option.map_eq_some_iff.mp h
      simp only [Prod.mk.injEq] at heq
      have := ih (heq.2 ▸ hab)
      simp only [← heq.1, List.length_cons] at *
      omega

theorem length_splitSpace (escaped : Bool) (s : List Char) :
    (splitSpace escaped s).1.length + (splitSpace escaped s).2.length = s.length := by
  induction s generalizing escaped with
  | nil => rfl
  | cons c cs ih =>
    rw [splitSpace]
    split
    · simp
    · simp only [List.length_cons, ← ih (c == '\\')]
      omega

/-- The first character goes into the token, so that the rest is shorter. -/
theorem length_leftover_bare {c : Char} (hc : isSpace c = false) (cs : List Char) (u : Bool) :
    (bare (c :: cs) u).leftover.length ≤ cs.length := by
  have h₁ := length_splitSpace (c == '\\') cs
  have h₂ := length_trimStart_le (splitSpace (c == '\\') cs).2
  simp only [bare, splitSpace, hc, Bool.false_and, Bool.false_eq_true, if_false]
  omega

theorem length_leftover_front (acceptQuote : Bool) {c : Char} (hc : isSpace c = false)
    (cs : List Char) : (front acceptQuote (c :: cs)).leftover.length ≤ cs.length := by
  unfold front
  split
  · rename_i body heq
    obtain ⟨rfl, rfl⟩ := List.cons.inj heq
    split
    · rename_i inner after h
      have h₁ := length_closeQuote? h
      have h₂ := length_trimStart_le after
      simp only
      omega
    · exact length_leftover_bare hc _ _
  · exact length_leftover_bare hc _ _

theorem trimStart_eq_cons {s cs : List Char} {c : Char} (h : trimStart s = c :: cs) :
    isSpace c = false ∧ cs.length < s.length := by
  have hl := length_trimStart_le s
  have hc := List.head?_dropWhile_not isSpace s
  simp only [trimStart] at h hl
  simp only [h, List.head?_cons, List.length_cons] at hl hc
  exact ⟨by simpa using hc, by omega⟩

theorem length_leftover_split (acceptQuote : Bool) {s : List Char} (h : trimStart s ≠ []) :
    (split acceptQuote s).leftover.length < s.length := by
  unfold split
  match hs : trimStart s with
  | [] => exact absurd hs h
  | c :: cs =>
    have ⟨hc, hlt⟩ := trimStart_eq_cons hs
    exact Nat.lt_of_le_of_lt (length_leftover_front acceptQuote hc cs) hlt

/-- Every token of a text, each with the text from it on. -/
def starts (acceptQuote : Bool) (text : List Char) : List (List Char × Token) :=
  if _h : trimStart text = [] then []
  else
    (trimStart text, split acceptQuote text) :: starts acceptQuote (split acceptQuote text).leftover
termination_by text.length
decreasing_by exact length_leftover_split acceptQuote _h

/-- The tokens of a text, in order. -/
def all (acceptQuote : Bool) (text : List Char) : List Token :=
  (starts acceptQuote text).map Prod.snd

end Token

end ChatCommands
