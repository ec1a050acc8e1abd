import ChatCommands.Proofs.Token.Parts

/-! # Writing tokens

How a text is written that has given tokens: pieces with white space between them. A piece may hold
any text that does not end in a backslash, in quotes or with a backslash in front of what would end
it.
-/

namespace ChatCommands

open Text

namespace Text

/-- A text made of pieces with white space between any two of them, and perhaps around them. -/
inductive Spaced : List (List Char) → List Char → Prop
  | nil {gap : List Char} : isBlank gap = true → Spaced [] gap
  | cons {gap piece rest : List Char} {pieces : List (List Char)} :
      isBlank gap = true → (∀ c ∈ rest.head?, isSpace c = true) → Spaced pieces rest →
      Spaced (piece :: pieces) (gap ++ (piece ++ rest))

theorem isSpace_of_head?_cons (d : Char) (s : List Char) (hd : isSpace d = true) :
    ∀ c ∈ (d :: s).head?, isSpace c = true := by
  rintro c ⟨⟩
  exact hd

/-- A piece that does not start with white space. -/
structure Visible (piece : List Char) : Prop where
  ne_nil : piece ≠ []
  head : ∀ c ∈ piece.head?, isSpace c = false

/-- A piece that trimming leaves alone. -/
structure Solid (piece : List Char) : Prop extends Visible piece where
  last : ∀ c ∈ piece.getLast?, isSpace c = false

section Pieces

variable {piece : List Char}

theorem Visible.trimStart_append (h : Visible piece) (rest : List Char) :
    trimStart (piece ++ rest) = piece ++ rest :=
  trimStart_of_head fun c hc => h.head c (by rwa [head?_append_of_ne_nil h.ne_nil] at hc)

theorem Visible.isBlank_append (h : Visible piece) (rest : List Char) :
    isBlank (piece ++ rest) = false := by
  refine Bool.eq_false_iff.mpr fun hblank => h.ne_nil ?_
  rw [isBlank_iff, h.trimStart_append] at hblank
  exact (List.append_eq_nil_iff.mp hblank).1

theorem Solid.trimEnd_append (h : Solid piece) (rest : List Char) :
    trimEnd (piece ++ rest) = piece ++ trimEnd rest := by
  cases hrest : isBlank rest with
  | true =>
    rw [trimEnd_append_of_blank hrest, trimEnd_of_getLast h.last, trimEnd_of_blank hrest,
      List.append_nil]
  | false => exact Text.trimEnd_append hrest

end Pieces

namespace Spaced

variable {pieces : List (List Char)} {piece s g : List Char}

theorem prepend (hg : isBlank g = true) (h : Spaced pieces s) : Spaced pieces (g ++ s) := by
  cases h with
  | nil hs => exact nil (by rw [isBlank_append, hg, hs, Bool.and_self])
  | cons hgap hrest h =>
    rw [← List.append_assoc]
    exact cons (by rw [isBlank_append, hg, hgap, Bool.and_self]) hrest h

theorem exists_rest (h : Spaced (piece :: pieces) s) (hp : Visible piece) :
    ∃ rest, isBlank s = false ∧ trimStart s = piece ++ rest ∧
      (∀ c ∈ rest.head?, isSpace c = true) ∧ Spaced pieces rest := by
  cases h with
  | @cons gap _ rest _ hgap hrest h =>
    refine ⟨rest, ?_, ?_, hrest, h⟩
    · rw [isBlank_append, hp.isBlank_append, Bool.and_false]
    · rw [trimStart_append_of_blank hgap, hp.trimStart_append]

theorem trimStart (h : Spaced pieces s) (hp : ∀ piece ∈ pieces, Visible piece) :
    Spaced pieces (trimStart s) := by
  cases h with
  | nil hs =>
    rw [isBlank_iff.mp hs]
    exact nil rfl
  | cons hgap hrest h =>
    rw [trimStart_append_of_blank hgap, (hp _ List.mem_cons_self).trimStart_append,
      ← List.nil_append (_ ++ _)]
    exact cons rfl hrest h

theorem trimEnd (h : Spaced pieces s) (hp : ∀ piece ∈ pieces, Solid piece) :
    Spaced pieces (trimEnd s) := by
  induction h with
  | @nil gap hgap =>
    rw [trimEnd_of_blank hgap]
    exact nil rfl
  | @cons gap piece rest pieces hgap hrest h ih =>
    have hpiece := hp piece List.mem_cons_self
    rw [Text.trimEnd_append (hpiece.isBlank_append rest), hpiece.trimEnd_append]
    refine cons hgap (fun c hc => hrest c ?_) (ih fun p hm => hp p (List.mem_cons_of_mem _ hm))
    obtain ⟨g, -, hg⟩ := exists_blank_trimEnd rest
    rw [hg, List.head?_append, hc]
    rfl

theorem trim (h : Spaced pieces s) (hp : ∀ piece ∈ pieces, Solid piece) :
    Spaced pieces (trim s) :=
  (h.trimStart fun piece hm => (hp piece hm).toVisible).trimEnd hp

/-- Pieces without white space are the words of the text. -/
theorem words_eq (h : Spaced pieces s) (hp : ∀ piece ∈ pieces, IsWord piece) :
    words s = pieces := by
  induction h with
  | nil hgap => exact words_eq_nil_iff.mpr (isBlank_iff.mp hgap)
  | cons hgap hrest _ ih =>
    rw [← words_trimStart, trimStart_append_of_blank hgap, words_trimStart,
      words_append (hp _ List.mem_cons_self) hrest, ih fun p hm => hp p (List.mem_cons_of_mem _ hm)]

end Spaced

end Text

namespace Token

/-- A backslash in front of each quote. -/
def escapeQuotes : List Char → List Char
  | [] => []
  | c :: cs => if c = '"' then '\\' :: '"' :: escapeQuotes cs else c :: escapeQuotes cs

/-- A text between quotes, with a backslash in front of each quote in it. -/
def quote (s : List Char) : List Char :=
  '"' :: (escapeQuotes s ++ ['"'])

section Quote

variable {s : List Char} {e : Bool}

theorem closeQuote?_escapeQuotes (h : leavesEscaped e s = false) (rest : List Char) :
    closeQuote? e (escapeQuotes s ++ '"' :: rest) = some (escapeQuotes s, rest) := by
  induction s generalizing e with
  | nil =>
    have he : e = false := h
    simp [escapeQuotes, closeQuote?, he]
  | cons c s ih =>
    have ih := ih h
    by_cases hc : c = '"'
    · subst hc
      simpa [escapeQuotes, closeQuote?] using ih
    · simp [escapeQuotes, closeQuote?, hc, ih]

theorem unescapeQuotes_cons {c : Char} (h : s.head? ≠ some '"') :
    unescapeQuotes (c :: s) = c :: unescapeQuotes s := by
  rw [unescapeQuotes]
  rintro cs - rfl
  exact h rfl

theorem head?_escapeQuotes (s : List Char) : (escapeQuotes s).head? ≠ some '"' := by
  cases s with
  | nil => simp [escapeQuotes]
  | cons c s =>
    rw [escapeQuotes]
    split
    · simp
    · rename_i hc
      simpa using hc

theorem unescapeQuotes_escapeQuotes (s : List Char) : unescapeQuotes (escapeQuotes s) = s := by
  induction s with
  | nil => rfl
  | cons c s ih =>
    rw [escapeQuotes]
    split
    · rename_i hc
      rw [unescapeQuotes, ih, hc]
    · rw [unescapeQuotes_cons (head?_escapeQuotes s), ih]

theorem solid_quote (s : List Char) : Solid (quote s) where
  ne_nil := by simp [quote]
  head c hc := by
    obtain rfl : '"' = c := by simpa [quote] using hc
    decide
  last c hc := by
    obtain rfl : '"' = c := by simpa [quote, List.getLast?_cons] using hc
    decide

end Quote

/-- A backslash in front of each quote and each white space character. -/
def escape : List Char → List Char
  | [] => []
  | c :: cs =>
    if c == '"' || isSpace c then '\\' :: c :: escape cs else c :: escape cs

section Escape

variable {s : List Char}

theorem escape_of_plain (h : ∀ c ∈ s, isSpace c = false ∧ c ≠ '"') : escape s = s := by
  induction s with
  | nil => rfl
  | cons c s ih =>
    obtain ⟨hspace, hquote⟩ := h c List.mem_cons_self
    have hs := ih fun d hd => h d (List.mem_cons_of_mem c hd)
    simp [escape, hspace, hquote, hs]

/-- What is escaped starts neither with a quote nor with white space. -/
theorem not_special_head?_escape (s : List Char) :
    ∀ c ∈ (escape s).head?, (c == '"' || isSpace c) = false := by
  cases s with
  | nil => rintro c ⟨⟩
  | cons d s =>
    rw [escape]
    split
    · rintro c ⟨⟩
      decide
    · rename_i hd
      rintro c ⟨⟩
      exact Bool.eq_false_iff.mpr hd

theorem unescape_escape (s : List Char) : unescape (escape s) = s := by
  induction s with
  | nil => rfl
  | cons c s ih =>
    have hhead : ((escape s).head?.any fun next => next == '"' || isSpace next) = false := by
      rw [Option.any_eq_false]
      exact not_special_head?_escape s
    rw [escape]
    split
    · rename_i hc
      have hplain : (c == '\\') = false := by
        apply beq_eq_false_iff_ne.mpr
        rintro rfl
        exact absurd hc (by decide)
      simp [unescape, hc, hplain, ih]
    · simp [unescape, hhead, ih]

theorem escape_ne_nil (h : s ≠ []) : escape s ≠ [] := by
  intro hnil
  have hs := unescape_escape s
  rw [hnil] at hs
  exact h hs.symm

/-- No white space in it ends a token. -/
theorem splitSpace_escape (e : Bool) (s : List Char) : (splitSpace e (escape s)).2 = [] := by
  induction s generalizing e with
  | nil => rfl
  | cons c s ih =>
    have hbackslash : isSpace '\\' = false := by decide
    rw [escape]
    split
    · simp [splitSpace, hbackslash, ih]
    · rename_i hc
      have hspace : isSpace c = false := (Bool.or_eq_false_iff.mp (Bool.eq_false_iff.mpr hc)).2
      simp [splitSpace, hspace, ih]

theorem leavesEscaped_escape (e : Bool) (s : List Char) :
    leavesEscaped e (escape s) = leavesEscaped e s := by
  induction s generalizing e with
  | nil => rfl
  | cons c s ih =>
    rw [escape]
    split
    · exact ih _
    · exact ih _

end Escape

/-- A piece of text that is read as a token wherever white space or nothing follows it. -/
structure Spells (piece : List Char) (t : Token) : Prop extends Visible piece where
  front : ∀ rest : List Char, (∀ c ∈ rest.head?, isSpace c = true) →
    Token.front true (piece ++ rest) = { t with leftover := trimStart rest }

theorem spells_quote {s : List Char} (h : s.getLast? ≠ some '\\') :
    Spells (quote s) ⟨s, [], true, false⟩ where
  toVisible := (solid_quote s).toVisible
  front rest _ := by
    have he := leavesEscaped_eq_false_iff.mpr h
    rw [quote, List.cons_append, List.append_assoc, List.singleton_append,
      front_quoted (closeQuote?_escapeQuotes he rest), unescapeQuotes_escapeQuotes]

theorem spells_escape {s : List Char} (hne : s ≠ []) (h : s.getLast? ≠ some '\\') :
    Spells (escape s) ⟨s, [], false, false⟩ where
  ne_nil := escape_ne_nil hne
  head c hc := (Bool.or_eq_false_iff.mp (not_special_head?_escape s c hc)).2
  front rest hrest := by
    have he : leavesEscaped false (escape s) = false := by
      rw [leavesEscaped_escape]
      exact leavesEscaped_eq_false_iff.mpr h
    have hquote : (escape s ++ rest).head? ≠ some '"' := by
      rw [head?_append_of_ne_nil (escape_ne_nil hne)]
      intro hq
      exact absurd (not_special_head?_escape s '"' hq) (by decide)
    rw [front_bare hquote, bare_append_of_space hrest he, bare_of_nil (splitSpace_escape false s),
      unescape_escape]
    rfl

/-- Characters that mean nothing to the splitting of tokens spell themselves. -/
theorem spells_plain {s : List Char} (hne : s ≠ [])
    (hs : ∀ c ∈ s, isSpace c = false ∧ c ≠ '\\' ∧ c ≠ '"') :
    Spells s ⟨s, [], false, false⟩ := by
  have hlast : s.getLast? ≠ some '\\' := fun hl => (hs _ (List.mem_of_getLast? hl)).2.1 rfl
  have hspells := spells_escape hne hlast
  rwa [escape_of_plain fun c hc => ⟨(hs c hc).1, (hs c hc).2.2⟩] at hspells

section Spelling

variable {s : List Char} {words : List (List Char × Token)} {piece : List Char} {t : Token}
  {pieces : List (List Char)}

/-- The first token of a text is that of its first piece, and the other pieces are left. -/
theorem Spells.split (ht : Spells piece t) (h : Spaced (piece :: pieces) s) :
    ∃ rest, isBlank s = false ∧ Text.trimStart s = piece ++ rest ∧
      (∀ c ∈ rest.head?, isSpace c = true) ∧ Spaced pieces rest ∧
      Token.split true s = { t with leftover := trimStart rest } := by
  obtain ⟨rest, hblank, htrim, hspace, hrest⟩ := h.exists_rest ht.toVisible
  refine ⟨rest, hblank, htrim, hspace, hrest, ?_⟩
  rw [Token.split, htrim, ht.front rest hspace]

theorem lexemes_of_spaced (h : Spaced (words.map Prod.fst) s)
    (hw : ∀ w ∈ words, Spells w.1 w.2) : lexemes s = words.map fun w => w.2.alone := by
  induction words generalizing s with
  | nil =>
    cases h with
    | nil hs => exact lexemes_of_blank hs
  | cons w words ih =>
    obtain ⟨rest, hblank, -, -, hrest, hsplit⟩ := (hw w List.mem_cons_self).split h
    have ih := ih hrest fun v hv => hw v (List.mem_cons_of_mem w hv)
    rw [lexemes, all_of_not_blank hblank, hsplit, List.map_cons, List.map_cons, ← ih,
      ← lexemes_trimStart, lexemes]
    rfl

/-- In front of the first token of a kind stands what is written before that token. -/
theorem exists_find?_of_spaced {p : Token → Bool} {w : List Char × Token}
    {others : List (List Char × Token)} (hp : ∀ t x, p { t with leftover := x } = p t)
    (h : Spaced ((words ++ w :: others).map Prod.fst) s)
    (hw : ∀ v ∈ words ++ w :: others, Spells v.1 v.2)
    (hwords : ∀ v ∈ words, p v.2 = false) (hpw : p w.2 = true) :
    ∃ front tail, s = front ++ tail ∧ Spaced (words.map Prod.fst) front ∧
      Spaced ((w :: others).map Prod.fst) tail ∧
      ((starts true s).find? fun start => p start.2).map Prod.fst = some tail := by
  induction words generalizing s with
  | nil =>
    obtain ⟨g, hg, hs⟩ := exists_blank_trimStart s
    have hvisible : ∀ piece ∈ (w :: others).map Prod.fst, Visible piece := by
      intro piece hm
      obtain ⟨v, hv, rfl⟩ := List.mem_map.mp hm
      exact (hw v hv).toVisible
    obtain ⟨rest, hblank, -, -, -, hsplit⟩ := (hw w List.mem_cons_self).split h
    refine ⟨g, Text.trimStart s, hs, .nil hg, h.trimStart hvisible, ?_⟩
    have hfirst : p (Token.split true s) = true := by
      rw [hsplit, hp]
      exact hpw
    rw [starts_of_not_blank hblank, List.find?_cons_of_pos]
    · rfl
    · exact hfirst
  | cons v words ih =>
    obtain ⟨g, hg, hs⟩ := exists_blank_trimStart s
    obtain ⟨rest, hblank, htrim, hspace, hrest, hsplit⟩ := (hw v List.mem_cons_self).split h
    obtain ⟨front, tail, rfl, hfront, htail, hfind⟩ := ih hrest
      (fun u hu => hw u (List.mem_cons_of_mem v hu))
      fun u hu => hwords u (List.mem_cons_of_mem v hu)
    refine ⟨g ++ (v.1 ++ front), tail, ?_, .cons hg (fun c hc => hspace c ?_) hfront, htail, ?_⟩
    · rw [hs, htrim, List.append_assoc, List.append_assoc]
    · rw [List.head?_append, hc]
      rfl
    · have hv : p (Token.split true s) = false := by
        rw [hsplit, hp]
        exact hwords v List.mem_cons_self
      have hleft : (Token.split true s).leftover = Text.trimStart (front ++ tail) := by
        rw [hsplit]
      rw [starts_of_not_blank hblank, hleft, starts_trimStart, List.find?_cons_of_neg]
      · exact hfind
      · exact Bool.eq_false_iff.mp hv

end Spelling

end Token

end ChatCommands
