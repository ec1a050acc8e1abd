import ChatCommands.Proofs.Command.Fit
import ChatCommands.Proofs.Switch.Reading

/-! # What parameters leave

Parameters that take whole tokens leave a text that starts with one. It is read once more together
with the switches behind it, trimmed and with a space between the two. That text has the tokens of
both, unless a backslash draws the white space at their ends into a token.
-/

namespace ChatCommands

open Text

namespace Token

variable {s l x : List Char}

/-- The texts that are left of `s` when tokens are taken off its front. -/
inductive Leaves (s : List Char) : List Char → Prop
  | whole : Leaves s s
  | nothing : Leaves s []
  | next {l : List Char} (h : Leaves s l) : Leaves s (split true l).leftover

namespace Leaves

theorem suffix (h : Leaves s l) : l <:+ s := by
  induction h with
  | whole => exact List.suffix_refl s
  | nothing => exact List.nil_suffix
  | next _ ih => exact (leftover_split_suffix true _).trans ih

theorem mem_all (h : Leaves s l) {t : Token} (ht : t ∈ all true l) : t ∈ all true s := by
  induction h with
  | whole => exact ht
  | nothing =>
    rw [all, starts_of_blank rfl] at ht
    cases ht
  | @next l _ ih =>
    cases hl : isBlank l with
    | true =>
      rw [leftover_split_of_blank hl, all, starts_of_blank rfl] at ht
      cases ht
    | false =>
      refine ih ?_
      rw [all_of_not_blank hl]
      exact List.mem_cons_of_mem _ ht

theorem parts (h : Leaves s l) (hs : Parts s x) : Parts l x := by
  induction h with
  | whole => exact hs
  | nothing => exact Parts.of_blank rfl
  | @next l _ ih =>
    cases hl : isBlank l with
    | true =>
      rw [leftover_split_of_blank hl]
      exact Parts.of_blank rfl
    | false => exact ih.leftover hl

end Leaves

/-- Where quotes do not count, tokens are the same in a text without quotes. -/
theorem split_of_not_mem (h : '"' ∉ s) (q : Bool) : split q s = split true s := by
  have hhead : (trimStart s).head? ≠ some '"' := fun hs =>
    h ((trimStart_suffix s).mem (List.mem_of_mem_head? hs))
  rw [split, split, front_bare hhead, front_bare hhead]

theorem lexemes_trim (h : (trimEnd s).getLast? ≠ some '\\') :
    lexemes (trim s) = lexemes s ∧ leavesEscaped false (trim s) = false := by
  obtain ⟨gap, -, hgap⟩ := exists_blank_trim s
  have hescaped : leavesEscaped false (trim s) = false :=
    leavesEscaped_suffix ⟨gap, hgap.symm⟩ (leavesEscaped_eq_false_iff.mpr h)
  refine ⟨?_, hescaped⟩
  rw [trim, lexemes_trimEnd (.inl hescaped), lexemes_trimStart]

theorem unterminated_lexemes : (∃ t ∈ lexemes s, t.unterminated = true) ↔
    ∃ t ∈ all true s, t.unterminated = true := by
  constructor
  · rintro ⟨u, hu, hopen⟩
    obtain ⟨t, ht, rfl⟩ := List.mem_map.mp hu
    exact ⟨t, ht, hopen⟩
  · rintro ⟨t, ht, hopen⟩
    exact ⟨t.alone, List.mem_map_of_mem ht, hopen⟩

/-- A text and the switches behind it, if there are any. The first token of a switch starts with a
hyphen. -/
structure Followed (s x : List Char) : Prop where
  parts : Parts s x
  hyphen : ∀ c ∈ x.head?, c = '-'

namespace Followed

theorem trim_eq (h : Followed s x) : trim x = trimEnd x := by
  have hstart : trimStart x = x := trimStart_of_head fun c hc => by
    rw [h.hyphen c hc]
    decide
  rw [trim, hstart]

theorem exists_trim_eq_cons (h : Followed s x) (hx : x ≠ []) : ∃ tail, trim x = '-' :: tail := by
  rw [h.trim_eq]
  obtain ⟨g, hg, heq⟩ := exists_blank_trimEnd x
  obtain ⟨c, y, hy⟩ := List.exists_cons_of_ne_nil hx
  have hc : c = '-' := h.hyphen c (by rw [hy]; rfl)
  cases hend : trimEnd x with
  | nil =>
    rw [hend, List.nil_append, hy, hc] at heq
    rw [← heq] at hg
    cases hg
  | cons d tail =>
    rw [hend, hy, List.cons_append] at heq
    exact ⟨tail, by rw [← (List.cons.inj heq).1, hc]⟩

/-- Trimming and putting a space in front closes no quote that the text leaves open. -/
theorem closeQuote?_eq_none (h : Followed s x)
    (hopen : ∃ t ∈ all true s, t.unterminated = true) :
    closeQuote? false (' ' :: trim x) = none := by
  have hquote : x.head? ≠ some '"' := fun hq => absurd (h.hyphen '"' hq) (by decide)
  have hnone := h.parts.closeQuote?_eq_none hquote hopen
  obtain ⟨g, -, hx⟩ := exists_blank_trimEnd x
  rw [hx] at hnone
  rw [h.trim_eq, ← List.singleton_append]
  exact closeQuote?_append_eq_none_iff.mpr
    ⟨by decide, (closeQuote?_append_eq_none_iff.mp hnone).1⟩

/-- Trimmed and joined by a space, a text and the switches keep their tokens, unless the last of
them ends in white space. -/
theorem lexemes_rejoin (h : Followed s x) (hs : (trimEnd s).getLast? ≠ some '\\') :
    lexemes (trim s ++ ' ' :: trim x) = lexemes s ++ lexemes (trimEnd x) := by
  obtain ⟨htrim, hescaped⟩ := lexemes_trim hs
  have hopen : (∃ t ∈ all true (trim s), t.unterminated = true) →
      closeQuote? false (' ' :: trim x) = none := fun hopen =>
    h.closeQuote?_eq_none (unterminated_lexemes.mp (htrim ▸ unterminated_lexemes.mpr hopen))
  rw [(Parts.of_space (by simp [isSpace]) hescaped hopen).lexemes_append, htrim, ← h.trim_eq,
    ← List.singleton_append, lexemes_append_of_blank (by decide)]

/-- White space at the end keeps no quote open and closes none. -/
theorem unterminated_of_trim (h : ∃ t ∈ all true (trim s), t.unterminated = true) :
    ∃ t ∈ all true s, t.unterminated = true := by
  obtain ⟨g, hg, hs⟩ := exists_blank_trimEnd (trimStart s)
  rw [← unterminated_lexemes, ← lexemes_trimStart, hs, unterminated_append_blank hg,
    unterminated_lexemes]
  exact h

/-- Where a backslash draws the space into the last token of the text, the first switch becomes a
part of that token. -/
theorem exists_drawn (h : Followed s x) (hx : x ≠ [])
    (hs : (trimEnd s).getLast? = some '\\') :
    ∃ ts last t us, lexemes (trim s) = ts ++ [last] ∧
      lexemes (trim s ++ ' ' :: trim x) = ts ++ t :: us ∧ ' ' ∈ t.value ∧ '-' ∈ t.value := by
  have hescaped : leavesEscaped false (trim s) = true := by
    obtain ⟨g, hg, hgap⟩ := exists_blank_trim s
    have hend := leavesEscaped_iff.mpr hs
    refine leavesEscaped_of_suffix ⟨g, hgap.symm⟩ (fun hnil => ?_) hend
    rw [hgap, hnil, List.append_nil] at hend
    exact absurd hg (Bool.eq_false_iff.mp (not_blank_of_leavesEscaped hend))
  obtain ⟨tail, htail⟩ := h.exists_trim_eq_cons hx
  obtain ⟨r, w, u, htrails⟩ := exists_trails hescaped
  have hclosed : (∃ t ∈ all true (trim s), t.unterminated = true) →
      closeQuote? true (' ' :: trim x) = none := by
    intro hopen
    rw [closeQuote?_of_head (f := false) (by simp)]
    exact h.closeQuote?_eq_none (unterminated_of_trim hopen)
  have hlast := htrails.lexemes_append (x := []) fun _ => rfl
  rw [List.append_nil, splitSpace, lexemes_of_blank (s := []) rfl] at hlast
  refine ⟨lexemes r, _, _, _, hlast, htrails.lexemes_append hclosed, ?_, ?_⟩
  · refine mem_unescape (List.mem_append_right w ?_) (by decide)
    simp [splitSpace]
  · refine mem_unescape (List.mem_append_right w ?_) (by decide)
    rw [htail]
    simp [splitSpace, isSpace]

end Followed

end Token

def Binding.leftover? : Binding → Option (List Char)
  | rejected => none
  | bound _ leftover => some leftover
  | final _ leftover => some leftover

theorem Binding.leftover?_ofConverted {leftover l : List Char} {converted : Converted}
    (h : (ofConverted leftover converted).leftover? = some l) : l = leftover := by
  cases converted <;> simp_all [ofConverted, leftover?]

namespace Parameter

variable {p : Parameter} {ctx : Context} {conversions : Conversions} {s text l : List Char}

/-- What the parameter takes ends where a token ends that may stand in quotes. -/
def takesTokens (p : Parameter) : Bool :=
  p.acceptQuote || p.rest || p.isEndless

theorem leaves_bindOne (h : Token.Leaves s text)
    (hp : '"' ∉ s ∨ p.acceptQuote = true ∨ p.rest = true)
    (hl : (p.bindOne ctx conversions text).leftover? = some l) : Token.Leaves s l := by
  unfold bindOne at hl
  split at hl
  · split at hl
    · rw [Binding.leftover?_ofConverted hl]
      exact .nothing
    · cases hl
  · rw [Binding.leftover?_ofConverted hl, next]
    split
    · exact .nothing
    · rename_i hrest
      have hsplit : Token.split p.acceptQuote text = Token.split true text := by
        rcases hp with hs | hquote | hr
        · exact Token.split_of_not_mem (fun hmem => hs (h.suffix.mem hmem)) _
        · rw [hquote]
        · exact absurd hr hrest
      rw [hsplit]
      exact h.next

theorem leaves_bind (h : Token.Leaves s text) (hp : '"' ∉ s ∨ p.takesTokens = true)
    (hl : (p.bind ctx conversions text).leftover? = some l) : Token.Leaves s l := by
  unfold bind at hl
  split at hl
  · unfold bindAll at hl
    split at hl
    · split at hl
      · cases hl
      · cases hl
        exact .nothing
    · cases hl
  · rename_i hnone
    refine leaves_bindOne h (hp.imp_right fun hp => ?_) hl
    simpa [takesTokens, isEndless, hnone] using hp

theorem leaves_arguments? {env : Environment} {ended : Bool} {ps : List Parameter}
    {arguments : List Argument} (h : Token.Leaves s text)
    (hps : '"' ∉ s ∨ ∀ p ∈ ps, p.takesTokens = true)
    (hl : arguments? env ended text ps = some (arguments, l)) : Token.Leaves s l := by
  induction ps generalizing ended text arguments with
  | nil =>
    cases hl
    exact h
  | cons p ps ih =>
    have hps' := hps.imp_right fun hps p hp => hps p (List.mem_cons_of_mem _ hp)
    have hp := hps.imp_right fun hps => hps p List.mem_cons_self
    rw [arguments?] at hl
    split at hl
    · obtain ⟨⟨rest, l⟩, hrest, heq⟩ := Option.map_eq_some_iff.mp hl
      cases heq
      exact ih h hps' hrest
    · split at hl
      · cases hl
      · split at hl
        · cases hl
        · rename_i value leftover hbind
          obtain ⟨⟨rest, l⟩, hrest, heq⟩ := Option.map_eq_some_iff.mp hl
          cases heq
          exact ih (leaves_bind h hp (by rw [hbind]; rfl)) hps' hrest
        · rename_i value leftover hbind
          obtain ⟨⟨rest, l⟩, hrest, heq⟩ := Option.map_eq_some_iff.mp hl
          cases heq
          exact ih (leaves_bind h hp (by rw [hbind]; rfl)) hps' hrest

end Parameter

namespace Command

variable {H : Type} {c : Command H} {text : List Char} {env : Environment}

theorem sections_spec (c : Command H) (text : List Char) :
    text = (c.sections text).1 ++ (c.sections text).2 ∧
    Token.Followed (c.sections text).1 (c.sections text).2 ∧
    ∀ t ∈ Token.all true (c.sections text).1, Switch.named c.switches t = false := by
  cases hcut : Switch.cut? c.switches text with
  | none =>
    rw [sections_of_no_cut hcut]
    exact ⟨(List.append_nil text).symm, ⟨Token.Parts.nil text, by simp⟩,
      Switch.cut?_eq_none hcut⟩
  | some cut =>
    rw [sections_of_cut hcut]
    obtain ⟨htext, hparts, hnamed, hhead⟩ := Switch.cut?_eq_some hcut
    exact ⟨htext, ⟨hparts, by simp [hhead]⟩, hnamed⟩

/-- The text in front of the switches that the parameters do not take. -/
def leftover? (c : Command H) (text : List Char) (env : Environment) : Option (List Char) :=
  (Parameter.arguments? env false (c.sections text).1 c.parameters).map Prod.snd

theorem leftover?_eq_some_iff {leftover : List Char} : c.leftover? text env = some leftover ↔
    ∃ arguments, Parameter.arguments? env false (c.sections text).1 c.parameters =
      some (arguments, leftover) := by
  rw [leftover?, Option.map_eq_some_iff]
  constructor
  · rintro ⟨⟨arguments, l⟩, h, rfl⟩
    exact ⟨arguments, h⟩
  · rintro ⟨arguments, h⟩
    exact ⟨_, h, rfl⟩

/-- The parameters take whole tokens off the text. -/
def TakesTokens (c : Command H) (text : List Char) (env : Environment) : Prop :=
  ∀ leftover ∈ c.leftover? text env, Token.Leaves (c.sections text).1 leftover

/-- Only a parameter for which quotes do not count ends amid a token, which then has quotes. -/
theorem takesTokens_of (h : '"' ∉ text ∨ ∀ p ∈ c.parameters, p.takesTokens = true) :
    c.TakesTokens text env := by
  intro leftover hleft
  obtain ⟨⟨arguments, l⟩, hargs, rfl⟩ := Option.map_eq_some_iff.mp hleft
  refine Parameter.leaves_arguments? .whole (h.imp_left fun hquote hmem => hquote ?_) hargs
  rw [(c.sections_spec text).1]
  exact List.mem_append_left _ hmem

theorem followed_leftover {leftover : List Char} (h : c.TakesTokens text env)
    (hleft : c.leftover? text env = some leftover) :
    Token.Followed leftover (c.sections text).2 := by
  obtain ⟨-, hfollowed, -⟩ := c.sections_spec text
  exact ⟨(h leftover hleft).parts hfollowed.parts, hfollowed.hyphen⟩

theorem named_leftover {leftover : List Char} (h : c.TakesTokens text env)
    (hleft : c.leftover? text env = some leftover) :
    ∀ t ∈ Token.all true leftover, Switch.named c.switches t = false := fun t ht =>
  (c.sections_spec text).2.2 t ((h leftover hleft).mem_all ht)

end Command

end ChatCommands
