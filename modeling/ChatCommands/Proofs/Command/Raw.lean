import Mathlib
import ChatCommands.Proofs.Parameter.Filling
import ChatCommands.Proofs.Token.Again

/-! # Raw texts of arguments

Beside its value, an argument has the text that it was read from, trimmed. With the white space that
was trimmed off its end, this text always gives the value again. Without it, it does unless a
backslash kept that white space, which then was a part of the value.
-/

namespace ChatCommands

open Text

variable {H : Type}

namespace Parameter

variable {p : Parameter} {bounds : Bounds} {ctx : Context} {conversions : Conversions}
  {env : Environment} {text before after piece s g : List Char} {value : Value}

section Blank

theorem next_eq_split (hrest : p.rest = false) (text : List Char) :
    p.next text = Token.split p.acceptQuote text := by
  simp [next, hrest]

/-- A parameter that takes the rest of a text trims it. -/
theorem bind_append_blank_of_rest (hrest : p.rest = true) (hg : isBlank g = true) :
    p.bind ctx conversions (s ++ g) = p.bind ctx conversions s := by
  refine bind_congr (by rw [isBlank_append, hg, Bool.and_true]) ?_
  rw [next, next, if_pos hrest, if_pos hrest, trim_append_of_blank hg]

theorem next_append_blank (hrest : p.rest = false) (hs : isBlank s = false)
    (hg : isBlank g = true) (hend : Token.leavesEscaped false s = false) :
    p.next (s ++ g) = (p.next s).before g := by
  have hspace : ∀ c ∈ g.head?, isSpace c = true := fun c hc =>
    List.all_eq_true.mp hg c (List.mem_of_mem_head? hc)
  rw [next_eq_split hrest, next_eq_split hrest, Token.split_of_not_blank_append hs]
  exact Token.front_append_of_space hspace
    (Token.leavesEscaped_suffix (trimStart_suffix s) hend)
    (fun _ => Token.closeQuote?_of_blank hg) (isBlank_eq_false_iff.mp hs)

theorem takes_map_alone {tokens : List Token} {values : List Value} :
    p.Takes bounds ctx conversions (tokens.map Token.alone) values ↔
      p.Takes bounds ctx conversions tokens values := by
  constructor
  · rintro ⟨hmin, hmax, hclosed, hconverted, hlast⟩
    rw [← List.map_dropLast] at hlast
    exact ⟨by simpa using hmin, by simpa using hmax, List.forall_mem_map.mp hclosed,
      List.forall₂_map_left_iff.mp hconverted, List.forall_mem_map.mp hlast⟩
  · rintro ⟨hmin, hmax, hclosed, hconverted, hlast⟩
    refine ⟨by simpa using hmin, by simpa using hmax, List.forall_mem_map.mpr hclosed,
      List.forall₂_map_left_iff.mpr hconverted, ?_⟩
    rw [← List.map_dropLast]
    exact List.forall_mem_map.mpr hlast

/-- White space behind a text changes nothing, unless a backslash keeps it. -/
theorem Gives.of_append_blank (hg : isBlank g = true)
    (hend : p.rest = true ∨ s.getLast? ≠ some '\\') (h : p.Gives env (s ++ g) value []) :
    p.Gives env s value [] := by
  cases hrest : p.rest with
  | true => exact (gives_congr (bind_append_blank_of_rest hrest hg)).mp h
  | false =>
    have hend : Token.leavesEscaped false s = false :=
      Token.leavesEscaped_eq_false_iff.mpr (hend.resolve_left (by simp [hrest]))
    cases hs : isBlank s with
    | true =>
      refine (gives_congr ?_).mp h
      rw [bind_of_blank hs, bind_of_blank (by rw [isBlank_append, hs, hg, Bool.and_self])]
    | false =>
      cases hendless : p.endless? with
      | none =>
        rw [gives_iff_of_single hendless (by rw [isBlank_append, hs, Bool.false_and]),
          next_append_blank hrest hs hg hend] at h
        obtain ⟨hleft, hvalue⟩ := h
        refine (gives_iff_of_single hendless hs).mpr ⟨?_, hvalue⟩
        have hblank : isBlank ((p.next s).leftover ++ g) = true := isBlank_iff.mpr hleft
        rw [isBlank_append, Bool.and_eq_true, isBlank_iff, next_eq_split hrest, Token.split,
          Token.trimStart_leftover_front] at hblank
        rw [next_eq_split hrest]
        exact hblank.1
      | some bounds =>
        rw [gives_iff_of_endless hendless hrest] at h ⊢
        obtain ⟨values, hvalues, htakes⟩ := h
        rw [← takes_map_alone, Token.all_append_blank hg hend, takes_map_alone] at htakes
        exact ⟨values, hvalues, htakes⟩

end Blank

section Taken

/-- Only a parameter that takes a single token leaves some of a text. -/
theorem next_of_leftover (h : (p.bind ctx conversions text).leftover? = some after)
    (hne : after ≠ []) : p.endless? = none ∧ p.rest = false ∧ isBlank text = false ∧
      (p.next text).leftover = after := by
  cases hendless : p.endless? with
  | some bounds => exact absurd (leftover_of_endless hendless h) hne
  | none =>
    cases hblank : isBlank text with
    | true =>
      exact absurd (leftover_of_blank hblank h) hne
    | false =>
      rw [bind_of_single hendless hblank] at h
      have hleft := Binding.leftover?_ofConverted h
      cases hrest : p.rest with
      | true =>
        rw [next, if_pos hrest] at hleft
        exact absurd hleft hne
      | false => exact ⟨rfl, rfl, rfl, hleft.symm⟩

/-- What is left is the end of the text. -/
theorem leftover_suffix (h : (p.bind ctx conversions text).leftover? = some after) :
    after <:+ trimStart text := by
  by_cases hne : after = []
  · rw [hne]
    exact List.nil_suffix
  · obtain ⟨-, hrest, -, rfl⟩ := next_of_leftover h hne
    rw [next_eq_split hrest]
    exact Token.leftover_front_suffix _ _

/-- The token is read again from what was taken off the text. -/
theorem next_of_taken (hrest : p.rest = false) (hblank : isBlank before = false)
    (hafter : (p.next before).leftover = after) (hpiece : trimStart before = piece ++ after) :
    isBlank piece = false ∧ p.next piece = (p.next before).alone := by
  have hstart : trimStart (piece ++ after) = piece ++ after := by
    rw [← hpiece, trimStart_trimStart]
  have hne : piece ≠ [] := by
    have hshorter := p.length_leftover_next (s := piece ++ after) <| by
      rw [hstart, ← hpiece]
      exact isBlank_eq_false_iff.mp hblank
    rw [← hpiece, next_trimStart, hafter, hpiece] at hshorter
    rintro rfl
    simp at hshorter
  have hhead : trimStart piece = piece := trimStart_of_head fun c hc => by
    rw [← head?_append_of_ne_nil hne after, ← hpiece] at hc
    exact head?_trimStart hc
  have hnext : p.next before = Token.front p.acceptQuote (piece ++ after) := by
    rw [next_eq_split hrest, Token.split, hpiece]
  refine ⟨isBlank_eq_false_iff.mpr (hhead.symm ▸ hne), ?_⟩
  rw [next_eq_split hrest, Token.split, hhead, hnext]
  exact Token.front_of_leftover hne (hnext ▸ hafter)

/-- All that was taken off a text gives the same value again. -/
theorem Gives.of_taken (h : p.Gives env before value after)
    (hpiece : trimStart before = piece ++ after) : p.Gives env piece value [] := by
  by_cases hne : after = []
  · subst hne
    rw [List.append_nil] at hpiece
    rwa [← hpiece, gives_congr (bind_trimStart p env.context env.conversions before)]
  · obtain ⟨hendless, hrest, hblank, hafter⟩ := next_of_leftover h.leftover?_eq hne
    obtain ⟨hpiece, hnext⟩ := next_of_taken hrest hblank hafter hpiece
    rw [gives_iff_of_single hendless hblank] at h
    rw [gives_iff_of_single hendless hpiece, hnext]
    exact ⟨rfl, h.2⟩

/-- What a text is read from: the raw text of the argument and the white space behind it. -/
theorem Gives.exists_gap (h : p.Gives env before value after) : ∃ gap, isBlank gap = true ∧
    trimStart before = (taken before after).toList ++ gap ++ after := by
  obtain ⟨piece, hpiece⟩ := leftover_suffix h.leftover?_eq
  obtain ⟨gap, hgap, heq⟩ := exists_blank_trimEnd piece
  refine ⟨gap, hgap, ?_⟩
  rw [taken_eq_trimEnd hpiece.symm, String.toList_ofList, ← heq, hpiece]

/-- How an argument that was read off the front of `before` follows from its raw text and the white
space `gap` behind that. -/
structure ReadsBack (p : Parameter) (env : Environment) (argument : Argument)
    (before gap after : List Char) : Prop where
  blank : isBlank gap = true
  text_eq : trimStart before = argument.raw.toList ++ gap ++ after
  with_gap : p.Gives env (argument.raw.toList ++ gap) argument.value []
  /-- The raw text alone will do, unless a backslash at its end kept the white space. -/
  alone : p.rest = true ∨ gap = [] ∨ argument.raw.toList.getLast? ≠ some '\\' →
    p.Gives env argument.raw.toList argument.value []
  tokens_iff : (Token.all p.acceptQuote (argument.raw.toList ++ gap)).map Token.value =
      (Token.all p.acceptQuote argument.raw.toList).map Token.value ↔
    gap = [] ∨ argument.raw.toList.getLast? ≠ some '\\'

theorem Fills.exists_readsBack {t u : Cursor} {f : Filling} (h : Fills env t f u)
    (hf : f.source = .text before after) :
    ∃ gap, f.parameter.ReadsBack env f.argument before gap after := by
  obtain ⟨hraw, hgives⟩ := h.of_text hf
  obtain ⟨gap, hgap, hbefore⟩ := hgives.exists_gap
  rw [← hraw] at hbefore
  have hagain := hgives.of_taken hbefore
  refine ⟨gap, hgap, hbefore, hagain, fun hend => ?_, Token.all_append_blank_iff hgap⟩
  rcases or_left_comm.mp hend with rfl | hend
  · rwa [List.append_nil] at hagain
  · exact hagain.of_append_blank hgap hend

end Taken

end Parameter

namespace Command

variable {c : Command H} {trigger : String} {text : List Char} {env : Environment} {fit : Fit H}

/-- An argument that was read has the text that it was read from, without white space around it.
Together with the white space that was behind it, this text gives the value of the argument again.
It does so alone unless a backslash at its end kept that white space: just then its tokens are not
those that were read. -/
theorem raw_texts_give_values (h : c.fit? trigger text env = some fit) :
    ∃ filled s, Parameter.FillsAll env ⟨false, (c.sections text).1⟩ filled s ∧
      filled.map Filling.parameter = c.parameters ∧ filled.map Filling.argument = fit.arguments ∧
      ∀ f ∈ filled, ∀ before after, f.source = .text before after →
        ∃ gap, f.parameter.ReadsBack env f.argument before gap after := by
  obtain ⟨-, arguments, left, switches, overflow, hargs, -, -, rfl⟩ := fit?_eq_some_iff.mp h
  obtain ⟨filled, ends, hrun, hps, rfl⟩ := Parameter.arguments?_eq_some_iff.mp hargs
  refine ⟨filled, _, hrun, hps, rfl, fun f hf before after hsource => ?_⟩
  obtain ⟨s, t, hfills⟩ := hrun.exists_fills hf
  exact hfills.exists_readsBack hsource

/-- Takes a word, and any words behind it. -/
def greet : Command Unit where
  trigger := "greet"
  parameters := [{ name := "to", kind := .word },
    { name := "words", kind := .word, endless? := some ⟨0, 0⟩ }]
  handler? := some ()
  id := [0]
  path := "greet"
  usage := "greet <to> [words...]"
  category? := none
  subcommands := .ofList []

def host : Environment :=
  ⟨{}, .standard, false⟩

theorem raw_texts_give_values_greet : ∃ fit,
    greet.fit? "greet" " \"ann lee\"  dear\\ sister ".toList host = some fit ∧
    fit.arguments.map Argument.raw = ["\"ann lee\"", "dear\\ sister"] ∧
    ∃ filled s, Parameter.FillsAll host
        ⟨false, (greet.sections " \"ann lee\"  dear\\ sister ".toList).1⟩ filled s ∧
      filled.map Filling.parameter = greet.parameters ∧
      filled.map Filling.argument = fit.arguments ∧
      ∀ f ∈ filled, ∀ before after, f.source = .text before after →
        ∃ gap, f.parameter.ReadsBack host f.argument before gap after := by
  have hraw : (greet.fit? "greet" " \"ann lee\"  dear\\ sister ".toList host).map
      (fun fit => fit.arguments.map Argument.raw) = some ["\"ann lee\"", "dear\\ sister"] := by cbv
  obtain ⟨fit, hfit, hraw⟩ := Option.map_eq_some_iff.mp hraw
  exact ⟨fit, hfit, hraw, raw_texts_give_values hfit⟩

def callee : Parameter :=
  { name := "to", kind := .word }

/-- Takes one word. -/
def call : Command Unit where
  trigger := "call"
  parameters := [callee]
  handler? := some ()
  id := [0]
  path := "call"
  usage := "call <to>"
  category? := none
  subcommands := .ofList []

/-- Of the word in `a\ `, which ends in white space, the raw text has the backslash only. -/
theorem raw_text_may_give_another_value : ¬ ∀ (c : Command Unit) (trigger : String)
    (text : List Char) (env : Environment) (fit : Fit Unit) (filled : List Filling) (s : Cursor),
    c.fit? trigger text env = some fit →
    Parameter.FillsAll env ⟨false, (c.sections text).1⟩ filled s →
    filled.map Filling.parameter = c.parameters → filled.map Filling.argument = fit.arguments →
    ∀ f ∈ filled, f.source ≠ .default →
      f.parameter.Gives env f.argument.raw.toList f.argument.value [] := by
  intro hall
  have harguments : (call.fit? "call" "a\\ ".toList host).map (·.arguments) =
      some [⟨.text "a ", "a\\"⟩] := by cbv
  obtain ⟨fit, hfit, harguments⟩ := Option.map_eq_some_iff.mp harguments
  have hbind : callee.bind host.context host.conversions "a\\ ".toList = .bound (.text "a ") [] := by
    cbv
  have hagain : callee.bind host.context host.conversions "a\\".toList = .bound (.text "a\\") [] := by
    cbv
  have hraw : (Parameter.taken "a\\ ".toList []).toList = "a\\".toList := by cbv
  have hgives : callee.Gives host (Parameter.taken "a\\ ".toList []).toList (.text "a ") [] :=
    hall call "call" "a\\ ".toList host fit _ _ hfit (.cons (.bound (.inl rfl) hbind) .nil) rfl
      harguments.symm _ (List.mem_singleton_self _) Source.noConfusion
  rw [Parameter.Gives, hraw, hagain] at hgives
  simp at hgives

end Command

end ChatCommands
