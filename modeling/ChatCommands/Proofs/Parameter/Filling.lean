import ChatCommands.Proofs.Command.Leftover
import ChatCommands.Proofs.Parameter.Endless

/-! # How arguments come about

Parameters are filled from the left, each from a default or from the front of the text that the
ones before it left. A run of such steps is what binds a text, and it takes one course only.
-/

namespace ChatCommands

open Text

/-- A default, or the text in front of a parameter and what the parameter left of it. -/
inductive Source
  | default
  | text (before after : List Char)
  deriving DecidableEq, Repr

/-- A parameter with its argument and where that came from. -/
structure Filling where
  parameter : Parameter
  argument : Argument
  source : Source

/-- How far the parameters have got. No more is read once a value was final. -/
structure Cursor where
  ended : Bool
  text : List Char

namespace Cursor

/-- Defaults step in where there is nothing to read. -/
def isSpent (s : Cursor) : Bool :=
  s.ended || isBlank s.text

end Cursor

namespace Parameter

section Bind

variable {p : Parameter} {ctx : Context} {conversions : Conversions} {text : List Char}

theorem next_trimStart (p : Parameter) (text : List Char) :
    p.next (trimStart text) = p.next text := by
  rw [next, next, Token.split, Token.split, trim, trim, trimStart_trimStart]

/-- All that counts in a text is the token that the parameter takes off it, if there is one. -/
theorem bind_congr {other : List Char} (hblank : isBlank other = isBlank text)
    (hnext : p.next other = p.next text) :
    p.bind ctx conversions other = p.bind ctx conversions text := by
  have hstart : trimStart other = [] ↔ trimStart text = [] := by
    rw [← isBlank_iff, ← isBlank_iff, hblank]
  have hone : p.bindOne ctx conversions other = p.bindOne ctx conversions text := by
    simp only [bindOne, hstart, hnext]
  have hloop : ∀ max, p.elements ctx conversions max 0 other =
      p.elements ctx conversions max 0 text := by
    intro max
    have hroom : ¬(decide (max > 0) && (0 : Nat) == max) = true := by
      cases max <;> simp
    rw [elements.eq_def, elements.eq_def p ctx conversions max 0 text]
    simp only [hstart, hnext, if_neg hroom]
  rw [bind, bind]
  split
  · rw [bindAll, bindAll, hloop]
  · exact hone

/-- White space in front of a text is of no account. -/
theorem bind_trimStart (p : Parameter) (ctx : Context) (conversions : Conversions)
    (text : List Char) : p.bind ctx conversions (trimStart text) = p.bind ctx conversions text := by
  refine bind_congr ?_ (next_trimStart p text)
  rw [Bool.eq_iff_iff, isBlank_iff, isBlank_iff, trimStart_trimStart]

theorem bind_of_blank (h : isBlank text = true) :
    p.bind ctx conversions text = p.bind ctx conversions [] := by
  rw [← bind_trimStart, isBlank_iff.mp h]

/-- Without a text, an endless parameter has no elements. -/
theorem bind_of_blank_of_endless {bounds : Bounds} (h : isBlank text = true)
    (hp : p.endless? = some bounds) :
    p.bind ctx conversions text = if 0 < bounds.min then .rejected else .final (.array []) [] := by
  rw [bind_of_blank h, bind, hp]
  have hnone : p.elements ctx conversions bounds.max 0 [] = some ([], []) := by
    rw [elements]
    exact dif_pos rfl
  simp only [bindAll, hnone, List.length_nil]

theorem bind_of_single (hp : p.endless? = none) (h : isBlank text = false) :
    p.bind ctx conversions text =
      .ofConverted (p.next text).leftover (p.convert ctx conversions (p.next text).value) := by
  rw [bind, hp]
  exact if_neg (isBlank_eq_false_iff.mp h)

/-- An endless parameter leaves nothing. -/
theorem leftover_of_endless {bounds : Bounds} {l : List Char} (hp : p.endless? = some bounds)
    (hl : (p.bind ctx conversions text).leftover? = some l) : l = [] := by
  have hcases : p.bind ctx conversions text = .rejected ∨
      ∃ values, p.bind ctx conversions text = .final (.array values) [] := bind_cases hp text
  rcases hcases with hrejected | ⟨values, hfinal⟩
  · rw [hrejected] at hl
    cases hl
  · rw [hfinal] at hl
    cases hl
    rfl

theorem leftover_of_blank {l : List Char} (h : isBlank text = true)
    (hl : (p.bind ctx conversions text).leftover? = some l) : l = [] := by
  cases hp : p.endless? with
  | some bounds => exact leftover_of_endless hp hl
  | none =>
    rw [bind, hp, bindOne] at hl
    simp only [if_pos (isBlank_iff.mp h)] at hl
    split at hl
    · exact Binding.leftover?_ofConverted hl
    · cases hl

end Bind

/-- The parameter makes the value of a text, as a final one or not, and leaves what is behind it. -/
def Gives (p : Parameter) (env : Environment) (text : List Char) (value : Value)
    (leftover : List Char) : Prop :=
  p.bind env.context env.conversions text = .bound value leftover ∨
    p.bind env.context env.conversions text = .final value leftover

section Gives

variable {p : Parameter} {bounds : Bounds} {env : Environment} {text other after : List Char}
  {value : Value}

theorem gives_congr (h : p.bind env.context env.conversions other =
    p.bind env.context env.conversions text) :
    p.Gives env other value after ↔ p.Gives env text value after := by
  rw [Gives, Gives, h]

theorem Gives.leftover?_eq (h : p.Gives env text value after) :
    (p.bind env.context env.conversions text).leftover? = some after := by
  rcases h with h | h
  · rw [h]
    rfl
  · rw [h]
    rfl

theorem gives_iff_of_single (hp : p.endless? = none) (h : isBlank text = false) :
    p.Gives env text value after ↔ (p.next text).leftover = after ∧
      (p.convert env.context env.conversions (p.next text).value).value? = some value := by
  rw [Gives, bind_of_single hp h]
  cases p.convert env.context env.conversions (p.next text).value <;>
    simp [Binding.ofConverted, Converted.value?, and_comm]

theorem gives_iff_of_endless (hp : p.endless? = some bounds) (hrest : p.rest = false) :
    p.Gives env text value [] ↔ ∃ values, .array values = value ∧
      p.Takes bounds env.context env.conversions (Token.all p.acceptQuote text) values := by
  constructor
  · intro h
    have hcases : p.bind env.context env.conversions text = .rejected ∨
        ∃ values, p.bind env.context env.conversions text = .final (.array values) [] :=
      bind_cases hp text
    rcases hcases with hrejected | ⟨values, hfinal⟩
    · rw [Gives, hrejected] at h
      simp at h
    · rw [Gives, hfinal] at h
      exact ⟨values, by simpa using h, (bind_eq_final_iff hp hrest text values).mp hfinal⟩
  · rintro ⟨values, rfl, htakes⟩
    exact .inr ((bind_eq_final_iff hp hrest text values).mpr htakes)

end Gives

/-- One parameter is filled. -/
inductive Fills (env : Environment) : Cursor → Filling → Cursor → Prop
  | default {s : Cursor} {p : Parameter} {supply : Context → Value} :
      p.default? = some supply → s.isSpent = true →
      Fills env s ⟨p, ⟨supply env.context, ""⟩, .default⟩ s
  | bound {p : Parameter} {text after : List Char} {value : Value} :
      p.default? = none ∨ isBlank text = false →
      p.bind env.context env.conversions text = .bound value after →
      Fills env ⟨false, text⟩ ⟨p, ⟨value, taken text after⟩, .text text after⟩ ⟨false, after⟩
  | final {p : Parameter} {text after : List Char} {value : Value} :
      p.default? = none ∨ isBlank text = false →
      p.bind env.context env.conversions text = .final value after →
      Fills env ⟨false, text⟩ ⟨p, ⟨value, taken text after⟩, .text text after⟩ ⟨true, after⟩

/-- Parameters are filled one after another. -/
inductive FillsAll (env : Environment) : Cursor → List Filling → Cursor → Prop
  | nil {s : Cursor} : FillsAll env s [] s
  | cons {s t u : Cursor} {f : Filling} {filled : List Filling} :
      Fills env s f t → FillsAll env t filled u → FillsAll env s (f :: filled) u

variable {env : Environment} {s t u : Cursor} {f g : Filling} {filled others : List Filling}

section Steps

/-- A default steps in for what is not read. -/
theorem not_read_of_spent {p : Parameter} {supply : Context → Value} {text : List Char}
    (hp : p.default? = some supply) (hs : Cursor.isSpent ⟨false, text⟩ = true) :
    ¬(p.default? = none ∨ isBlank text = false) := by
  rintro (hnone | hblank)
  · cases hp.symm.trans hnone
  · cases hs.symm.trans hblank

/-- The parameter and the text decide how it is filled. -/
theorem Fills.unique (hf : Fills env s f t) (hg : Fills env s g u)
    (h : f.parameter = g.parameter) : f = g ∧ t = u := by
  cases hf with
  | default hp hs =>
    cases hg with
    | default hq _ =>
      cases h
      cases hp.symm.trans hq
      exact ⟨rfl, rfl⟩
    | bound hread _ | final hread _ =>
      cases h
      exact absurd hread (not_read_of_spent hp hs)
  | bound hread hbind =>
    cases hg with
    | default hp hs =>
      cases h
      exact absurd hread (not_read_of_spent hp hs)
    | bound _ hother =>
      cases h
      cases hbind.symm.trans hother
      exact ⟨rfl, rfl⟩
    | final _ hother =>
      cases h
      cases hbind.symm.trans hother
  | final hread hbind =>
    cases hg with
    | default hp hs =>
      cases h
      exact absurd hread (not_read_of_spent hp hs)
    | bound _ hother =>
      cases h
      cases hbind.symm.trans hother
    | final _ hother =>
      cases h
      cases hbind.symm.trans hother
      exact ⟨rfl, rfl⟩

/-- A default is taken as it is, and nothing of the text with it. -/
theorem Fills.of_default (h : Fills env s f t) (hf : f.source = .default) :
    (∃ supply, f.parameter.default? = some supply ∧
      f.argument = ⟨supply env.context, ""⟩) ∧ s.isSpent = true ∧ t = s := by
  cases h with
  | default hp hs => exact ⟨⟨_, hp, rfl⟩, hs, rfl⟩
  | bound _ _ | final _ _ => cases hf

/-- Once a value was final, defaults are all that is left. -/
theorem Fills.of_ended (h : Fills env s f t) (hs : s.ended = true) : f.source = .default := by
  cases h with
  | default _ _ => rfl
  | bound _ _ | final _ _ => cases hs

theorem Fills.of_text {before after : List Char} (h : Fills env s f t)
    (hf : f.source = .text before after) :
    f.argument.raw = taken before after ∧ f.parameter.Gives env before f.argument.value after := by
  cases h with
  | default _ _ => cases hf
  | bound _ hbind =>
    cases hf
    exact ⟨rfl, .inl hbind⟩
  | final _ hbind =>
    cases hf
    exact ⟨rfl, .inr hbind⟩

end Steps

section Runs

theorem fillsAll_append_iff :
    FillsAll env s (filled ++ others) u ↔ ∃ t, FillsAll env s filled t ∧ FillsAll env t others u := by
  induction filled generalizing s with
  | nil =>
    constructor
    · exact fun h => ⟨s, .nil, h⟩
    · rintro ⟨t, ⟨⟩, h⟩
      exact h
  | cons f filled ih =>
    constructor
    · rintro (_ | ⟨hf, hrest⟩)
      obtain ⟨t, hfilled, hothers⟩ := ih.mp hrest
      exact ⟨t, .cons hf hfilled, hothers⟩
    · rintro ⟨t, _ | ⟨hf, hfilled⟩, hothers⟩
      exact .cons hf (ih.mpr ⟨t, hfilled, hothers⟩)

/-- Parameters are filled in one way only. -/
theorem FillsAll.unique (h : FillsAll env s filled t) (hothers : FillsAll env s others u)
    (hps : filled.map Filling.parameter = others.map Filling.parameter) :
    filled = others ∧ t = u := by
  induction h generalizing others with
  | nil =>
    obtain rfl := List.map_eq_nil_iff.mp hps.symm
    cases hothers
    exact ⟨rfl, rfl⟩
  | cons hf _ ih =>
    cases hothers with
    | nil => cases hps
    | cons hg hrest =>
      obtain ⟨hp, hrests⟩ := List.cons.inj hps
      obtain ⟨rfl, rfl⟩ := hf.unique hg hp
      obtain ⟨rfl, rfl⟩ := ih hrest hrests
      exact ⟨rfl, rfl⟩

theorem FillsAll.exists_fills (h : FillsAll env s filled u) (hf : f ∈ filled) :
    ∃ s t, Fills env s f t := by
  induction h with
  | nil => cases hf
  | cons hg _ ih =>
    rcases List.mem_cons.mp hf with rfl | hf
    · exact ⟨_, _, hg⟩
    · exact ih hf

end Runs

section Arguments

variable {p : Parameter} {ps : List Parameter} {ended : Bool} {text left : List Char}
  {arguments : List Argument}

theorem arguments?_of_default {supply : Context → Value} (hp : p.default? = some supply)
    (hs : (ended || isBlank text) = true) :
    arguments? env ended text (p :: ps) =
      (arguments? env ended text ps).map fun (arguments, left) =>
        (⟨supply env.context, ""⟩ :: arguments, left) := by
  rw [arguments?, hp, hs]
  rfl

theorem arguments?_of_read (hp : p.default? = none ∨ isBlank text = false) :
    arguments? env false text (p :: ps) =
      match p.bind env.context env.conversions text with
      | .rejected => none
      | .bound value after => (arguments? env false after ps).map fun (arguments, left) =>
          (⟨value, taken text after⟩ :: arguments, left)
      | .final value after => (arguments? env true after ps).map fun (arguments, left) =>
          (⟨value, taken text after⟩ :: arguments, left) := by
  rw [arguments?]
  split
  · rename_i supply hsupply hspent
    rw [Bool.false_or] at hspent
    rw [hsupply, hspent] at hp
    simp at hp
  · rfl

/-- Binding is a run over all parameters, which gives one argument for each. -/
theorem arguments?_eq_some_iff : arguments? env ended text ps = some (arguments, left) ↔
    ∃ filled ends, FillsAll env ⟨ended, text⟩ filled ⟨ends, left⟩ ∧
      filled.map Filling.parameter = ps ∧ filled.map Filling.argument = arguments := by
  induction ps generalizing ended text arguments with
  | nil =>
    constructor
    · rintro ⟨⟩
      exact ⟨[], ended, .nil, rfl, rfl⟩
    · rintro ⟨filled, ends, hrun, hps, rfl⟩
      obtain rfl := List.map_eq_nil_iff.mp hps
      cases hrun
      rfl
  | cons p ps ih =>
    constructor
    · intro h
      rw [arguments?] at h
      split at h
      · rename_i supply hsupply hspent
        obtain ⟨⟨rest, l⟩, hrest, heq⟩ := Option.map_eq_some_iff.mp h
        cases heq
        obtain ⟨filled, ends, hrun, rfl, rfl⟩ := ih.mp hrest
        exact ⟨_, ends, .cons (.default hsupply hspent) hrun, rfl, rfl⟩
      · rename_i hread
        split at h
        · cases h
        · rename_i hgoing
          obtain rfl : ended = false := by simpa using hgoing
          have hp : p.default? = none ∨ isBlank text = false := by
            cases hsupply : p.default? with
            | none => exact .inl rfl
            | some supply => exact .inr (by simpa using hread supply hsupply)
          split at h
          · cases h
          · rename_i value after hbind
            obtain ⟨⟨rest, l⟩, hrest, heq⟩ := Option.map_eq_some_iff.mp h
            cases heq
            obtain ⟨filled, ends, hrun, rfl, rfl⟩ := ih.mp hrest
            exact ⟨_, ends, .cons (.bound hp hbind) hrun, rfl, rfl⟩
          · rename_i value after hbind
            obtain ⟨⟨rest, l⟩, hrest, heq⟩ := Option.map_eq_some_iff.mp h
            cases heq
            obtain ⟨filled, ends, hrun, rfl, rfl⟩ := ih.mp hrest
            exact ⟨_, ends, .cons (.final hp hbind) hrun, rfl, rfl⟩
    · rintro ⟨filled, ends, hrun, hps, rfl⟩
      cases hrun with
      | nil => cases hps
      | cons hf hrest =>
        obtain ⟨rfl, rfl⟩ := List.cons.inj hps
        cases hf with
        | default hsupply hspent =>
          rw [arguments?_of_default hsupply hspent, ih.mpr ⟨_, _, hrest, rfl, rfl⟩]
          rfl
        | bound hp hbind =>
          rw [arguments?_of_read hp, hbind]
          simp only
          rw [ih.mpr ⟨_, _, hrest, rfl, rfl⟩]
          rfl
        | final hp hbind =>
          rw [arguments?_of_read hp, hbind]
          simp only
          rw [ih.mpr ⟨_, _, hrest, rfl, rfl⟩]
          rfl

end Arguments

end Parameter

end ChatCommands
