import Mathlib
import ChatCommands.Proofs.Command.Leftover

/-! # The switches behind a text

A text is cut in front of its first switch, but its switches are read later, from what the
parameters left and the part behind the cut put together. Where tokens stay whole, the outcome is
that of reading the part behind the cut alone.
-/

namespace ChatCommands

open Text

namespace Command

variable {H : Type} {c : Command H} {trigger : String} {text : List Char} {env : Environment}
  {fit : Fit H}

/-- Those switches are given that are read from the cut on, and none if there is no cut. -/
def ReadsTail (c : Command H) (text : List Char) (developer : Bool) (given : Given) : Prop :=
  match Switch.cut? c.switches text with
  | none => given = []
  | some (_, tail) => ∃ rest, Switch.read c.switches c.unknown developer tail = .ok (given, rest)

/-- No backslash draws white space at the cut or at the end of the text into a token. -/
def Seamless (c : Command H) (text : List Char) (env : Environment) : Prop :=
  ∀ positional tail, Switch.cut? c.switches text = some (positional, tail) →
    (∀ leftover ∈ c.leftover? text env, (trimEnd leftover).getLast? ≠ some '\\') ∧
      (trimEnd tail = tail ∨ (trimEnd tail).getLast? ≠ some '\\')

/-- Trimming and joining neither adds a switch, nor loses one, nor changes its value. -/
theorem fit?_reads_tail (h : c.fit? trigger text env = some fit) (htokens : c.TakesTokens text env)
    (hseam : c.Seamless text env) : c.ReadsTail text env.developer fit.switches := by
  obtain ⟨-, arguments, leftover, switches, overflow, hargs, hread, -, rfl⟩ :=
    fit?_eq_some_iff.mp h
  have hleft := leftover?_eq_some_iff.mpr ⟨arguments, hargs⟩
  have hnamed := named_leftover htokens hleft
  rw [ReadsTail]
  cases hcut : Switch.cut? c.switches text with
  | none =>
    -- The space that is put behind may change the last token, but makes no switch of it.
    rw [sections_of_no_cut hcut] at hread
    have hnames : Token.switchNames (trim leftover ++ [' ']) = Token.switchNames leftover := by
      rw [Token.switchNames_append_of_blank (by decide), Token.switchNames_trim]
    have hlexemes : Token.lexemes (trim leftover ++ [' ']) =
        Token.lexemes (trim leftover ++ [' ']) ++ Token.lexemes [] := by
      rw [Token.lexemes_of_blank (s := []) rfl, List.append_nil]
    obtain ⟨rest, hrest⟩ := Switch.read_append_of_unnamed hlexemes
      (Switch.named_lexemes.mpr (Switch.named_of_switchNames hnames hnamed)) hread
    rw [Switch.read_of_blank rfl] at hrest
    cases hrest
    rfl
  | some cut =>
    obtain ⟨positional, tail⟩ := cut
    obtain ⟨hseam, htail⟩ := hseam positional tail hcut
    have hlexemes := (followed_leftover htokens hleft).lexemes_rejoin (hseam leftover hleft)
    rw [sections_of_cut hcut] at hlexemes hread
    rw [Token.lexemes_trimEnd (htail.symm.imp_left Token.leavesEscaped_eq_false_iff.mpr)]
      at hlexemes
    exact Switch.read_append_of_unnamed hlexemes (Switch.named_lexemes.mpr hnamed) hread

/-- Takes a word, with a switch that takes a value. Whatever else there is does not matter. -/
def poke : Command Unit where
  trigger := "poke"
  parameters := [{ name := "whom", kind := .word }]
  switches := [{ name := "why", takesValue := true }]
  overflow := .ignore
  handler? := some ()
  id := [0]
  path := "poke"
  usage := "poke <whom>"
  category? := none
  subcommands := {}

def asDeveloper : Environment :=
  ⟨{}, .standard, true⟩

theorem fit?_reads_tail_poke : ∃ fit,
    poke.fit? "poke" "ann please -why \"so there\"".toList asDeveloper = some fit ∧
    poke.TakesTokens "ann please -why \"so there\"".toList asDeveloper ∧
    poke.Seamless "ann please -why \"so there\"".toList asDeveloper ∧
    poke.ReadsTail "ann please -why \"so there\"".toList true fit.switches := by
  have hsome :
      (poke.fit? "poke" "ann please -why \"so there\"".toList asDeveloper).isSome = true := by cbv
  obtain ⟨fit, hfit⟩ := Option.isSome_iff_exists.mp hsome
  have htokens : poke.TakesTokens "ann please -why \"so there\"".toList asDeveloper :=
    takesTokens_of (.inr (by decide))
  have hcut : Switch.cut? poke.switches "ann please -why \"so there\"".toList =
      some ("ann please ".toList, "-why \"so there\"".toList) := by cbv
  have hleft : poke.leftover? "ann please -why \"so there\"".toList asDeveloper =
      some "please ".toList := by cbv
  have hseam : poke.Seamless "ann please -why \"so there\"".toList asDeveloper := by
    intro positional tail h
    rw [hcut] at h
    cases h
    refine ⟨fun leftover hl => ?_, .inl (by decide)⟩
    cases hleft.symm.trans hl
    decide
  exact ⟨fit, hfit, htokens, hseam, fit?_reads_tail hfit htokens hseam⟩

/-- In `ann -why a\ `, the value of the switch is `a` with a space, but a backslash is read. -/
theorem fit?_does_not_always_read_tail : ¬ ∀ (c : Command Unit) (trigger : String)
    (text : List Char) (env : Environment) (fit : Fit Unit), env.developer = true →
    c.fit? trigger text env = some fit → c.ReadsTail text env.developer fit.switches := by
  intro hall
  have hgiven : (poke.fit? "poke" "ann -why a\\ ".toList asDeveloper).map Fit.switches =
      some [("why", some "a\\")] := by cbv
  obtain ⟨fit, hfit, hswitches⟩ := Option.map_eq_some_iff.mp hgiven
  have hreads := hall poke "poke" "ann -why a\\ ".toList asDeveloper fit rfl hfit
  have hcut : Switch.cut? poke.switches "ann -why a\\ ".toList =
      some ("ann ".toList, "-why a\\ ".toList) := by cbv
  have hread : Switch.read poke.switches poke.unknown true "-why a\\ ".toList =
      .ok ([("why", some "a ")], []) := by cbv
  rw [ReadsTail, hcut, hswitches] at hreads
  obtain ⟨rest, hrest⟩ := hreads
  have hsame : [("why", some "a\\")] = [("why", some "a ")] :=
    (Prod.mk.inj (Except.ok.inj (hrest.symm.trans hread))).1
  exact absurd hsame (by decide)

end Command

end ChatCommands
