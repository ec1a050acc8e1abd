import Mathlib
import ChatCommands.Proofs.Resolution.Selection

/-! # Longer triggers

The chain of a match need not be the longest one that fits. A longer one can only be found below an
overload that was registered later, which shares its trigger with a command of the chosen chain.
-/

namespace ChatCommands

open Text
open scoped List

variable {H : Type}

namespace Level

/-- The chains go the same way at first and part above the end of both, where the second turns to a
sibling that was registered later. -/
inductive PartsLater : Level (Command H) → Chain H → Chain H → Prop
  | turn {level : Level (Command H)} {a b : Command H} {A B : Chain H} :
      [a, b] <+ level.commands → PartsLater level (A.under a) (B.under b)
  | along {level : Level (Command H)} {a : Command H} {A B : Chain H} :
      PartsLater a.subcommands A B → PartsLater level (A.under a) (B.under a)

theorem Precedes.partsLater {level : Level (Command H)} {A B : Chain H} (h : level.Precedes A B)
    (hlt : A.depth < B.depth) : level.PartsLater A B := by
  induction h with
  | deeper => simp [Chain.depth] at hlt
  | stop => simp [Chain.depth] at hlt
  | sibling hab => exact .turn hab
  | inside _ ih => exact .along (ih (by simpa using hlt))

theorem Follows.length_words_typed {level : Level (Command H)} {text : List Char}
    {chain : Chain H} (h : level.Follows text chain) :
    (words (" ".intercalate (((words text).take chain.depth).map String.ofList)).toList).length =
      chain.depth := by
  rw [words_typed, List.length_take, Nat.min_eq_left h.depth_le]

end Level

namespace Catalog

variable {catalog : Catalog H} {text : List Char} {env : Environment}

/-- The longest trigger wins unless overloads decide: a longer chain that fits turns, above the end
of the chosen chain, to a sibling that was registered later. -/
theorem longer_fit_parts_later {fit : Fit H} (h : catalog.resolve text env = .matched fit) :
    ∃ chain, catalog.root.Follows text chain ∧ chain.fit? text env = some fit ∧
      (words fit.trigger.toList).length = chain.depth ∧
      ∀ longer, catalog.root.Follows text longer →
        (words fit.trigger.toList).length < longer.depth → (longer.fit? text env).isSome →
        catalog.root.PartsLater chain longer := by
  obtain ⟨chain, hf, hfit, hfirst⟩ := exists_chain_of_matched h
  have hdepth : (words fit.trigger.toList).length = chain.depth := by
    rw [(chain.command_of_fit? hfit).2, hf.length_words_typed]
  refine ⟨chain, hf, hfit, hdepth, fun longer hl hlt hsome => ?_⟩
  rw [hdepth] at hlt
  rcases hfirst longer hl hsome with rfl | hprec
  · exact absurd hlt (Nat.lt_irrefl _)
  · exact hprec.partsLater hlt

/-- Two overloads with a sub-command `x` each. The first takes a word after it, the second goes on
to a sub-command `y`. -/
def forked : Catalog Unit :=
  let word : Parameter := { name := "word", kind := .word }
  let shallow : Definition Unit :=
    { trigger := "a"
      subcommands := [{ trigger := "x", parameters := [word], handler? := some () }] }
  let deep : Definition Unit :=
    { trigger := "a"
      subcommands :=
        [{ trigger := "x", subcommands := [{ trigger := "y", handler? := some () }] }] }
  ((({} : Catalog Unit).define shallow).bind (·.define deep)).toOption.getD {}

def wordsOnly : Environment :=
  ⟨{}, Conversions.none.register .word Conversion.word, false⟩

theorem longer_fit_parts_later_forked : ∃ fit,
    forked.resolve "a x y".toList wordsOnly = .matched fit ∧
    ∃ chain, forked.root.Follows "a x y".toList chain ∧
      chain.fit? "a x y".toList wordsOnly = some fit ∧
      (words fit.trigger.toList).length = chain.depth ∧
      ∀ longer, forked.root.Follows "a x y".toList longer →
        (words fit.trigger.toList).length < longer.depth →
        (longer.fit? "a x y".toList wordsOnly).isSome → forked.root.PartsLater chain longer := by
  have hsome : (forked.resolve "a x y".toList wordsOnly).fit?.isSome = true := by cbv
  obtain ⟨fit, hfit⟩ := Option.isSome_iff_exists.mp hsome
  have h := Resolution.fit?_eq_some_iff.mp hfit
  exact ⟨fit, h, longer_fit_parts_later h⟩

/-- In `a x y`, the first overload takes `y` as a word, though `a x y` is a trigger of its own. -/
theorem longest_does_not_always_win : ¬ ∀ (catalog : Catalog Unit) (text : List Char)
    (env : Environment) (fit : Fit Unit), catalog.resolve text env = .matched fit →
    ∀ longer, catalog.root.Follows text longer →
      (words fit.trigger.toList).length < longer.depth → longer.fit? text env = none := by
  intro hall
  have hshort : (forked.resolve "a x y".toList wordsOnly).fit?.map
      (fun fit => (words fit.trigger.toList).length) = some 2 := by cbv
  have hlong : ((forked.root.chains "a x y".toList).any fun chain =>
      chain.depth == 3 && (chain.fit? "a x y".toList wordsOnly).isSome) = true := by cbv
  obtain ⟨fit, hfit, htwo⟩ := Option.map_eq_some_iff.mp hshort
  obtain ⟨longer, hmem, hlonger⟩ := List.any_eq_true.mp hlong
  simp only [Bool.and_eq_true, beq_iff_eq] at hlonger
  have hnone := hall forked _ wordsOnly fit (Resolution.fit?_eq_some_iff.mp hfit) longer
    (Level.mem_chains.mp hmem) (by omega)
  rw [hnone] at hlonger
  exact absurd hlonger.2 (by decide)

end Catalog

end ChatCommands
