import Mathlib.Tactic.ByContra
import ChatCommands.Proofs.Command.Fit
import ChatCommands.Proofs.Resolution.Search

/-! # The selected command

What resolution answers, in terms of the chains that follow a text: no match without a chain, a
match with the first chain that fits, and a refusal otherwise.
-/

namespace ChatCommands

open Text
open scoped List

variable {H : Type}

theorem Resolution.fit?_eq_some_iff {r : Resolution H} {fit : Fit H} :
    r.fit? = some fit ↔ r = .matched fit := by
  cases r <;> simp [Resolution.fit?]

theorem Chain.command_of_fit? {chain : Chain H} {text : List Char} {env : Environment} {fit : Fit H}
    (h : chain.fit? text env = some fit) :
    fit.command = chain.last ∧
      fit.trigger = " ".intercalate (((words text).take chain.depth).map String.ofList) :=
  ⟨(Command.fit?_command h).1, (Command.fit?_command h).2.1⟩

namespace Catalog

variable {catalog : Catalog H} {text : List Char} {env : Environment}

theorem resolve_eq_noMatch_iff :
    catalog.resolve text env = .noMatch ↔ ∀ chain, ¬ catalog.root.Follows text chain := by
  rw [resolve, Level.resolve, Level.resolveUnder_eq_noMatch_iff, Level.answering_eq_nil_iff]

theorem resolve_eq_matched_iff {fit : Fit H} :
    catalog.resolve text env = .matched fit ↔
      (catalog.root.chains text).findSome? (·.fit? text env) = some fit := by
  rw [resolve, Level.resolve, ← Resolution.fit?_eq_some_iff, Level.fit?_resolveUnder]
  rfl

/-- The chain of a match is the first one that fits. -/
theorem exists_chain_of_matched {fit : Fit H} (h : catalog.resolve text env = .matched fit) :
    ∃ chain, catalog.root.Follows text chain ∧ chain.fit? text env = some fit ∧
      ∀ other, catalog.root.Follows text other → (other.fit? text env).isSome →
        other = chain ∨ catalog.root.Precedes chain other := by
  obtain ⟨earlier, chain, later, hsplit, hfit, hnone⟩ :=
    List.findSome?_eq_some_iff.mp (resolve_eq_matched_iff.mp h)
  have hmem : chain ∈ catalog.root.chains text := by simp [hsplit]
  refine ⟨chain, Level.mem_chains.mp hmem, hfit, fun other ho hsome => ?_⟩
  rw [← Level.mem_chains, hsplit, List.mem_append, List.mem_cons] at ho
  rcases ho with ho | rfl | ho
  · simp [hnone other ho] at hsome
  · exact Or.inl rfl
  · have hpair := catalog.root.pairwise_chains text
    rw [hsplit, List.pairwise_append, List.pairwise_cons] at hpair
    exact Or.inr (hpair.2.1.1 other ho)

theorem exists_matched_iff :
    (∃ fit, catalog.resolve text env = .matched fit) ↔
      ∃ chain, catalog.root.Follows text chain ∧ (chain.fit? text env).isSome := by
  simp only [resolve_eq_matched_iff, ← Option.isSome_iff_exists, List.findSome?_isSome_iff,
    Level.mem_chains]

theorem exists_invalid_iff :
    (∃ c, catalog.resolve text env = .invalid c) ↔
      (∃ chain, catalog.root.Follows text chain) ∧
        ∀ chain, catalog.root.Follows text chain → chain.fit? text env = none := by
  have hno := @resolve_eq_noMatch_iff _ catalog text env
  have hmatch := @exists_matched_iff _ catalog text env
  constructor
  · rintro ⟨c, hc⟩
    constructor
    · by_contra hnone
      rw [hno.mpr (not_exists.mp hnone)] at hc
      cases hc
    · intro chain hf
      by_contra hfit
      obtain ⟨fit, hfit⟩ := hmatch.mpr ⟨chain, hf, Option.isSome_iff_ne_none.mpr hfit⟩
      rw [hfit] at hc
      cases hc
  · rintro ⟨⟨chain, hf⟩, hall⟩
    cases hr : catalog.resolve text env with
    | noMatch => exact absurd hf (hno.mp hr chain)
    | invalid c => exact ⟨c, rfl⟩
    | matched fit =>
      obtain ⟨chain, hf, hsome⟩ := hmatch.mp ⟨fit, hr⟩
      simp [hall chain hf] at hsome

/-- Resolution is sound and complete for the chains that follow a text: it answers no match exactly
when there is none, a match exactly when the last command of one of them fits the text after its
words, and a refusal otherwise. A match is what the first such chain gives, under the words as they
were typed, and the catalog finds its command there. -/
theorem resolve_sound_and_complete (catalog : Catalog H) (text : List Char) (env : Environment) :
    (catalog.resolve text env = .noMatch ↔ ∀ chain, ¬ catalog.root.Follows text chain) ∧
    ((∃ fit, catalog.resolve text env = .matched fit) ↔
      ∃ chain, catalog.root.Follows text chain ∧ (chain.fit? text env).isSome) ∧
    ((∃ c, catalog.resolve text env = .invalid c) ↔
      (∃ chain, catalog.root.Follows text chain) ∧
        ∀ chain, catalog.root.Follows text chain → chain.fit? text env = none) ∧
    ∀ fit, catalog.resolve text env = .matched fit →
      ∃ chain, catalog.root.Follows text chain ∧ chain.fit? text env = some fit ∧
        fit.trigger = " ".intercalate (((words text).take chain.depth).map String.ofList) ∧
        fit.command = chain.last ∧ fit.command ∈ catalog.find fit.trigger ∧
        ∀ other, catalog.root.Follows text other → (other.fit? text env).isSome →
          other = chain ∨ catalog.root.Precedes chain other := by
  refine ⟨resolve_eq_noMatch_iff, exists_matched_iff, exists_invalid_iff, fun fit h => ?_⟩
  obtain ⟨chain, hf, hfit, hfirst⟩ := exists_chain_of_matched h
  obtain ⟨hcommand, htrigger⟩ := chain.command_of_fit? hfit
  refine ⟨chain, hf, hfit, htrigger, hcommand, ?_, hfirst⟩
  rw [hcommand, htrigger]
  exact last_mem_find hf

end Catalog

end ChatCommands
