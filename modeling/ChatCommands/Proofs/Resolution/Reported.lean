import ChatCommands.Proofs.Resolution.Longest

/-! # The reported command

Where no command fits, the one at the end of the first chain of the search is reported. Below that
chain nothing answers any more, but an overload that was registered later may lead on to longer
chains.
-/

namespace ChatCommands

open Text
open scoped List

variable {H : Type}

theorem Resolution.reported?_eq_some_iff {r : Resolution H} {c : Command H} :
    r.reported? = some c ↔ r = .invalid c := by
  cases r <;> simp [Resolution.reported?]

namespace Level

variable {level : Level (Command H)} {text : List Char} {env : Environment}

/-- What is reported below a level comes before the commands of the level. -/
theorem reported?_resolveUnder_of_word (parent? : Option String)
    (hw : (splitTrigger text).1 ≠ []) (h : (level.resolveUnder parent? text env).fit? = none) :
    (level.resolveUnder parent? text env).reported? =
      ((((level.answering text).filter (!·.subcommands.isEmpty)).map fun c =>
          c.subcommands.resolveUnder
            (some (typedPath parent? (String.ofList (splitTrigger text).1)))
            (splitTrigger text).2 env).findSome? (·.reported?)).or (level.answering text).head? := by
  rw [resolveUnder, dif_neg hw] at h ⊢
  rw [answering, if_neg hw]
  simp only at h ⊢
  split
  · rename_i hfound
    rw [hfound]
    rfl
  · rename_i first others hfound
    rw [hfound] at h ⊢
    simp only at h ⊢
    split
    · rename_i hfit
      rw [hfit] at h
      cases h
    · rename_i hnone
      split
      · rename_i hfit
        rw [hnone, hfit] at h
        cases h
      · rw [List.head?_cons, Option.or_some]
        rfl

/-- What the levels below some commands report, when it is known of each of them. -/
theorem findSome?_reported {resolved : Command H → Resolution H} {rest : List Char}
    {found : List (Command H)}
    (h : ∀ c ∈ found, c.subcommands.isEmpty = false →
      (resolved c).reported? = (c.subcommands.chains rest).head?.map (·.last)) :
    ((found.filter (!·.subcommands.isEmpty)).map resolved).findSome? (·.reported?) =
      (found.flatMap fun c => (c.subcommands.chains rest).map (Chain.under c)).head?.map
        (·.last) := by
  induction found with
  | nil => rfl
  | cons c found ih =>
    rw [List.forall_mem_cons] at h
    have hunder : ((c.subcommands.chains rest).map (Chain.under c)).head?.map (·.last) =
        (c.subcommands.chains rest).head?.map (·.last) := by
      rw [List.head?_map, Option.map_map]
      rfl
    rw [List.flatMap_cons, List.head?_append, Option.map_or, ← ih h.2, hunder]
    cases he : c.subcommands.isEmpty with
    | true =>
      rw [List.filter_cons_of_neg (by simp [he]),
        chains_of_answering_eq_nil (answering_of_isEmpty he rest)]
      rfl
    | false =>
      rw [List.filter_cons_of_pos (by simp [he]), List.map_cons, List.findSome?_cons, h.1 he]
      cases (c.subcommands.chains rest).head? <;> rfl

/-- Where nothing fits, the command at the end of the first chain is reported. -/
theorem reported?_resolveUnder (parent? : Option String)
    (h : (level.resolveUnder parent? text env).fit? = none) :
    (level.resolveUnder parent? text env).reported? =
      (level.chains text).head?.map (·.last) := by
  -- By the length of the text: the levels below read what is left of it behind a token.
  induction hn : text.length using Nat.strongRecOn generalizing parent? level text with
  | ind n ih =>
    by_cases hw : (splitTrigger text).1 = []
    · have ha : level.answering text = [] := if_pos hw
      rw [resolveUnder_eq_noMatch_iff.mpr ha, chains_of_answering_eq_nil ha]
      rfl
    · have hbelow : ∀ c ∈ level.answering text, c.subcommands.isEmpty = false →
          (c.subcommands.resolveUnder
            (some (typedPath parent? (String.ofList (splitTrigger text).1))) (splitTrigger text).2
            env).reported? = (c.subcommands.chains (splitTrigger text).2).head?.map (·.last) := by
        intro c hc he
        refine ih _ (hn ▸ length_splitTrigger hw) _ ?_ rfl
        -- Had anything below fitted, the level would have a fit.
        rw [fit?_resolveUnder_of_word parent? level hw, Option.or_eq_none_iff] at h
        exact List.findSome?_eq_none_iff.mp h.1 _
          (List.mem_map_of_mem (List.mem_filter.mpr ⟨hc, by simp [he]⟩))
      rw [reported?_resolveUnder_of_word parent? hw h, findSome?_reported hbelow, chains_eq,
        List.head?_append, Option.map_or, List.head?_map, Option.map_map]
      congr 1
      exact Option.map_id'.symm

end Level

namespace Catalog

variable {catalog : Catalog H} {text : List Char} {env : Environment} {c : Command H}

/-- The reported command ends the first chain of the search. -/
theorem exists_chain_of_invalid (h : catalog.resolve text env = .invalid c) :
    ∃ chain, catalog.root.Follows text chain ∧ chain.last = c ∧
      ∀ other, catalog.root.Follows text other →
        other = chain ∨ catalog.root.Precedes chain other := by
  have hfit : (catalog.root.resolveUnder none text env).fit? = none := by
    rw [← Level.resolve, ← resolve, h]
    rfl
  have hreported := Level.reported?_resolveUnder none hfit
  rw [← Level.resolve, ← resolve, h, Resolution.reported?, eq_comm, Option.map_eq_some_iff]
    at hreported
  obtain ⟨chain, hfirst, hlast⟩ := hreported
  obtain ⟨later, hchains⟩ := List.head?_eq_some_iff.mp hfirst
  have hpairs := catalog.root.pairwise_chains text
  rw [hchains, List.pairwise_cons] at hpairs
  refine ⟨chain, Level.mem_chains.mp (hchains ▸ List.mem_cons_self), hlast, fun other hother => ?_⟩
  rw [← Level.mem_chains, hchains] at hother
  exact (List.mem_cons.mp hother).imp_right (hpairs.1 other)

/-- The deepest command is reported unless overloads decide: the reported one ends the first chain of
the search, so the first of all chains of its length in registration order, and a longer chain turns
above its end to a sibling that was registered later. -/
theorem reported_ends_first_chain (h : catalog.resolve text env = .invalid c) :
    ∃ chain, catalog.root.Follows text chain ∧ chain.last = c ∧
      (∀ other, catalog.root.Follows text other →
        other = chain ∨ catalog.root.Precedes chain other) ∧
      ∀ longer, catalog.root.Follows text longer → chain.depth < longer.depth →
        catalog.root.PartsLater chain longer := by
  obtain ⟨chain, hfollows, hlast, hfirst⟩ := exists_chain_of_invalid h
  refine ⟨chain, hfollows, hlast, hfirst, fun longer hlonger hlt => ?_⟩
  rcases hfirst longer hlonger with rfl | hprecedes
  · exact absurd hlt (Nat.lt_irrefl _)
  · exact hprecedes.partsLater hlt

/-- Two overloads with a sub-command `x` each. Only the second one goes on, to a sub-command `y`
that takes a word. -/
def uneven : Catalog Unit :=
  let word : Parameter := { name := "word", kind := .word }
  let shallow : Definition Unit :=
    { trigger := "a", subcommands := [{ trigger := "x", handler? := some () }] }
  let deep : Definition Unit :=
    { trigger := "a"
      subcommands :=
        [{ trigger := "x"
           subcommands := [{ trigger := "y", parameters := [word], handler? := some () }] }] }
  ((({} : Catalog Unit).define shallow).bind (·.define deep)).toOption.getD {}

def anyone : Environment :=
  ⟨{}, Conversions.standard, false⟩

theorem reported?_uneven : (uneven.resolve "a x y".toList anyone).reported?.map (·.id) =
    some [0, 0] := by
  decide +kernel

theorem reported_ends_first_chain_uneven : ∃ c,
    uneven.resolve "a x y".toList anyone = .invalid c ∧
    ∃ chain, uneven.root.Follows "a x y".toList chain ∧ chain.last = c ∧
      (∀ other, uneven.root.Follows "a x y".toList other →
        other = chain ∨ uneven.root.Precedes chain other) ∧
      ∀ longer, uneven.root.Follows "a x y".toList longer → chain.depth < longer.depth →
        uneven.root.PartsLater chain longer := by
  obtain ⟨c, hc, -⟩ := Option.map_eq_some_iff.mp reported?_uneven
  have h := Resolution.reported?_eq_some_iff.mp hc
  exact ⟨c, h, reported_ends_first_chain h⟩

/-- In `a x y`, the sub-command `x` of the first overload is reported, though `a x y` is a trigger
of its own. -/
theorem deepest_is_not_always_reported : ¬ ∀ (catalog : Catalog Unit) (text : List Char)
    (env : Environment) (c : Command Unit), catalog.resolve text env = .invalid c →
    ∃ chain, catalog.root.Follows text chain ∧ chain.last = c ∧
      ∀ other, catalog.root.Follows text other → other.depth ≤ chain.depth := by
  intro hall
  have hshort : ((uneven.root.chains "a x y".toList).all fun chain =>
      chain.last.id != [0, 0] || chain.depth == 2) = true := by decide +kernel
  have hlong : ((uneven.root.chains "a x y".toList).any (·.depth == 3)) = true := by decide +kernel
  obtain ⟨c, hc, hid⟩ := Option.map_eq_some_iff.mp reported?_uneven
  obtain ⟨chain, hfollows, rfl, hlongest⟩ :=
    hall uneven _ anyone c (Resolution.reported?_eq_some_iff.mp hc)
  obtain ⟨longer, hmem, hlonger⟩ := List.any_eq_true.mp hlong
  have hle := hlongest longer (Level.mem_chains.mp hmem)
  have htwo := List.all_eq_true.mp hshort chain (Level.mem_chains.mpr hfollows)
  simp only [hid, bne_self_eq_false, Bool.false_or, beq_iff_eq] at htwo hlonger
  omega

end Catalog

end ChatCommands
