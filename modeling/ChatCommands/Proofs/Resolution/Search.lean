import ChatCommands.Proofs.Resolution.Chain

/-! # Resolution as a search

Resolution goes through the chains that follow a text in one order, everything below a level before
the level itself, and stops at the first whose last command fits. So no chain is missed, and the
chosen one comes before all others that fit.
-/

namespace ChatCommands

open Text
open scoped List

variable {H : Type}

namespace Chain

/-- Fits the text after the words of a chain to the last command, addressed by the words typed
above the chain and along it. -/
def fitUnder? (parent? : Option String) (text : List Char) (env : Environment) (chain : Chain H) :
    Option (Fit H) :=
  chain.last.fit?
    (" ".intercalate (parent?.toList ++ ((words text).take chain.depth).map String.ofList))
    (afterWords chain.depth text) env

/-- Fits the text after the words of a chain to the last command. -/
def fit? (text : List Char) (env : Environment) (chain : Chain H) : Option (Fit H) :=
  chain.last.fit? (" ".intercalate (((words text).take chain.depth).map String.ofList))
    (afterWords chain.depth text) env

theorem intercalate_typedPath (parent? : Option String) (token : String) (later : List String) :
    " ".intercalate (parent?.toList ++ token :: later) =
      " ".intercalate (Level.typedPath parent? token :: later) := by
  cases parent? with
  | none => rfl
  | some parent =>
    rw [Option.toList_some, List.singleton_append, String.intercalate_cons_cons]
    exact String.intercalate_cons_append.symm

variable {text : List Char}

theorem fitUnder?_stop (hw : (splitTrigger text).1 ≠ []) (parent? : Option String)
    (env : Environment) (c : Command H) :
    fitUnder? parent? text env ⟨[], c⟩ =
      c.fit? (Level.typedPath parent? (String.ofList (splitTrigger text).1)) (splitTrigger text).2
        env := by
  simp only [fitUnder?, depth, List.length_nil, words_splitTrigger hw, List.take_succ_cons,
    List.take_zero, List.map_cons, List.map_nil, intercalate_typedPath,
    String.intercalate_singleton, afterWords]

theorem fitUnder?_under (hw : (splitTrigger text).1 ≠ []) (parent? : Option String)
    (env : Environment) (c : Command H) (chain : Chain H) :
    (chain.under c).fitUnder? parent? text env =
      chain.fitUnder? (some (Level.typedPath parent? (String.ofList (splitTrigger text).1)))
        (splitTrigger text).2 env := by
  simp only [fitUnder?, depth_under, last_under, words_splitTrigger hw, List.take_succ_cons,
    List.map_cons, intercalate_typedPath, afterWords, Option.toList_some, List.singleton_append]

end Chain

namespace Level

/-- The chains that follow a text, in the order of the search. -/
def chains (level : Level (Command H)) (text : List Char) : List (Chain H) :=
  if _h : (splitTrigger text).1 = [] then []
  else
    let found := level.candidates (String.ofList (splitTrigger text).1)
    (found.flatMap fun c => (c.subcommands.chains (splitTrigger text).2).map (.under c)) ++
      found.map (⟨[], ·⟩)
termination_by text.length
decreasing_by exact length_splitTrigger _h

theorem chains_eq (level : Level (Command H)) (text : List Char) :
    level.chains text =
      ((level.answering text).flatMap fun c =>
        (c.subcommands.chains (splitTrigger text).2).map (.under c)) ++
        (level.answering text).map (⟨[], ·⟩) := by
  rw [chains, answering]
  split <;> rfl

theorem chains_of_answering_eq_nil {level : Level (Command H)} {text : List Char}
    (h : level.answering text = []) : level.chains text = [] := by
  rw [chains_eq, h]
  rfl

theorem mem_chains {level : Level (Command H)} {text : List Char} {chain : Chain H} :
    chain ∈ level.chains text ↔ level.Follows text chain := by
  constructor
  · intro h
    induction hn : text.length using Nat.strongRecOn generalizing level text chain with
    | ind n ih =>
      rw [chains_eq, List.mem_append, List.mem_flatMap, List.mem_map] at h
      rcases h with ⟨c, hc, h⟩ | ⟨c, hc, rfl⟩
      · obtain ⟨lower, hl, rfl⟩ := List.mem_map.mp h
        have hlt := length_splitTrigger (splitTrigger_ne_nil_of_answering hc)
        exact .down hc (ih _ (hn ▸ hlt) hl rfl)
      · exact .stop hc
  · intro h
    induction h with
    | stop hc =>
      rw [chains_eq]
      exact List.mem_append_right _ (List.mem_map_of_mem hc)
    | down hb _ ih =>
      rw [chains_eq]
      exact List.mem_append_left _
        (List.mem_flatMap.mpr ⟨_, hb, List.mem_map_of_mem ih⟩)

/-- The search goes through the chains in their order. -/
theorem pairwise_chains (level : Level (Command H)) (text : List Char) :
    (level.chains text).Pairwise level.Precedes := by
  induction hn : text.length using Nat.strongRecOn generalizing level text with
  | ind n ih =>
    have hsib : (level.answering text).Pairwise fun a b => [a, b] <+ level.commands :=
      List.pairwise_of_forall_sublist fun h => h.trans (level.answering_sublist text)
    rw [chains_eq, List.pairwise_append, List.pairwise_flatMap, List.pairwise_map]
    refine ⟨⟨fun c hc => ?_, hsib.imp fun hab x hx y hy => ?_⟩, hsib.imp .stop, ?_⟩
    · have hlt := length_splitTrigger (splitTrigger_ne_nil_of_answering hc)
      rw [List.pairwise_map]
      exact (ih _ (hn ▸ hlt) c.subcommands _ rfl).imp .inside
    · obtain ⟨x, _, rfl⟩ := List.mem_map.mp hx
      obtain ⟨y, _, rfl⟩ := List.mem_map.mp hy
      exact .sibling hab
    · intro x hx y hy
      obtain ⟨c, _, hx⟩ := List.mem_flatMap.mp hx
      obtain ⟨x, _, rfl⟩ := List.mem_map.mp hx
      obtain ⟨b, _, rfl⟩ := List.mem_map.mp hy
      exact .deeper

theorem answering_eq_nil_iff {level : Level (Command H)} {text : List Char} :
    level.answering text = [] ↔ ∀ chain, ¬ level.Follows text chain := by
  constructor
  · intro h chain hc
    rw [← mem_chains, chains_of_answering_eq_nil h] at hc
    exact List.not_mem_nil hc
  · intro h
    exact List.eq_nil_iff_forall_not_mem.mpr fun c hc => h _ (.stop hc)

theorem resolveUnder_eq_noMatch_iff {parent? : Option String} {level : Level (Command H)}
    {text : List Char} {env : Environment} :
    level.resolveUnder parent? text env = .noMatch ↔ level.answering text = [] := by
  rw [resolveUnder, answering]
  split
  · simp
  · simp only
    split
    · simp_all
    · rename_i first others hfound
      rw [hfound]
      split
      · simp
      · split <;> simp

/-- What the levels below the candidates come to, when it is known what each of them comes to. -/
theorem findSome?_below {resolved : Command H → Resolution H} {fits : Chain H → Option (Fit H)}
    {rest : List Char}
    (h : ∀ c, (resolved c).fit? =
      (c.subcommands.chains rest).findSome? fun chain => fits (chain.under c))
    (found : List (Command H)) :
    ((found.filter (!·.subcommands.isEmpty)).map resolved).findSome? (·.fit?) =
      (found.flatMap fun c => (c.subcommands.chains rest).map (Chain.under c)).findSome? fits := by
  induction found with
  | nil => rfl
  | cons c found ih =>
    have hc : ((c.subcommands.chains rest).map (Chain.under c)).findSome? fits =
        (resolved c).fit? := by
      rw [h, List.findSome?_map]
      rfl
    rw [List.flatMap_cons, List.findSome?_append, ← ih, hc]
    by_cases he : c.subcommands.isEmpty = true
    · have hnone : (resolved c).fit? = none := by
        rw [h, chains_of_answering_eq_nil (answering_of_isEmpty he rest)]
        rfl
      rw [List.filter_cons_of_neg (by simp [he]), hnone, Option.none_or]
    · rw [List.filter_cons_of_pos (by simp [he]), List.map_cons, List.findSome?_cons]
      cases (resolved c).fit? <;> rfl

/-- What resolution finds below a level comes before what it finds on the level. -/
theorem fit?_resolveUnder_of_word (parent? : Option String) (level : Level (Command H))
    {text : List Char} (hw : (splitTrigger text).1 ≠ []) (env : Environment) :
    (level.resolveUnder parent? text env).fit? =
      ((((level.answering text).filter (!·.subcommands.isEmpty)).map fun c =>
          c.subcommands.resolveUnder
            (some (typedPath parent? (String.ofList (splitTrigger text).1)))
            (splitTrigger text).2 env).findSome? (·.fit?)).or
        ((level.answering text).findSome? (·.fit?
          (typedPath parent? (String.ofList (splitTrigger text).1)) (splitTrigger text).2
          env)) := by
  rw [resolveUnder, dif_neg hw, answering, if_neg hw]
  simp only
  split
  · rename_i hfound
    simp [hfound, Resolution.fit?]
  · rename_i first others hfound
    rw [hfound]
    split
    · rename_i fit hfit
      rw [hfit]
      rfl
    · rename_i hnone
      rw [hnone, Option.none_or]
      split
      · rename_i fit hfit
        rw [hfit]
        rfl
      · rename_i hself
        rw [hself]
        rfl

/-- Resolution finds what fits the first of the chains that fit. -/
theorem fit?_resolveUnder (parent? : Option String) (level : Level (Command H)) (text : List Char)
    (env : Environment) :
    (level.resolveUnder parent? text env).fit? =
      (level.chains text).findSome? (·.fitUnder? parent? text env) := by
  induction hn : text.length using Nat.strongRecOn generalizing parent? level text with
  | ind n ih =>
    by_cases hw : (splitTrigger text).1 = []
    · have ha : level.answering text = [] := if_pos hw
      rw [resolveUnder_eq_noMatch_iff.mpr ha, chains_of_answering_eq_nil ha]
      rfl
    · have hsub (c : Command H) : (c.subcommands.resolveUnder
            (some (typedPath parent? (String.ofList (splitTrigger text).1))) (splitTrigger text).2
            env).fit? =
          (c.subcommands.chains (splitTrigger text).2).findSome? fun chain =>
            (chain.under c).fitUnder? parent? text env := by
        rw [ih _ (hn ▸ length_splitTrigger hw) _ c.subcommands _ rfl]
        simp only [Chain.fitUnder?_under hw]
      -- The commands of the level are the chains that stop there.
      have hhere : (level.answering text).findSome? (·.fit?
            (typedPath parent? (String.ofList (splitTrigger text).1)) (splitTrigger text).2 env) =
          ((level.answering text).map (⟨[], ·⟩)).findSome? (Chain.fitUnder? parent? text env) := by
        rw [List.findSome?_map]
        congr 1
        funext c
        exact (Chain.fitUnder?_stop hw parent? env c).symm
      rw [fit?_resolveUnder_of_word parent? level hw, findSome?_below hsub, hhere, chains_eq,
        List.findSome?_append]

end Level

end ChatCommands
