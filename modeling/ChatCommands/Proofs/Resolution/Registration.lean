import ChatCommands.Proofs.Catalog.Answering
import ChatCommands.Proofs.Command.Fit

/-! # Commands added later

A command is tried after all that were registered before it. One without sub-commands takes no
message from another command. It gets only messages that fitted none before.
-/

namespace ChatCommands

open Text

variable {H : Type}

namespace Level

/-- What becomes of a text when some commands answer to its first word: first what was found below
them counts, then the commands themselves. -/
def choose (found : List (Command H)) (below : List (Resolution H)) (trigger : String)
    (rest : List Char) (env : Environment) : Resolution H :=
  match (below.findSome? (·.fit?)).or (found.findSome? (·.fit? trigger rest env)) with
  | some fit => .matched fit
  | none =>
    match (below.findSome? (·.reported?)).or found.head? with
    | some reported => .invalid reported
    | none => .noMatch

/-- What is found below the commands that answer to the first word of a text. -/
def below (found : List (Command H)) (text : List Char) (env : Environment) :
    List (Resolution H) :=
  (found.filter (!·.subcommands.isEmpty)).map fun c =>
    c.subcommands.resolveUnder (some (String.ofList (splitTrigger text).1)) (splitTrigger text).2
      env

theorem resolve_eq_choose {level : Level (Command H)} {text : List Char}
    (hword : (splitTrigger text).1 ≠ []) (env : Environment) :
    level.resolve text env =
      choose (level.candidates (String.ofList (splitTrigger text).1))
        (below (level.candidates (String.ofList (splitTrigger text).1)) text env)
        (String.ofList (splitTrigger text).1) (splitTrigger text).2 env := by
  rw [resolve, resolveUnder, dif_neg hword]
  simp only [typedPath]
  split
  · rename_i hnone
    rw [hnone]
    rfl
  · rename_i first others hfound
    rw [hfound, choose, ← below]
    cases (below (first :: others) text env).findSome? (·.fit?) with
    | some fit => rfl
    | none =>
      cases (first :: others).findSome? (·.fit? (String.ofList (splitTrigger text).1)
          (splitTrigger text).2 env) with
      | some fit => rfl
      | none =>
        cases (below (first :: others) text env).findSome? (·.reported?) with
        | some reported => rfl
        | none => rfl

theorem below_append_leaf (found : List (Command H)) {c : Command H}
    (hleaf : c.subcommands.isEmpty = true) (text : List Char) (env : Environment) :
    below (found ++ [c]) text env = below found text env := by
  simp [below, hleaf]

/-- A command that answers last gets what fits no other. -/
theorem choose_append (found : List (Command H)) (below : List (Resolution H)) (c : Command H)
    (trigger : String) (rest : List Char) (env : Environment) :
    choose (found ++ [c]) below trigger rest env =
      match choose found below trigger rest env with
      | .matched fit => .matched fit
      | .invalid reported => (c.fit? trigger rest env).elim (.invalid reported) .matched
      | .noMatch => (c.fit? trigger rest env).elim (.invalid c) .matched := by
  have hlast : (found ++ [c]).findSome? (·.fit? trigger rest env) =
      (found.findSome? (·.fit? trigger rest env)).or (c.fit? trigger rest env) := by
    simp [List.findSome?_append]
  rw [choose, choose, hlast, ← Option.or_assoc, List.head?_append, List.head?_singleton,
    ← Option.or_assoc]
  cases (below.findSome? (·.fit?)).or (found.findSome? (·.fit? trigger rest env)) with
  | some fit => rfl
  | none =>
    cases (below.findSome? (·.reported?)).or found.head? <;>
      cases c.fit? trigger rest env <;> rfl

end Level

namespace Catalog

variable {catalog : Catalog H} {c : Command H}

/-- A text is resolved as before, or the new command is tried after all others. -/
theorem Registered.resolve_register (h : catalog.Registered)
    (hleaf : c.subcommands.isEmpty = true) (text : List Char) (env : Environment) :
    (catalog.register c).resolve text env = catalog.resolve text env ∨
      ∃ trigger rest, (catalog.register c).resolve text env =
        match catalog.resolve text env with
        | .matched fit => .matched fit
        | .invalid reported => (c.fit? trigger rest env).elim (.invalid reported) .matched
        | .noMatch => (c.fit? trigger rest env).elim (.invalid c) .matched := by
  by_cases hword : (splitTrigger text).1 = []
  · left
    simp [resolve, Level.resolve, Level.resolveUnder, hword]
  · have hcandidates := h.candidates_register c (String.ofList (splitTrigger text).1)
    rw [resolve, resolve, Level.resolve_eq_choose hword, Level.resolve_eq_choose hword,
      hcandidates]
    cases c.answersTo (String.ofList (splitTrigger text).1) with
    | false =>
      left
      rw [if_neg Bool.false_ne_true, List.append_nil]
    | true =>
      right
      refine ⟨String.ofList (splitTrigger text).1, (splitTrigger text).2, ?_⟩
      rw [if_pos rfl, Level.below_append_leaf _ hleaf, Level.choose_append]

/-- A top-level command without sub-commands takes no message from the commands that were there
before it, whatever its names are. A message that fitted is resolved as before. One that was refused
is refused as before or fits the new command, and one that was for no command may be refused by it
besides. -/
theorem registered_later_takes_no_message (h : catalog.Registered)
    (hleaf : c.subcommands.isEmpty = true) (text : List Char) (env : Environment) :
    (∀ fit, catalog.resolve text env = .matched fit →
      (catalog.register c).resolve text env = .matched fit) ∧
    (∀ reported, catalog.resolve text env = .invalid reported →
      (catalog.register c).resolve text env = .invalid reported ∨
      ∃ fit, fit.command = c ∧ (catalog.register c).resolve text env = .matched fit) ∧
    (catalog.resolve text env = .noMatch →
      (catalog.register c).resolve text env = .noMatch ∨
      (catalog.register c).resolve text env = .invalid c ∨
      ∃ fit, fit.command = c ∧ (catalog.register c).resolve text env = .matched fit) := by
  rcases h.resolve_register hleaf text env with hsame | ⟨trigger, rest, hresolve⟩
  · rw [hsame]
    exact ⟨fun fit => id, fun reported => Or.inl, Or.inl⟩
  · refine ⟨?_, ?_, ?_⟩
    · intro fit hbefore
      rw [hresolve, hbefore]
    · intro reported hbefore
      rw [hbefore] at hresolve
      cases hfit : c.fit? trigger rest env with
      | none => exact Or.inl (by rw [hresolve, hfit]; rfl)
      | some fit =>
        exact Or.inr ⟨fit, (Command.fit?_command hfit).1, by rw [hresolve, hfit]; rfl⟩
    · intro hbefore
      rw [hbefore] at hresolve
      cases hfit : c.fit? trigger rest env with
      | none => exact Or.inr (Or.inl (by rw [hresolve, hfit]; rfl))
      | some fit =>
        exact Or.inr (Or.inr ⟨fit, (Command.fit?_command hfit).1, by rw [hresolve, hfit]; rfl⟩)

/-- Counts, under a name whose letter case matters. -/
def count : Command Unit where
  trigger := "say"
  caseSensitive := true
  parameters := [{ name := "number", kind := .integer }]
  handler? := some ()
  id := [0]
  path := "say"
  usage := "say <number>"
  category? := none
  subcommands := {}

/-- Repeats a word, and shares one of its names with `count`. -/
def repeatWord : Command Unit where
  trigger := "repeat"
  aliases := ["SAY"]
  parameters := [{ name := "word", kind := .word }]
  handler? := some ()
  id := [1]
  path := "repeat"
  usage := "repeat <word>"
  category? := none
  subcommands := {}

theorem registered_later_takes_no_message_say :
    let catalog : Catalog Unit := ({} : Catalog Unit).register count
    let env : Environment := ⟨{}, Conversions.standard, false⟩
    catalog.Registered ∧ repeatWord.subcommands.isEmpty = true ∧
    ((catalog.resolve "say hello".toList env).reported?.isSome = true ∧
      ((catalog.register repeatWord).resolve "say hello".toList env).fit?.isSome = true) ∧
    (∀ fit, catalog.resolve "say hello".toList env = .matched fit →
      (catalog.register repeatWord).resolve "say hello".toList env = .matched fit) ∧
    (∀ reported, catalog.resolve "say hello".toList env = .invalid reported →
      (catalog.register repeatWord).resolve "say hello".toList env = .invalid reported ∨
      ∃ fit, fit.command = repeatWord ∧
        (catalog.register repeatWord).resolve "say hello".toList env = .matched fit) ∧
    (catalog.resolve "say hello".toList env = .noMatch →
      (catalog.register repeatWord).resolve "say hello".toList env = .noMatch ∨
      (catalog.register repeatWord).resolve "say hello".toList env = .invalid repeatWord ∨
      ∃ fit, fit.command = repeatWord ∧
        (catalog.register repeatWord).resolve "say hello".toList env = .matched fit) := by
  intro catalog env
  have hregistered : catalog.Registered := .register count .empty
  refine ⟨hregistered, rfl, ⟨by decide +kernel, by decide +kernel⟩, ?_⟩
  exact registered_later_takes_no_message hregistered rfl "say hello".toList env

end Catalog

end ChatCommands
