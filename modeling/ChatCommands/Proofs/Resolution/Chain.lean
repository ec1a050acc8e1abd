import ChatCommands.Catalog
import ChatCommands.Proofs.Catalog.Positions
import ChatCommands.Proofs.Text.Words

/-! # Chains of commands

The first words of a text lead down a command tree along chains of commands. Each chain ends in a
command for which the rest of the text may be meant, and a catalog finds just these commands under
the words that lead to them.
-/

namespace ChatCommands

open Text
open scoped List

variable {H : Type}

/-- A command with the commands above it, from the top level down. -/
structure Chain (H : Type) where
  above : List (Command H)
  last : Command H

namespace Chain

/-- The number of words that lead to the last command. -/
def depth (chain : Chain H) : Nat :=
  chain.above.length + 1

def under (c : Command H) (chain : Chain H) : Chain H :=
  ⟨c :: chain.above, chain.last⟩

@[simp] theorem depth_under (c : Command H) (chain : Chain H) :
    (chain.under c).depth = chain.depth + 1 := rfl

@[simp] theorem last_under (c : Command H) (chain : Chain H) :
    (chain.under c).last = chain.last := rfl

end Chain

/-- The text after its first words. -/
def afterWords : Nat → List Char → List Char
  | 0, text => text
  | n + 1, text => afterWords n (splitTrigger text).2

namespace Level

/-- The commands of a level that answer to the first word of a text. -/
def answering (level : Level (Command H)) (text : List Char) : List (Command H) :=
  if (splitTrigger text).1 = [] then [] else level.candidates (String.ofList (splitTrigger text).1)

/-- Each command of the chain answers to its word of the text, on the level below the one before. -/
inductive Follows : Level (Command H) → List Char → Chain H → Prop
  | stop {level : Level (Command H)} {text : List Char} {c : Command H} :
      c ∈ level.answering text → Follows level text ⟨[], c⟩
  | down {level : Level (Command H)} {text : List Char} {b : Command H} {chain : Chain H} :
      b ∈ level.answering text → Follows b.subcommands (splitTrigger text).2 chain →
      Follows level text (chain.under b)

/-- All that is below the commands of a level comes before these commands themselves, and siblings
come in registration order. -/
inductive Precedes : Level (Command H) → Chain H → Chain H → Prop
  | deeper {level : Level (Command H)} {a b c : Command H} {as : List (Command H)} :
      Precedes level ⟨a :: as, c⟩ ⟨[], b⟩
  | stop {level : Level (Command H)} {a b : Command H} :
      [a, b] <+ level.commands → Precedes level ⟨[], a⟩ ⟨[], b⟩
  | sibling {level : Level (Command H)} {a b : Command H} {A B : Chain H} :
      [a, b] <+ level.commands → Precedes level (A.under a) (B.under b)
  | inside {level : Level (Command H)} {a : Command H} {A B : Chain H} :
      Precedes a.subcommands A B → Precedes level (A.under a) (B.under a)

theorem answering_sublist (level : Level (Command H)) (text : List Char) :
    level.answering text <+ level.commands := by
  unfold answering
  split
  · exact List.nil_sublist _
  · exact level.candidates_sublist _

theorem answering_of_isEmpty {level : Level (Command H)} (h : level.isEmpty = true)
    (text : List Char) : level.answering text = [] := by
  have hs := level.answering_sublist text
  rw [List.isEmpty_iff.mp h] at hs
  exact List.sublist_nil.mp hs

theorem splitTrigger_ne_nil_of_answering {level : Level (Command H)} {text : List Char}
    {c : Command H} (h : c ∈ level.answering text) : (splitTrigger text).1 ≠ [] := by
  intro hn
  simp [answering, hn] at h

theorem Follows.words_eq {level : Level (Command H)} {text : List Char} {chain : Chain H}
    (h : level.Follows text chain) :
    words text = (splitTrigger text).1 :: words (splitTrigger text).2 := by
  cases h with
  | stop hc => exact words_splitTrigger (splitTrigger_ne_nil_of_answering hc)
  | down hb _ => exact words_splitTrigger (splitTrigger_ne_nil_of_answering hb)

theorem Follows.depth_le {level : Level (Command H)} {text : List Char} {chain : Chain H}
    (h : level.Follows text chain) : chain.depth ≤ (words text).length := by
  induction h with
  | stop hc =>
    rw [(Follows.stop hc).words_eq]
    simp [Chain.depth]
  | down hb h ih =>
    rw [(Follows.down hb h).words_eq]
    simpa using ih

end Level

namespace Catalog

/-- The commands that are left after each further word of a path. -/
def narrow (found : List (Command H)) (rest : List (List Char)) : List (Command H) :=
  rest.foldl (fun found word => found.flatMap (·.subcommands.candidates (String.ofList word))) found

theorem narrow_cons (found : List (Command H)) (word : List Char) (rest : List (List Char)) :
    narrow found (word :: rest) =
      narrow (found.flatMap (·.subcommands.candidates (String.ofList word))) rest := rfl

theorem narrow_mono {found more : List (Command H)} (h : found ⊆ more) (rest : List (List Char)) :
    narrow found rest ⊆ narrow more rest := by
  induction rest generalizing found more with
  | nil => exact h
  | cons word rest ih =>
    apply ih
    intro c hc
    obtain ⟨b, hb, hc⟩ := List.mem_flatMap.mp hc
    exact List.mem_flatMap.mpr ⟨b, h hb, hc⟩

theorem last_mem_narrow {level : Level (Command H)} {text : List Char} {chain : Chain H}
    (h : level.Follows text chain) :
    chain.last ∈ narrow (level.candidates (String.ofList (splitTrigger text).1))
      ((words (splitTrigger text).2).take chain.above.length) := by
  induction h with
  | @stop level text c hc =>
    have hw := Level.splitTrigger_ne_nil_of_answering hc
    simpa [Level.answering, hw, narrow] using hc
  | @down level text b chain hb h ih =>
    have hw := Level.splitTrigger_ne_nil_of_answering hb
    have hb' : b ∈ level.candidates (String.ofList (splitTrigger text).1) := by
      simpa [Level.answering, hw] using hb
    simp only [Chain.under, List.length_cons, h.words_eq, List.take_succ_cons, narrow_cons]
    exact narrow_mono (fun c hc => List.mem_flatMap.mpr ⟨b, hb', hc⟩) _ ih

end Catalog

/-- The words typed are the words of the joined text. -/
theorem words_typed (text : List Char) (n : Nat) :
    words (" ".intercalate (((words text).take n).map String.ofList)).toList =
      (words text).take n := by
  simp only [String.toList_intercalate, List.map_map, Function.comp_def, String.toList_ofList]
  simpa using words_intercalate fun w hw => isWord_of_mem_words (List.mem_of_mem_take hw)

namespace Catalog

/-- The command at the end of a chain is found under the words that lead to it. -/
theorem last_mem_find {catalog : Catalog H} {text : List Char} {chain : Chain H}
    (h : catalog.root.Follows text chain) :
    chain.last ∈ catalog.find
      (" ".intercalate (((words text).take chain.depth).map String.ofList)) := by
  rw [find, words_typed, h.words_eq, Chain.depth, List.take_succ_cons]
  exact last_mem_narrow h

end Catalog

end ChatCommands
