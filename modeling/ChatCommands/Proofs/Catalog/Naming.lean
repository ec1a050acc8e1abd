import ChatCommands.Proofs.Catalog.Tree
import ChatCommands.Proofs.Text.LetterCase

/-! # The names of a command

A command goes by its trigger and its aliases, in any letter case unless its own counts. A level
finds just the commands that go by a token, however their names collide in its index.
-/

namespace ChatCommands

open Text

variable {H : Type}

namespace Signature

/-- The token is a name of the command, up to letter case unless the case counts. -/
def GoesBy (s : Signature H) (token : String) : Prop :=
  ∃ name ∈ s.names, if s.caseSensitive then name = token else lowercase name = lowercase token

instance (s : Signature H) (token : String) : Decidable (s.GoesBy token) :=
  inferInstanceAs (Decidable (∃ name ∈ s.names, _))

variable {s : Signature H} {token : String}

theorem contains_keys_iff :
    s.keys.contains token = true ↔ ∃ name ∈ s.names, s.normalize name = token := by
  rw [List.contains_iff_mem, keys, List.mem_eraseDups, List.mem_map]

/-- The index serves the names: an exact look-up and one for the lower-case form find what goes by
the token. -/
theorem answersTo_iff : s.answersTo token = true ↔ s.GoesBy token := by
  rw [answersTo, Bool.or_eq_true, Bool.and_eq_true, Bool.and_eq_true, contains_keys_iff,
    contains_keys_iff, GoesBy]
  cases hcase : s.caseSensitive with
  | true => simp [normalize, hcase]
  | false =>
    simp only [normalize, hcase, Bool.false_eq_true, if_false, Bool.not_false, and_true,
      bne_iff_ne]
    constructor
    · rintro (⟨name, hname, rfl⟩ | ⟨-, hfolded⟩)
      · exact ⟨name, hname, (lowercase_lowercase name).symm⟩
      · exact hfolded
    · rintro ⟨name, hname, hlower⟩
      by_cases htoken : lowercase token = token
      · exact Or.inl ⟨name, hname, hlower.trans htoken⟩
      · exact Or.inr ⟨htoken, name, hname, hlower⟩

end Signature

namespace Level

theorem indexed_foldl_insert {level : Level (Command H)} (h : level.Indexed)
    (cs : List (Command H)) : (cs.foldl insert level).Indexed := by
  induction cs generalizing level with
  | nil => exact h
  | cons c cs ih => exact ih (h.insert c)

theorem indexed_ofList (cs : List (Command H)) : (ofList cs).Indexed :=
  indexed_foldl_insert indexed_empty cs

/-- After any insertions, the candidates for a token are the commands that go by it, in the order
in which they were inserted and each insertion once. -/
theorem candidates_of_insertions (commands : List (Command H)) (token : String) :
    (commands.foldl insert {}).candidates token =
      commands.filter fun c => decide (c.GoesBy token) := by
  have hcommands : (commands.foldl insert {}).commands = commands := commands_ofList commands
  rw [(indexed_foldl_insert indexed_empty commands).candidates_eq, hcommands]
  refine List.filter_congr fun c _ => ?_
  rw [Bool.eq_iff_iff, decide_eq_true_iff, Signature.answersTo_iff]

end Level

end ChatCommands
