import ChatCommands.Command.Fit

/-! # What fits a command

A text fits a command exactly when its parameters can be bound, its switches can be read behind
them, and the command allows what is left over.
-/

namespace ChatCommands

open Text

variable {H : Type}

theorem Parameter.taken_eq_trimEnd {before piece after : List Char}
    (h : trimStart before = piece ++ after) :
    taken before after = String.ofList (trimEnd piece) := by
  simp only [taken, h, List.length_append, Nat.add_sub_cancel, List.take_left]

namespace Command

section Sections

variable {c : Command H} {text : List Char}

theorem sections_of_cut {cut : List Char × List Char}
    (h : Switch.cut? c.switches text = some cut) : c.sections text = cut := by
  rw [sections, h, Option.getD_some]

theorem sections_of_no_cut (h : Switch.cut? c.switches text = none) :
    c.sections text = (text, []) := by
  rw [sections, h, Option.getD_none]

end Sections

theorem fit?_eq_some_iff {c : Command H} {trigger : String} {text : List Char} {env : Environment}
    {fit : Fit H} :
    c.fit? trigger text env = some fit ↔
      c.isInvocable = true ∧ ∃ arguments leftover switches overflow,
        Parameter.arguments? env false (c.sections text).1 c.parameters =
          some (arguments, leftover) ∧
        Switch.read c.switches c.unknown env.developer
          (trim leftover ++ ' ' :: trim (c.sections text).2) = .ok (switches, overflow) ∧
        (isBlank overflow = true ∨ c.overflow = .ignore) ∧
        fit = ⟨c, trigger, arguments, switches⟩ := by
  have hpolicy : ∀ p : OverflowPolicy, (p == .fail) = false ↔ p = .ignore := by
    intro p
    cases p <;> decide
  unfold fit?
  constructor
  · intro h
    split at h
    · simp at h
    · rename_i hi
      simp only at h
      split at h
      · simp at h
      · rename_i arguments leftover hargs
        split at h
        · simp at h
        · rename_i switches overflow hread
          split at h
          · simp at h
          · rename_i hover
            refine ⟨by simpa using hi, arguments, leftover, switches, overflow, hargs, hread, ?_,
              (Option.some.inj h).symm⟩
            cases hb : isBlank overflow
            · exact Or.inr ((hpolicy _).mp (by simpa [hb] using hover))
            · exact Or.inl rfl
  · rintro ⟨hi, arguments, leftover, switches, overflow, hargs, hread, hover, rfl⟩
    have hno : (!isBlank overflow && c.overflow == .fail) = false := by
      rcases hover with hb | ho
      · simp [hb]
      · simp [(hpolicy _).mpr ho]
    simp [hi, hargs, hread, hno]

theorem fit?_command {c : Command H} {trigger : String} {text : List Char} {env : Environment}
    {fit : Fit H} (h : c.fit? trigger text env = some fit) :
    fit.command = c ∧ fit.trigger = trigger ∧ c.isInvocable = true := by
  obtain ⟨hi, _, _, _, _, _, _, _, rfl⟩ := fit?_eq_some_iff.mp h
  exact ⟨rfl, rfl, hi⟩

end Command

end ChatCommands
