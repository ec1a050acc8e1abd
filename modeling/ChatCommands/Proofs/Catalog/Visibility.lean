import ChatCommands.Proofs.Catalog.Tree

/-! # Who may see a command

A listing leaves out all that is below a command which its caller may not use. So it shows just the
invocable commands to which a chain of usable commands leads.
-/

namespace ChatCommands

variable {H : Type}

/-- Nothing about the command itself keeps it from a caller, permissions aside. -/
structure Command.OpenTo (c : Command H) (ctx : Context) (developer : Bool) : Prop where
  shown : c.hidden = false
  allowed : c.developerOnly = true → developer = true
  triggerable : c.isTriggerableIn ctx = true

/-- The caller may use each command of the chain, and the last one can be invoked. -/
structure Chain.OpenTo (chain : Chain H) (ctx : Context) (developer : Bool) : Prop where
  above : ∀ b ∈ chain.above, b.OpenTo ctx developer
  last : chain.last.OpenTo ctx developer
  invocable : chain.last.isInvocable = true

variable {ctx : Context} {developer : Bool}

namespace Command

theorem openTo_iff {c : Command H} : c.OpenTo ctx developer ↔
    (c.hidden || (c.developerOnly && !developer) || !c.isTriggerableIn ctx) = false := by
  simp only [Bool.or_eq_false_iff, Bool.and_eq_false_imp, Bool.not_eq_false']
  constructor
  · rintro ⟨hshown, hallowed, htriggerable⟩
    exact ⟨⟨hshown, hallowed⟩, htriggerable⟩
  · rintro ⟨⟨hshown, hallowed⟩, htriggerable⟩
    exact ⟨hshown, hallowed, htriggerable⟩

/-- A command that is not open hides itself and all that is below it. -/
theorem visible_eq (ctx : Context) (developer : Bool) (c : Command H) :
    (c.OpenTo ctx developer ∧ c.visible ctx developer =
      (if c.isInvocable then [c] else []) ++ allVisible ctx developer c.subcommands.commands) ∨
    (¬ c.OpenTo ctx developer ∧ c.visible ctx developer = []) := by
  rw [openTo_iff]
  obtain ⟨signature, id, path, usage, category?, commands, index⟩ := c
  rw [visible]
  split
  · rename_i h
    exact Or.inr ⟨fun hopen => Bool.false_ne_true (hopen.symm.trans h), rfl⟩
  · rename_i h
    exact Or.inl ⟨eq_false_of_ne_true h, rfl⟩

theorem mem_allVisible {cs : List (Command H)} {b : Command H} :
    b ∈ allVisible ctx developer cs ↔ ∃ c ∈ cs, b ∈ c.visible ctx developer := by
  induction cs with
  | nil => simp [allVisible]
  | cons c cs ih => simp [allVisible, ih]

mutual

theorem exists_chain_of_mem_visible {b : Command H} :
    ∀ (c : Command H), b ∈ c.visible ctx developer → ∀ level : Level (Command H),
      c ∈ level.commands → ∃ chain, level.Holds chain ∧ chain.last = b ∧ chain.OpenTo ctx developer
  | ⟨signature, id, path, usage, category?, commands, index⟩, hb, level, hc => by
    obtain ⟨hopen, heq⟩ | ⟨-, heq⟩ := visible_eq ctx developer
      ⟨signature, id, path, usage, category?, commands, index⟩
    · rw [heq, List.mem_append] at hb
      rcases hb with hb | hb
      · split at hb
        · rename_i hinvocable
          obtain rfl := List.mem_singleton.mp hb
          exact ⟨_, .top hc, rfl, by simp, hopen, hinvocable⟩
        · cases hb
      · obtain ⟨chain, hchain, hlast, habove, hopen', hinvocable⟩ :=
          exists_chain_of_mem_allVisible commands hb ⟨commands, index⟩ (List.Subset.refl _)
        refine ⟨_, .down hc hchain, hlast, ?_, hopen', hinvocable⟩
        rintro a (_ | ⟨_, ha⟩)
        · exact hopen
        · exact habove a ha
    · rw [heq] at hb
      cases hb

theorem exists_chain_of_mem_allVisible {b : Command H} :
    ∀ (cs : List (Command H)), b ∈ allVisible ctx developer cs → ∀ level : Level (Command H),
      cs ⊆ level.commands →
      ∃ chain, level.Holds chain ∧ chain.last = b ∧ chain.OpenTo ctx developer
  | [], hb, _, _ => by
    cases hb
  | c :: cs, hb, level, hcs => by
    rw [allVisible, List.mem_append] at hb
    rcases hb with hb | hb
    · exact exists_chain_of_mem_visible c hb level (hcs List.mem_cons_self)
    · exact exists_chain_of_mem_allVisible cs hb level fun a ha => hcs (List.mem_cons_of_mem _ ha)

end

end Command

namespace Level

theorem Holds.last_mem_allVisible {level : Level (Command H)} {chain : Chain H}
    (h : level.Holds chain) (hopen : chain.OpenTo ctx developer) :
    chain.last ∈ Command.allVisible ctx developer level.commands := by
  induction h with
  | @top level c hc =>
    refine Command.mem_allVisible.mpr ⟨c, hc, ?_⟩
    obtain ⟨-, heq⟩ | ⟨hnot, -⟩ := c.visible_eq ctx developer
    · have hinvocable : c.isInvocable = true := hopen.invocable
      simp [heq, hinvocable]
    · exact absurd hopen.last hnot
  | @down level b chain hb _ ih =>
    refine Command.mem_allVisible.mpr ⟨b, hb, ?_⟩
    have hbelow := ih
      ⟨fun a ha => hopen.above a (List.mem_cons_of_mem _ ha), hopen.last, hopen.invocable⟩
    obtain ⟨-, heq⟩ | ⟨hnot, -⟩ := b.visible_eq ctx developer
    · rw [heq, List.mem_append]
      exact Or.inr hbelow
    · exact absurd (hopen.above b List.mem_cons_self) hnot

end Level

namespace Catalog

/-- A listing shows just the commands to which an open chain leads. -/
theorem mem_visibleTo_iff {catalog : Catalog H} {c : Command H} :
    c ∈ catalog.visibleTo ctx developer ↔
      ∃ chain, catalog.root.Holds chain ∧ chain.last = c ∧ chain.OpenTo ctx developer := by
  constructor
  · intro hc
    exact Command.exists_chain_of_mem_allVisible _ hc catalog.root (List.Subset.refl _)
  · rintro ⟨chain, hchain, rfl, hopen⟩
    exact hchain.last_mem_allVisible hopen

end Catalog

end ChatCommands
