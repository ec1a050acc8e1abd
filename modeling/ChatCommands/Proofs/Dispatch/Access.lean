import Mathlib
import ChatCommands.Proofs.Catalog.Visibility
import ChatCommands.Proofs.Dispatch.Stages

/-! # Listing and running

A listing looks at all commands above the one it shows, a dispatch at none of them. So a command
that was run is listed exactly when it is not hidden and all commands above it are open to the
caller, and a caller may run what lies below a command that is closed to them.
-/

namespace ChatCommands

variable {H : Type}

namespace Dispatcher

variable {d : Dispatcher H} {now : Nat} {cooldowns : CooldownTable} {m : Message}

/-- The gates look at developers and at the location, but not at whether a command is hidden. -/
theorem openTo_iff_of_refusal? {c : Command H} {ctx : Context} (h : d.refusal? c ctx = none) :
    c.OpenTo ctx (d.isDeveloper ctx) ↔ c.hidden = false := by
  constructor
  · intro hopen
    exact hopen.shown
  · intro hshown
    unfold refusal? at h
    split at h
    · cases h
    · rename_i htriggerable
      split at h
      · cases h
      · split at h
        · cases h
        · rename_i hallowed
          refine ⟨hshown, ?_, by simpa using htriggerable⟩
          simpa using hallowed

/-- What is run is listed exactly when it is not hidden and nothing above it is closed to the
caller. In a catalog filled with definitions, only the commands that the message names are above. -/
theorem visible_iff_of_run {c : Command H} {invocation : Invocation}
    (h : (d.decide now cooldowns m).1 = .run c invocation) :
    ∃ leadIn rest chain, d.leadIns.strip? m.text.toList m.context = some (leadIn, rest) ∧
      d.catalog.root.Follows rest chain ∧ chain.last = c ∧
      (c ∈ d.visibleCommands m.context ↔ ∃ way, d.catalog.root.Holds way ∧ way.last = c ∧
        c.hidden = false ∧ ∀ b ∈ way.above, b.OpenTo m.context (d.isDeveloper m.context)) ∧
      (d.catalog.Built → (c ∈ d.visibleCommands m.context ↔
        c.hidden = false ∧ ∀ b ∈ chain.above, b.OpenTo m.context (d.isDeveloper m.context))) := by
  obtain ⟨fit, hfit, rfl, hrefusal, -⟩ := exists_fit_of_run h
  obtain ⟨leadIn, rest, hstrip, hres⟩ := fit?_eq_some_iff.mp hfit
  obtain ⟨chain, hfollows, hchain, -⟩ := Catalog.exists_chain_of_matched hres
  have hlast : fit.command = chain.last := (chain.command_of_fit? hchain).1
  have hlisted : fit.command ∈ d.visibleCommands m.context ↔
      ∃ way, d.catalog.root.Holds way ∧ way.last = fit.command ∧ fit.command.hidden = false ∧
        ∀ b ∈ way.above, b.OpenTo m.context (d.isDeveloper m.context) := by
    rw [visibleCommands, Catalog.mem_visibleTo_iff]
    constructor
    · rintro ⟨way, hway, hend, hopen⟩
      exact ⟨way, hway, hend, hend ▸ hopen.last.shown, hopen.above⟩
    · rintro ⟨way, hway, hend, hshown, habove⟩
      refine ⟨way, hway, hend, habove, ?_, ?_⟩
      · rw [hend]
        exact (openTo_iff_of_refusal? hrefusal).mpr hshown
      · rw [hend]
        exact isInvocable_of_fit? hfit
  refine ⟨leadIn, rest, chain, hstrip, hfollows, hlast.symm, hlisted, fun hbuilt => ?_⟩
  -- In such a catalog no other way leads to the command.
  rw [hlisted]
  constructor
  · rintro ⟨way, hway, hend, hshown, habove⟩
    have hsame : way = chain :=
      hbuilt.placed.chain_unique hway hfollows.holds (by rw [hend, hlast])
    exact ⟨hshown, hsame ▸ habove⟩
  · rintro ⟨hshown, habove⟩
    exact ⟨chain, hfollows.holds, hlast.symm, hshown, habove⟩

/-- A group for developers, with a sub-command that does not say so itself. -/
def staffGroup : Definition Unit where
  trigger := "g"
  developerOnly := true
  subcommands := [{ trigger := "s", handler? := some () }]

/-- The group and nothing else, for an agent without developers. -/
def staffed : Dispatcher Unit where
  catalog := ((({} : Catalog Unit).define staffGroup).toOption).getD {}
  conversions := .none
  leadIns := { optionalInPrivate := true }
  developers := []
  execution := .inline
  permissions := .lenient

theorem built_staffed : staffed.catalog.Built :=
  Catalog.Built.empty.attempt staffGroup none

theorem exists_run_staffed : ∃ c invocation,
    (staffed.decide 0 [] ⟨"g s", {}⟩).1 = .run c invocation := by
  have hrun : ((staffed.decide 0 [] ⟨"g s", {}⟩).1 matches .run ..) = true := by cbv
  cases hdecide : (staffed.decide 0 [] ⟨"g s", {}⟩).1 with
  | run c invocation => exact ⟨c, invocation, rfl⟩
  | settled outcome | broken error =>
    rw [hdecide] at hrun
    cases hrun

theorem visible_iff_of_run_staffed : ∃ c invocation,
    (staffed.decide 0 [] ⟨"g s", {}⟩).1 = .run c invocation ∧
    ∃ leadIn rest chain,
      staffed.leadIns.strip? "g s".toList {} = some (leadIn, rest) ∧
      staffed.catalog.root.Follows rest chain ∧ chain.last = c ∧
      (c ∈ staffed.visibleCommands {} ↔ ∃ way, staffed.catalog.root.Holds way ∧ way.last = c ∧
        c.hidden = false ∧ ∀ b ∈ way.above, b.OpenTo {} (staffed.isDeveloper {})) ∧
      (staffed.catalog.Built → (c ∈ staffed.visibleCommands {} ↔
        c.hidden = false ∧ ∀ b ∈ chain.above, b.OpenTo {} (staffed.isDeveloper {}))) := by
  obtain ⟨c, invocation, h⟩ := exists_run_staffed
  exact ⟨c, invocation, h, visible_iff_of_run h⟩

/-- Nothing on the way to a command need be hidden for it to be run but not listed. -/
theorem run_need_not_be_visible : ¬ ∀ (d : Dispatcher Unit) (now : Nat) (cooldowns : CooldownTable)
    (m : Message) (c : Command Unit) (invocation : Invocation) (chain : Chain Unit),
    d.catalog.Built → (d.decide now cooldowns m).1 = .run c invocation →
    d.catalog.root.Holds chain → chain.last = c → c.hidden = false →
    (∀ b ∈ chain.above, b.hidden = false) → c ∈ d.visibleCommands m.context := by
  intro hall
  obtain ⟨c, invocation, hrun⟩ := exists_run_staffed
  obtain ⟨fit, hfit, rfl, -⟩ := exists_fit_of_run hrun
  obtain ⟨leadIn, rest, hstrip, hres⟩ := fit?_eq_some_iff.mp hfit
  obtain ⟨chain, hfollows, hchain, -⟩ := Catalog.exists_chain_of_matched hres
  have hrest : (staffed.leadIns.strip? "g s".toList {}).map (·.2) =
      some "g s".toList := by cbv
  rw [hstrip, Option.map_some] at hrest
  obtain rfl := Option.some.inj hrest
  have hshown : ((staffed.catalog.root.chains "g s".toList).all fun chain =>
      (chain.last :: chain.above).all (!·.hidden)) = true := by cbv
  have hempty : (staffed.visibleCommands {}).isEmpty = true := by cbv
  have hlast := (chain.command_of_fit? hchain).1
  have hall' := List.all_eq_true.mp hshown chain (Level.mem_chains.mpr hfollows)
  simp only [List.all_cons, Bool.and_eq_true, List.all_eq_true, Bool.not_eq_true'] at hall'
  have hmem := hall staffed 0 [] _ _ _ chain built_staffed hrun hfollows.holds hlast.symm
    (hlast ▸ hall'.1) hall'.2
  simp [List.isEmpty_iff.mp hempty] at hmem

end Dispatcher

end ChatCommands
