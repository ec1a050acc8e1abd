import Mathlib
import ChatCommands.Proofs.Command.Fit
import ChatCommands.Proofs.Switch.Reading

/-! # Lenient commands

A command may let pass what is left over and switches that it does not know. What fits the command
when it lets nothing pass fits it still, and is bound alike.
-/

namespace ChatCommands

open Text

variable {H : Type}

namespace Switch

variable {switches : List Switch} {developer : Bool} {ts : List Token} {text : List Char}
  {e : SwitchError}

section Unknown

variable {α β : Type} {strict lenient : Except SwitchError α}

/-- Two readings are the same, or the strict one stops at a switch that is not known. -/
def Alike (strict lenient : Except SwitchError α) : Prop :=
  strict = lenient ∨ ∃ name, strict = .error (.unrecognised name)

theorem Alike.map (h : Alike strict lenient) (f : α → β) :
    Alike (strict.map f) (lenient.map f) := by
  rcases h with rfl | ⟨name, rfl⟩
  · exact .inl rfl
  · exact .inr ⟨name, rfl⟩

theorem Alike.eq_of_ok (h : Alike strict lenient) {read : α} (hread : strict = .ok read) :
    lenient = .ok read := by
  subst hread
  rcases h with rfl | ⟨name, hname⟩
  · rfl
  · cases hname

theorem Alike.exists_error (h : Alike strict lenient) (herror : lenient = .error e) :
    ∃ other, strict = .error other := by
  rcases h with rfl | ⟨name, rfl⟩
  · exact ⟨e, herror⟩
  · exact ⟨_, rfl⟩

/-- The policy makes no difference before the first switch that is not known. -/
theorem alike_items (switches : List Switch) (developer : Bool) (ts : List Token) :
    Alike (items switches .fail developer ts) (items switches .keep developer ts) := by
  -- Both take the same tokens, also as values, until the strict one stops.
  fun_induction items switches .fail developer ts with
  | case1 => exact .inl rfl
  | case2 t ts hn ih =>
    simp only [items, hn]
    exact ih.map _
  | case3 t ts name hn hf hp => exact .inr ⟨name, rfl⟩
  | case4 t ts name hn hf hp ih => cases hp
  | case5 t name hn s hf hv => simp [Alike, items, hn, hf, hv]
  | case6 t name hn s hf hv v ts hs => simp [Alike, items, hn, hf, hv, hs]
  | case7 t name hn s hf hv v ts hs ih =>
    simp only [items, hn, hf, hv, hs]
    exact ih.map _
  | case8 t ts name hn s hf hv ih =>
    simp only [items, hn, hf, hv]
    exact ih.map _

theorem alike_read (switches : List Switch) (developer : Bool) (text : List Char) :
    Alike (read switches .fail developer text) (read switches .keep developer text) :=
  (alike_items switches developer _).map _

/-- Where switches that are not known count as text, all that can go wrong is a value that is
missing. -/
theorem exists_missingValue_of_items (h : items switches .keep developer ts = .error e) :
    ∃ s ∈ switches, s.takesValue = true ∧ e = .missingValue s.name := by
  fun_induction items switches .keep developer ts with
  | case1 => cases h
  | case2 t ts hn ih => exact ih (map_eq_error h)
  | case3 t ts name hn hf hp => cases hp
  | case4 t ts name hn hf hp ih => exact ih (map_eq_error h)
  | case5 t name hn s hf hv =>
    cases h
    exact ⟨s, List.mem_of_find?_eq_some hf, hv, rfl⟩
  | case6 t name hn s hf hv v ts hs =>
    cases h
    exact ⟨s, List.mem_of_find?_eq_some hf, hv, rfl⟩
  | case7 t name hn s hf hv v ts hs ih => exact ih (map_eq_error h)
  | case8 t ts name hn s hf hv ih => exact ih (map_eq_error h)

theorem exists_missingValue_of_read (h : read switches .keep developer text = .error e) :
    ∃ s ∈ switches, s.takesValue = true ∧ e = .missingValue s.name :=
  exists_missingValue_of_items (map_eq_error h)

end Unknown

end Switch

namespace Command

variable {c : Command H} {trigger : String} {text : List Char} {env : Environment} {fit : Fit H}

/-- The command with other policies for what is left over and for switches that it does not know. -/
def withPolicies (c : Command H) (overflow : OverflowPolicy) (unknown : UnknownPolicy) :
    Command H :=
  { c with overflow := overflow, unknown := unknown }

theorem fit?_withPolicies (overflow : OverflowPolicy) (unknown : UnknownPolicy)
    (h : (c.withPolicies .fail .fail).fit? trigger text env = some fit) :
    (c.withPolicies overflow unknown).fit? trigger text env =
      some { fit with command := c.withPolicies overflow unknown } := by
  obtain ⟨hi, arguments, leftover, switches, rest, hargs, hread, hrest, rfl⟩ :=
    fit?_eq_some_iff.mp h
  have hread : Switch.read c.switches unknown env.developer
      (trim leftover ++ ' ' :: trim ((c.withPolicies overflow unknown).sections text).2) =
        .ok (switches, rest) := by
    cases unknown with
    | fail => exact hread
    | keep => exact (Switch.alike_read _ _ _).eq_of_ok hread
  refine fit?_eq_some_iff.mpr ⟨hi, arguments, leftover, switches, rest, hargs, hread, .inl ?_, rfl⟩
  exact hrest.resolve_right (by simp [withPolicies])

/-- A text that fits a command which lets nothing pass fits it under all policies, with the same
arguments and switches. Reading switches gives the same if those that are not known count as text,
and then it fails only for a value that is missing, where it fails under the other policy as
well. -/
theorem lenient_policies_extend_strict (c : Command H) (overflow : OverflowPolicy)
    (unknown : UnknownPolicy) :
    (∀ trigger text env fit,
      (c.withPolicies .fail .fail).fit? trigger text env = some fit →
        (c.withPolicies overflow unknown).fit? trigger text env =
          some { fit with command := c.withPolicies overflow unknown }) ∧
    ∀ switches developer text,
      (∀ read, Switch.read switches .fail developer text = .ok read →
        Switch.read switches .keep developer text = .ok read) ∧
      ∀ e, Switch.read switches .keep developer text = .error e →
        (∃ s ∈ switches, s.takesValue = true ∧ e = .missingValue s.name) ∧
          ∃ other, Switch.read switches .fail developer text = .error other := by
  refine ⟨fun trigger text env fit h => fit?_withPolicies overflow unknown h,
    fun switches developer text => ⟨fun read h => ?_, fun e h => ⟨?_, ?_⟩⟩⟩
  · exact (Switch.alike_read switches developer text).eq_of_ok h
  · exact Switch.exists_missingValue_of_read h
  · exact (Switch.alike_read switches developer text).exists_error h

/-- Takes a word and two switches, one of them with a value. -/
def hail : Command Unit where
  trigger := "hail"
  parameters := [{ name := "to", kind := .word }]
  switches := [{ name := "loud" }, { name := "reason", takesValue := true }]
  handler? := some ()
  id := [0]
  path := "hail"
  usage := "hail <to>"
  category? := none
  subcommands := .ofList []

def passer : Environment :=
  ⟨{}, .standard, false⟩

theorem lenient_policies_extend_strict_hail :
    (∃ fit, (hail.withPolicies .fail .fail).fit? "hail" "ann --loud".toList passer = some fit ∧
      fit.arguments.map Argument.raw = ["ann"] ∧ fit.switches = [("loud", none)] ∧
      (hail.withPolicies .ignore .keep).fit? "hail" "ann --loud".toList passer =
        some { fit with command := hail.withPolicies .ignore .keep }) ∧
    Switch.read hail.switches .keep false "--loud".toList = .ok ([("loud", none)], []) ∧
    ∃ other, Switch.read hail.switches .fail false "--odd --reason".toList = .error other := by
  obtain ⟨hfits, hreads⟩ := lenient_policies_extend_strict hail .ignore .keep
  have hstrict : ((hail.withPolicies .fail .fail).fit? "hail" "ann --loud".toList passer).map
      (fun fit => (fit.arguments.map Argument.raw, fit.switches)) =
        some (["ann"], [("loud", none)]) := by cbv
  obtain ⟨fit, hfit, hbound⟩ := Option.map_eq_some_iff.mp hstrict
  obtain ⟨hraw, hswitches⟩ := Prod.mk.inj hbound
  have hread : Switch.read hail.switches .fail false "--loud".toList =
      .ok ([("loud", none)], []) := by cbv
  have herror : Switch.read hail.switches .keep false "--odd --reason".toList =
      .error (.missingValue "reason") := by cbv
  obtain ⟨hloud, -⟩ := hreads hail.switches false "--loud".toList
  obtain ⟨-, hreason⟩ := hreads hail.switches false "--odd --reason".toList
  exact ⟨⟨fit, hfit, hraw, hswitches, hfits _ _ _ fit hfit⟩, hloud _ hread,
    (hreason _ herror).2⟩

end Command

end ChatCommands
