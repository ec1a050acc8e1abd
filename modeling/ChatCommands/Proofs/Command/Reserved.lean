import Mathlib
import ChatCommands.Proofs.Command.Fit
import ChatCommands.Proofs.Switch.Reading

/-! # Switches for developers

When switches are read, those reserved to developers are unknown to everyone else. But a text is
cut in front of them all the same, so that they can end the arguments of others.
-/

namespace ChatCommands

open Text

variable {H : Type}

namespace Switch

variable {switches : List Switch} {text : List Char}

/-- The switches that anyone may use. -/
def unreserved (switches : List Switch) : List Switch :=
  switches.filter (!·.developerOnly)

theorem find?_unreserved (switches : List Switch) (name : String) :
    find? switches false name = find? (unreserved switches) false name := by
  rw [find?, find?, unreserved, List.find?_filter]
  congr 1
  funext s
  cases s.developerOnly <;> simp

theorem read_unreserved (switches : List Switch) (policy : UnknownPolicy) (text : List Char) :
    read switches policy false text = read (unreserved switches) policy false text := by
  rw [read, read, items_congr (find?_unreserved switches), items_map_alone]

theorem named_of_unreserved {t : Token} (h : named (unreserved switches) t = true) :
    named switches t = true := by
  obtain ⟨name, hname, hany⟩ := (Option.any_eq_true _ _).mp h
  obtain ⟨s, hs, hanswers⟩ := List.any_eq_true.mp hany
  refine (Option.any_eq_true _ _).mpr ⟨name, hname, List.any_eq_true.mpr ⟨s, ?_, hanswers⟩⟩
  exact List.mem_of_mem_filter hs

/-- The text is cut in the same place when the first switch named in it is for anyone. -/
theorem cut?_unreserved (h : ∀ t, (Token.all true text).find? (named switches) = some t →
    named (unreserved switches) t = true) :
    cut? switches text = cut? (unreserved switches) text := by
  rw [cut?_eq, cut?_eq]
  congr 1
  rw [Token.all, List.find?_map] at h
  cases hfind : (Token.starts true text).find? fun start => named switches start.2 with
  | none =>
    rw [eq_comm, List.find?_eq_none]
    intro p hp hopen
    exact List.find?_eq_none.mp hfind p hp (named_of_unreserved hopen)
  | some p =>
    have hopen : named (unreserved switches) p.2 = true := h p.2 (by
      rw [Option.map_eq_some_iff]
      exact ⟨p, hfind, rfl⟩)
    obtain ⟨-, before, behind, heq, hbefore⟩ := List.find?_eq_some_iff_append.mp hfind
    rw [eq_comm, List.find?_eq_some_iff_append]
    refine ⟨hopen, before, behind, heq, fun q hq => ?_⟩
    have hq := hbefore q hq
    rw [Bool.not_eq_true'] at hq ⊢
    exact Bool.eq_false_iff.mpr fun hopen => Bool.eq_false_iff.mp hq (named_of_unreserved hopen)

end Switch

/-- What a text binds, whatever the command is. -/
def Fit.bound (fit : Fit H) : List Argument × Given :=
  (fit.arguments, fit.switches)

namespace Command

variable {c : Command H} {trigger : String} {text : List Char} {env : Environment}

/-- The command as it would be declared without its switches for developers. -/
def unreserved (c : Command H) : Command H :=
  { c with switches := Switch.unreserved c.switches }

/-- What a text binds that is cut into the part for parameters and the part for switches. -/
def bound? (c : Command H) (sections : List Char × List Char) (env : Environment) :
    Option (List Argument × Given) :=
  if !c.isInvocable then none
  else
    match Parameter.arguments? env false sections.1 c.parameters with
    | none => none
    | some (arguments, leftover) =>
      match Switch.read c.switches c.unknown env.developer
          (trim leftover ++ ' ' :: trim sections.2) with
      | .error _ => none
      | .ok (switches, overflow) =>
        if !isBlank overflow && c.overflow == .fail then none else some (arguments, switches)

theorem map_bound_fit? (c : Command H) (trigger : String) (text : List Char) (env : Environment) :
    (c.fit? trigger text env).map Fit.bound = c.bound? (c.sections text) env := by
  unfold fit? bound?
  split
  · rfl
  · simp only
    cases Parameter.arguments? env false (c.sections text).1 c.parameters with
    | none => rfl
    | some bound =>
      simp only
      cases Switch.read c.switches c.unknown env.developer
          (trim bound.2 ++ ' ' :: trim (c.sections text).2) with
      | error => rfl
      | ok read =>
        simp only
        split <;> rfl

theorem bound?_unreserved (hd : env.developer = false) (sections : List Char × List Char) :
    c.bound? sections env = c.unreserved.bound? sections env := by
  unfold bound?
  rw [hd]
  simp only [Switch.read_unreserved c.switches]
  rfl

/-- For everyone but developers, switches that are reserved to these matter only to where the text
is cut, and not even there when the first switch named in it is for anyone. -/
theorem reserved_switches_only_cut (hd : env.developer = false) :
    (c.fit? trigger text env).map Fit.bound = c.unreserved.bound? (c.sections text) env ∧
    ((∀ t, (Token.all true text).find? (Switch.named c.switches) = some t →
        Switch.named c.unreserved.switches t = true) →
      (c.fit? trigger text env).map Fit.bound =
        (c.unreserved.fit? trigger text env).map Fit.bound) := by
  have hcut : (c.fit? trigger text env).map Fit.bound =
      c.unreserved.bound? (c.sections text) env := by
    rw [map_bound_fit?, bound?_unreserved hd]
  refine ⟨hcut, fun hfirst => ?_⟩
  have hsections : c.sections text = c.unreserved.sections text := by
    rw [sections, sections, Switch.cut?_unreserved hfirst]
    rfl
  rw [hcut, map_bound_fit?, hsections]

/-- Takes any words, with a switch for anyone and one for developers. -/
def echo : Command Unit where
  trigger := "echo"
  parameters := [{ name := "words", kind := .text }]
  switches := [{ name := "loud" }, { name := "trace", developerOnly := true }]
  handler? := some ()
  id := [0]
  path := "echo"
  usage := "echo <words>"
  category? := none
  subcommands := {}

def anyone : Environment :=
  ⟨{}, .standard, false⟩

theorem reserved_switches_only_cut_echo : anyone.developer = false ∧
    (∀ t, (Token.all true "hi \"-trace\" -loud".toList).find? (Switch.named echo.switches) =
      some t → Switch.named echo.unreserved.switches t = true) ∧
    (echo.fit? "echo" "hi \"-trace\" -loud".toList anyone).map Fit.bound =
      (echo.unreserved.fit? "echo" "hi \"-trace\" -loud".toList anyone).map Fit.bound := by
  have hany : ((Token.all true "hi \"-trace\" -loud".toList).find?
      (Switch.named echo.switches)).all (Switch.named echo.unreserved.switches) = true := by cbv
  have hfirst : ∀ t, (Token.all true "hi \"-trace\" -loud".toList).find?
      (Switch.named echo.switches) = some t →
        Switch.named echo.unreserved.switches t = true := by
    intro t ht
    rwa [ht, Option.all_some] at hany
  exact ⟨rfl, hfirst, (reserved_switches_only_cut rfl).2 hfirst⟩

/-- In `hi -trace`, the switch ends the words, though it does not exist for the author. -/
theorem reserved_switch_can_be_noticed : ¬ ∀ (c : Command Unit) (trigger : String)
    (text : List Char) (env : Environment), c.isInvocable = true → env.developer = false →
    (c.fit? trigger text env).map Fit.bound =
      (c.unreserved.fit? trigger text env).map Fit.bound := by
  intro hall
  have h := hall echo "echo" "hi -trace".toList anyone rfl rfl
  have hnone : (echo.fit? "echo" "hi -trace".toList anyone).isNone = true := by cbv
  have hsome : (echo.unreserved.fit? "echo" "hi -trace".toList anyone).isSome = true := by cbv
  rw [Option.isNone_iff_eq_none.mp hnone, Option.map_none, eq_comm, Option.map_eq_none_iff] at h
  rw [h] at hsome
  cases hsome

end Command

end ChatCommands
