import Mathlib
import ChatCommands.Proofs.Definition.Building
import ChatCommands.Proofs.Parameter.Filling

/-! # Arguments that are left out

In a command that was built, defaults stand behind what is read, and only an endless parameter
without elements may come after one. So optional arguments at the end can be left out, unless a
final value keeps the endless parameter from being tried.
-/

namespace ChatCommands

open Text

variable {H : Type}

/-- The command is what a definition was built into, at the top level or below another. -/
def Command.Built (c : Command H) : Prop :=
  ∃ (d : Definition H) (parent? : Option String) (id : CommandId), d.buildUnder parent? id = .ok c

theorem Command.Built.exists_wellFormed {c : Command H} (h : c.Built) :
    ∃ isLeaf, c.toSignature.WellFormed isLeaf := by
  obtain ⟨⟨signature, subcommands⟩, parent?, id, hbuild⟩ := h
  rw [Definition.buildUnder] at hbuild
  split at hbuild
  · cases hbuild
  · rename_i hnode
    simp only at hbuild
    split at hbuild
    · cases hbuild
    · cases hbuild
      exact ⟨_, BuildError.ofSignature?_eq_none_iff.mp hnode⟩

namespace Parameter

/-- The usage shows the parameter in square brackets. -/
def InBrackets (p : Parameter) : Prop :=
  ∃ shown, p.usage = "[" ++ shown ++ "]"

theorem inBrackets_iff {p : Parameter} : p.InBrackets ↔ p.isOptional = true := by
  unfold InBrackets usage
  cases p.isOptional with
  | true => exact iff_of_true ⟨_, rfl⟩ rfl
  | false =>
    refine iff_of_false ?_ Bool.false_ne_true
    rintro ⟨shown, h⟩
    simpa [toString] using congrArg (fun s : String => s.toList.head?) h

/-- The argument of a parameter that is left out: its default, or an array of nothing. -/
def absent (p : Parameter) (ctx : Context) : Argument :=
  ⟨(p.default?.map (· ctx)).getD (.array []), ""⟩

/-- Defaults, and perhaps an endless parameter without elements behind them. -/
inductive LeftOut (ctx : Context) : List Filling → Prop
  | nil : LeftOut ctx []
  | default {p : Parameter} {supply : Context → Value} {filled : List Filling} :
      p.default? = some supply → LeftOut ctx filled →
      LeftOut ctx (⟨p, ⟨supply ctx, ""⟩, .default⟩ :: filled)
  | endless {p : Parameter} {text after : List Char} :
      p.default? = none → p.isEndless = true →
      LeftOut ctx [⟨p, ⟨.array [], ""⟩, .text text after⟩]

variable {env : Environment} {s t : Cursor} {filled : List Filling}
  {p : Parameter} {ps rest : List Parameter} {text left : List Char} {ended : Bool}

theorem LeftOut.arguments_eq {ctx : Context} (h : LeftOut ctx filled) :
    filled.map Filling.argument = (filled.map Filling.parameter).map (·.absent ctx) := by
  induction h with
  | nil => rfl
  | default hp _ ih =>
    simp only [List.map_cons, ih, absent, hp]
    rfl
  | endless hp _ =>
    simp only [List.map_cons, List.map_nil, absent, hp]
    rfl

theorem taken_of_blank (h : isBlank text = true) (after : List Char) : taken text after = "" := by
  simp only [taken, isBlank_iff.mp h, List.take_nil]
  rfl

/-- Only the last of them is endless. -/
def EndsEndless (ps : List Parameter) : Prop :=
  ∀ p ∈ ps.dropLast, p.isEndless = false

theorem EndsEndless.tail (h : EndsEndless (p :: ps)) : EndsEndless ps := by
  intro q hq
  cases ps with
  | nil => cases hq
  | cons r ps => exact h q (List.mem_cons_of_mem p hq)

theorem EndsEndless.eq_nil (h : EndsEndless (p :: ps)) (hp : p.isEndless = true) : ps = [] := by
  cases ps with
  | nil => rfl
  | cons q ps =>
    rw [h p List.mem_cons_self] at hp
    cases hp

theorem EndsEndless.of_append (h : EndsEndless (rest ++ ps)) : EndsEndless ps := by
  induction rest with
  | nil => exact h
  | cons p rest ih => exact ih h.tail

section Holes

/-- What is read where nothing is left is endless, if it might be left out. -/
theorem endless_of_read (h : p.default? = none ∨ isBlank text = false)
    (hs : Cursor.isSpent ⟨false, text⟩ = true) (hp : p.hasDefault = true ∨ p.isEndless = true) :
    p.default? = none ∧ ∃ bounds, p.endless? = some bounds := by
  have hnone : p.default? = none := h.resolve_right fun hblank => by cases hs.symm.trans hblank
  refine ⟨hnone, Option.isSome_iff_exists.mp (hp.resolve_left ?_)⟩
  simp [hasDefault, hnone]

/-- Where nothing is left to read, parameters that have a default or are endless are left out. -/
theorem FillsAll.leftOut (h : FillsAll env s filled t) (hs : s.isSpent = true)
    (hps : ∀ f ∈ filled, f.parameter.hasDefault = true ∨ f.parameter.isEndless = true)
    (hlast : EndsEndless (filled.map Filling.parameter)) : LeftOut env.context filled := by
  induction h with
  | nil => exact .nil
  | @cons s t u f filled hf hrest ih =>
    rw [List.forall_mem_cons] at hps
    cases hf with
    | default hp _ => exact .default hp (ih hs hps.2 hlast.tail)
    | bound hread hbind =>
      obtain ⟨-, bounds, hbounds⟩ := endless_of_read hread hs hps.1
      rw [bind_of_blank_of_endless hs hbounds] at hbind
      split at hbind
      · cases hbind
      · cases hbind
    | final hread hbind =>
      obtain ⟨hp, bounds, hbounds⟩ := endless_of_read hread hs hps.1
      have hendless := Option.isSome_iff_exists.mpr ⟨bounds, hbounds⟩
      obtain rfl := List.map_eq_nil_iff.mp (hlast.eq_nil hendless)
      rw [bind_of_blank_of_endless hs hbounds] at hbind
      split at hbind
      · cases hbind
      · cases hbind
        rw [taken_of_blank hs]
        exact .endless hp hendless

end Holes

section InTurn

/-- Parameters are tried on a text one after another, each on what the one before it left, and
nothing is tried behind a final value. Such a value ends the text, unless a default is taken in its
place. -/
inductive InTurn (env : Environment) : List Char → List Parameter → Bool → List Char → Prop
  | nil {text : List Char} : InTurn env text [] false text
  | bound {p : Parameter} {ps : List Parameter} {text after left : List Char} {value : Value}
      {ended : Bool} : p.bind env.context env.conversions text = .bound value after →
      InTurn env after ps ended left → InTurn env text (p :: ps) ended left
  | final {p : Parameter} {text after : List Char} {value : Value} :
      p.bind env.context env.conversions text = .final value after →
      InTurn env text [p] (!(p.hasDefault && isBlank text)) after

/-- All blank texts are taken alike. -/
theorem InTurn.of_blank {other : List Char} (h : InTurn env text ps ended left)
    (htext : isBlank text = true) (hother : isBlank other = true) (hleft : isBlank left = true) :
    ∃ l, isBlank l = true ∧ InTurn env other ps ended l := by
  have hbind : ∀ p : Parameter, p.bind env.context env.conversions other =
      p.bind env.context env.conversions text := fun p => by
    rw [bind_of_blank htext, bind_of_blank hother]
  cases h with
  | nil => exact ⟨other, hother, .nil⟩
  | bound htaken hrest => exact ⟨left, hleft, .bound ((hbind _).trans htaken) hrest⟩
  | final htaken =>
    rw [htext.trans hother.symm]
    exact ⟨left, hleft, .final ((hbind _).trans htaken)⟩

/-- Parameters that use a text up in turn can all be filled from it. Where a default steps in for
one of them, the text is blank already. -/
theorem InTurn.exists_fillsAll (h : InTurn env text ps ended left) (hleft : isBlank left = true) :
    ∃ filled l, FillsAll env ⟨false, text⟩ filled ⟨ended, l⟩ ∧ isBlank l = true ∧
      filled.map Filling.parameter = ps := by
  induction ps generalizing text left with
  | nil =>
    cases h
    exact ⟨[], text, .nil, hleft, rfl⟩
  | cons p ps ih =>
    -- A parameter with a default is tried in turn even on a blank text, but it is not read there.
    by_cases hread : p.default? = none ∨ isBlank text = false
    · cases h with
      | bound hbind hrest =>
        obtain ⟨filled, l, hrun, hl, rfl⟩ := ih hrest hleft
        exact ⟨_, l, .cons (.bound hread hbind) hrun, hl, rfl⟩
      | final hbind =>
        have hended : (!(p.hasDefault && isBlank text)) = true := by
          rcases hread with hp | hblank
          · simp [hasDefault, hp]
          · simp [hblank]
        rw [hended]
        exact ⟨_, left, .cons (.final hread hbind) .nil, hleft, rfl⟩
    · simp only [not_or, Bool.not_eq_false] at hread
      obtain ⟨hp, hblank⟩ := hread
      obtain ⟨supply, hp⟩ := Option.ne_none_iff_exists'.mp hp
      have hskip : Fills env ⟨false, text⟩ ⟨p, ⟨supply env.context, ""⟩, .default⟩ ⟨false, text⟩ :=
        .default hp hblank
      cases h with
      | bound hbind hrest =>
        obtain rfl := leftover_of_blank hblank (by rw [hbind]; rfl)
        obtain ⟨l, hl, hrest⟩ := hrest.of_blank rfl hblank hleft
        obtain ⟨filled, l, hrun, hl, rfl⟩ := ih hrest hl
        exact ⟨_, l, .cons hskip hrun, hl, rfl⟩
      | final hbind =>
        rw [hasDefault, hp, hblank]
        exact ⟨_, text, .cons hskip .nil, hblank, rfl⟩

/-- Optional parameters are left out of a blank text, and only an endless one needs to be tried for
that. -/
theorem exists_fillsAll_of_optional (env : Environment) (hblank : isBlank text = true)
    (hopt : ∀ p ∈ ps, p.isOptional = true) (hlast : EndsEndless ps)
    (hready : ended = false ∨ ∀ p ∈ ps, p.hasDefault = true) :
    ∃ filled t, FillsAll env ⟨ended, text⟩ filled t ∧ isBlank t.text = true ∧
      filled.map Filling.parameter = ps := by
  induction ps with
  | nil => exact ⟨[], _, .nil, hblank, rfl⟩
  | cons p ps ih =>
    rw [List.forall_mem_cons] at hopt
    cases hp : p.default? with
    | some supply =>
      have hready := hready.imp_right fun hall q hq => hall q (List.mem_cons_of_mem p hq)
      obtain ⟨filled, t, hrun, ht, rfl⟩ := ih hopt.2 hlast.tail hready
      have hspent : Cursor.isSpent ⟨ended, text⟩ = true := by simp [Cursor.isSpent, hblank]
      exact ⟨_, t, .cons (.default hp hspent) hrun, ht, rfl⟩
    | none =>
      have hneeds : p.hasDefault = false := by rw [hasDefault, hp]; rfl
      obtain rfl : ended = false := hready.resolve_right fun hall => by
        cases hneeds.symm.trans (hall p List.mem_cons_self)
      have hempty : p.endless?.any (·.min == 0) = true := by
        simpa [isOptional, hneeds] using hopt.1
      obtain ⟨bounds, hbounds, hmin⟩ := (Option.any_eq_true _ _).mp hempty
      obtain rfl := hlast.eq_nil (by rw [isEndless, hbounds]; rfl)
      have hbind : p.bind env.context env.conversions text = .final (.array []) [] := by
        rw [bind_of_blank_of_endless hblank hbounds, eq_of_beq hmin]
        rfl
      exact ⟨_, _, .cons (.final (.inl hp) hbind) .nil, rfl, rfl⟩

/-- Once the text has ended, only defaults can be left out. -/
theorem FillsAll.hasDefault_of_ended (h : FillsAll env s filled t) (hs : s.ended = true) :
    ∀ f ∈ filled, f.parameter.hasDefault = true := by
  induction h with
  | nil => simp
  | cons hf _ ih =>
    obtain ⟨⟨supply, hp, -⟩, -, rfl⟩ := hf.of_default (hf.of_ended hs)
    refine List.forall_mem_cons.mpr ⟨?_, ih hs⟩
    rw [hasDefault, hp]
    rfl

end InTurn

end Parameter

namespace Command

variable {c : Command H} {trigger : String} {text left : List Char} {env : Environment}
  {fit : Fit H}

/-- Nothing is read behind the arguments where these use up the text. -/
theorem fit?_of_used_up {arguments : List Argument} (hi : c.isInvocable = true)
    (hnone : ∀ t ∈ Token.all true text, Switch.named c.switches t = false)
    (hargs : Parameter.arguments? env false text c.parameters = some (arguments, left))
    (hleft : isBlank left = true) :
    c.fit? trigger text env = some ⟨c, trigger, arguments, []⟩ := by
  have hsections := sections_of_no_cut (Switch.cut?_of_unnamed (Switch.named_lexemes.mpr hnone))
  rw [fit?_eq_some_iff, hsections]
  refine ⟨hi, arguments, left, [], [], hargs, ?_, .inl rfl, rfl⟩
  rw [trim_of_blank hleft]
  exact Switch.read_of_blank rfl

/-- One argument is bound for each parameter, in order. Behind an argument that came from a default
come only such arguments, and perhaps an endless one at the end without elements. -/
theorem bindings_have_no_holes (hbuilt : c.Built) (h : c.fit? trigger text env = some fit) :
    fit.arguments.length = c.parameters.length ∧
    ∃ filled s, Parameter.FillsAll env ⟨false, (c.sections text).1⟩ filled s ∧
      filled.map Filling.parameter = c.parameters ∧ filled.map Filling.argument = fit.arguments ∧
      ∀ before f later, filled = before ++ f :: later → f.source = .default →
        Parameter.LeftOut env.context (f :: later) := by
  obtain ⟨isLeaf, hwell⟩ := hbuilt.exists_wellFormed
  obtain ⟨-, arguments, left, switches, overflow, hargs, -, -, rfl⟩ := fit?_eq_some_iff.mp h
  obtain ⟨filled, ends, hrun, hps, rfl⟩ := Parameter.arguments?_eq_some_iff.mp hargs
  refine ⟨by simp [← hps], filled, _, hrun, hps, rfl, ?_⟩
  rintro before f later rfl hf
  have hlast : Parameter.EndsEndless c.parameters := hwell.endlessLast
  have horder : c.parameters.Pairwise Parameter.MayPrecede := hwell.defaultsLast
  rw [← hps, List.map_append] at hlast horder
  obtain ⟨s, -, hrun⟩ := Parameter.fillsAll_append_iff.mp hrun
  cases hrun with
  | cons hfills hlater =>
    obtain ⟨⟨supply, hp, -⟩, hspent, -⟩ := hfills.of_default hf
    have hdefault : f.parameter.hasDefault = true := by rw [Parameter.hasDefault, hp]; rfl
    have hall : ∀ g ∈ f :: later, g.parameter.hasDefault = true ∨ g.parameter.isEndless = true := by
      refine List.forall_mem_cons.mpr ⟨.inl hdefault, fun g hg => ?_⟩
      have hbehind := (List.pairwise_cons.mp (List.pairwise_append.mp horder).2.1).1
      exact hbehind g.parameter (List.mem_map_of_mem hg) hdefault
    exact (Parameter.FillsAll.cons hfills hlater).leftOut hspent hall hlast.of_append

def mailDefinition : Definition Unit where
  trigger := "mail"
  parameters := [{ name := "to", kind := .word },
    { name := "copies", kind := .integer, default? := some fun _ => .integer 1 },
    { name := "tags", kind := .word, endless? := some ⟨0, 0⟩ }]
  handler? := some ()

/-- Takes a word, then a number with a default, then any words. -/
def mail : Command Unit where
  toSignature := mailDefinition.toSignature
  id := [0]
  path := "mail"
  usage := "mail <to> [copies] [tags...]"
  category? := none
  subcommands := .ofList []

theorem built_mail : mail.Built :=
  ⟨mailDefinition, none, [0], rfl⟩

def writer : Environment :=
  ⟨{}, .standard, false⟩

theorem bindings_have_no_holes_mail : ∃ fit, mail.Built ∧
    mail.fit? "mail" "ann".toList writer = some fit ∧
    fit.arguments.length = mail.parameters.length ∧
    ∃ filled s, Parameter.FillsAll writer ⟨false, (mail.sections "ann".toList).1⟩ filled s ∧
      filled.map Filling.parameter = mail.parameters ∧
      filled.map Filling.argument = fit.arguments ∧
      ∀ before f later, filled = before ++ f :: later → f.source = .default →
        Parameter.LeftOut writer.context (f :: later) := by
  have hsome : (mail.fit? "mail" "ann".toList writer).isSome = true := by cbv
  obtain ⟨fit, hfit⟩ := Option.isSome_iff_exists.mp hsome
  exact ⟨fit, built_mail, hfit, bindings_have_no_holes built_mail hfit⟩

section LeftOut

variable {taken rest : List Parameter} {first : List Filling} {ended : Bool}

/-- Behind the arguments that use a text up come those that are left out. -/
theorem fit?_of_left_out (hi : c.isInvocable = true)
    (hnone : ∀ t ∈ Token.all true text, Switch.named c.switches t = false)
    (hps : c.parameters = first.map Filling.parameter ++ rest)
    (hfirst : Parameter.FillsAll env ⟨false, text⟩ first ⟨ended, left⟩)
    (hblank : isBlank left = true) (hopt : ∀ p ∈ rest, p.isOptional = true)
    (hlast : Parameter.EndsEndless rest)
    (hready : ended = false ∨ ∀ p ∈ rest, p.hasDefault = true) :
    c.fit? trigger text env = some ⟨c, trigger,
      first.map Filling.argument ++ rest.map (·.absent env.context), []⟩ := by
  obtain ⟨others, t, hothers, ht, rfl⟩ :=
    Parameter.exists_fillsAll_of_optional env hblank hopt hlast hready
  have hleftOut : Parameter.LeftOut env.context others := by
    refine hothers.leftOut (by simp [Cursor.isSpent, hblank]) (fun f hf => ?_) hlast
    have hp := hopt f.parameter (List.mem_map_of_mem hf)
    rw [Parameter.isOptional, Bool.or_eq_true] at hp
    exact hp.imp_right fun hp => Option.isSome_of_any hp
  refine fit?_of_used_up hi hnone (Parameter.arguments?_eq_some_iff.mpr
    ⟨first ++ others, t.ended, Parameter.fillsAll_append_iff.mpr ⟨_, hfirst, hothers⟩, ?_, ?_⟩) ht
  · rw [List.map_append, hps]
  · rw [List.map_append, hleftOut.arguments_eq]

/-- Once a final value has ended the text, only defaults can be bound. -/
theorem ready_of_fit? (hnone : ∀ t ∈ Token.all true text, Switch.named c.switches t = false)
    (hps : c.parameters = first.map Filling.parameter ++ rest)
    (hfirst : Parameter.FillsAll env ⟨false, text⟩ first ⟨ended, left⟩)
    (hfit : c.fit? trigger text env = some fit) :
    ended = false ∨ ∀ p ∈ rest, p.hasDefault = true := by
  obtain ⟨-, arguments, l, switches, overflow, hargs, -, -, -⟩ := fit?_eq_some_iff.mp hfit
  rw [sections_of_no_cut (Switch.cut?_of_unnamed (Switch.named_lexemes.mpr hnone))] at hargs
  obtain ⟨filled, ends, hrun, hall, -⟩ := Parameter.arguments?_eq_some_iff.mp hargs
  rw [hps] at hall
  obtain ⟨front, behind, rfl, hfront, rfl⟩ := List.map_eq_append_iff.mp hall
  obtain ⟨t, hstart, hend⟩ := Parameter.fillsAll_append_iff.mp hrun
  obtain ⟨-, rfl⟩ := hstart.unique hfirst hfront
  cases ended with
  | false => exact .inl rfl
  | true =>
    refine .inr (List.forall_mem_map.mpr fun f hf => ?_)
    exact hend.hasDefault_of_ended rfl f hf

/-- Where some parameters use up a text in turn and those behind them are optional, these can be left
out: each is bound to its default, or to an empty array. It fails just if a final value has ended
the text and there is an endless parameter without a default, which is then not tried. -/
theorem optional_arguments_may_be_left_out (hbuilt : c.Built) (hi : c.isInvocable = true)
    (hnone : ∀ t ∈ Token.all true text, Switch.named c.switches t = false)
    (hps : c.parameters = taken ++ rest) (hturn : Parameter.InTurn env text taken ended left)
    (hblank : isBlank left = true) (hopt : ∀ p ∈ rest, p.InBrackets) :
    ((c.fit? trigger text env).isSome = true ↔ ended = false ∨ ∀ p ∈ rest, p.hasDefault = true) ∧
    ∀ fit, c.fit? trigger text env = some fit →
      fit.arguments.drop taken.length = rest.map (·.absent env.context) ∧ fit.switches = [] := by
  obtain ⟨isLeaf, hwell⟩ := hbuilt.exists_wellFormed
  have hlayout : Parameter.EndsEndless c.parameters := hwell.endlessLast
  rw [hps] at hlayout
  have hopt : ∀ p ∈ rest, p.isOptional = true := fun p hp =>
    Parameter.inBrackets_iff.mp (hopt p hp)
  obtain ⟨first, l, hfirst, hl, rfl⟩ := hturn.exists_fillsAll hblank
  have hfits (hready : ended = false ∨ ∀ p ∈ rest, p.hasDefault = true) :
      c.fit? trigger text env = some ⟨c, trigger,
        first.map Filling.argument ++ rest.map (·.absent env.context), []⟩ :=
    fit?_of_left_out hi hnone hps hfirst hl hopt hlayout.of_append hready
  refine ⟨⟨fun h => ?_, fun h => by rw [hfits h]; rfl⟩, fun fit hfit => ?_⟩
  · obtain ⟨fit, hfit⟩ := Option.isSome_iff_exists.mp h
    exact ready_of_fit? hnone hps hfirst hfit
  · obtain rfl := Option.some.inj ((hfits (ready_of_fit? hnone hps hfirst hfit)).symm.trans hfit)
    exact ⟨List.drop_left' (by simp), rfl⟩

end LeftOut

theorem optional_arguments_may_be_left_out_mail : mail.Built ∧ mail.isInvocable = true ∧
    (∀ t ∈ Token.all true "ann".toList, Switch.named mail.switches t = false) ∧
    Parameter.InTurn writer "ann".toList (mail.parameters.take 1) false [] ∧
    (∀ p ∈ mail.parameters.drop 1, p.InBrackets) ∧
    (mail.fit? "mail" "ann".toList writer).isSome = true ∧
    ∀ fit, mail.fit? "mail" "ann".toList writer = some fit →
      fit.arguments.drop 1 = [⟨.integer 1, ""⟩, ⟨.array [], ""⟩] ∧ fit.switches = [] := by
  have hnone : ∀ t ∈ Token.all true "ann".toList, Switch.named mail.switches t = false := by
    intro t _
    simp [Switch.named, mail, mailDefinition]
  have hbind : Parameter.bind { name := "to", kind := .word } writer.context writer.conversions
      "ann".toList = .bound (.text "ann") [] := by cbv
  have hturn : Parameter.InTurn writer "ann".toList (mail.parameters.take 1) false [] :=
    .bound hbind .nil
  have hopt : ∀ p ∈ mail.parameters.drop 1, p.InBrackets := by
    simp [mail, mailDefinition, Parameter.inBrackets_iff, Parameter.isOptional,
      Parameter.hasDefault]
  obtain ⟨hiff, hall⟩ : ((mail.fit? "mail" "ann".toList writer).isSome = true ↔ _) ∧ _ :=
    optional_arguments_may_be_left_out built_mail rfl hnone
      (List.take_append_drop 1 mail.parameters).symm hturn rfl hopt
  exact ⟨built_mail, rfl, hnone, hturn, hopt, hiff.mpr (.inl rfl), hall⟩

def noteDefinition : Definition Unit where
  trigger := "note"
  parameters := [{ name := "text", kind := .text },
    { name := "tags", kind := .word, endless? := some ⟨0, 0⟩ }]
  handler? := some ()

/-- Takes the rest of a text, and any words behind it. -/
def note : Command Unit where
  toSignature := noteDefinition.toSignature
  id := [0]
  path := "note"
  usage := "note <text> [tags...]"
  category? := none
  subcommands := .ofList []

/-- In `hi`, the text takes all there is, and the tags are shown as optional, but it does not fit. -/
theorem optional_argument_cannot_always_be_left_out : ¬ ∀ (c : Command Unit) (trigger : String)
    (text left : List Char) (env : Environment) (taken rest : List Parameter) (ended : Bool),
    c.Built → c.isInvocable = true →
    (∀ t ∈ Token.all true text, Switch.named c.switches t = false) →
    c.parameters = taken ++ rest → Parameter.InTurn env text taken ended left →
    isBlank left = true → (∀ p ∈ rest, p.InBrackets) →
    (c.fit? trigger text env).isSome = true := by
  intro hall
  have hbind : Parameter.bind { name := "text", kind := .text } writer.context writer.conversions
      "hi".toList = .final (.text "hi") [] := by cbv
  have hsome := hall note "note" "hi".toList [] writer (note.parameters.take 1)
    (note.parameters.drop 1) true ⟨noteDefinition, none, [0], rfl⟩ rfl
    (by simp [Switch.named, note, noteDefinition]) (List.take_append_drop 1 _).symm (.final hbind)
    rfl (by simp [note, noteDefinition, Parameter.inBrackets_iff, Parameter.isOptional,
      Parameter.hasDefault])
  have hnone : (note.fit? "note" "hi".toList writer).isNone = true := by cbv
  rw [Option.isNone_iff_eq_none.mp hnone] at hsome
  cases hsome

end Command

end ChatCommands
