import ChatCommands.Catalog
import ChatCommands.Cooldown.Table
import ChatCommands.Outcome
import ChatCommands.Settings.Basic

/-! # Dispatching

A message is stripped of its lead-in, resolved to a command, and let through a row of gates, of
which the cooldown is the last. One of these stages settles the outcome, or the handler of the
command is to be run, or the dispatch breaks off because the cooldown cannot be started.
-/

namespace ChatCommands

structure Dispatcher (H : Type) where
  catalog : Catalog H
  conversions : Conversions
  leadIns : LeadIns
  developers : List UInt64
  execution : ExecutionMode
  permissions : PermissionModel

/-- What is to be done about a message. -/
inductive Decision (H : Type)
  | settled (outcome : Outcome H)
  | run (command : Command H) (invocation : Invocation)
  /-- The dispatch breaks off without an outcome. -/
  | broken (error : TimerError)

namespace Dispatcher

variable {H : Type}

def ofSettings (settings : Settings) (catalog : Catalog H) (conversions : Conversions) :
    Dispatcher H where
  catalog := catalog
  conversions := conversions
  leadIns := settings.leadIns
  developers := settings.developers
  execution := settings.execution
  permissions := .granted

def isDeveloper (d : Dispatcher H) (ctx : Context) : Bool :=
  d.developers.contains ctx.author.id

def environment (d : Dispatcher H) (ctx : Context) : Environment :=
  ⟨ctx, d.conversions, d.isDeveloper ctx⟩

/-- The commands that the author of a message may see. -/
def visibleCommands (d : Dispatcher H) (ctx : Context) : List (Command H) :=
  d.catalog.visibleTo ctx (d.isDeveloper ctx)

/-- The first gate that is closed, if any. The gates look at the resolved command alone. -/
def refusal? (d : Dispatcher H) (c : Command H) (ctx : Context) : Option (Outcome H) :=
  if !c.isTriggerableIn ctx then some (.notTriggerableHere c)
  else if ctx.author.bot && !c.byBots then some (.botAuthorRejected c)
  else if c.developerOnly && !d.isDeveloper ctx then some (.developerOnly c)
  else
    let callerLacks := d.permissions.missingCaller ctx c.callerPermissions
    if !callerLacks.isEmpty then some (.missingCallerPermissions c callerLacks)
    else
      let agentLacks := d.permissions.missingAgent ctx c.agentPermissions
      if !agentLacks.isEmpty then some (.missingAgentPermissions c agentLacks) else none

/-- Passes the cooldown of a command: the remaining time if a window is open. -/
def startCooldown (c : Command H) (ctx : Context) (now : Nat) (cooldowns : CooldownTable) :
    Except TimerError (Option Duration) × CooldownTable :=
  match c.cooldown? with
  | none => (.ok none, cooldowns)
  | some cooldown => cooldowns.check now cooldown (cooldown.key c.id ctx)

/-- Decides about a message at a moment. The cooldown of a command starts before its handler
does. -/
def decide (d : Dispatcher H) (now : Nat) (cooldowns : CooldownTable) (m : Message) :
    Decision H × CooldownTable :=
  match d.leadIns.strip? m.text.toList m.context with
  | none => (.settled .noMatch, cooldowns)
  | some (leadIn, rest) =>
    match d.catalog.resolve rest (d.environment m.context) with
    | .noMatch => (.settled .noMatch, cooldowns)
    | .invalid c => (.settled (.invalidArguments c), cooldowns)
    | .matched fit =>
      match d.refusal? fit.command m.context with
      | some outcome => (.settled outcome, cooldowns)
      | none =>
        match startCooldown fit.command m.context now cooldowns with
        | (.error e, cooldowns) => (.broken e, cooldowns)
        | (.ok (some left), cooldowns) => (.settled (.onCooldown fit.command left), cooldowns)
        | (.ok none, cooldowns) =>
          (.run fit.command
            ⟨fit.arguments, fit.switches, m.context, m.text, String.ofList leadIn, fit.trigger⟩,
            cooldowns)

end Dispatcher

end ChatCommands
