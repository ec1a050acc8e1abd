import ChatCommands.Message
import ChatCommands.Duration.Basic

/-! # Cooldown declarations

A command may be run again only after some time, by whoever shares its cooldown.
-/

namespace ChatCommands

/-- Who shares a cooldown. -/
inductive CooldownScope
  | user
  /-- Everyone in a guild; in private messages, the user. -/
  | guild
  | channel
  | global
  deriving DecidableEq, Repr, Inhabited

structure Cooldown where
  duration : Duration
  scope : CooldownScope := .user
  deriving DecidableEq, Repr, Inhabited

/-- Those for whom one window of a cooldown counts. -/
inductive ScopeKey
  | user (id : UInt64)
  | guild (id : UInt64)
  | channel (id : UInt64)
  | global
  deriving DecidableEq, Repr, Inhabited

def CooldownScope.key (scope : CooldownScope) (ctx : Context) : ScopeKey :=
  match scope with
  | user => .user ctx.author.id
  | guild =>
    match ctx.location.guild? with
    | some id => .guild id
    | none => .user ctx.author.id
  | channel => .channel ctx.location.channel
  | global => .global

end ChatCommands
