/-! # Messages

An inbound message is its text together with who sent it, where, and what both sides may do there.
-/

namespace ChatCommands

/-- An opaque permission node such as `ban_members` or `music.skip`. -/
abbrev Permission := String

structure Author where
  id : UInt64 := 0
  /-- The author is an automated agent. -/
  bot : Bool := false
  /-- Nodes granted to the author in the current location. -/
  permissions : List Permission := []
  deriving DecidableEq, Repr, Inhabited

structure Location where
  channel : UInt64 := 0
  /-- Absent for private messages. -/
  guild? : Option UInt64 := none
  deriving DecidableEq, Repr, Inhabited

namespace Location

def isPrivate (l : Location) : Bool :=
  l.guild?.isNone

end Location

/-- Everything about a message other than its text. -/
structure Context where
  author : Author := {}
  location : Location := {}
  /-- Nodes granted to the agent that executes commands. -/
  agentPermissions : List Permission := []
  /-- A handle of the host, which is passed through untouched. -/
  payload : Option UInt64 := none
  deriving DecidableEq, Repr, Inhabited

namespace Context

def isPrivate (ctx : Context) : Bool :=
  ctx.location.isPrivate

end Context

structure Message where
  text : String
  context : Context
  deriving DecidableEq, Repr, Inhabited

/-- Decides which of the required nodes the caller and the agent lack. -/
structure PermissionModel where
  missingCaller : Context → List Permission → List Permission
  missingAgent : Context → List Permission → List Permission

/-- The required nodes that were not granted, in the required order. -/
def missingFrom (granted required : List Permission) : List Permission :=
  required.filter fun node => !granted.contains node

namespace PermissionModel

/-- Compares with the nodes that the context carries. -/
def granted : PermissionModel where
  missingCaller ctx required := missingFrom ctx.author.permissions required
  missingAgent ctx required := missingFrom ctx.agentPermissions required

/-- Finds nothing missing. -/
def lenient : PermissionModel where
  missingCaller _ _ := []
  missingAgent _ _ := []

end PermissionModel

end ChatCommands
