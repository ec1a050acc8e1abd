import ChatCommands.Catalog

/-! # Commands of the console

What can be done at the console, as a catalog of commands.
-/

namespace ChatCommands.Console

/-- What a command of the console does. -/
inductive Action
  | ping
  | addIntegers
  | addFloats
  | sum
  | say
  | createChannel
  | deleteChannel
  | remind
  | confirm
  | pages
  | panic
  deriving DecidableEq, Repr

def misc : Category := ⟨"misc", "Miscellaneous commands"⟩

def admin : Category := ⟨"admin", "Server administration"⟩

def commands : List (Definition Action × Option Category) :=
  [({ trigger := "ping", description := "ping the bot", handler? := some .ping }, misc),
   ({ trigger := "add", description := "add two integers", handler? := some .addIntegers
      parameters := [{ name := "a", kind := .integer }, { name := "b", kind := .integer }] }, misc),
   ({ trigger := "add", description := "add two numbers", handler? := some .addFloats
      parameters := [{ name := "a", kind := .float }, { name := "b", kind := .float }] }, misc),
   ({ trigger := "sum", description := "add between 2 and 10 integers", handler? := some .sum
      parameters := [{ name := "numbers", kind := .integer, endless? := some ⟨2, 10⟩ }] }, misc),
   ({ trigger := "say", aliases := ["echo"], description := "repeat some text"
      handler? := some .say
      parameters := [{ name := "text", kind := .text }]
      switches := [{ name := "upper", aliases := ["u"], description := "shout it" }] }, misc),
   ({ trigger := "channel", description := "manage channels", inPrivate := false
      subcommands :=
        [{ trigger := "create", handler? := some .createChannel
           parameters := [{ name := "name", kind := .word }]
           switches := [{ name := "topic", takesValue := true }]
           callerPermissions := ["manage_channels"]
           agentPermissions := ["manage_channels"] },
         { trigger := "delete", aliases := ["remove"], handler? := some .deleteChannel
           parameters := [{ name := "name", kind := .word }]
           callerPermissions := ["manage_channels"] }] }, admin),
   ({ trigger := "remind", description := "remind yourself of something"
      examples := ["remind 1m30s take the pizza out"]
      handler? := some .remind
      parameters :=
        [{ name := "time", kind := .time },
         { name := "text", kind := .text, default? := some fun _ => .text "something" }]
      cooldown? := some ⟨.ofSecs 5, .user⟩
      orderingKey? := some fun i => toString i.context.author.id }, misc),
   ({ trigger := "confirm", description := "ask for confirmation", handler? := some .confirm },
    misc),
   ({ trigger := "pages", description := "page through a listing", handler? := some .pages
      parameters :=
        [{ name := "direction", kind := .word, default? := some fun _ => .text "first" }] }, misc),
   ({ trigger := "panic", description := "panic inside a handler", developerOnly := true
      hidden := true, handler? := some .panic }, none)]

def catalog : Except BuildError (Catalog Action) :=
  commands.foldlM (fun catalog (d, category?) => catalog.define d category?) {}

end ChatCommands.Console
