import Mathlib.Data.List.Forall2
import ChatCommands.Proofs.Definition.Building
import ChatCommands.Proofs.Resolution.Search
import ChatCommands.Proofs.Token.Written

/-! # Finding commands

In a catalog of built commands each command is found under its path, and under every other way to
spell it: any names of the commands above it and of itself, with any white space between them.
-/

namespace ChatCommands

open Text

variable {H : Type}

namespace Signature

theorem goesBy_trigger (s : Signature H) : s.GoesBy s.trigger :=
  ⟨s.trigger, List.mem_cons_self, by split <;> rfl⟩

/-- A token by which a command goes is a word, as its names are. -/
theorem GoesBy.isWord {s : Signature H} {token : String} (h : s.GoesBy token)
    (hnames : s.WellNamed) : IsWord token.toList := by
  obtain ⟨name, hname, hsame⟩ := h
  have hword := hnames name hname
  split at hsame
  · rwa [← hsame]
  · rwa [← isWord_iff_of_lowercase_eq hsame]

end Signature

namespace Chain

/-- All commands of the chain, from the top level down. -/
def commands (chain : Chain H) : List (Command H) :=
  chain.above ++ [chain.last]

theorem length_commands (chain : Chain H) : chain.commands.length = chain.depth :=
  List.length_append

/-- The commands of the chain go by the tokens, one after another. -/
def GoesBy (chain : Chain H) (tokens : List String) : Prop :=
  List.Forall₂ (fun (c : Command H) token => c.GoesBy token) chain.commands tokens

theorem goesBy_triggers (chain : Chain H) : chain.GoesBy (chain.commands.map (·.trigger)) :=
  List.forall₂_map_right_iff.mpr (List.forall₂_same.mpr fun c _ => c.goesBy_trigger)

theorem GoesBy.isWord {chain : Chain H} {tokens : List String} (h : chain.GoesBy tokens)
    (hnames : ∀ c ∈ chain.commands, c.WellNamed) :
    ∀ piece ∈ tokens.map String.toList, IsWord piece := by
  rw [GoesBy] at h
  generalize chain.commands = commands at h hnames
  induction h with
  | nil => exact fun piece hpiece => by cases hpiece
  | cons hgoes _ ih =>
    rw [List.forall_mem_cons] at hnames
    rw [List.map_cons, List.forall_mem_cons]
    exact ⟨hgoes.isWord hnames.1, ih hnames.2⟩

end Chain

namespace Level

/-- Below a path every level is indexed, the names of its commands are words, and the path of each
command ends in its trigger. -/
inductive Charted : Option String → Level (Command H) → Prop
  | intro {parent? : Option String} {level : Level (Command H)} : level.Indexed →
      (∀ c ∈ level.commands, c.WellNamed ∧ c.path = Definition.pathUnder parent? c.trigger) →
      (∀ c ∈ level.commands, Charted (some c.path) c.subcommands) → Charted parent? level

variable {parent? : Option String} {level : Level (Command H)} {chain : Chain H}

theorem Indexed.mem_answering (h : level.Indexed) {c : Command H} (hc : c ∈ level.commands)
    {token : String} (hgoes : c.GoesBy token) {text : List Char} {later : List (List Char)}
    (hwords : words text = token.toList :: later) :
    c ∈ level.answering text ∧ words (splitTrigger text).2 = later := by
  have hne : (splitTrigger text).1 ≠ [] := by
    rw [ne_eq, splitTrigger_eq_nil_iff, hwords]
    exact List.cons_ne_nil _ _
  obtain ⟨hfirst, hlater⟩ := List.cons_eq_cons.mp ((words_splitTrigger hne).symm.trans hwords)
  refine ⟨?_, hlater⟩
  rw [answering, if_neg hne, hfirst, String.ofList_toList, h.candidates_eq, List.mem_filter]
  exact ⟨hc, Signature.answersTo_iff.mpr hgoes⟩

/-- A chain follows a text whose words its commands go by. -/
theorem Charted.follows (h : Charted parent? level) (hchain : level.Holds chain)
    {text : List Char} {tokens : List String} (hgo : chain.GoesBy tokens)
    (hwords : words text = tokens.map String.toList) : level.Follows text chain := by
  induction hchain generalizing parent? text tokens with
  | top hc =>
    obtain ⟨hindexed, -, -⟩ := h
    cases hgo with
    | cons hgoes _ => exact .stop (hindexed.mem_answering hc hgoes hwords).1
  | down hb _ ih =>
    obtain ⟨hindexed, -, hbelow⟩ := h
    cases hgo with
    | cons hgoes hgo =>
      obtain ⟨hanswers, hlater⟩ := hindexed.mem_answering hb hgoes hwords
      exact .down hanswers (ih (hbelow _ hb) hgo hlater)

theorem Charted.wellNamed (h : Charted parent? level) (hchain : level.Holds chain) :
    ∀ c ∈ chain.commands, c.WellNamed := by
  induction hchain generalizing parent? with
  | top hc =>
    obtain ⟨-, hnames, -⟩ := h
    rintro c (_ | ⟨_, hc'⟩)
    · exact (hnames _ hc).1
    · cases hc'
  | down hb _ ih =>
    obtain ⟨-, hnames, hbelow⟩ := h
    rintro c (_ | ⟨_, hc⟩)
    · exact (hnames _ hb).1
    · exact ih (hbelow _ hb) c hc

/-- The words of a path are the triggers from the top level down. -/
theorem Charted.words_path (h : Charted parent? level) (hchain : level.Holds chain) :
    words chain.last.path.toList = words (parent?.getD "").toList ++
      (chain.commands.map (·.trigger)).map String.toList := by
  induction hchain generalizing parent? with
  | top hc =>
    obtain ⟨-, hnames, -⟩ := h
    obtain ⟨hwell, hpath⟩ := hnames _ hc
    rw [hpath, Definition.words_pathUnder parent? (hwell _ List.mem_cons_self)]
    rfl
  | down hb _ ih =>
    obtain ⟨-, hnames, hbelow⟩ := h
    obtain ⟨hwell, hpath⟩ := hnames _ hb
    rw [Chain.last_under, ih (hbelow _ hb), Option.getD_some, hpath,
      Definition.words_pathUnder parent? (hwell _ List.mem_cons_self), List.append_assoc]
    rfl

/-- Adds a command that is charted itself. -/
theorem Charted.insert (h : Charted parent? level) {c : Command H} (hnames : c.WellNamed)
    (hpath : c.path = Definition.pathUnder parent? c.trigger)
    (hbelow : Charted (some c.path) c.subcommands) : Charted parent? (level.insert c) := by
  obtain ⟨hindexed, hcommands, hlevels⟩ := h
  refine .intro (hindexed.insert c) (fun b hb => ?_) (fun b hb => ?_)
  · rcases List.mem_append.mp hb with hb | hb
    · exact hcommands b hb
    · obtain rfl := List.mem_singleton.mp hb
      exact ⟨hnames, hpath⟩
  · rcases List.mem_append.mp hb with hb | hb
    · exact hlevels b hb
    · obtain rfl := List.mem_singleton.mp hb
      exact hbelow

end Level

/-- What is built from a well-formed definition is charted. -/
theorem Definition.BuiltAs.charted {parent? : Option String} {depth : Nat} {d : Definition H}
    {c : Command H} (h : BuiltAs parent? depth d c) (hd : d.WellFormed) :
    c.WellNamed ∧ c.path = pathUnder parent? c.trigger ∧
      Level.Charted (some c.path) c.subcommands := by
  induction h with
  | @intro parent? depth d c commands hsignature hpath _ _ hsub _ hlength _ ih =>
    obtain ⟨hnode, hsubs⟩ := wellFormed_iff.mp hd
    -- A command below was built from the definition at its own position.
    have hbelow : ∀ b ∈ commands, b.WellNamed ∧ b.path = pathUnder (some c.path) b.trigger ∧
        Level.Charted (some b.path) b.subcommands := by
      intro b hb
      obtain ⟨i, hi⟩ := List.mem_iff_getElem?.mp hb
      have hlt : i < d.subcommands.length := hlength ▸ (List.getElem?_eq_some_iff.mp hi).1
      exact ih i _ b (List.getElem?_eq_getElem hlt) hi (hsubs _ (List.getElem_mem hlt))
    refine ⟨?_, ?_, ?_⟩
    · rw [hsignature]
      exact hnode.wellNamed
    · rw [pathUnder_eq, hsignature, hpath]
    · rw [hsub]
      refine .intro (Level.indexed_ofList commands) (fun b hb => ?_) (fun b hb => ?_)
      all_goals
        rw [Level.commands_ofList] at hb
        obtain ⟨hnames, hpath, hlevel⟩ := hbelow b hb
      · exact ⟨hnames, hpath⟩
      · exact hlevel

theorem Definition.charted_of_build {d : Definition H} {position : Nat} {c : Command H}
    (h : d.build position = .ok c) : c.WellNamed ∧ c.path = pathUnder none c.trigger ∧
      Level.Charted (some c.path) c.subcommands :=
  (builtAs_of_build h).charted (exists_build_iff.mp ⟨c, h⟩)

namespace Command

theorem toSignature_inCategory (category : Category) (c : Command H) :
    (c.inCategory category).toSignature = c.toSignature := by
  obtain ⟨signature, id, path, usage, category?, commands, index⟩ := c
  rfl

theorem path_inCategory (category : Category) (c : Command H) :
    (c.inCategory category).path = c.path := by
  obtain ⟨signature, id, path, usage, category?, commands, index⟩ := c
  rfl

theorem index_inCategory (category : Category) (c : Command H) :
    (c.inCategory category).subcommands.index = c.subcommands.index := by
  obtain ⟨signature, id, path, usage, category?, commands, index⟩ := c
  rfl

end Command

namespace Level

/-- A category changes no name and no place. -/
theorem Indexed.inCategory {level moved : Level (Command H)} (h : level.Indexed)
    (category : Category)
    (hcommands : moved.commands = level.commands.map (Command.inCategory category))
    (hindex : moved.index = level.index) : moved.Indexed := by
  intro key position
  have hlisted : moved.listed key = level.listed key := by rw [listed, hindex, listed]
  rw [hlisted, h key position, hcommands]
  simp only [List.getElem?_map, Option.map_eq_some_iff]
  constructor
  · rintro ⟨c, hc, hkey⟩
    exact ⟨_, ⟨c, hc, rfl⟩, by rwa [Command.toSignature_inCategory]⟩
  · rintro ⟨_, ⟨c, hc, rfl⟩, hkey⟩
    exact ⟨c, hc, by rwa [Command.toSignature_inCategory] at hkey⟩

theorem Charted.inCategory {parent? : Option String} {level moved : Level (Command H)}
    (h : Charted parent? level) (category : Category)
    (hcommands : moved.commands = level.commands.map (Command.inCategory category))
    (hindex : moved.index = level.index) : Charted parent? moved := by
  induction h generalizing moved with
  | @intro parent? level hindexed hnames _ ih =>
    have hmoved : ∀ c ∈ moved.commands, ∃ b ∈ level.commands, b.inCategory category = c :=
      fun c hc => List.mem_map.mp (hcommands ▸ hc)
    refine .intro (hindexed.inCategory category hcommands hindex) (fun c hc => ?_) (fun c hc => ?_)
    · obtain ⟨b, hb, rfl⟩ := hmoved c hc
      rw [Command.toSignature_inCategory, Command.path_inCategory]
      exact hnames b hb
    · obtain ⟨b, hb, rfl⟩ := hmoved c hc
      rw [Command.path_inCategory]
      exact ih b hb (Command.commands_inCategory category b) (Command.index_inCategory category b)

end Level

namespace Catalog

/-- The catalogs that are filled by registering built commands one after another, in a category or
in none. -/
inductive Stocked : Catalog H → Prop
  | empty : Stocked {}
  | register {catalog : Catalog H} {d : Definition H} {position : Nat} {c : Command H} :
      Stocked catalog → d.build position = .ok c → Stocked (catalog.register c)
  | registerIn {catalog : Catalog H} {d : Definition H} {position : Nat} {c : Command H}
      (category : Category) :
      Stocked catalog → d.build position = .ok c → Stocked (catalog.registerIn category c)

/-- A definition that is added is built and registered. -/
theorem Built.stocked {catalog : Catalog H} (h : catalog.Built) : catalog.Stocked := by
  induction h with
  | empty => exact .empty
  | define _ hdefine ih =>
    obtain ⟨c, b, hbuild, rfl, rfl | ⟨category, rfl⟩⟩ := exists_build_of_define hdefine
    · exact ih.register hbuild
    · exact ih.registerIn category hbuild

theorem Stocked.charted {catalog : Catalog H} (h : catalog.Stocked) :
    Level.Charted none catalog.root := by
  induction h with
  | empty => exact .intro Level.indexed_empty (fun c hc => by cases hc) (fun c hc => by cases hc)
  | @register catalog d position c _ hbuild ih =>
    obtain ⟨hnames, hpath, hbelow⟩ := Definition.charted_of_build hbuild
    exact ih.insert hnames hpath hbelow
  | @registerIn catalog d position c category _ hbuild ih =>
    obtain ⟨hnames, hpath, hbelow⟩ := Definition.charted_of_build hbuild
    refine ih.insert ?_ ?_ ?_
    · rwa [Command.toSignature_inCategory]
    · rwa [Command.path_inCategory, Command.toSignature_inCategory]
    · rw [Command.path_inCategory]
      exact hbelow.inCategory category (Command.commands_inCategory category c)
        (Command.index_inCategory category c)

/-- A command at the end of a chain that follows all words of a path is found there. -/
theorem last_mem_find_of_follows {catalog : Catalog H} {chain : Chain H} {path : String}
    (h : catalog.root.Follows path.toList chain)
    (hdepth : (words path.toList).length = chain.depth) : chain.last ∈ catalog.find path := by
  have hfound := last_mem_narrow h
  rw [h.words_eq, List.length_cons, Chain.depth, Nat.add_right_cancel_iff] at hdepth
  rw [← hdepth, List.take_length] at hfound
  rw [find, h.words_eq]
  exact hfound

theorem Stocked.last_mem_find {catalog : Catalog H} (h : catalog.Stocked) {chain : Chain H}
    (hchain : catalog.root.Holds chain) {tokens : List String} (hgo : chain.GoesBy tokens)
    {path : String} (hwords : words path.toList = tokens.map String.toList) :
    chain.last ∈ catalog.find path := by
  refine last_mem_find_of_follows (h.charted.follows hchain hgo hwords) ?_
  rw [hwords, List.length_map, ← List.Forall₂.length_eq hgo, chain.length_commands]

/-- Every command is found under its path, and under each path that names it and the commands above
it in turn: by any of their names, in any letter case where the case does not count, and with any
white space between them. -/
theorem every_command_is_found {catalog : Catalog H} (h : catalog.Stocked) {chain : Chain H}
    (hchain : catalog.root.Holds chain) :
    chain.last ∈ catalog.find chain.last.path ∧
    ∀ (tokens : List String) (path : String), chain.GoesBy tokens →
      Spaced (tokens.map String.toList) path.toList → chain.last ∈ catalog.find path := by
  constructor
  · -- The words of its path are the triggers of the chain, and each command goes by its own.
    refine h.last_mem_find hchain chain.goesBy_triggers ?_
    rw [h.charted.words_path hchain, Definition.words_no_parent, List.nil_append]
  · intro tokens path hgo hspaced
    exact h.last_mem_find hchain hgo
      (hspaced.words_eq (hgo.isWord (h.charted.wellNamed hchain)))

/-- The letter case of the group does not count, that of the sub-command does. -/
example :
    let create : Definition Unit :=
      { trigger := "create", aliases := ["New"], caseSensitive := true, handler? := some () }
    let channel : Definition Unit :=
      { trigger := "channel", aliases := ["Kanal"], subcommands := [create] }
    (({} : Catalog Unit).define channel).toOption.map (fun catalog =>
      (catalog.find "\tKANAL  New ").map (·.path) ++ (catalog.find "kanal new").map (·.path)) =
      some ["channel create"] := by
  decide +kernel

/-- A group with one sub-command. -/
def channel : Definition Unit :=
  { trigger := "channel", aliases := ["Kanal"]
    subcommands := [{ trigger := "create", handler? := some () }] }

def channels : Catalog Unit :=
  (({} : Catalog Unit).define channel (some ⟨"admin", ""⟩)).toOption.getD {}

theorem every_command_is_found_channels : ∃ chain : Chain Unit,
    channels.Stocked ∧ channels.root.Holds chain ∧ chain.depth = 2 ∧
    chain.last ∈ channels.find chain.last.path ∧
    ∀ (tokens : List String) (path : String), chain.GoesBy tokens →
      Spaced (tokens.map String.toList) path.toList → chain.last ∈ channels.find path := by
  have hsome : ((channels.root.chains "channel create".toList).find?
      (·.depth == 2)).isSome = true := by decide +kernel
  obtain ⟨chain, hfind⟩ := Option.isSome_iff_exists.mp hsome
  have hchain := (Level.mem_chains.mp (List.mem_of_find?_eq_some hfind)).holds
  have hstocked : channels.Stocked := (Built.empty.attempt channel _).stocked
  exact ⟨chain, hstocked, hchain, by simpa using List.find?_some hfind,
    every_command_is_found hstocked hchain⟩

end Catalog

end ChatCommands
