import ChatCommands.Proofs.Catalog.Answering
import ChatCommands.Proofs.Resolution.Chain

/-! # Places in a command tree

In a catalog that was filled with built definitions, the id of a command is its place in the tree.
So a command has one place, and the commands above it are determined.
-/

namespace ChatCommands

variable {H : Type}

namespace Level

/-- The chain leads down the tree, whatever its commands answer to. -/
inductive Holds : Level (Command H) → Chain H → Prop
  | top {level : Level (Command H)} {c : Command H} : c ∈ level.commands → Holds level ⟨[], c⟩
  | down {level : Level (Command H)} {b : Command H} {chain : Chain H} :
      b ∈ level.commands → Holds b.subcommands chain → Holds level (chain.under b)

theorem Follows.holds {level : Level (Command H)} {text : List Char} {chain : Chain H}
    (h : level.Follows text chain) : level.Holds chain := by
  induction h with
  | stop hc => exact .top ((answering_sublist _ _).subset hc)
  | down hb _ ih => exact .down ((answering_sublist _ _).subset hb) ih

/-- The ids of the commands of a level, and of the levels below, are their places below a place. -/
inductive Placed : CommandId → Level (Command H) → Prop
  | intro {place : CommandId} {level : Level (Command H)} :
      (∀ i (c : Command H), level.commands[i]? = some c → c.id = place ++ [i]) →
      (∀ (i : Nat) (c : Command H), level.commands[i]? = some c → Placed c.id c.subcommands) →
      Placed place level

variable {place : CommandId} {level : Level (Command H)}

theorem Placed.of_mem (hp : Placed place level) {c : Command H} (hc : c ∈ level.commands) :
    ∃ i, level.commands[i]? = some c ∧ c.id = place ++ [i] ∧ Placed c.id c.subcommands := by
  obtain ⟨hid, hsub⟩ := hp
  obtain ⟨i, hi⟩ := List.mem_iff_getElem?.mp hc
  exact ⟨i, hi, hid i c hi, hsub i c hi⟩

theorem Placed.id_eq (hp : Placed place level) {chain : Chain H} (h : level.Holds chain) :
    ∃ path, path.length = chain.depth ∧ chain.last.id = place ++ path := by
  induction h generalizing place with
  | top hc =>
    obtain ⟨i, _, hid, _⟩ := hp.of_mem hc
    exact ⟨[i], rfl, hid⟩
  | down hb _ ih =>
    obtain ⟨i, _, hid, hsub⟩ := hp.of_mem hb
    obtain ⟨path, hlen, hlast⟩ := ih hsub
    exact ⟨i :: path, by simp [hlen], by simp [hlast, hid]⟩

/-- A command has one place, so that the commands above it are determined. -/
theorem Placed.chain_unique (hp : Placed place level) {A B : Chain H} (hA : level.Holds A)
    (hB : level.Holds B) (h : A.last.id = B.last.id) : A = B := by
  -- Ids of different depths differ in length, and ids of one depth in the first place that differs.
  induction hA generalizing place B with
  | @top level a ha =>
    obtain ⟨i, hi, hia, _⟩ := hp.of_mem ha
    cases hB with
    | @top _ b hb =>
      obtain ⟨j, hj, hjb, _⟩ := hp.of_mem hb
      have hij : i = j := by simpa [hia, hjb] using h
      subst hij
      rw [Option.some.inj (hi.symm.trans hj)]
    | @down _ b chain hb hchain =>
      obtain ⟨j, _, hjb, hsub⟩ := hp.of_mem hb
      obtain ⟨path, hlen, hlast⟩ := hsub.id_eq hchain
      simp only [Chain.last_under, hia, hlast, hjb, List.append_assoc,
        List.append_cancel_left_eq] at h
      have hl := congrArg List.length h
      simp [hlen, Chain.depth] at hl
  | @down level a chain ha hchain ih =>
    obtain ⟨i, hi, hia, hsub⟩ := hp.of_mem ha
    obtain ⟨path, hlen, hlast⟩ := hsub.id_eq hchain
    cases hB with
    | @top _ b hb =>
      obtain ⟨j, _, hjb, _⟩ := hp.of_mem hb
      simp only [Chain.last_under, hjb, hlast, hia, List.append_assoc,
        List.append_cancel_left_eq] at h
      have hl := congrArg List.length h
      simp [hlen, Chain.depth] at hl
    | @down _ b other hb hother =>
      obtain ⟨j, hj, hjb, hsub'⟩ := hp.of_mem hb
      obtain ⟨path', hlen', hlast'⟩ := hsub'.id_eq hother
      have hij : i = j := by
        have hids := h
        simp only [Chain.last_under, hlast, hia, hlast', hjb, List.append_assoc,
          List.append_cancel_left_eq, List.singleton_append, List.cons.injEq] at hids
        exact hids.1
      subst hij
      obtain rfl := Option.some.inj (hi.symm.trans hj)
      rw [ih hsub hother h]

theorem commands_foldl_insert (cs : List (Command H)) (level : Level (Command H)) :
    (cs.foldl insert level).commands = level.commands ++ cs := by
  induction cs generalizing level with
  | nil => simp
  | cons c cs ih => simp [ih, insert]

theorem commands_ofList (cs : List (Command H)) : (ofList cs).commands = cs := by
  simp [ofList, commands_foldl_insert]

/-- Adds a command that knows its place at the end of a level. -/
theorem Placed.insert (hp : Placed place level) {c : Command H}
    (hid : c.id = place ++ [level.commands.length]) (hsub : Placed c.id c.subcommands) :
    Placed place (level.insert c) := by
  obtain ⟨hids, hsubs⟩ := hp
  refine .intro (fun i b hb => ?_) (fun i b hb => ?_)
  · rcases getElem?_insert.mp hb with hb | ⟨rfl, rfl⟩
    · exact hids i b hb
    · exact hid
  · rcases getElem?_insert.mp hb with hb | ⟨rfl, rfl⟩
    · exact hsubs i b hb
    · exact hsub

end Level

open Level

namespace Definition

mutual

theorem placed_buildUnder (parent? : Option String) (id : CommandId) :
    ∀ (d : Definition H) {c : Command H}, d.buildUnder parent? id = .ok c →
      c.id = id ∧ Placed c.id c.subcommands
  | ⟨signature, subcommands⟩, c, h => by
    rw [buildUnder] at h
    split at h
    · cases h
    · simp only at h
      split at h
      · cases h
      · rename_i commands hall
        cases h
        have hplaced := placed_buildAll _ id 0 subcommands hall
        refine ⟨rfl, .intro (fun i c hc => ?_) (fun i c hc => ?_)⟩
        · rw [commands_ofList] at hc
          simpa using (hplaced i c hc).1
        · rw [commands_ofList] at hc
          exact (hplaced i c hc).2

theorem placed_buildAll (path : String) (id : CommandId) (position : Nat) :
    ∀ (ds : List (Definition H)) {cs : List (Command H)}, buildAll path id position ds = .ok cs →
      ∀ i c, cs[i]? = some c → c.id = id ++ [position + i] ∧ Placed c.id c.subcommands
  | [], cs, h, i, c, hc => by
    cases h
    simp at hc
  | d :: ds, cs, h, i, c, hc => by
    rw [buildAll] at h
    split at h
    · cases h
    · rename_i command hcommand
      split at h
      · cases h
      · rename_i commands hcommands
        cases h
        cases i with
        | zero =>
          cases hc
          exact placed_buildUnder _ _ d hcommand
        | succ i =>
          have hrest := placed_buildAll path id (position + 1) ds hcommands i c hc
          rwa [Nat.add_assoc, Nat.add_comm 1 i] at hrest

end

end Definition

namespace Command

theorem allInCategory_eq_map (category : Category) (cs : List (Command H)) :
    allInCategory category cs = cs.map (inCategory category) := by
  induction cs with
  | nil => rfl
  | cons c cs ih => rw [allInCategory, ih, List.map_cons]

theorem id_inCategory (category : Category) (c : Command H) :
    (c.inCategory category).id = c.id := by
  obtain ⟨signature, id, path, usage, category?, commands, index⟩ := c
  rfl

theorem commands_inCategory (category : Category) (c : Command H) :
    (c.inCategory category).subcommands.commands =
      c.subcommands.commands.map (inCategory category) := by
  obtain ⟨signature, id, path, usage, category?, commands, index⟩ := c
  exact allInCategory_eq_map category commands

end Command

theorem Level.Placed.inCategory {place : CommandId} {level : Level (Command H)}
    (hp : Placed place level) (category : Category) {moved : Level (Command H)}
    (h : moved.commands = level.commands.map (Command.inCategory category)) :
    Placed place moved := by
  induction hp generalizing moved with
  | @intro place level hid _ ih =>
    have hmoved : ∀ (i : Nat) (c : Command H), moved.commands[i]? = some c →
        ∃ b : Command H, level.commands[i]? = some b ∧ c = b.inCategory category := by
      intro i c hc
      rw [h, List.getElem?_map] at hc
      obtain ⟨b, hb, rfl⟩ := Option.map_eq_some_iff.mp hc
      exact ⟨b, hb, rfl⟩
    refine .intro (fun i c hc => ?_) (fun i c hc => ?_)
    · obtain ⟨b, hb, rfl⟩ := hmoved i c hc
      rw [Command.id_inCategory, hid i b hb]
    · obtain ⟨b, hb, rfl⟩ := hmoved i c hc
      rw [Command.id_inCategory]
      exact ih i b hb (Command.commands_inCategory category b)

namespace Catalog

/-- The catalogs that are filled by adding definitions one after another. -/
inductive Built : Catalog H → Prop
  | empty : Built {}
  | define {catalog extended : Catalog H} {d : Definition H} {category? : Option Category} :
      Built catalog → catalog.define d category? = .ok extended → Built extended

/-- A catalog is extended by one command, built for the place after the last. -/
theorem exists_build_of_define {catalog extended : Catalog H} {d : Definition H}
    {category? : Option Category} (h : catalog.define d category? = .ok extended) :
    ∃ c b, d.build catalog.size = .ok c ∧ extended = catalog.register b ∧
      (b = c ∨ ∃ category, b = c.inCategory category) := by
  rw [define] at h
  cases hc : d.build catalog.size with
  | error error => simp [hc, Except.map] at h
  | ok c =>
    simp only [hc, Except.map, Except.ok.injEq] at h
    cases category? with
    | none => exact ⟨c, c, rfl, h.symm, Or.inl rfl⟩
    | some category => exact ⟨c, c.inCategory category, rfl, h.symm, Or.inr ⟨category, rfl⟩⟩

/-- A definition that is not well formed leaves a catalog as it is. -/
theorem Built.attempt {catalog : Catalog H} (h : catalog.Built) (d : Definition H)
    (category? : Option Category) : ((catalog.define d category?).toOption.getD catalog).Built := by
  cases hd : catalog.define d category? with
  | error error => exact h
  | ok extended => exact h.define hd

theorem Built.placed {catalog : Catalog H} (h : catalog.Built) : Placed [] catalog.root := by
  induction h with
  | empty => exact .intro (fun i c hc => by simp at hc) (fun i c hc => by simp at hc)
  | @define catalog extended d category? _ hdefine ih =>
    obtain ⟨c, b, hc, rfl, hb⟩ := exists_build_of_define hdefine
    obtain ⟨hid, hsub⟩ := Definition.placed_buildUnder none [catalog.size] d hc
    rcases hb with rfl | ⟨category, rfl⟩
    · exact ih.insert hid hsub
    · refine ih.insert ((Command.id_inCategory category c).trans hid) ?_
      rw [Command.id_inCategory]
      exact hsub.inCategory category (Command.commands_inCategory category c)

end Catalog

end ChatCommands
