import ChatCommands.Proofs.Definition.Faults
import ChatCommands.Proofs.Catalog.Naming
import ChatCommands.Proofs.Text.Trim

/-! # Building a definition

A definition is built just if every node of it is well formed, and otherwise the fault reported is
the first one, a node before those below it and these in order. What is built has the shape of the
definition, with the paths and usages that belong to each place.
-/

namespace ChatCommands

open Text

variable {H : Type}

namespace Definition

mutual

/-- The nodes of a definition, each before those below it, with whether it is a leaf. -/
def nodes : Definition H → List (Signature H × Bool)
  | ⟨signature, subcommands⟩ => (signature, subcommands.isEmpty) :: allNodes subcommands

def allNodes : List (Definition H) → List (Signature H × Bool)
  | [] => []
  | d :: ds => nodes d ++ allNodes ds

end

theorem nodes_eq (d : Definition H) :
    d.nodes = (d.toSignature, d.subcommands.isEmpty) :: allNodes d.subcommands := by
  cases d
  rfl

theorem allNodes_eq_flatMap (ds : List (Definition H)) : allNodes ds = ds.flatMap nodes := by
  induction ds with
  | nil => rfl
  | cons d ds ih => rw [allNodes, ih, List.flatMap_cons]

def WellFormed (d : Definition H) : Prop :=
  ∀ node ∈ d.nodes, node.1.WellFormed node.2

theorem wellFormed_iff {d : Definition H} : d.WellFormed ↔
    d.toSignature.WellFormed d.subcommands.isEmpty ∧ ∀ below ∈ d.subcommands, below.WellFormed := by
  simp only [WellFormed, nodes_eq d, allNodes_eq_flatMap, List.forall_mem_cons, List.mem_flatMap,
    forall_exists_index, and_imp]
  exact and_congr_right fun _ => ⟨fun h d hd node => h node d hd, fun h node d hd => h d hd node⟩

/-- The first fault of a definition: all nodes before the one at fault are well formed. -/
def Fault (d : Definition H) (error : BuildError) : Prop :=
  ∃ before node after, d.nodes = before ++ node :: after ∧
    (∀ earlier ∈ before, earlier.1.WellFormed earlier.2) ∧ node.1.Fault node.2 error

/-- What the checks of some nodes report first. -/
def fault? (nodes : List (Signature H × Bool)) : Option BuildError :=
  nodes.findSome? fun node => BuildError.ofSignature? node.1 node.2

theorem fault?_cons (node : Signature H × Bool) (nodes : List (Signature H × Bool)) :
    fault? (node :: nodes) = (BuildError.ofSignature? node.1 node.2).or (fault? nodes) := by
  rw [fault?, List.findSome?_cons]
  cases BuildError.ofSignature? node.1 node.2 <;> rfl

theorem fault?_append (first second : List (Signature H × Bool)) :
    fault? (first ++ second) = (fault? first).or (fault? second) :=
  List.findSome?_append

-- Both walks meet the nodes in the same order, so the induction follows the definition and the list
-- of those below it. The path and the position differ from place to place, but no fault has them.
mutual

theorem buildUnder_eq_error_iff (parent? : Option String) (id : CommandId) :
    ∀ (d : Definition H) (error : BuildError),
      d.buildUnder parent? id = .error error ↔ fault? d.nodes = some error
  | ⟨signature, subcommands⟩, error => by
    have hbelow := buildAll_eq_error_iff (pathUnder parent? signature.trigger) id 0 subcommands
    rw [buildUnder, nodes, fault?_cons]
    cases BuildError.ofSignature? signature subcommands.isEmpty with
    | some found => simp
    | none =>
      rw [Option.none_or, ← hbelow]
      simp only
      split
      · rename_i hall
        rw [hall]
        simp
      · rename_i hall
        rw [hall]
        simp

theorem buildAll_eq_error_iff (path : String) (id : CommandId) (position : Nat) :
    ∀ (ds : List (Definition H)) (error : BuildError),
      buildAll path id position ds = .error error ↔ fault? (allNodes ds) = some error
  | [], error => by simp [buildAll, allNodes, fault?]
  | d :: ds, error => by
    have hfirst := buildUnder_eq_error_iff (some path) (id ++ [position]) d
    have hrest := buildAll_eq_error_iff path id (position + 1) ds
    rw [buildAll, allNodes, fault?_append]
    split
    · rename_i found hd
      rw [(hfirst found).mp hd]
      simp
    · rename_i c hd
      have hnone : fault? d.nodes = none :=
        Option.eq_none_iff_forall_ne_some.mpr fun found h => by
          rw [(hfirst found).mpr h] at hd
          cases hd
      rw [hnone, Option.none_or, ← hrest]
      split
      · rename_i hds
        rw [hds]
      · rename_i hds
        rw [hds]
        simp

end

section Faults

variable {d : Definition H} {error : BuildError}

theorem fault?_eq_none_iff : fault? d.nodes = none ↔ d.WellFormed := by
  rw [fault?, List.findSome?_eq_none_iff]
  exact forall₂_congr fun _ _ => BuildError.ofSignature?_eq_none_iff

theorem fault?_eq_some_iff : fault? d.nodes = some error ↔ d.Fault error := by
  rw [fault?, List.findSome?_eq_some_iff]
  simp only [BuildError.ofSignature?_eq_some_iff, BuildError.ofSignature?_eq_none_iff]
  constructor
  · rintro ⟨before, node, after, hsplit, hfault, hbefore⟩
    exact ⟨before, node, after, hsplit, hbefore, hfault⟩
  · rintro ⟨before, node, after, hsplit, hbefore, hfault⟩
    exact ⟨before, node, after, hsplit, hfault, hbefore⟩

end Faults

/-- The command is what becomes of a definition at some depth of a tree, below the path of its
parent: nothing of the definition is changed, and the commands below it stand in its order. -/
inductive BuiltAs : Option String → Nat → Definition H → Command H → Prop
  | intro {parent? : Option String} {depth : Nat} {d : Definition H} {c : Command H}
      {commands : List (Command H)} :
      c.toSignature = d.toSignature →
      c.path = parent?.elim "" (· ++ " ") ++ d.trigger →
      (words c.path.toList).length = depth →
      c.usage = " ".intercalate (c.path :: d.parameters.map (·.usage)) →
      c.subcommands = .ofList commands → c.subcommands.commands = commands →
      commands.length = d.subcommands.length →
      (∀ (i : Nat) (below : Definition H) (b : Command H), d.subcommands[i]? = some below →
        commands[i]? = some b → BuiltAs (some c.path) (depth + 1) below b) →
      BuiltAs parent? depth d c

theorem pathUnder_eq (parent? : Option String) (trigger : String) :
    pathUnder parent? trigger = parent?.elim "" (· ++ " ") ++ trigger := by
  cases parent? with
  | none => exact String.empty_append.symm
  | some parent => rfl

theorem usageAt_eq (path : String) (parameters : List Parameter) :
    usageAt path parameters = " ".intercalate (path :: parameters.map (·.usage)) := by
  induction parameters generalizing path with
  | nil => rfl
  | cons p parameters ih =>
    rw [usageAt, List.foldl_cons, ← usageAt, ih, List.map_cons, String.intercalate_cons_cons]
    exact String.intercalate_cons_append

theorem words_no_parent : words ((none : Option String).getD "").toList = [] :=
  words_eq_nil_iff.mpr rfl

/-- A path is the path of the parent with the trigger behind it. -/
theorem words_pathUnder (parent? : Option String) {trigger : String}
    (h : IsWord trigger.toList) : words (pathUnder parent? trigger).toList =
      words (parent?.getD "").toList ++ [trigger.toList] := by
  cases parent? with
  | none =>
    rw [pathUnder, h.words_eq, words_no_parent]
    rfl
  | some parent =>
    have hpath : (pathUnder (some parent) trigger).toList =
        parent.toList ++ ' ' :: trigger.toList := by
      simp [pathUnder_eq]
    rw [hpath, words_append_space, h.words_eq]
    rfl

mutual

theorem builtAs_buildUnder (parent? : Option String) (id : CommandId) :
    ∀ (d : Definition H) {c : Command H}, d.buildUnder parent? id = .ok c →
      BuiltAs parent? ((words (parent?.getD "").toList).length + 1) d c
  | ⟨signature, subcommands⟩, c, h => by
    rw [buildUnder] at h
    split at h
    · cases h
    · rename_i hnode
      simp only at h
      split at h
      · cases h
      · rename_i commands hall
        cases h
        have hwell := BuildError.ofSignature?_eq_none_iff.mp hnode
        have htrigger := hwell.wellNamed signature.trigger List.mem_cons_self
        obtain ⟨hlength, hbelow⟩ := builtAs_buildAll _ id 0 subcommands hall
        have hdepth : (words (pathUnder parent? signature.trigger).toList).length =
            (words (parent?.getD "").toList).length + 1 := by
          rw [words_pathUnder parent? htrigger, List.length_append]
          rfl
        rw [hdepth] at hbelow
        exact .intro rfl (pathUnder_eq parent? signature.trigger) hdepth (usageAt_eq _ _) rfl
          (Level.commands_ofList commands) hlength hbelow

theorem builtAs_buildAll (path : String) (id : CommandId) (position : Nat) :
    ∀ (ds : List (Definition H)) {cs : List (Command H)}, buildAll path id position ds = .ok cs →
      cs.length = ds.length ∧ ∀ (i : Nat) (d : Definition H) (c : Command H), ds[i]? = some d →
        cs[i]? = some c → BuiltAs (some path) ((words path.toList).length + 1) d c
  | [], cs, h => by
    cases h
    exact ⟨rfl, fun i d c hd => by simp at hd⟩
  | d :: ds, cs, h => by
    rw [buildAll] at h
    split at h
    · cases h
    · rename_i command hcommand
      split at h
      · cases h
      · rename_i commands hcommands
        cases h
        obtain ⟨hlength, hrest⟩ := builtAs_buildAll path id (position + 1) ds hcommands
        refine ⟨congrArg (· + 1) hlength, fun i d' c hd hc => ?_⟩
        cases i with
        | zero =>
          cases hd
          cases hc
          exact builtAs_buildUnder (some path) _ d hcommand
        | succ i => exact hrest i d' c hd hc

end

theorem builtAs_of_build {d : Definition H} {position : Nat} {c : Command H}
    (h : d.build position = .ok c) : BuiltAs none 1 d c := by
  have hbuilt := builtAs_buildUnder none [position] d h
  rwa [words_no_parent, List.length_nil] at hbuilt

theorem exists_build_iff {d : Definition H} {position : Nat} :
    (∃ c, d.build position = .ok c) ↔ d.WellFormed := by
  have herror := buildUnder_eq_error_iff none [position] d
  rw [← fault?_eq_none_iff, build]
  constructor
  · rintro ⟨c, hc⟩
    refine Option.eq_none_iff_forall_ne_some.mpr fun error h => ?_
    rw [(herror error).mpr h] at hc
    cases hc
  · intro hnone
    cases hd : d.buildUnder none [position] with
    | ok c => exact ⟨c, rfl⟩
    | error error =>
      rw [(herror error).mp hd] at hnone
      cases hnone

/-- A definition is built just if all its nodes are well formed. Otherwise its first fault is
reported. What is built keeps the definition and its order, and each node has the path, of as many
words as the node is deep, and the usage that belong to it. -/
theorem well_formed_definitions_are_built (d : Definition H) (position : Nat) :
    ((∃ c, d.build position = .ok c) ↔ d.WellFormed) ∧
    (∀ error, d.build position = .error error ↔ d.Fault error) ∧
    ∀ c, d.build position = .ok c → BuiltAs none 1 d c :=
  ⟨exists_build_iff,
    fun error => (buildUnder_eq_error_iff none [position] d error).trans fault?_eq_some_iff,
    fun _ => builtAs_of_build⟩

end Definition

end ChatCommands
