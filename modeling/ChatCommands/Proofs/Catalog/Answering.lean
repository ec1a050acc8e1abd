import ChatCommands.Catalog
import ChatCommands.Proofs.Catalog.Positions

/-! # Who answers to a token

A level keeps an index from names to positions. If it was filled by insertions, a token finds
those of its commands that answer to the token, in the order in which they were inserted.
-/

namespace ChatCommands

open Text

variable {H : Type}

/-- A command answers to a token that it is listed under. If its letter case does not count, the
lower-case form of the token is as good. -/
def Signature.answersTo (s : Signature H) (token : String) : Bool :=
  s.keys.contains token ||
    (lowercase token != token && s.keys.contains (lowercase token) && !s.caseSensitive)

namespace Level

/-- Under each name stand the positions of the commands that are listed under it. -/
def Indexed (level : Level (Command H)) : Prop :=
  ∀ key position, position ∈ level.listed key ↔
    ∃ c, level.commands[position]? = some c ∧ key ∈ c.keys

section Insert

variable {level : Level (Command H)} {index : List (String × List Nat)} {keys : List String}
  {key other : String} {position entry : Nat}

theorem mem_lookup_list : entry ∈ ((list index position key).lookup other).getD [] ↔
    entry ∈ (index.lookup other).getD [] ∨ (entry = position ∧ other = key) := by
  induction index with
  | nil =>
    rw [list, List.lookup_cons]
    cases h : other == key <;> simp_all
  | cons first rest ih =>
    obtain ⟨k, positions⟩ := first
    rw [list]
    split
    · rename_i hk
      obtain rfl : k = key := by simpa using hk
      rw [List.lookup_cons, List.lookup_cons]
      cases h : other == k <;> simp_all
    · rename_i hk
      rw [List.lookup_cons, List.lookup_cons]
      cases h : other == k with
      | false => exact ih
      | true =>
        obtain rfl : other = k := by simpa using h
        have hne : other ≠ key := by simpa using hk
        simp [hne]

theorem mem_lookup_foldl_list :
    entry ∈ ((keys.foldl (list · position ·) index).lookup other).getD [] ↔
      entry ∈ (index.lookup other).getD [] ∨ (entry = position ∧ other ∈ keys) := by
  induction keys generalizing index with
  | nil => simp
  | cons key keys ih =>
    rw [List.foldl_cons, ih, mem_lookup_list, or_assoc, ← and_or_left, List.mem_cons]

theorem getElem?_insert {b c : Command H} : (level.insert c).commands[position]? = some b ↔
    level.commands[position]? = some b ∨ (position = level.commands.length ∧ b = c) := by
  rw [insert, List.getElem?_append]
  split
  · constructor
    · exact Or.inl
    · rintro (hb | ⟨rfl, -⟩)
      · exact hb
      · omega
  · rename_i hge
    rw [List.getElem?_singleton, List.getElem?_eq_none (by omega)]
    simp [eq_comm]
    omega

theorem indexed_empty : Indexed ({} : Level (Command H)) := by
  intro key position
  simp [listed]

theorem Indexed.insert (h : level.Indexed) (c : Command H) : (level.insert c).Indexed := by
  intro key position
  have hbefore := h key position
  rw [listed] at hbefore
  simp only [getElem?_insert]
  rw [listed, Level.insert, mem_lookup_foldl_list, hbefore]
  constructor
  · rintro (⟨b, hb, hkey⟩ | ⟨rfl, hkey⟩)
    · exact ⟨b, Or.inl hb, hkey⟩
    · exact ⟨c, Or.inr ⟨rfl, rfl⟩, hkey⟩
  · rintro ⟨b, hb | ⟨rfl, rfl⟩, hkey⟩
    · exact Or.inl ⟨b, hb, hkey⟩
    · exact Or.inr ⟨rfl, hkey⟩

end Insert

/-- What stands at a position that a token finds answers to the token. -/
theorem Indexed.mem_positions_iff {level : Level (Command H)} (h : level.Indexed) {token : String}
    {position : Nat} {c : Command H} (hc : level.commands[position]? = some c) :
    position ∈ level.positions token ↔ c.answersTo token = true := by
  have hlisted : ∀ key, position ∈ level.listed key ↔ key ∈ c.keys := by
    intro key
    rw [h key position]
    constructor
    · rintro ⟨b, hb, hkey⟩
      cases hb.symm.trans hc
      exact hkey
    · exact fun hkey => ⟨c, hc, hkey⟩
  rw [mem_positions, hlisted, hlisted, Signature.answersTo]
  simp [hc, and_assoc]

/-- The candidates for a token are the commands that answer to it. -/
theorem Indexed.candidates_eq {level : Level (Command H)} (h : level.Indexed) (token : String) :
    level.candidates token = level.commands.filter (·.answersTo token) :=
  filterMap_getElem?_eq_filter (level.pairwise_positions token) fun _ _ => h.mem_positions_iff

end Level

namespace Catalog

/-- The catalogs that are filled by registering commands one after another. -/
inductive Registered : Catalog H → Prop
  | empty : Registered {}
  | register {catalog : Catalog H} (c : Command H) :
      Registered catalog → Registered (catalog.register c)

variable {catalog : Catalog H}

theorem Registered.indexed (h : catalog.Registered) : catalog.root.Indexed := by
  induction h with
  | empty => exact Level.indexed_empty
  | register c _ ih => exact ih.insert c

/-- A command that is registered is a further candidate for the tokens that it answers to, after
all others. -/
theorem Registered.candidates_register (h : catalog.Registered) (c : Command H) (token : String) :
    (catalog.register c).root.candidates token =
      catalog.root.candidates token ++ if c.answersTo token then [c] else [] := by
  have hcommands : (catalog.register c).root.commands = catalog.root.commands ++ [c] := rfl
  rw [(h.register c).indexed.candidates_eq, h.indexed.candidates_eq, hcommands,
    List.filter_append, List.filter_cons, List.filter_nil]

end Catalog

end ChatCommands
