import Mathlib.Data.List.TakeWhile
import ChatCommands.Command.Build
import ChatCommands.Proofs.Text.Words

/-! # Faults of a definition

What each node of a definition has to meet, and which fault counts first where it does not. The
checks of a node find just these.
-/

namespace ChatCommands

open Text

variable {H : Type}

def Parameter.MayPrecede (p q : Parameter) : Prop :=
  p.hasDefault = true → q.hasDefault = true ∨ q.isEndless = true

namespace Signature

def WellNamed (s : Signature H) : Prop :=
  ∀ name ∈ s.names, IsWord name.toList

def OneEndless (s : Signature H) : Prop :=
  s.parameters.countP (·.isEndless) ≤ 1

def EndlessLast (s : Signature H) : Prop :=
  ∀ p ∈ s.parameters.dropLast, p.isEndless = false

/-- Behind a parameter with a default, only an endless one may do without. -/
def DefaultsLast (s : Signature H) : Prop :=
  s.parameters.Pairwise Parameter.MayPrecede

/-- The signature of a leaf or of a node with others below it meets all that is asked of it. -/
structure WellFormed (s : Signature H) (isLeaf : Bool) : Prop where
  wellNamed : s.WellNamed
  oneEndless : s.OneEndless
  endlessLast : s.EndlessLast
  defaultsLast : s.DefaultsLast
  useful : s.isInvocable = true ∨ isLeaf = false

/-- The first fault of a node: all that is checked before is in order. -/
inductive Fault (s : Signature H) (isLeaf : Bool) : BuildError → Prop
  | emptyTrigger {before after : List String} :
      s.names = before ++ "" :: after → (∀ name ∈ before, IsWord name.toList) →
      Fault s isLeaf .emptyTrigger
  | whitespaceInTrigger {before after : List String} {name : String} :
      s.names = before ++ name :: after → (∀ name ∈ before, IsWord name.toList) →
      name ≠ "" → (∃ c ∈ name.toList, isSpace c = true) →
      Fault s isLeaf (.whitespaceInTrigger name)
  | multipleEndless : s.WellNamed → 1 < s.parameters.countP (·.isEndless) →
      Fault s isLeaf .multipleEndless
  | endlessNotLast {before after : List Parameter} {p : Parameter} :
      s.WellNamed → s.OneEndless →
      s.parameters = before ++ p :: after → p.isEndless = true → after ≠ [] →
      Fault s isLeaf (.endlessNotLast p.name)
  | requiredAfterDefault {before between after : List Parameter} {defaulted required : Parameter} :
      s.WellNamed → s.OneEndless → s.EndlessLast →
      s.parameters = before ++ defaulted :: (between ++ required :: after) →
      (∀ p ∈ before, p.hasDefault = false) → defaulted.hasDefault = true →
      (∀ p ∈ between, p.hasDefault = true ∨ p.isEndless = true) →
      required.hasDefault = false → required.isEndless = false →
      Fault s isLeaf (.requiredAfterDefault required.name defaulted.name)
  | missingHandler : s.WellNamed → s.OneEndless → s.EndlessLast → s.DefaultsLast →
      s.isInvocable = false → isLeaf = true → Fault s isLeaf (.missingHandler s.trigger)

end Signature

namespace BuildError

variable {s : Signature H} {isLeaf : Bool} {error : BuildError}

section Names

variable {name : String}

theorem ofName?_eq_none_iff : ofName? name = none ↔ IsWord name.toList := by
  rw [ofName?, IsWord, ne_eq, String.toList_eq_nil_iff, ← String.isEmpty_iff]
  split
  · simp_all
  · split <;> simp_all

theorem ofName?_eq_some_iff : ofName? name = some error ↔
    (name = "" ∧ error = .emptyTrigger) ∨
    (name ≠ "" ∧ (∃ c ∈ name.toList, isSpace c = true) ∧ error = .whitespaceInTrigger name) := by
  rw [ofName?, ne_eq, ← String.isEmpty_iff, ← List.any_eq_true]
  split
  · rename_i hempty
    simp [hempty, @eq_comm _ error]
  · rename_i hsome
    split
    · rename_i hspace
      simp [hsome, hspace, @eq_comm _ error]
    · rename_i hspace
      simp [hsome, hspace]

theorem findSome?_ofName?_eq_none_iff : s.names.findSome? ofName? = none ↔ s.WellNamed := by
  rw [List.findSome?_eq_none_iff]
  exact forall₂_congr fun _ _ => ofName?_eq_none_iff

end Names

section Endless

theorem ofEndless?_eq_none_iff :
    ofEndless? s.parameters = none ↔ s.OneEndless ∧ s.EndlessLast := by
  rw [ofEndless?, ← List.countP_eq_length_filter, Signature.OneEndless, Signature.EndlessLast]
  split
  · rename_i hmany
    simp [Nat.not_le.mpr hmany]
  · rename_i hone
    simp only [Option.map_eq_none_iff, List.find?_eq_none, Bool.not_eq_true]
    exact (and_iff_right (by omega)).symm

/-- Of at most one endless parameter none stands in front of it. -/
theorem find?_isEndless {before after : List Parameter} {p : Parameter}
    (hone : (before ++ p :: after).countP (·.isEndless) ≤ 1) (hp : p.isEndless = true) :
    (before ++ p :: after).find? (·.isEndless) = some p := by
  rw [List.countP_append, List.countP_cons_of_pos hp] at hone
  have hbefore : before.countP (·.isEndless) = 0 := by omega
  rw [List.find?_append, List.find?_eq_none.mpr (List.countP_eq_zero.mp hbefore),
    Option.none_or, List.find?_cons_of_pos hp]

theorem ofEndless?_eq_some_iff : ofEndless? s.parameters = some error ↔
    (1 < s.parameters.countP (·.isEndless) ∧ error = .multipleEndless) ∨
    (s.OneEndless ∧ ∃ before p after, s.parameters = before ++ p :: after ∧
      p.isEndless = true ∧ after ≠ [] ∧ error = .endlessNotLast p.name) := by
  rw [ofEndless?, ← List.countP_eq_length_filter, Signature.OneEndless]
  split
  · rename_i hmany
    simp [hmany, Nat.not_le.mpr hmany, @eq_comm _ error]
  · rename_i hone
    rw [or_iff_right fun h => hone h.1, and_iff_right (Nat.not_lt.mp hone), Option.map_eq_some_iff]
    constructor
    · rintro ⟨p, hfind, rfl⟩
      obtain ⟨hp, before, after, hsplit, -⟩ := List.find?_eq_some_iff_append.mp hfind
      -- The last parameter is not searched, so it stands behind what is found.
      have hne : s.parameters ≠ [] := by
        rintro hnil
        simp [hnil] at hsplit
      refine ⟨before, p, after ++ [s.parameters.getLast hne], ?_, hp, by simp, rfl⟩
      rw [← List.cons_append, ← List.append_assoc, ← hsplit, List.dropLast_concat_getLast]
    · rintro ⟨before, p, after, hsplit, hp, hafter, rfl⟩
      have hdrop : s.parameters.dropLast = before ++ p :: after.dropLast := by
        rw [hsplit, List.dropLast_append_cons, List.dropLast_cons_of_ne_nil hafter]
      refine ⟨p, ?_, rfl⟩
      rw [hdrop]
      refine find?_isEndless (Nat.le_trans ?_ (Nat.not_lt.mp hone)) hp
      rw [← hdrop]
      exact s.parameters.dropLast_sublist.countP_le

end Endless

section Order

variable {parameters before later : List Parameter} {defaulted : Parameter}

/-- Either no parameter has a default, or the parameters split at the first that has one. -/
theorem exists_default_or (parameters : List Parameter) :
    (∀ p ∈ parameters, p.hasDefault = false) ∨
    ∃ before defaulted later, parameters = before ++ defaulted :: later ∧
      (∀ p ∈ before, p.hasDefault = false) ∧ defaulted.hasDefault = true := by
  cases hfind : parameters.find? (·.hasDefault) with
  | none => exact Or.inl fun p hp => by simpa using List.find?_eq_none.mp hfind p hp
  | some defaulted =>
    obtain ⟨hd, before, later, hsplit, hbefore⟩ := List.find?_eq_some_iff_append.mp hfind
    exact Or.inr ⟨before, defaulted, later, hsplit, fun p hp => by simpa using hbefore p hp, hd⟩

theorem ofOrder?_of_split (hbefore : ∀ p ∈ before, p.hasDefault = false)
    (hdefaulted : defaulted.hasDefault = true) :
    ofOrder? (before ++ defaulted :: later) =
      (later.find? fun p => !p.hasDefault && !p.isEndless).map fun required =>
        requiredAfterDefault required.name defaulted.name := by
  rw [ofOrder?, List.dropWhile_append_of_pos fun p hp => by rw [hbefore p hp]; rfl,
    List.dropWhile_cons_of_neg (by simp [hdefaulted])]

theorem ofOrder?_of_none (hnone : ∀ p ∈ parameters, p.hasDefault = false) :
    ofOrder? parameters = none := by
  have hdrop : parameters.dropWhile (!·.hasDefault) = [] :=
    List.dropWhile_eq_nil_iff.mpr fun p hp => by rw [hnone p hp]; rfl
  rw [ofOrder?, hdrop]

theorem pairwise_of_none (hnone : ∀ p ∈ parameters, p.hasDefault = false) :
    parameters.Pairwise Parameter.MayPrecede :=
  List.pairwise_of_forall_mem_list fun p hp _ _ hdefault =>
    absurd hdefault (by simp [hnone p hp])

theorem ofOrder?_eq_none_iff : ofOrder? s.parameters = none ↔ s.DefaultsLast := by
  rw [Signature.DefaultsLast]
  rcases exists_default_or s.parameters with hnone | ⟨before, defaulted, later, hsplit, hbefore, hd⟩
  · exact iff_of_true (ofOrder?_of_none hnone) (pairwise_of_none hnone)
  · rw [hsplit, ofOrder?_of_split hbefore hd, Option.map_eq_none_iff, List.find?_eq_none]
    simp only [Bool.and_eq_true, Bool.not_eq_true', not_and, Bool.not_eq_false]
    constructor
    · intro hlater
      have hgood : ∀ q ∈ defaulted :: later, q.hasDefault = true ∨ q.isEndless = true := by
        rintro q (_ | ⟨_, hq⟩)
        · exact Or.inl hd
        · exact Decidable.or_iff_not_imp_left.mpr fun h => hlater q hq (eq_false_of_ne_true h)
      refine List.pairwise_append.mpr ⟨pairwise_of_none hbefore, ?_, fun p hp q _ hdefault => ?_⟩
      · exact List.pairwise_of_forall_mem_list fun _ _ q hq _ => hgood q hq
      · exact absurd hdefault (by simp [hbefore p hp])
    · intro hpairs q hq hnone
      have hpair := (List.pairwise_append.mp hpairs).2.1
      have := (List.pairwise_cons.mp hpair).1 q hq hd
      simpa [hnone] using this

theorem ofOrder?_eq_some_iff : ofOrder? parameters = some error ↔
    ∃ before defaulted between required after,
      parameters = before ++ defaulted :: (between ++ required :: after) ∧
      (∀ p ∈ before, p.hasDefault = false) ∧ defaulted.hasDefault = true ∧
      (∀ p ∈ between, p.hasDefault = true ∨ p.isEndless = true) ∧
      required.hasDefault = false ∧ required.isEndless = false ∧
      error = .requiredAfterDefault required.name defaulted.name := by
  constructor
  · intro h
    rcases exists_default_or parameters with hnone | ⟨before, defaulted, later, rfl, hbefore, hd⟩
    · rw [ofOrder?_of_none hnone] at h
      cases h
    · rw [ofOrder?_of_split hbefore hd, Option.map_eq_some_iff] at h
      obtain ⟨required, hfind, rfl⟩ := h
      obtain ⟨hreq, between, after, rfl, hbetween⟩ := List.find?_eq_some_iff_append.mp hfind
      rw [Bool.and_eq_true, Bool.not_eq_true', Bool.not_eq_true'] at hreq
      refine ⟨before, defaulted, between, required, after, rfl, hbefore, hd, fun p hp => ?_,
        hreq.1, hreq.2, rfl⟩
      simpa [Decidable.or_iff_not_imp_left] using hbetween p hp
  · rintro ⟨before, defaulted, between, required, after, rfl, hbefore, hd, hbetween, hreq, hone, rfl⟩
    rw [ofOrder?_of_split hbefore hd, Option.map_eq_some_iff]
    refine ⟨required, List.find?_eq_some_iff_append.mpr ⟨by simp [hreq, hone], between, after, rfl,
      fun p hp => ?_⟩, rfl⟩
    simpa [Decidable.or_iff_not_imp_left] using hbetween p hp

end Order

/-- A node passes the checks just if it is well formed. -/
theorem ofSignature?_eq_none_iff : ofSignature? s isLeaf = none ↔ s.WellFormed isLeaf := by
  rw [ofSignature?, Option.or_eq_none_iff, Option.or_eq_none_iff, Option.or_eq_none_iff,
    findSome?_ofName?_eq_none_iff, ofEndless?_eq_none_iff, ofOrder?_eq_none_iff]
  have huseful : (if !s.isInvocable && isLeaf then some (missingHandler s.trigger) else none) =
      none ↔ s.isInvocable = true ∨ isLeaf = false := by
    cases s.isInvocable <;> cases isLeaf <;> simp
  rw [huseful]
  constructor
  · rintro ⟨hnames, ⟨hone, hlast⟩, horder, huse⟩
    exact ⟨hnames, hone, hlast, horder, huse⟩
  · rintro ⟨hnames, hone, hlast, horder, huse⟩
    exact ⟨hnames, ⟨hone, hlast⟩, horder, huse⟩

/-- The checks of a node report its first fault. -/
theorem ofSignature?_eq_some_iff :
    ofSignature? s isLeaf = some error ↔ s.Fault isLeaf error := by
  rw [ofSignature?, Option.or_eq_some_iff, Option.or_eq_some_iff, Option.or_eq_some_iff,
    findSome?_ofName?_eq_none_iff, ofEndless?_eq_none_iff, ofOrder?_eq_none_iff,
    List.findSome?_eq_some_iff, ofEndless?_eq_some_iff, ofOrder?_eq_some_iff]
  simp only [ofName?_eq_some_iff, ofName?_eq_none_iff]
  constructor
  · rintro (⟨before, name, after, hsplit, hname, hbefore⟩ | ⟨hnames, hendless | ⟨⟨hone, hlast⟩, h⟩⟩)
    · rcases hname with ⟨rfl, rfl⟩ | ⟨hne, hspace, rfl⟩
      · exact .emptyTrigger hsplit hbefore
      · exact .whitespaceInTrigger hsplit hbefore hne hspace
    · rcases hendless with ⟨hmany, rfl⟩ | ⟨hone, before, p, after, hsplit, hp, hafter, rfl⟩
      · exact .multipleEndless hnames hmany
      · exact .endlessNotLast hnames hone hsplit hp hafter
    · rcases h with ⟨before, defaulted, between, required, after, hsplit, hbefore, hd, hbetween,
        hreq, hendless, rfl⟩ | ⟨horder, h⟩
      · exact .requiredAfterDefault hnames hone hlast hsplit hbefore hd hbetween hreq hendless
      · split at h
        · rename_i huseless
          cases h
          rw [Bool.and_eq_true, Bool.not_eq_true'] at huseless
          exact .missingHandler hnames hone hlast horder huseless.1 huseless.2
        · cases h
  · intro h
    cases h with
    | emptyTrigger hsplit hbefore =>
      exact Or.inl ⟨_, _, _, hsplit, Or.inl ⟨rfl, rfl⟩, hbefore⟩
    | whitespaceInTrigger hsplit hbefore hne hspace =>
      exact Or.inl ⟨_, _, _, hsplit, Or.inr ⟨hne, hspace, rfl⟩, hbefore⟩
    | multipleEndless hnames hmany =>
      exact Or.inr ⟨hnames, Or.inl (Or.inl ⟨hmany, rfl⟩)⟩
    | endlessNotLast hnames hone hsplit hp hafter =>
      exact Or.inr ⟨hnames, Or.inl (Or.inr ⟨hone, _, _, _, hsplit, hp, hafter, rfl⟩)⟩
    | requiredAfterDefault hnames hone hlast hsplit hbefore hd hbetween hreq hendless =>
      exact Or.inr ⟨hnames, Or.inr ⟨⟨hone, hlast⟩, Or.inl ⟨_, _, _, _, _, hsplit, hbefore, hd,
        hbetween, hreq, hendless, rfl⟩⟩⟩
    | missingHandler hnames hone hlast horder huseless hleaf =>
      exact Or.inr ⟨hnames, Or.inr ⟨⟨hone, hlast⟩, Or.inr ⟨horder, by simp [huseless, hleaf]⟩⟩⟩

end BuildError

end ChatCommands
