import ChatCommands.LeadIn
import ChatCommands.Proofs.LeadIn.Mention
import ChatCommands.Proofs.Text.Utf8

/-! # Stripping lead-ins

A lead-in is cut off between two characters and nothing of the text is lost. A mention of the agent
goes first, then the first mark in the order of their addition that applies, then, in private,
nothing at all; a mark that does not apply leaves its turn to the next.
-/

namespace ChatCommands

open Text Mention

variable {text mark rest front back p r : List Char} {ctx : Context} {n : Nat}

theorem afterMark?_eq_some_iff : afterMark? mark text = some rest ↔ mark ++ rest = text := by
  fun_induction afterMark? mark text with
  | case1 text => rw [Option.some.injEq, List.nil_append, eq_comm]
  | case2 m mark => simp
  | case3 m mark c text hc ih =>
    obtain rfl := eq_of_beq hc
    rw [ih, List.cons_append, List.cons_inj_right]
  | case4 m mark c text hne =>
    have hmc : m ≠ c := by simpa using hne
    simp [hmc]

/-- The mark takes so many bytes at the start of the text: a literal that is not empty and that the
text starts with, or the length that a predicate reports, if a character ends there. -/
inductive LeadIn.Marks (text : List Char) (ctx : Context) : LeadIn → Nat → Prop
  | literal {mark : String} : mark ≠ "" → mark.toList <+: text →
      Marks text ctx (.literal mark) mark.utf8ByteSize
  | predicate {length? : List Char → Context → Option Nat} {n : Nat} :
      length? text ctx = some n → IsBoundary text n → Marks text ctx (.predicate length?) n

namespace LeadIn

variable {leadIn : LeadIn}

theorem cut?_eq_some_iff : leadIn.cut? text ctx = some (front, back) ↔
    ∃ n, leadIn.Marks text ctx n ∧ front ++ back = text ∧ byteLength front = n := by
  cases leadIn with
  | literal mark =>
    rw [cut?]
    constructor
    · intro h
      split at h
      · cases h
      · rename_i hmark
        obtain ⟨rest, hrest, heq⟩ := Option.map_eq_some_iff.mp h
        cases heq
        have htext := afterMark?_eq_some_iff.mp hrest
        exact ⟨_, .literal (by simpa using hmark) ⟨back, htext⟩, htext, byteLength_toList mark⟩
    · rintro ⟨n, hmarks, hcut, hlength⟩
      cases hmarks with
      | literal hne hprefix =>
        obtain ⟨rest, hrest⟩ := hprefix
        rw [← byteLength_toList] at hlength
        obtain ⟨rfl, rfl⟩ := append_inj_of_byteLength (hcut.trans hrest.symm) hlength
        rw [if_neg (by simpa using hne), afterMark?_eq_some_iff.mpr hrest, Option.map_some]
  | predicate length? =>
    rw [cut?, Option.bind_eq_some_iff]
    constructor
    · rintro ⟨n, hn, hcut⟩
      have hcut' := cutAtByte?_eq_some_iff.mp hcut
      exact ⟨n, .predicate hn (isBoundary_iff.mpr ⟨front, back, hcut'⟩), hcut'⟩
    · rintro ⟨n, hmarks, hcut⟩
      cases hmarks with
      | predicate hn _ => exact ⟨n, hn, cutAtByte?_eq_some_iff.mpr hcut⟩

theorem Marks.isBoundary (h : leadIn.Marks text ctx n) : IsBoundary text n := by
  cases h with
  | literal _ hprefix =>
    obtain ⟨rest, rfl⟩ := hprefix
    rw [← byteLength_toList]
    exact isBoundary_append _ rest
  | predicate _ hboundary => exact hboundary

theorem cut?_eq_none_iff : leadIn.cut? text ctx = none ↔ ∀ n, ¬leadIn.Marks text ctx n := by
  constructor
  · intro h n hmarks
    obtain ⟨front, back, hcut⟩ := isBoundary_iff.mp hmarks.isBoundary
    have hsome := cut?_eq_some_iff.mpr ⟨n, hmarks, hcut⟩
    rw [h] at hsome
    cases hsome
  · intro h
    rw [Option.eq_none_iff_forall_ne_some]
    rintro ⟨front, back⟩ hsome
    obtain ⟨n, hmarks, -⟩ := cut?_eq_some_iff.mp hsome
    exact h n hmarks

end LeadIn

namespace LeadIns

variable {leadIns : LeadIns} {out : Option (List Char × List Char)}

/-- The text starts with a mention of the agent. -/
def Addressed (leadIns : LeadIns) (text : List Char) : Prop :=
  ∃ user p r, leadIns.mentionOf? = some user ∧ Mentions user p ∧ p ++ r = text

/-- One of the marks applies. -/
def Marked (leadIns : LeadIns) (text : List Char) (ctx : Context) : Prop :=
  ∃ leadIn ∈ leadIns.marks, ∃ n, leadIn.Marks text ctx n

/-- The order in which lead-ins are looked for, and what is cut off by each. -/
inductive Strips (leadIns : LeadIns) (text : List Char) (ctx : Context) :
    Option (List Char × List Char) → Prop
  | mention {user : UInt64} {p r : List Char} : leadIns.mentionOf? = some user →
      Mentions user p → p ++ r = text → Strips leadIns text ctx (some (p, r))
  | mark {before after : List LeadIn} {leadIn : LeadIn} {n : Nat} {p r : List Char} :
      ¬leadIns.Addressed text → leadIns.marks = before ++ leadIn :: after →
      (∀ other ∈ before, ∀ m, ¬other.Marks text ctx m) → leadIn.Marks text ctx n →
      p ++ r = text → byteLength p = n → Strips leadIns text ctx (some (p, r))
  | bare : ¬leadIns.Addressed text → ¬leadIns.Marked text ctx →
      leadIns.optionalInPrivate = true → ctx.isPrivate = true →
      Strips leadIns text ctx (some ([], text))
  | refused : ¬leadIns.Addressed text → ¬leadIns.Marked text ctx →
      ¬(leadIns.optionalInPrivate = true ∧ ctx.isPrivate = true) →
      Strips leadIns text ctx none

theorem cutMention?_eq_some_iff : leadIns.cutMention? text = some (p, r) ↔
    ∃ user, leadIns.mentionOf? = some user ∧ Mentions user p ∧ p ++ r = text := by
  rw [cutMention?]
  constructor
  · intro h
    split at h
    · rename_i user mention hof hleading
      split at h
      · rename_i huser
        obtain rfl := eq_of_beq huser
        cases h
        exact ⟨_, hof, leading?_eq_some_iff.mp hleading⟩
      · cases h
    · cases h
  · rintro ⟨user, hof, hmentions, rfl⟩
    rw [hof, leading?_of_mentions hmentions]
    simp

theorem cutMention?_eq_none_iff : leadIns.cutMention? text = none ↔ ¬leadIns.Addressed text := by
  rw [Option.eq_none_iff_forall_ne_some, Addressed]
  simp only [Prod.forall, ne_eq, cutMention?_eq_some_iff, not_exists]
  exact ⟨fun h user p r => h p r user, fun h p r user => h user p r⟩

theorem findSome?_cut?_eq_none_iff :
    leadIns.marks.findSome? (·.cut? text ctx) = none ↔ ¬leadIns.Marked text ctx := by
  rw [List.findSome?_eq_none_iff, Marked]
  simp only [LeadIn.cut?_eq_none_iff, not_exists, not_and]

/-- What is stripped is what the order of lead-ins says. -/
theorem strips_strip? (leadIns : LeadIns) (text : List Char) (ctx : Context) :
    leadIns.Strips text ctx (leadIns.strip? text ctx) := by
  rw [strip?]
  cases hmention : leadIns.cutMention? text with
  | some cut =>
    obtain ⟨user, hof, hmentions, htext⟩ := cutMention?_eq_some_iff.mp hmention
    exact .mention hof hmentions htext
  | none =>
    have haddressed := cutMention?_eq_none_iff.mp hmention
    rw [Option.none_or]
    cases hmark : leadIns.marks.findSome? (·.cut? text ctx) with
    | some cut =>
      obtain ⟨before, leadIn, after, hmarks, hcut, hbefore⟩ := List.findSome?_eq_some_iff.mp hmark
      obtain ⟨n, happlies, htext, hlength⟩ := LeadIn.cut?_eq_some_iff.mp hcut
      exact .mark haddressed hmarks
        (fun other hother => LeadIn.cut?_eq_none_iff.mp (hbefore other hother)) happlies htext
        hlength
    | none =>
      have hmarked := findSome?_cut?_eq_none_iff.mp hmark
      rw [Option.none_or]
      split
      · rename_i hprivate
        obtain ⟨hoptional, hprivate⟩ := Bool.and_eq_true_iff.mp hprivate
        exact .bare haddressed hmarked hoptional hprivate
      · rename_i hprivate
        exact .refused haddressed hmarked (by simpa using hprivate)

theorem strip?_eq_iff : leadIns.strip? text ctx = out ↔ leadIns.Strips text ctx out := by
  constructor
  · rintro rfl
    exact leadIns.strips_strip? text ctx
  · intro h
    rw [strip?]
    cases h with
    | mention hof hmentions htext =>
      rw [cutMention?_eq_some_iff.mpr ⟨_, hof, hmentions, htext⟩, Option.some_or]
    | mark haddressed hmarks hbefore happlies htext hlength =>
      have hcut := LeadIn.cut?_eq_some_iff.mpr ⟨_, happlies, htext, hlength⟩
      have hfind := List.findSome?_eq_some_iff.mpr ⟨_, _, _, hmarks, hcut, fun other hother =>
        LeadIn.cut?_eq_none_iff.mpr (hbefore other hother)⟩
      rw [cutMention?_eq_none_iff.mpr haddressed, hfind, Option.none_or, Option.some_or]
    | bare haddressed hmarked hoptional hprivate =>
      rw [cutMention?_eq_none_iff.mpr haddressed, findSome?_cut?_eq_none_iff.mpr hmarked,
        hoptional, hprivate]
      rfl
    | refused haddressed hmarked hprivate =>
      rw [cutMention?_eq_none_iff.mpr haddressed, findSome?_cut?_eq_none_iff.mpr hmarked,
        if_neg (by simpa using hprivate)]
      rfl

theorem Strips.append_eq (h : leadIns.Strips text ctx (some (p, r))) : p ++ r = text := by
  cases h with
  | mention _ _ htext => exact htext
  | mark _ _ _ _ htext _ => exact htext
  | bare => rfl

/-- All that is said of what is stripped of a text. -/
structure Stripped (leadIns : LeadIns) (text : List Char) (ctx : Context) : Prop where
  lossless : ∀ p r, leadIns.strip? text ctx = some (p, r) → p ++ r = text
  /-- The text is cut between two characters. -/
  whole : ∀ p r, leadIns.strip? text ctx = some (p, r) → IsBoundary text (byteLength p)
  ordered : ∀ out, leadIns.strip? text ctx = out ↔ leadIns.Strips text ctx out
  /-- Each user can be mentioned in both forms, whatever follows. -/
  mentions : ∀ opening ∈ ["<@", "<@!"], ∀ user rest,
    leading? (form opening user ++ rest) = some ⟨user, form opening user, rest⟩ ∧
      byteLength (form opening user) =
        opening.utf8ByteSize + (Nat.toDigits 10 user.toNat).length + 1

theorem lead_ins_are_stripped_in_order (leadIns : LeadIns) (text : List Char) (ctx : Context) :
    leadIns.Stripped text ctx where
  lossless _ _ h := (strip?_eq_iff.mp h).append_eq
  whole p r h := isBoundary_iff.mpr ⟨p, r, (strip?_eq_iff.mp h).append_eq, rfl⟩
  ordered _ := strip?_eq_iff
  mentions opening hopening user rest :=
    ⟨leading?_of_mentions (mentions_form hopening user) rest, byteLength_form opening user⟩

end LeadIns

end ChatCommands
