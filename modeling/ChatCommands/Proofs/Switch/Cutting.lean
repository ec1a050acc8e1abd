import ChatCommands.Proofs.Switch.Reading
import ChatCommands.Proofs.Text.Utf8

/-! # Cutting a text at its first switch

The arguments of a command are read from what stands in front of the first token that names a
switch. Each of the two parts is split into tokens as it is within the text: a quote that a token in
front opens is closed in front, or nowhere.
-/

namespace ChatCommands

open Text

namespace Switch

variable {switches : List Switch} {text front back : List Char} {t : Token}

/-- The token is written `-name` or `--name` without quotes, and a switch goes by that name. -/
def Names (switches : List Switch) (t : Token) : Prop :=
  t.quoted = false ∧ ∃ name : String, isSwitchName name.toList = true ∧
    (t.value = '-' :: name.toList ∨ t.value = '-' :: '-' :: name.toList) ∧
    ∃ s ∈ switches, s.name = name ∨ name ∈ s.aliases

theorem answersTo_iff {s : Switch} {name : String} :
    s.answersTo name = true ↔ s.name = name ∨ name ∈ s.aliases := by
  simp [answersTo]

theorem named_iff : named switches t = true ↔ Names switches t := by
  simp only [named, Option.any_eq_true, List.any_eq_true, answersTo_iff,
    Token.switchName?_eq_some_iff]
  constructor
  · rintro ⟨name, ⟨hquoted, hname, hvalue⟩, hswitch⟩
    exact ⟨hquoted, name, hname, hvalue, hswitch⟩
  · rintro ⟨hquoted, name, hname, hvalue, hswitch⟩
    exact ⟨name, ⟨hquoted, hname, hvalue⟩, hswitch⟩

theorem named_eq_false_iff_not : named switches t = false ↔ ¬Names switches t := by
  rw [← named_iff, Bool.not_eq_true]

/-- How many bytes stand in front of the first token that names a switch. -/
def offset? (switches : List Switch) (text : List Char) : Option Nat :=
  (cut? switches text).map fun parts => byteLength parts.1

theorem offset?_eq_some_iff {offset : Nat} : offset? switches text = some offset ↔
    ∃ front back, cut? switches text = some (front, back) ∧ byteLength front = offset := by
  simp [offset?]

theorem offset?_eq_none_iff : offset? switches text = none ↔ cut? switches text = none := by
  simp [offset?]

/-- The text begins with the token that is found in it. -/
theorem all_of_mem_starts (h : (back, t) ∈ Token.starts true text) :
    ∃ rest, Token.all true back = t :: rest := by
  obtain ⟨ht, hne, hhead, -⟩ := Token.mem_starts h
  have htrim : trimStart back = back := trimStart_of_head hhead
  have hblank : isBlank back = false := isBlank_eq_false_iff.mpr (by rwa [htrim])
  have hsplit : Token.split true back = t := by rw [Token.split, htrim, ht]
  exact ⟨Token.all true t.leftover, by rw [Token.all_of_not_blank hblank, hsplit]⟩

theorem exists_named_of_cut? (h : cut? switches text = some (front, back)) :
    ∃ t rest, Token.all true back = t :: rest ∧ named switches t = true := by
  rw [cut?_eq] at h
  obtain ⟨⟨l, t⟩, hfind, heq⟩ := Option.map_eq_some_iff.mp h
  obtain rfl : l = back := (Prod.mk.inj heq).2
  obtain ⟨rest, hall⟩ := all_of_mem_starts (List.mem_of_find?_eq_some hfind)
  exact ⟨t, rest, hall, (List.find?_eq_some_iff_append.mp hfind).1⟩

/-- The first token that names a switch is the first one behind the cut. -/
structure CutsAtFirst (switches : List Switch) (text front back : List Char) : Prop where
  /-- The tokens of the parts are those of the text, with their values and quotes. -/
  tokens : Token.lexemes text = Token.lexemes front ++ Token.lexemes back
  before : ∀ t ∈ Token.all true front, ¬Names switches t
  first : ∃ t rest, Token.all true back = t :: rest ∧ t.quoted = false ∧ Names switches t

theorem cutsAtFirst_of_cut? (h : cut? switches text = some (front, back)) :
    CutsAtFirst switches text front back := by
  obtain ⟨heq, hparts, hunnamed, -⟩ := cut?_eq_some h
  obtain ⟨t, rest, hall, hnamed⟩ := exists_named_of_cut? h
  have hnames : Names switches t := named_iff.mp hnamed
  exact {
    tokens := heq ▸ hparts.lexemes_append
    before := fun u hu => named_eq_false_iff_not.mp (hunnamed u hu)
    first := ⟨t, rest, hall, hnames.1, hnames⟩ }

/-- Either the text can be cut at the offset, which is then a boundary between its tokens in front
of the first that names a switch, or no token names one. -/
theorem offset_is_token_boundary (switches : List Switch) (text : List Char) :
    (∃ offset front back, offset? switches text = some offset ∧
      cutAtByte? text offset = some (front, back) ∧ CutsAtFirst switches text front back) ∨
    (offset? switches text = none ∧ ∀ t ∈ Token.all true text, ¬Names switches t) := by
  cases hcut : cut? switches text with
  | some parts =>
    obtain ⟨front, back⟩ := parts
    obtain ⟨rfl, -⟩ := cut?_eq_some hcut
    refine Or.inl ⟨byteLength front, front, back, ?_, cutAtByte?_append front back,
      cutsAtFirst_of_cut? hcut⟩
    exact offset?_eq_some_iff.mpr ⟨front, back, hcut, rfl⟩
  | none =>
    refine Or.inr ⟨offset?_eq_none_iff.mpr hcut, fun t ht => ?_⟩
    exact named_eq_false_iff_not.mp (cut?_eq_none hcut t ht)

/-- What stands in quotes is no switch. -/
example : offset? [{ name := "s" }] "\"-s\" -s".toList = some 5 ∧
    offset? [{ name := "s" }] "\"-s\"".toList = none := by decide +kernel

end Switch

end ChatCommands
