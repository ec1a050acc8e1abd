import ChatCommands.Proofs.Parameter.Endless
import ChatCommands.Proofs.Token.Written

/-! # Written lists

A list of texts is written token by token, each text in quotes or with backslashes, and an endless
parameter that takes words reads the same list back.
-/

namespace ChatCommands

open Text

namespace Token

/-- A text is written in quotes, or bare if there is anything to write. -/
inductive Writes : List Char → List Char → Prop
  | quoted (s : List Char) : Writes s (quote s)
  | bare {s : List Char} : s ≠ [] → Writes s (escape s)

variable {s piece : List Char}

/-- What is written for a text is read as a token of which it is the value. -/
theorem Writes.exists_spells (h : Writes s piece) (hs : s.getLast? ≠ some '\\') :
    ∃ quoted, Spells piece ⟨s, [], quoted, false⟩ := by
  cases h with
  | quoted => exact ⟨true, spells_quote hs⟩
  | bare hne => exact ⟨false, spells_escape hne hs⟩

/-- The tokens of a written list have the texts of the list as their values. -/
theorem all_of_written {texts : List String} {pieces : List (List Char)} {text : List Char}
    (hlast : ∀ s ∈ texts, s.toList.getLast? ≠ some '\\')
    (hwritten : List.Forall₂ (fun s piece => Writes s.toList piece) texts pieces)
    (htext : Spaced pieces text) :
    (all true text).map value = texts.map String.toList ∧
      ∀ t ∈ all true text, t.unterminated = false := by
  have hwords : ∃ words : List (List Char × Token), words.map Prod.fst = pieces ∧
      (∀ w ∈ words, Spells w.1 w.2) ∧ (∀ w ∈ words, w.2.unterminated = false) ∧
      words.map (fun w => w.2.value) = texts.map String.toList := by
    clear htext
    induction hwritten with
    | nil => exact ⟨[], by simp⟩
    | @cons s piece texts pieces hpiece _ ih =>
      rw [List.forall_mem_cons] at hlast
      obtain ⟨quoted, hspells⟩ := hpiece.exists_spells hlast.1
      obtain ⟨words, rfl, hall, hclosed, hvalues⟩ := ih hlast.2
      refine ⟨(piece, ⟨s.toList, [], quoted, false⟩) :: words, rfl, ?_, ?_, ?_⟩
      · exact List.forall_mem_cons.mpr ⟨hspells, hall⟩
      · exact List.forall_mem_cons.mpr ⟨rfl, hclosed⟩
      · rw [List.map_cons, hvalues, List.map_cons]
  obtain ⟨words, rfl, hspells, hclosed, hvalues⟩ := hwords
  have hread : lexemes text = words.map fun w => w.2.alone := lexemes_of_spaced htext hspells
  constructor
  · have hmap := congrArg (List.map value) hread
    simpa [lexemes, alone, Function.comp_def, hvalues] using hmap
  · intro t ht
    have hmem : t.alone ∈ lexemes text := List.mem_map_of_mem ht
    rw [hread] at hmem
    obtain ⟨w, hw, heq⟩ := List.mem_map.mp hmem
    exact (congrArg unterminated heq).symm.trans (hclosed w hw)

end Token

namespace Parameter

/-- The parameter lists words, which may stand in quotes. -/
structure ListsWords (p : Parameter) (bounds : Bounds) : Prop where
  kind : p.kind = .word
  endless : p.endless? = some bounds
  token : p.rest = false
  quotes : p.acceptQuote = true

variable {p : Parameter} {bounds : Bounds} {conversions : Conversions} {tokens : List Token}

/-- Words that are as many as allowed are taken as they are. -/
theorem ListsWords.takes (hp : p.ListsWords bounds)
    (hword : conversions .word = some Conversion.word) (ctx : Context)
    (hmin : bounds.min ≤ tokens.length) (hmax : bounds.max = 0 ∨ tokens.length ≤ bounds.max)
    (hclosed : ∀ t ∈ tokens, t.unterminated = false) :
    p.Takes bounds ctx conversions tokens
      (tokens.map fun t => .text (String.ofList t.value)) := by
  have hconvert : ∀ t : Token,
      p.convert ctx conversions t.value = .accepted (.text (String.ofList t.value)) := by
    intro t
    simp [convert, hp.kind, hword, Conversion.word]
  refine ⟨hmin, hmax, hclosed, ?_, ?_⟩
  · rw [List.forall₂_map_right_iff, List.forall₂_same]
    intro t _
    rw [hconvert]
    rfl
  · intro t _ value hfinal
    cases (hconvert t).symm.trans hfinal

/-- A list of texts that was written token by token is bound as it was written. -/
theorem bind_of_written_list (hp : p.ListsWords bounds)
    (hword : conversions .word = some Conversion.word) (ctx : Context) {texts : List String}
    {pieces : List (List Char)} {text : List Char}
    (hmin : bounds.min ≤ texts.length) (hmax : bounds.max = 0 ∨ texts.length ≤ bounds.max)
    (hlast : ∀ s ∈ texts, s.toList.getLast? ≠ some '\\')
    (hwritten : List.Forall₂ (fun s piece => Token.Writes s.toList piece) texts pieces)
    (htext : Spaced pieces text) :
    p.bind ctx conversions text = .final (.array (texts.map .text)) [] := by
  obtain ⟨hvalues, hclosed⟩ := Token.all_of_written hlast hwritten htext
  have hlength : (Token.all true text).length = texts.length := by
    simpa using congrArg List.length hvalues
  have htexts : (Token.all true text).map (fun t => Value.text (String.ofList t.value)) =
      texts.map .text := by
    have hmap := congrArg (List.map fun s => Value.text (String.ofList s)) hvalues
    simpa [Function.comp_def] using hmap
  rw [bind_eq_final_iff hp.endless hp.token, hp.quotes, ← htexts]
  apply hp.takes hword ctx
  · rwa [hlength]
  · rwa [hlength]
  · exact hclosed

def wordList : Parameter :=
  { name := "words", kind := .word, endless? := some ⟨1, 3⟩ }

/-- Nothing in quotes, then two texts with backslashes, and white space around them. -/
def wordListText : List Char :=
  [' '] ++ (Token.quote [] ++ (['\t', ' '] ++ (Token.escape "a\\ \"b".toList ++ ([' '] ++
    (Token.escape "-o 1".toList ++ [' ', ' '])))))

example : wordListText = " \"\"\t a\\\\ \\\"b -o\\ 1  ".toList := by decide

theorem bind_of_written_list_mixed :
    wordList.ListsWords ⟨1, 3⟩ ∧
    List.Forall₂ (fun s piece => Token.Writes s.toList piece) ["", "a\\ \"b", "-o 1"]
      [Token.quote [], Token.escape "a\\ \"b".toList, Token.escape "-o 1".toList] ∧
    Spaced [Token.quote [], Token.escape "a\\ \"b".toList, Token.escape "-o 1".toList]
      wordListText ∧
    wordList.bind {} .standard wordListText =
      .final (.array [.text "", .text "a\\ \"b", .text "-o 1"]) [] := by
  have hlists : wordList.ListsWords ⟨1, 3⟩ := ⟨rfl, rfl, rfl, rfl⟩
  have hwritten : List.Forall₂ (fun s piece => Token.Writes s.toList piece)
      ["", "a\\ \"b", "-o 1"]
      [Token.quote [], Token.escape "a\\ \"b".toList, Token.escape "-o 1".toList] :=
    .cons (.quoted []) (.cons (.bare (by decide)) (.cons (.bare (by decide)) .nil))
  have hspaced : Spaced [Token.quote [], Token.escape "a\\ \"b".toList,
      Token.escape "-o 1".toList] wordListText :=
    .cons rfl (isSpace_of_head?_cons '\t' _ rfl) <| .cons rfl (isSpace_of_head?_cons ' ' _ rfl) <|
      .cons rfl (isSpace_of_head?_cons ' ' _ rfl) <| .nil rfl
  exact ⟨hlists, hwritten, hspaced, bind_of_written_list hlists rfl {} (by decide) (by decide)
    (by decide) hwritten hspaced⟩

end Parameter

end ChatCommands
