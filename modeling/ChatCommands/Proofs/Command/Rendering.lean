import Mathlib
import ChatCommands.Proofs.Command.Fit
import ChatCommands.Proofs.Switch.Reading
import ChatCommands.Proofs.Token.Written

/-! # Written invocations

Words in quotes and switches with their values, written one after another, fit the command they are
written for and bind exactly what was written.
-/

namespace ChatCommands

open Text

variable {H : Type}

/-- A switch as it stands in a message, with one hyphen or two and perhaps with a value. -/
structure Use where
  switch : Switch
  doubled : Bool
  value? : Option String

namespace Use

def flag (u : Use) : List Char :=
  if u.doubled then '-' :: '-' :: u.switch.name.toList else '-' :: u.switch.name.toList

/-- The switch and its value in quotes. -/
def pieces (u : Use) : List (List Char) :=
  u.flag :: u.value?.toList.map fun v => Token.quote v.toList

/-- What the pieces are read as. -/
def tokens (u : Use) : List Token :=
  ⟨u.flag, [], false, false⟩ :: u.value?.toList.map fun v => ⟨v.toList, [], true, false⟩

/-- The switch is found by its name, and the value that it takes can be written. -/
structure Valid (switches : List Switch) (developer : Bool) (u : Use) : Prop where
  name : isSwitchName u.switch.name.toList = true
  found : Switch.find? switches developer u.switch.name = some u.switch
  valued : u.value?.isSome = u.switch.takesValue
  writable : ∀ v ∈ u.value?, v.toList.getLast? ≠ some '\\'

variable {switches : List Switch} {developer : Bool} {policy : UnknownPolicy} {u : Use}
  {uses : List Use}

theorem Valid.switchName? (h : u.Valid switches developer) :
    Token.switchName? ⟨u.flag, [], false, false⟩ = some u.switch.name := by
  refine Token.switchName?_eq_some_iff.mpr ⟨rfl, h.name, ?_⟩
  unfold flag
  cases u.doubled
  · exact .inl rfl
  · exact .inr rfl

theorem Valid.named (h : u.Valid switches developer) :
    Switch.named switches ⟨u.flag, [], false, false⟩ = true := by
  cases hn : Switch.named switches ⟨u.flag, [], false, false⟩ with
  | true => rfl
  | false =>
    have hnone := Switch.find?_of_unnamed hn h.switchName? developer
    rw [h.found] at hnone
    cases hnone

theorem Valid.plain (h : u.Valid switches developer) {c : Char} (hc : c ∈ u.flag) :
    isSpace c = false ∧ c ≠ '\\' ∧ c ≠ '"' :=
  Token.plain_of_switchName? h.switchName? hc

theorem flag_ne_nil (u : Use) : u.flag ≠ [] := by
  unfold flag
  split <;> simp

theorem Valid.spells_flag (h : u.Valid switches developer) :
    Token.Spells u.flag ⟨u.flag, [], false, false⟩ :=
  Token.spells_plain u.flag_ne_nil fun _ hc => h.plain hc

theorem Valid.solid (h : u.Valid switches developer) : ∀ piece ∈ u.pieces, Solid piece := by
  intro piece hm
  rcases List.mem_cons.mp hm with rfl | hm
  · exact ⟨h.spells_flag.toVisible, fun c hc => (h.plain (List.mem_of_getLast? hc)).1⟩
  · obtain ⟨v, -, rfl⟩ := List.mem_map.mp hm
    exact Token.solid_quote _

theorem Valid.items_tokens (h : u.Valid switches developer) (ts : List Token) :
    Switch.items switches policy developer (u.tokens ++ ts) =
      (Switch.items switches policy developer ts).map (.given u.switch.name u.value? :: ·) := by
  have hvalued := h.valued
  cases hv : u.value? with
  | none =>
    rw [hv] at hvalued
    simp [tokens, hv, Switch.items, h.switchName?, h.found, ← hvalued]
  | some v =>
    rw [hv] at hvalued
    have hquoted : Token.switchName? ⟨v.toList, [], true, false⟩ = none := rfl
    simp [tokens, hv, Switch.items, h.switchName?, h.found, ← hvalued, hquoted]

theorem items_tokens (h : ∀ u ∈ uses, u.Valid switches developer) :
    Switch.items switches policy developer (uses.flatMap tokens) =
      .ok (uses.map fun u => .given u.switch.name u.value?) := by
  induction uses with
  | nil => rfl
  | cons u uses ih =>
    rw [List.flatMap_cons, (h u List.mem_cons_self).items_tokens,
      ih fun v hv => h v (List.mem_cons_of_mem u hv)]
    rfl

/-- The pieces, each with what it is read as. -/
def written (u : Use) : List (List Char × Token) :=
  (u.flag, ⟨u.flag, [], false, false⟩) ::
    u.value?.toList.map fun v => (Token.quote v.toList, ⟨v.toList, [], true, false⟩)

theorem map_fst_written (u : Use) : u.written.map Prod.fst = u.pieces := by
  simp [written, pieces]

theorem map_snd_written (u : Use) : u.written.map Prod.snd = u.tokens := by
  simp [written, tokens]

theorem Valid.spells (h : u.Valid switches developer) :
    ∀ w ∈ u.written, Token.Spells w.1 w.2 := by
  intro w hw
  rcases List.mem_cons.mp hw with rfl | hw
  · exact h.spells_flag
  · obtain ⟨v, hv, rfl⟩ := List.mem_map.mp hw
    exact Token.spells_quote (h.writable v (Option.mem_toList.mp hv))

theorem map_fst_flatMap_written (uses : List Use) :
    (uses.flatMap written).map Prod.fst = uses.flatMap pieces := by
  rw [List.map_flatMap]
  simp only [map_fst_written]

theorem spells_written (h : ∀ u ∈ uses, u.Valid switches developer) :
    ∀ w ∈ uses.flatMap written, Token.Spells w.1 w.2 := by
  intro w hw
  obtain ⟨u, hu, hw⟩ := List.mem_flatMap.mp hw
  exact (h u hu).spells w hw

end Use

namespace Switch

theorem set_of_not_mem {given : Given} {name : String} (h : name ∉ given.map Prod.fst)
    (value : Option String) : set given name value = given ++ [(name, value)] := by
  rw [set, List.filter_eq_self.mpr]
  intro entry hentry
  simpa using fun heq : entry.1 = name => h (heq ▸ List.mem_map_of_mem hentry)

/-- Switches that are given once each are kept in the order in which they are given. -/
theorem givenOf_map_given {entries : List (String × Option String)}
    (h : (entries.map Prod.fst).Nodup) :
    givenOf (entries.map fun entry => .given entry.1 entry.2) = entries := by
  suffices hfold : ∀ given : Given, ((given ++ entries).map Prod.fst).Nodup →
      entries.foldl (fun given entry => set given entry.1 entry.2) given = given ++ entries by
    rw [givenOf, List.foldl_map]
    exact hfold [] h
  induction entries with
  | nil => simp
  | cons entry entries ih =>
    intro given hgiven
    have hnot : entry.1 ∉ given.map Prod.fst := by
      rw [List.map_append, List.nodup_append] at hgiven
      exact fun hm => hgiven.2.2 _ hm _ (by simp) rfl
    have happend : given ++ entry :: entries = given ++ [entry] ++ entries := by simp
    rw [List.foldl_cons, set_of_not_mem hnot, happend]
    rw [happend] at hgiven
    exact ih (List.nodup_cons.mp h).2 _ hgiven

end Switch

namespace Parameter

/-- The parameter takes one word, which may stand in quotes. -/
structure TakesQuoted (p : Parameter) : Prop where
  kind : p.kind = .word
  single : p.endless? = none
  token : p.rest = false
  quotes : p.acceptQuote = true

variable {p : Parameter} {ps : List Parameter} {env : Environment} {texts : List String}
  {pieces : List (List Char)} {piece text rest : List Char} {t : Token}

theorem taken_eq (hp : Solid piece) (h : trimStart text = piece ++ rest) :
    taken text (trimStart rest) = String.ofList piece := by
  obtain ⟨g, hg, hrest⟩ := exists_blank_trimStart rest
  generalize trimStart rest = after at hrest ⊢
  subst hrest
  rw [← List.append_assoc] at h
  rw [taken_eq_trimEnd h, trimEnd_append_of_blank hg, trimEnd_of_getLast hp.last]

theorem TakesQuoted.bind_eq (hp : p.TakesQuoted)
    (hword : env.conversions .word = some Conversion.word) (hblank : isBlank text = false) :
    p.bind env.context env.conversions text =
      .bound (.text (String.ofList (Token.split true text).value))
        (Token.split true text).leftover := by
  have hne : trimStart text ≠ [] := isBlank_eq_false_iff.mp hblank
  simp [bind, hp.single, bindOne, hne, next, hp.token, hp.quotes, convert, hp.kind, hword,
    Conversion.word, Binding.ofConverted]

/-- Words in quotes are bound to the parameters one by one. -/
theorem arguments?_of_quoted (hps : ∀ p ∈ ps, p.TakesQuoted)
    (hword : env.conversions .word = some Conversion.word) (hlen : texts.length = ps.length)
    (htexts : ∀ s ∈ texts, s.toList.getLast? ≠ some '\\')
    (h : Spaced (texts.map fun s => Token.quote s.toList) text) :
    ∃ leftover, isBlank leftover = true ∧ arguments? env false text ps =
      some (texts.map fun s => ⟨.text s, String.ofList (Token.quote s.toList)⟩, leftover) := by
  induction texts generalizing ps text with
  | nil =>
    obtain rfl : ps = [] := List.length_eq_zero_iff.mp hlen.symm
    cases h with
    | nil hs => exact ⟨text, hs, rfl⟩
  | cons s texts ih =>
    cases ps with
    | nil => simp at hlen
    | cons p ps =>
      have hs := Token.spells_quote (htexts s List.mem_cons_self)
      obtain ⟨rest, hblank, htrim, -, hrest, hsplit⟩ := hs.split h
      obtain ⟨leftover, hleft, hothers⟩ := ih (fun q hq => hps q (List.mem_cons_of_mem p hq))
        (by simpa using hlen) (fun v hv => htexts v (List.mem_cons_of_mem s hv))
        (hrest.trimStart fun piece hm => by
          obtain ⟨v, -, rfl⟩ := List.mem_map.mp hm
          exact (Token.solid_quote _).toVisible)
      refine ⟨leftover, hleft, ?_⟩
      have hbind := (hps p List.mem_cons_self).bind_eq hword hblank
      rw [hsplit] at hbind
      have hlist : arguments? env false text (p :: ps) =
          (arguments? env false (trimStart rest) ps).map
            (arguments?.consTaken text (.text s) (trimStart rest)) := by
        rw [arguments?, hblank, hbind]
        cases p.default? <;> simp
      rw [hlist, hothers, Option.map_some, arguments?.consTaken,
        taken_eq (Token.solid_quote _) htrim]
      rfl

end Parameter

namespace Command

variable {c : Command H} {env : Environment} {texts : List String} {uses : List Use}
  {text : List Char}

/-- Words in quotes, each with what it is read as. -/
def quotedWords (texts : List String) : List (List Char × Token) :=
  texts.map fun s => (Token.quote s.toList, ⟨s.toList, [], true, false⟩)

/-- The switches that are written are all that is read from them. -/
theorem read_of_written {switches : List Switch} {developer : Bool} (policy : UnknownPolicy)
    (huses : ∀ u ∈ uses, u.Valid switches developer) (hdistinct : (uses.map Use.switch).Nodup)
    (htext : Spaced (uses.flatMap Use.pieces) text) :
    Switch.read switches policy developer text =
      .ok (uses.map fun u => (u.switch.name, u.value?), []) := by
  have htokens : (uses.flatMap Use.written).map (fun w => w.2.alone) =
      (uses.flatMap Use.tokens).map Token.alone := by
    rw [← Function.comp_def, ← List.map_map, List.map_flatMap]
    simp only [Use.map_snd_written]
  have hnames : (uses.map fun u => (u.switch.name, u.value?)).map Prod.fst =
      (uses.map Use.switch).map Switch.name := by
    rw [List.map_map, List.map_map]
    rfl
  have hnodup : ((uses.map Use.switch).map Switch.name).Nodup := by
    refine List.Nodup.map_on ?_ hdistinct
    intro a ha b hb hab
    obtain ⟨u, hu, rfl⟩ := List.mem_map.mp ha
    obtain ⟨v, hv, rfl⟩ := List.mem_map.mp hb
    have h := (huses u hu).found
    rw [hab, (huses v hv).found] at h
    exact (Option.some.inj h).symm
  have hgiven := Switch.givenOf_map_given (hnames ▸ hnodup)
  rw [List.map_map] at hgiven
  have hplain : Switch.plainOf (uses.map fun u => .given u.switch.name u.value?) = [] := by
    simp [Switch.plainOf, List.filterMap_map]
  rw [← Use.map_fst_flatMap_written] at htext
  rw [Switch.read_eq, Token.lexemes_of_spaced htext (Use.spells_written huses), htokens,
    Switch.items_map_alone, Use.items_tokens huses]
  exact congrArg Except.ok (Prod.ext hgiven hplain)

/-- A written invocation is cut between its words and its switches. -/
theorem sections_of_written (htexts : ∀ s ∈ texts, s.toList.getLast? ≠ some '\\')
    (huses : ∀ u ∈ uses, u.Valid c.switches env.developer)
    (htext : Spaced (texts.map (fun s => Token.quote s.toList) ++ uses.flatMap Use.pieces) text) :
    Spaced (texts.map fun s => Token.quote s.toList) (c.sections text).1 ∧
      Spaced (uses.flatMap Use.pieces) (c.sections text).2 := by
  have hwords : ∀ w ∈ quotedWords texts, Token.Spells w.1 w.2 := by
    intro w hw
    obtain ⟨s, hs, rfl⟩ := List.mem_map.mp hw
    exact Token.spells_quote (htexts s hs)
  have hplain : ∀ w ∈ quotedWords texts, Switch.named c.switches w.2 = false := by
    intro w hw
    obtain ⟨s, -, rfl⟩ := List.mem_map.mp hw
    rfl
  have hfst : (quotedWords texts).map Prod.fst = texts.map fun s => Token.quote s.toList := by
    simp [quotedWords]
  cases uses with
  | nil =>
    rw [List.flatMap_nil, List.append_nil] at htext
    have hcut : Switch.cut? c.switches text = none := by
      refine Switch.cut?_of_unnamed fun t ht => ?_
      rw [Token.lexemes_of_spaced (hfst ▸ htext) hwords] at ht
      obtain ⟨w, hw, rfl⟩ := List.mem_map.mp ht
      exact hplain w hw
    rw [sections_of_no_cut hcut]
    exact ⟨htext, .nil rfl⟩
  | cons u uses =>
    rw [← hfst, ← Use.map_fst_flatMap_written, ← List.map_append] at htext
    have hspells : ∀ w ∈ quotedWords texts ++ (u :: uses).flatMap Use.written,
        Token.Spells w.1 w.2 := by
      intro w hw
      rcases List.mem_append.mp hw with hw | hw
      · exact hwords w hw
      · exact Use.spells_written huses w hw
    obtain ⟨front, tail, rfl, hfront, htail, hfind⟩ :=
      Token.exists_find?_of_spaced (p := Switch.named c.switches) (fun _ _ => rfl)
        htext hspells hplain (huses u List.mem_cons_self).named
    obtain ⟨⟨suffix, t⟩, hfind, rfl⟩ := Option.map_eq_some_iff.mp hfind
    have hcut : Switch.cut? c.switches (front ++ suffix) = some (front, suffix) := by
      rw [Switch.cut?_eq, hfind]
      simp
    rw [sections_of_cut hcut]
    exact ⟨hfst ▸ hfront, Use.map_fst_flatMap_written (u :: uses) ▸ htail⟩

/-- What is written for a command fits it, whatever it makes of switches that it does not know and
of text left over, and binds what was written: each word to its parameter, and to each switch that
was used its value. -/
theorem fit?_written (trigger : String) (hinv : c.isInvocable = true)
    (hparams : ∀ p ∈ c.parameters, p.TakesQuoted)
    (hword : env.conversions .word = some Conversion.word)
    (hlen : texts.length = c.parameters.length)
    (htexts : ∀ s ∈ texts, s.toList.getLast? ≠ some '\\')
    (huses : ∀ u ∈ uses, u.Valid c.switches env.developer)
    (hdistinct : (uses.map Use.switch).Nodup)
    (htext : Spaced (texts.map (fun s => Token.quote s.toList) ++ uses.flatMap Use.pieces) text) :
    c.fit? trigger text env = some
      { command := c
        trigger := trigger
        arguments := texts.map fun s => ⟨.text s, String.ofList (Token.quote s.toList)⟩
        switches := uses.map fun u => (u.switch.name, u.value?) } := by
  obtain ⟨hwords, hswitches⟩ := sections_of_written htexts huses htext
  obtain ⟨leftover, hblank, harguments⟩ :=
    Parameter.arguments?_of_quoted hparams hword hlen htexts hwords
  have hsolid : ∀ piece ∈ uses.flatMap Use.pieces, Solid piece := by
    intro piece hm
    obtain ⟨u, hu, hm⟩ := List.mem_flatMap.mp hm
    exact (huses u hu).solid piece hm
  have hrest : Spaced (uses.flatMap Use.pieces)
      (trim leftover ++ ' ' :: trim (c.sections text).2) := by
    rw [trim_of_blank hblank]
    exact (hswitches.trim hsolid).prepend (g := [' ']) rfl
  have hread := read_of_written c.unknown huses hdistinct hrest
  exact fit?_eq_some_iff.mpr
    ⟨hinv, _, _, _, _, harguments, hread, .inl rfl, rfl⟩

/-- Takes two words, with a switch that takes a value and one that does not. -/
def ban : Command Unit where
  trigger := "ban"
  parameters := [{ name := "user", kind := .word }, { name := "reason", kind := .word }]
  switches := [{ name := "silent" }, { name := "days", takesValue := true }]
  handler? := some ()
  id := [0]
  path := "ban"
  usage := "ban <user> <reason>"
  category? := none
  subcommands := {}

def banWords : List String :=
  ["", "-days \\ \"7\""]

def banUses : List Use :=
  [⟨{ name := "days", takesValue := true }, true, some "-silent"⟩,
    ⟨{ name := "silent" }, false, none⟩]

def banText : List Char :=
  [] ++ (Token.quote [] ++ ([' '] ++ (Token.quote "-days \\ \"7\"".toList ++ (['\t', ' '] ++
    ("--days".toList ++ ([' '] ++ (Token.quote "-silent".toList ++ ([' '] ++
      ("-silent".toList ++ [])))))))))

example : banText =
    "\"\" \"-days \\ \\\"7\\\"\"\t --days \"-silent\" -silent".toList := by decide

theorem valid_banUses : ∀ u ∈ banUses, u.Valid ban.switches false := by
  simp only [banUses, List.mem_cons, List.not_mem_nil, or_false, forall_eq_or_imp, forall_eq]
  exact ⟨⟨by decide, by decide, rfl, by decide⟩, ⟨by decide, by decide, rfl, by decide⟩⟩

theorem spaced_banText :
    Spaced (banWords.map (fun s => Token.quote s.toList) ++ banUses.flatMap Use.pieces)
      banText :=
  .cons rfl (isSpace_of_head?_cons ' ' _ rfl) <| .cons rfl (isSpace_of_head?_cons '\t' _ rfl) <|
    .cons rfl (isSpace_of_head?_cons ' ' _ rfl) <| .cons rfl (isSpace_of_head?_cons ' ' _ rfl) <|
      .cons rfl (by simp) <| .nil rfl

theorem fit?_written_ban : (∀ u ∈ banUses, u.Valid ban.switches false) ∧
    (banUses.map Use.switch).Nodup ∧
    Spaced (banWords.map (fun s => Token.quote s.toList) ++ banUses.flatMap Use.pieces) banText ∧
    ban.fit? "ban" banText ⟨{}, .standard, false⟩ = some
      { command := ban
        trigger := "ban"
        arguments := banWords.map fun s => ⟨.text s, String.ofList (Token.quote s.toList)⟩
        switches := [("days", some "-silent"), ("silent", none)] } := by
  have hparams : ∀ p ∈ ban.parameters, p.TakesQuoted := by
    simp only [ban, List.mem_cons, List.not_mem_nil, or_false, forall_eq_or_imp, forall_eq]
    exact ⟨⟨rfl, rfl, rfl, rfl⟩, ⟨rfl, rfl, rfl, rfl⟩⟩
  have hdistinct : (banUses.map Use.switch).Nodup := by decide
  exact ⟨valid_banUses, hdistinct, spaced_banText, fit?_written "ban" rfl hparams rfl rfl
    (by decide) valid_banUses hdistinct spaced_banText⟩

end Command

end ChatCommands
