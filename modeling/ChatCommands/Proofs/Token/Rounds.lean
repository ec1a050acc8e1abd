import ChatCommands.Parameter.Binding
import ChatCommands.Proofs.Parameter.Filling
import ChatCommands.Proofs.Switch.Reading
import ChatCommands.Proofs.Text.Utf8
import ChatCommands.Proofs.Token.Partition
import Mathlib.Data.List.Induction

/-! # Taking tokens off round by round

Looking for the first switch, reading switches and binding an endless parameter are loops over a
text. A round that does not end its loop leaves a shorter end of the text, so that every loop ends,
and wherever a round cuts the text, it does so between two characters.
-/

namespace ChatCommands

open Text

/-- What a round of a loop comes to: a result, or a state and the text that is left. -/
inductive Round (σ ρ : Type)
  | ends (result : ρ)
  | goesOn (state : σ) (rest : List Char)

namespace Round

variable {σ ρ : Type}

/-- The loop ends with a result in so many rounds. -/
inductive Runs (round : σ → List Char → Round σ ρ) : σ → List Char → Nat → ρ → Prop
  | ends {state : σ} {text : List Char} {result : ρ} :
      round state text = .ends result → Runs round state text 1 result
  | goesOn {state next : σ} {text rest : List Char} {rounds : Nat} {result : ρ} :
      round state text = .goesOn next rest → Runs round next rest rounds result →
      Runs round state text (rounds + 1) result

/-- The loop comes to a state and a text. -/
inductive Reaches (round : σ → List Char → Round σ ρ) (state : σ) (text : List Char) :
    σ → List Char → Prop
  | start : Reaches round state text state text
  | goesOn {before after : σ} {left rest : List Char} : Reaches round state text before left →
      round before left = .goesOn after rest → Reaches round state text after rest

/-- The loop that starts on an end of the text ends with the result and no other, in at most one
round more than there are characters. All it comes to starts at a character boundary. -/
structure EndsWith (round : σ → List Char → Round σ ρ) (state : σ) (text start : List Char)
    (result : ρ) : Prop where
  ends : ∃ rounds ≤ text.length + 1, Runs round state start rounds result
  only : ∀ rounds other, Runs round state start rounds other → other = result
  inside : ∀ next rest, Reaches round state start next rest →
    rest <:+ text ∧ IsBoundary text (byteLength text - byteLength rest)

/-- On texts of some kind, a round that goes on leaves a shorter end of the text, again of that
kind, and `f` tells beforehand what the loop comes to. -/
structure Computes (round : σ → List Char → Round σ ρ) (Kind : List Char → Prop)
    (f : σ → List Char → ρ) : Prop where
  ends : ∀ state text result, Kind text → round state text = .ends result → f state text = result
  goesOn : ∀ state text next rest, Kind text → round state text = .goesOn next rest →
    Kind rest ∧ rest <:+ text ∧ rest.length < text.length ∧ f state text = f next rest

variable {round : σ → List Char → Round σ ρ} {state next : σ} {text start rest : List Char}
  {result : ρ} {Kind : List Char → Prop} {f : σ → List Char → ρ}

theorem isBoundary_of_suffix (h : rest <:+ text) :
    IsBoundary text (byteLength text - byteLength rest) := by
  obtain ⟨front, rfl⟩ := h
  rw [byteLength_append, Nat.add_sub_cancel]
  exact isBoundary_append front rest

theorem Computes.eq_of_runs (hf : Computes round Kind f) {rounds : Nat}
    (hruns : Runs round state text rounds result) (hkind : Kind text) : result = f state text := by
  induction hruns with
  | ends hround => exact (hf.ends _ _ _ hkind hround).symm
  | goesOn hround _ ih =>
    obtain ⟨hrest, -, -, hsame⟩ := hf.goesOn _ _ _ _ hkind hround
    exact (ih hrest).trans hsame.symm

theorem Computes.exists_runs (hf : Computes round Kind f) (state : σ) (hkind : Kind text) :
    ∃ rounds ≤ text.length + 1, Runs round state text rounds (f state text) := by
  induction hlength : text.length using Nat.strongRecOn generalizing state text with
  | ind length ih =>
    subst hlength
    cases hround : round state text with
    | ends result => exact ⟨1, Nat.le_add_left _ _, hf.ends _ _ _ hkind hround ▸ .ends hround⟩
    | goesOn next rest =>
      obtain ⟨hrest, -, hlt, hsame⟩ := hf.goesOn _ _ _ _ hkind hround
      obtain ⟨rounds, hrounds, hruns⟩ := ih rest.length hlt next hrest rfl
      exact ⟨rounds + 1, by omega, hsame ▸ .goesOn hround hruns⟩

theorem Computes.suffix (hf : Computes round Kind f) (hkind : Kind text)
    (hreaches : Reaches round state text next rest) : Kind rest ∧ rest <:+ text := by
  induction hreaches with
  | start => exact ⟨hkind, List.suffix_rfl⟩
  | goesOn _ hround ih =>
    obtain ⟨hleft, hsuffix⟩ := ih
    obtain ⟨hrest, hend, -⟩ := hf.goesOn _ _ _ _ hleft hround
    exact ⟨hrest, hend.trans hsuffix⟩

theorem Computes.endsWith (hf : Computes round Kind f) (hkind : Kind start)
    (hstart : start <:+ text) (state : σ) : EndsWith round state text start (f state start) := by
  constructor
  case ends =>
    obtain ⟨rounds, hrounds, hruns⟩ := hf.exists_runs state hkind
    have hlength := hstart.length_le
    exact ⟨rounds, by omega, hruns⟩
  case only =>
    intro rounds other hruns
    exact hf.eq_of_runs hruns hkind
  case inside =>
    intro next rest hreaches
    have hsuffix := (hf.suffix hkind hreaches).2.trans hstart
    exact ⟨hsuffix, isBoundary_of_suffix hsuffix⟩

end Round

namespace Token

variable {text cut : List Char} {q : Bool}

/-- What stands behind the places at which a text is cut when its first token is split off. -/
inductive Cut (q : Bool) (text : List Char) : List Char → Prop
  | start : Cut q text (trimStart text)
  | opened {body : List Char} : trimStart text = '"' :: body → Cut q text body
  | closing {body inner after : List Char} : trimStart text = '"' :: body →
      closeQuote? false body = some (inner, after) → Cut q text ('"' :: after)
  | closed {body inner after : List Char} : trimStart text = '"' :: body →
      closeQuote? false body = some (inner, after) → Cut q text after
  | space : Cut q text (splitSpace false (trimStart text)).2
  | leftover : Cut q text (split q text).leftover

theorem Cut.suffix (h : Cut q text cut) : cut <:+ text := by
  have hstart := trimStart_suffix text
  have hafter {body inner after : List Char} (hbody : trimStart text = '"' :: body)
      (hclosed : closeQuote? false body = some (inner, after)) : '"' :: after <:+ text := by
    refine List.IsSuffix.trans ⟨'"' :: inner, ?_⟩ hstart
    rw [hbody, closeQuote?_eq hclosed, List.cons_append]
  cases h with
  | start => exact hstart
  | opened hbody => exact (hbody ▸ List.suffix_cons _ _ : _ <:+ trimStart text).trans hstart
  | closing hbody hclosed => exact hafter hbody hclosed
  | closed hbody hclosed => exact (List.suffix_cons _ _).trans (hafter hbody hclosed)
  | space => exact List.IsSuffix.trans ⟨_, splitSpace_append_snd false _⟩ hstart
  | leftover => exact leftover_split_suffix q text

theorem split_trimStart (q : Bool) (text : List Char) :
    split q (trimStart text) = split q text := by
  rw [split, trimStart_trimStart, split]

theorem trimStart_leftover_split (q : Bool) (text : List Char) :
    trimStart (split q text).leftover = (split q text).leftover :=
  trimStart_leftover_front q _

end Token

namespace Text

/-- No white space stands in front. -/
def Trimmed (text : List Char) : Prop :=
  trimStart text = text

theorem Trimmed.isBlank_eq_false {text : List Char} (h : Trimmed text) (hne : text ≠ []) :
    isBlank text = false := by
  rw [isBlank_eq_false_iff, h]
  exact hne

end Text

namespace Switch

open Round

variable {switches : List Switch} {policy : UnknownPolicy} {developer : Bool}

/-! ## Looking for the first switch -/

/-- Looks whether the first token names a switch, and finds the text from it on. -/
def searchRound (switches : List Switch) (_ : Unit) (text : List Char) :
    Round Unit (Option (List Char)) :=
  if trimStart text = [] then .ends none
  else
    let token := Token.split true (trimStart text)
    if named switches token then .ends (some (trimStart text)) else .goesOn () token.leftover

theorem computes_searchRound (switches : List Switch) :
    Computes (searchRound switches) (fun _ => True) fun _ text =>
      ((Token.starts true text).find? fun start => named switches start.2).map Prod.fst := by
  constructor
  case ends =>
    intro state text result _ h
    unfold searchRound at h
    rw [Token.starts]
    split at h
    · rename_i hnil
      cases h
      simp [hnil]
    · rename_i hne
      simp only [Token.split_trimStart] at h
      split at h
      · rename_i hnamed
        cases h
        simp [hne, hnamed]
      · cases h
  case goesOn =>
    intro state text next rest _ h
    unfold searchRound at h
    split at h
    · cases h
    · rename_i hne
      simp only [Token.split_trimStart] at h
      split at h
      · cases h
      · rename_i hnamed
        cases h
        refine ⟨trivial, Token.leftover_split_suffix true text,
          Token.length_leftover_split true hne, ?_⟩
        simp [Token.starts_of_not_blank (isBlank_eq_false_iff.mpr hne), hnamed]

theorem endsWith_searchRound (switches : List Switch) (text : List Char) :
    EndsWith (searchRound switches) () text text ((cut? switches text).map Prod.snd) := by
  have hends := (computes_searchRound switches).endsWith trivial (List.suffix_refl text) ()
  rwa [cut?_eq, Option.map_map]

/-! ## Reading switches -/

/-- Adds a piece to the switches given so far and the plain pieces. -/
def gather (state : Given × List (List Char)) : Item → Given × List (List Char)
  | .given name value => (set state.1 name value, state.2)
  | .plain text => (state.1, state.2 ++ [text])

/-- The switches given, and the plain pieces joined by single spaces. -/
def gathered (state : Given × List (List Char)) : Given × List Char :=
  (state.1, [' '].intercalate state.2)

/-- The first token, with the one behind it if that is its value, and the text behind. -/
def firstItem (switches : List Switch) (policy : UnknownPolicy) (developer : Bool)
    (text : List Char) : Except SwitchError (Item × List Char) :=
  let token := Token.split true text
  let value := Token.split true token.leftover
  match token.switchName? with
  | none => .ok (.plain token.value, token.leftover)
  | some name =>
    match find? switches developer name with
    | none =>
      match policy with
      | .fail => .error (.unrecognised name)
      | .keep => .ok (.plain token.value, token.leftover)
    | some s =>
      if !s.takesValue then .ok (.given s.name none, token.leftover)
      else if token.leftover = [] || value.switchName?.isSome then .error (.missingValue s.name)
      else .ok (.given s.name (some (String.ofList value.value)), value.leftover)

/-- Reads one switch with its value, or one plain piece. -/
def readRound (switches : List Switch) (policy : UnknownPolicy) (developer : Bool)
    (state : Given × List (List Char)) (text : List Char) :
    Round (Given × List (List Char)) (Except SwitchError (Given × List Char)) :=
  if text = [] then .ends (.ok (gathered state))
  else
    match firstItem switches policy developer text with
    | .error e => .ends (.error e)
    | .ok (item, rest) => .goesOn (gather state item) rest

theorem firstItem_eq_ok {text rest : List Char} {item : Item} (hblank : isBlank text = false)
    (h : firstItem switches policy developer text = .ok (item, rest)) :
    Trimmed rest ∧ rest <:+ text ∧ rest.length < text.length := by
  have hsuffix := Token.leftover_split_suffix true text
  have hshorter := Token.length_leftover_split true (isBlank_eq_false_iff.mp hblank)
  have hleft : Trimmed (Token.split true text).leftover := Token.trimStart_leftover_split true text
  unfold firstItem at h
  generalize Token.split true text = token at h hsuffix hshorter hleft
  -- A round takes one token off, or two of them.
  have hrest : rest = token.leftover ∨
      token.leftover ≠ [] ∧ rest = (Token.split true token.leftover).leftover := by
    grind
  rcases hrest with rfl | ⟨hne, rfl⟩
  · exact ⟨hleft, hsuffix, hshorter⟩
  · have hnext := Token.length_leftover_split true (s := token.leftover) (by rwa [hleft])
    exact ⟨Token.trimStart_leftover_split true _,
      (Token.leftover_split_suffix true _).trans hsuffix, Nat.lt_trans hnext hshorter⟩

/-- The tokens of a text are read like its first piece and what is behind that. -/
theorem items_all {text : List Char} (hblank : isBlank text = false) :
    items switches policy developer (Token.all true text) =
      firstItem switches policy developer text >>= fun first =>
        (items switches policy developer (Token.all true first.2)).map (first.1 :: ·) := by
  have hleft : Trimmed (Token.split true text).leftover := Token.trimStart_leftover_split true text
  rw [Token.all_of_not_blank hblank]
  unfold firstItem
  generalize Token.split true text = token at hleft ⊢
  simp only [items]
  cases token.switchName? with
  | none => rfl
  | some name =>
    simp only
    cases find? switches developer name with
    | none => cases policy <;> rfl
    | some s =>
      simp only
      cases s.takesValue with
      | false => rfl
      | true =>
        by_cases hnil : token.leftover = []
        · have hnone : Token.all true [] = [] := by
            rw [Token.all, Token.starts_of_blank rfl]
            rfl
          simp [hnil, hnone, bind, Except.bind]
        · rw [Token.all_of_not_blank (hleft.isBlank_eq_false hnil)]
          cases hnext : (Token.split true token.leftover).switchName?.isSome <;>
            simp [hnil, hnext, bind, Except.bind]

theorem computes_readRound (switches : List Switch) (policy : UnknownPolicy) (developer : Bool) :
    Computes (readRound switches policy developer) Trimmed
    fun state text => (items switches policy developer (Token.all true text)).map
      fun items => gathered (items.foldl gather state) := by
  constructor
  case ends =>
    intro state text result htrimmed h
    unfold readRound at h
    split at h
    · rename_i hnil
      cases h
      rw [hnil, Token.all, Token.starts_of_blank rfl]
      rfl
    · rename_i hne
      simp only [items_all (htrimmed.isBlank_eq_false hne)]
      cases hfirst : firstItem switches policy developer text with
      | error e =>
        rw [hfirst] at h
        cases h
        rfl
      | ok first =>
        rw [hfirst] at h
        cases h
  case goesOn =>
    intro state text next rest htrimmed h
    unfold readRound at h
    split at h
    · cases h
    · rename_i hne
      have hblank := htrimmed.isBlank_eq_false hne
      simp only [items_all hblank]
      cases hfirst : firstItem switches policy developer text with
      | error e =>
        rw [hfirst] at h
        cases h
      | ok first =>
        rw [hfirst] at h
        cases h
        obtain ⟨hleft, hsuffix, hshorter⟩ := firstItem_eq_ok hblank hfirst
        refine ⟨hleft, hsuffix, hshorter, ?_⟩
        cases hitems : items switches policy developer (Token.all true first.2) with
        | error e => simp [bind, Except.bind, Except.map, hitems]
        | ok others => simp [bind, Except.bind, Except.map, hitems]

def Item.text? : Item → Option (List Char)
  | .given _ _ => none
  | .plain text => some text

theorem plainOf_eq (items : List Item) :
    plainOf items = [' '].intercalate (items.filterMap Item.text?) := by
  unfold plainOf
  congr 2
  funext item
  cases item <;> rfl

theorem gathered_foldl (items : List Item) :
    gathered (items.foldl gather ([], [])) = (givenOf items, plainOf items) := by
  have hsplit : items.foldl gather ([], []) = (givenOf items, items.filterMap Item.text?) := by
    induction items using List.reverseRecOn with
    | nil => rfl
    | append_singleton items item ih =>
      rw [List.foldl_append, ih, List.filterMap_append]
      cases item <;> simp [gather, givenOf, Item.text?]
  rw [hsplit, plainOf_eq]
  rfl

theorem endsWith_readRound (text : List Char) :
    EndsWith (readRound switches policy developer) ([], []) text (trimStart text)
      (read switches policy developer text) := by
  have hends := (computes_readRound switches policy developer).endsWith (trimStart_trimStart text)
    (trimStart_suffix text) ([], [])
  simp only [gathered_foldl, Token.all, Token.starts_trimStart] at hends
  exact hends

end Switch

namespace Parameter

open Round

variable {p : Parameter} {bounds : Bounds} {ctx : Context} {conversions : Conversions}

/-! ## Binding an endless parameter -/

/-- The array of all values, unless there are too few or some text is left. -/
def closing (bounds : Bounds) (values : List Value) (rest : List Char) : Binding :=
  if values.length < bounds.min || rest != [] then .rejected else .final (.array values) []

/-- Converts the first token, unless there are as many values as may be. -/
def bindRound (p : Parameter) (bounds : Bounds) (ctx : Context) (conversions : Conversions)
    (values : List Value) (text : List Char) : Round (List Value) Binding :=
  if text = [] || (bounds.max > 0 && values.length == bounds.max) then
    .ends (closing bounds values text)
  else if (p.next text).unterminated then .ends .rejected
  else
    match p.convert ctx conversions (p.next text).value with
    | .rejected => .ends .rejected
    | .accepted value => .goesOn (values ++ [value]) (trimStart (p.next text).leftover)
    | .final value => .ends (closing bounds (values ++ [value]) (trimStart (p.next text).leftover))

/-- What the loop comes to from some values on. -/
def bindFrom (p : Parameter) (bounds : Bounds) (ctx : Context) (conversions : Conversions)
    (values : List Value) (text : List Char) : Binding :=
  match p.elements ctx conversions bounds.max values.length text with
  | some (more, rest) => closing bounds (values ++ more) rest
  | none => .rejected

theorem elements_trimStart (max count : Nat) (text : List Char) :
    p.elements ctx conversions max count (trimStart text) =
      p.elements ctx conversions max count text := by
  rw [elements.eq_def, elements.eq_def p ctx conversions max count text]
  simp only [trimStart_trimStart, next_trimStart]

theorem leftover_next_suffix (p : Parameter) (text : List Char) :
    (p.next text).leftover <:+ text := by
  unfold next
  split
  · exact List.nil_suffix
  · exact Token.leftover_split_suffix _ text

theorem bindFrom_nil (text : List Char) :
    p.bindFrom bounds ctx conversions [] text = p.bindAll bounds ctx conversions text := by
  unfold bindFrom bindAll closing
  rw [List.length_nil]
  cases p.elements ctx conversions bounds.max 0 text with
  | none => rfl
  | some found =>
    obtain ⟨values, rest⟩ := found
    cases rest <;> simp

theorem computes_bindRound (p : Parameter) (bounds : Bounds) (ctx : Context)
    (conversions : Conversions) : Computes (bindRound p bounds ctx conversions) Trimmed
    (bindFrom p bounds ctx conversions) := by
  constructor
  case ends =>
    intro values text result htrimmed h
    unfold bindRound at h
    unfold bindFrom
    rw [elements, htrimmed]
    grind
  case goesOn =>
    intro values text next rest htrimmed h
    obtain ⟨hne, value, hvalue, rfl, rfl, hsame⟩ : trimStart text ≠ [] ∧ ∃ value,
        p.convert ctx conversions (p.next text).value = .accepted value ∧
        next = values ++ [value] ∧ rest = trimStart (p.next text).leftover ∧
        p.elements ctx conversions bounds.max values.length text =
          (p.elements ctx conversions bounds.max (values.length + 1) (p.next text).leftover).map
            fun found => (value :: found.1, found.2) := by
      rw [elements, htrimmed]
      unfold bindRound at h
      grind
    have hsuffix := trimStart_suffix (p.next text).leftover
    refine ⟨trimStart_trimStart _, hsuffix.trans (p.leftover_next_suffix text),
      Nat.lt_of_le_of_lt hsuffix.length_le (p.length_leftover_next hne), ?_⟩
    rw [bindFrom, hsame, bindFrom, elements_trimStart, List.length_append, List.length_singleton]
    cases p.elements ctx conversions bounds.max (values.length + 1) (p.next text).leftover with
    | none => rfl
    | some found => simp

theorem endsWith_bindRound (text : List Char) :
    EndsWith (bindRound p bounds ctx conversions) [] text (trimStart text)
      (p.bindAll bounds ctx conversions text) := by
  have hends := (computes_bindRound p bounds ctx conversions).endsWith (trimStart_trimStart text)
    (trimStart_suffix text) []
  rwa [bindFrom, List.length_nil, elements_trimStart, ← List.length_nil (α := Value), ← bindFrom,
    bindFrom_nil] at hends

end Parameter

namespace Token

open Round

/-- Splitting off a token parts the text into a raw token, white space and a shorter rest, and cuts
it between two characters only. Hence looking for the first switch, reading switches and binding an
endless parameter end on every text with the results of `cut?`, `read` and `bindAll`, and all they
come to starts between two characters of the text. -/
theorem splitting_makes_progress (text : List Char) :
    (∀ q, ∃ raw gap, SplitsOff q (trimStart text) (split q text) raw gap) ∧
    (∀ q rest cut, rest <:+ text → Cut q rest cut →
      cut <:+ text ∧ IsBoundary text (byteLength text - byteLength cut)) ∧
    (∀ switches, EndsWith (Switch.searchRound switches) () text text
      ((Switch.cut? switches text).map Prod.snd)) ∧
    (∀ switches front back, Switch.cut? switches text = some (front, back) →
      front ++ back = text ∧ IsBoundary text (byteLength front)) ∧
    (∀ switches policy developer, EndsWith (Switch.readRound switches policy developer) ([], [])
      text (trimStart text) (Switch.read switches policy developer text)) ∧
    ∀ (p : Parameter) bounds ctx conversions, EndsWith (p.bindRound bounds ctx conversions) []
      text (trimStart text) (p.bindAll bounds ctx conversions text) := by
  refine ⟨fun q => exists_splitsOff q text, ?_, fun switches => Switch.endsWith_searchRound _ _,
    ?_, fun switches policy developer => Switch.endsWith_readRound text,
    fun p bounds ctx conversions => Parameter.endsWith_bindRound text⟩
  · intro q rest cut hrest hcut
    have hsuffix := hcut.suffix.trans hrest
    exact ⟨hsuffix, isBoundary_of_suffix hsuffix⟩
  · intro switches front back hcut
    obtain ⟨rfl, -⟩ := Switch.cut?_eq_some hcut
    exact ⟨rfl, isBoundary_append front back⟩

end Token

end ChatCommands
