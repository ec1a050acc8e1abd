import Mathlib
import ChatCommands.Proofs.Command.Leftover

/-! # Strict commands

A command that allows neither text left over nor unknown switches is fitted by a text when what
the parameters leave of it is used up by switches. Tokens of white space alone are let through
between them, whether or not they stand in quotes.
-/

namespace ChatCommands

open Text

/-- Nothing but white space, as in `""`, or where a backslash keeps it. -/
def Token.Blank (t : Token) : Prop :=
  isBlank t.value = true

namespace Switch

variable {switches : List Switch} {developer : Bool}

/-- Tokens that are declared switches with their values, with `spare` tokens between them. -/
inductive Spent (switches : List Switch) (developer : Bool) (spare : Token → Prop) :
    List Token → Prop
  | nil : Spent switches developer spare []
  | spare {t : Token} {ts : List Token} (hn : t.switchName? = none) (ht : spare t)
      (h : Spent switches developer spare ts) : Spent switches developer spare (t :: ts)
  | lone {t : Token} {ts : List Token} {name : String} {s : Switch}
      (hn : t.switchName? = some name) (hs : find? switches developer name = some s)
      (hv : s.takesValue = false) (h : Spent switches developer spare ts) :
      Spent switches developer spare (t :: ts)
  | valued {t v : Token} {ts : List Token} {name : String} {s : Switch}
      (hn : t.switchName? = some name) (hs : find? switches developer name = some s)
      (hv : s.takesValue = true) (hvalue : v.switchName? = none)
      (h : Spent switches developer spare ts) : Spent switches developer spare (t :: v :: ts)

theorem isBlank_intercalate (texts : List (List Char)) :
    isBlank ([' '].intercalate texts) = texts.all isBlank := by
  induction texts with
  | nil => rfl
  | cons text texts ih =>
    cases texts with
    | nil => simp
    | cons next texts =>
      have hspace : isBlank [' '] = true := by decide
      rw [List.intercalate_cons_cons, isBlank_append, isBlank_append, ih, hspace, Bool.and_true]
      rfl

theorem isBlank_plainOf_plain (text : List Char) (read : List Item) :
    isBlank (plainOf (.plain text :: read)) = (isBlank text && isBlank (plainOf read)) := by
  rw [plainOf, plainOf, isBlank_intercalate, isBlank_intercalate]
  rfl

theorem items_of_spent {ts : List Token} (h : Spent switches developer Token.Blank ts) :
    ∃ read, items switches .fail developer ts = .ok read ∧ isBlank (plainOf read) = true := by
  induction h with
  | nil => exact ⟨[], rfl, rfl⟩
  | @spare t ts hn ht _ ih =>
    obtain ⟨read, hread, hblank⟩ := ih
    refine ⟨.plain t.value :: read, ?_, ?_⟩
    · rw [items, hn, hread]
      rfl
    · rw [isBlank_plainOf_plain, ht, hblank, Bool.and_self]
  | @lone t ts name s hn hs hv _ ih =>
    obtain ⟨read, hread, hblank⟩ := ih
    refine ⟨.given s.name none :: read, ?_, hblank⟩
    simp only [items, hn, hs, hv, hread]
    rfl
  | @valued t v ts name s hn hs hv hvalue _ ih =>
    obtain ⟨read, hread, hblank⟩ := ih
    refine ⟨.given s.name (some (String.ofList v.value)) :: read, ?_, hblank⟩
    simp only [items, hn, hs, hv, hvalue, hread]
    rfl

theorem spent_of_items {ts : List Token} {read : List Item}
    (h : items switches .fail developer ts = .ok read) (hblank : isBlank (plainOf read) = true) :
    Spent switches developer Token.Blank ts := by
  fun_induction items switches .fail developer ts generalizing read with
  | case1 => exact .nil
  | case2 t ts hn ih =>
    obtain ⟨read, hread, rfl⟩ := map_eq_ok h
    rw [isBlank_plainOf_plain, Bool.and_eq_true] at hblank
    exact .spare hn hblank.1 (ih hread hblank.2)
  | case3 => cases h
  | case4 t ts name hn hf hp ih => cases hp
  | case5 => cases h
  | case6 => cases h
  | case7 t name hn s hf hv v ts hs ih =>
    obtain ⟨read, hread, rfl⟩ := map_eq_ok h
    exact .valued hn hf hv (by simpa using hs) (ih hread hblank)
  | case8 t ts name hn s hf hv ih =>
    obtain ⟨read, hread, rfl⟩ := map_eq_ok h
    exact .lone hn hf (by simpa using hv) (ih hread hblank)

theorem spent_iff {ts : List Token} : Spent switches developer Token.Blank ts ↔
    ∃ read, items switches .fail developer ts = .ok read ∧ isBlank (plainOf read) = true :=
  ⟨items_of_spent, fun ⟨_, hread, hblank⟩ => spent_of_items hread hblank⟩

theorem spent_lexemes_iff {text : List Char} :
    Spent switches developer Token.Blank (Token.lexemes text) ↔
      ∃ given rest, read switches .fail developer text = .ok (given, rest) ∧
        isBlank rest = true := by
  rw [spent_iff]
  constructor
  · rintro ⟨read, hread, hblank⟩
    exact ⟨_, _, read_eq_ok_iff.mpr ⟨read, hread, rfl, rfl⟩, hblank⟩
  · rintro ⟨given, rest, hread, hblank⟩
    obtain ⟨read, hitems, -, rfl⟩ := read_eq_ok_iff.mp hread
    exact ⟨read, hitems, hblank⟩

section Spent

variable {spare : Token → Prop} {ts us : List Token} {t u : Token}

theorem spent_of_append (h : Spent switches developer spare (ts ++ us))
    (hts : ∀ t ∈ ts, named switches t = false) : Spent switches developer spare us := by
  induction ts with
  | nil => exact h
  | cons t ts ih =>
    have hnone : ∀ {name s}, t.switchName? = some name →
        find? switches developer name = some s → False := by
      intro name s hn hs
      rw [find?_of_unnamed (hts t List.mem_cons_self) hn developer] at hs
      cases hs
    refine ih ?_ fun u hu => hts u (List.mem_cons_of_mem t hu)
    rw [List.cons_append] at h
    generalize ts ++ us = rest at h ⊢
    cases h with
    | spare _ _ h => exact h
    | lone hn hs _ _ => exact (hnone hn hs).elim
    | valued hn hs _ _ _ => exact (hnone hn hs).elim

/-- The last token may change if it names no switch. -/
theorem Spent.replace_last (h : Spent switches developer spare (ts ++ [t]))
    (ht : t.switchName? = none) (hu : u.switchName? = none) (hspare : spare t → spare u) :
    Spent switches developer spare (ts ++ [u]) := by
  generalize hall : ts ++ [t] = all at h
  induction h generalizing ts with
  | nil => simp at hall
  | spare hn ha h ih =>
    cases ts with
    | nil =>
      cases hall
      exact .spare hu (hspare ha) h
    | cons a ts =>
      cases hall
      exact .spare hn ha (ih rfl)
  | lone hn hs hv h ih =>
    cases ts with
    | nil =>
      cases hall
      rw [ht] at hn
      cases hn
    | cons a ts =>
      cases hall
      exact .lone hn hs hv (ih rfl)
  | valued hn hs hv hvalue h ih =>
    match ts, hall with
    | [], hall => cases hall
    | [a], hall =>
      cases hall
      exact .valued hn hs hv hu h
    | a :: v :: ts, hall =>
      cases hall
      exact .valued hn hs hv hvalue (ih rfl)

end Spent

section Rejoined

variable {s x : List Char}

/-- Where the space that joins the two is drawn into a token, something that is no switch and not
blank is left over, unless there are no switches. -/
theorem not_drawn_of_spent (h : Token.Followed s x)
    (hnamed : ∀ t ∈ Token.all true s, named switches t = false)
    (hspent : Spent switches developer Token.Blank (Token.lexemes (trim s ++ ' ' :: trim x)))
    (hs : (trimEnd s).getLast? = some '\\') : x = [] := by
  by_contra hx
  obtain ⟨ts, last, t, us, hlast, happend, hspace, hhyphen⟩ := h.exists_drawn hx hs
  have hts : ∀ t ∈ ts, named switches t = false := by
    intro u hu
    refine named_lexemes.mpr (named_of_switchNames (Token.switchNames_trim s) hnamed) u ?_
    rw [hlast]
    exact List.mem_append_left _ hu
  rw [happend] at hspent
  have hnone := Token.switchName?_eq_none_of_mem hspace (.inl (by decide))
  cases spent_of_append hspent hts with
  | spare _ hblank _ => exact absurd (List.all_eq_true.mp hblank '-' hhyphen) (by decide)
  | lone hn _ _ _ =>
    rw [hnone] at hn
    cases hn
  | valued hn _ _ _ _ =>
    rw [hnone] at hn
    cases hn

/-- Without switches, a backslash draws the space that is put behind the text into its last token,
where white space stood that the backslash drew into it as well. -/
theorem spent_of_drawn (hs : (trimEnd s).getLast? = some '\\') (hend : s.getLast? ≠ some '\\')
    (hspent : Spent switches developer Token.Blank (Token.lexemes (trim s ++ [' ']))) :
    Spent switches developer Token.Blank (Token.lexemes s) := by
  obtain ⟨gap, hgap, hfront⟩ := exists_blank_trim s
  obtain ⟨g, hg, heq⟩ := exists_blank_trimEnd s
  obtain ⟨ts, -, drawn, u, -, -, happend⟩ :=
    Token.lexemes_of_escaped (Token.leavesEscaped_iff.mpr hs)
  cases g with
  | nil =>
    rw [heq, List.append_nil] at hend
    exact absurd hs hend
  | cons c g =>
    rw [isBlank_cons, Bool.and_eq_true] at hg
    obtain ⟨hc, hg⟩ := hg
    have hjoined : Token.lexemes (trim s ++ [' ']) = ts ++ [⟨drawn ++ [' '], [], false, u⟩] := by
      rw [← happend ' ' [] (by decide) rfl, hfront, List.append_assoc,
        Token.lexemes_append_of_blank hgap]
    rw [hjoined] at hspent
    rw [heq, happend c g hc hg]
    refine hspent.replace_last ?_ ?_ fun hblank => ?_
    · exact Token.switchName?_eq_none_of_mem (c := ' ') (by simp) (.inl (by decide))
    · exact Token.switchName?_eq_none_of_mem (c := c) (by simp) (.inl hc)
    · rw [Token.Blank, isBlank_append, Bool.and_eq_true] at hblank ⊢
      exact ⟨hblank.1, by rw [isBlank_cons, hc]; rfl⟩

/-- What is used up once it is trimmed and joined is used up as it stands. -/
theorem spent_of_rejoined (h : Token.Followed s x)
    (hnamed : ∀ t ∈ Token.all true s, named switches t = false)
    (hend : (s ++ x).getLast? ≠ some '\\')
    (hspent : Spent switches developer Token.Blank (Token.lexemes (trim s ++ ' ' :: trim x))) :
    Spent switches developer Token.Blank (Token.lexemes (s ++ x)) := by
  by_cases hs : (trimEnd s).getLast? = some '\\'
  · obtain rfl := not_drawn_of_spent h hnamed hspent hs
    rw [List.append_nil] at hend ⊢
    exact spent_of_drawn hs hend hspent
  · obtain ⟨g, hg, heq⟩ := exists_blank_trimEnd x
    rw [h.lexemes_rejoin hs] at hspent
    rw [h.parts.lexemes_append]
    obtain hsame | ⟨ts, kept, drawn, c, u, hkept, hc, hx, happend⟩ :=
      Token.lexemes_append_blank hg (trimEnd x)
    · rwa [heq, hsame]
    · -- White space that trimming took from the last token can only make that token blank.
      rw [heq, happend, ← List.append_assoc]
      rw [hx, ← List.append_assoc] at hspent
      refine hspent.replace_last ?_ ?_ fun hblank => ?_
      · exact Token.switchName?_eq_none_of_mem hkept (.inr (.inl rfl))
      · exact Token.switchName?_eq_none_of_mem (c := c) (by simp) (.inl hc)
      · exact absurd (List.all_eq_true.mp hblank _ hkept) (by decide)

end Rejoined

end Switch

namespace Command

variable {H : Type} {c : Command H} {text : List Char} {env : Environment}

theorem fit?_isSome_iff_of_strict (trigger : String) (text : List Char) (env : Environment)
    (hover : c.overflow = .fail) (hunknown : c.unknown = .fail) :
    (c.fit? trigger text env).isSome = true ↔ c.isInvocable = true ∧
      ∃ leftover ∈ c.leftover? text env, Switch.Spent c.switches env.developer Token.Blank
        (Token.lexemes (trim leftover ++ ' ' :: trim (c.sections text).2)) := by
  rw [Option.isSome_iff_exists]
  constructor
  · rintro ⟨fit, h⟩
    obtain ⟨hi, arguments, leftover, switches, overflow, hargs, hread, hblank, -⟩ :=
      fit?_eq_some_iff.mp h
    rw [hunknown] at hread
    rw [hover] at hblank
    refine ⟨hi, leftover, leftover?_eq_some_iff.mpr ⟨arguments, hargs⟩, ?_⟩
    exact Switch.spent_lexemes_iff.mpr ⟨switches, overflow, hread, hblank.resolve_right (by simp)⟩
  · rintro ⟨hi, leftover, hleft, hspent⟩
    obtain ⟨arguments, hargs⟩ := leftover?_eq_some_iff.mp hleft
    obtain ⟨switches, overflow, hread, hblank⟩ := Switch.spent_lexemes_iff.mp hspent
    rw [← hunknown] at hread
    exact ⟨_, fit?_eq_some_iff.mpr
      ⟨hi, arguments, leftover, switches, overflow, hargs, hread, .inl hblank, rfl⟩⟩

theorem getLast?_leftover {leftover : List Char} (h : c.TakesTokens text env)
    (hleft : c.leftover? text env = some leftover) (hend : text.getLast? ≠ some '\\') :
    (leftover ++ (c.sections text).2).getLast? ≠ some '\\' := by
  obtain ⟨a, ha⟩ := (h leftover hleft).suffix
  intro hlast
  refine hend ?_
  rw [(c.sections_spec text).1, ← ha, List.append_assoc, List.getLast?_append, hlast]
  rfl

/-- A text fits a strict command when the text that is put together of both parts is used up by
switches, apart from blank tokens. If the text ends in no backslash and the parameters take whole
tokens, then all that is left of it is used up as it stands. -/
theorem strict_fit_leaves_blank (trigger : String) (hover : c.overflow = .fail)
    (hunknown : c.unknown = .fail) :
    ((c.fit? trigger text env).isSome = true ↔ c.isInvocable = true ∧
      ∃ leftover ∈ c.leftover? text env, Switch.Spent c.switches env.developer Token.Blank
        (Token.lexemes (trim leftover ++ ' ' :: trim (c.sections text).2))) ∧
    (c.TakesTokens text env → text.getLast? ≠ some '\\' →
      (c.fit? trigger text env).isSome = true → ∃ leftover ∈ c.leftover? text env,
        Switch.Spent c.switches env.developer Token.Blank
          (Token.lexemes (leftover ++ (c.sections text).2))) := by
  have hiff := fit?_isSome_iff_of_strict trigger text env hover hunknown
  refine ⟨hiff, fun htokens hend hfits => ?_⟩
  obtain ⟨-, leftover, hleft, hspent⟩ := hiff.mp hfits
  refine ⟨leftover, hleft, ?_⟩
  exact Switch.spent_of_rejoined (followed_leftover htokens hleft) (named_leftover htokens hleft)
    (getLast?_leftover htokens hleft hend) hspent

/-- Takes a word, with a switch that takes a value, and allows nothing else. -/
def knock : Command Unit where
  trigger := "knock"
  parameters := [{ name := "where", kind := .word }]
  switches := [{ name := "why", takesValue := true }]
  handler? := some ()
  id := [0]
  path := "knock"
  usage := "knock <where>"
  category? := none
  subcommands := {}

def visitor : Environment :=
  ⟨{}, .standard, false⟩

theorem strict_fit_leaves_blank_knock :
    knock.overflow = .fail ∧ knock.unknown = .fail ∧
    knock.TakesTokens "door \"\" -why \"so late\"".toList visitor ∧
    "door \"\" -why \"so late\"".toList.getLast? ≠ some '\\' ∧
    (knock.fit? "knock" "door \"\" -why \"so late\"".toList visitor).isSome = true ∧
    ∃ leftover ∈ knock.leftover? "door \"\" -why \"so late\"".toList visitor,
      Switch.Spent knock.switches false Token.Blank
        (Token.lexemes (leftover ++ (knock.sections "door \"\" -why \"so late\"".toList).2)) := by
  have htokens : knock.TakesTokens "door \"\" -why \"so late\"".toList visitor :=
    takesTokens_of (.inr (by decide))
  have hend : "door \"\" -why \"so late\"".toList.getLast? ≠ some '\\' := by decide
  have hfits : (knock.fit? "knock" "door \"\" -why \"so late\"".toList visitor).isSome = true := by
    cbv
  exact ⟨rfl, rfl, htokens, hend, hfits,
    (strict_fit_leaves_blank "knock" rfl rfl).2 htokens hend hfits⟩

/-- In `door ""`, the second token is left over, but the text fits all the same. -/
theorem strict_fit_can_leave_tokens : ¬ ∀ (c : Command Unit) (trigger : String)
    (text leftover : List Char) (env : Environment), c.overflow = .fail → c.unknown = .fail →
    (c.fit? trigger text env).isSome = true → c.leftover? text env = some leftover →
    Switch.Spent c.switches env.developer (fun _ => False)
      (Token.lexemes (leftover ++ (c.sections text).2)) := by
  intro hall
  have hfits : (knock.fit? "knock" "door \"\"".toList visitor).isSome = true := by cbv
  have hleft : knock.leftover? "door \"\"".toList visitor = some "\"\"".toList := by cbv
  have htail : (knock.sections "door \"\"".toList).2 = [] := by cbv
  have hspent := hall knock "knock" _ _ visitor rfl rfl hfits hleft
  have htokens : Token.lexemes "\"\"".toList = [⟨[], [], true, false⟩] := by cbv
  rw [htail, List.append_nil, htokens] at hspent
  cases hspent with
  | spare _ ht _ => exact ht
  | lone hn _ _ _ => cases hn

end Command

end ChatCommands
