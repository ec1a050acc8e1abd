import Mathlib.Data.List.Forall2
import Mathlib.Logic.Function.Iterate
import ChatCommands.Parameter.Binding
import ChatCommands.Proofs.Token.Parts

/-! # Endless parameters

An endless parameter reads all tokens of a text or none. It takes them exactly when there are as
many as its bounds allow, no quote is left open and each token has a value, and only the value of
the last one may be final.
-/

namespace ChatCommands

open Text

/-- The value that a token was converted to. -/
def Converted.value? : Converted → Option Value
  | rejected => none
  | accepted value | final value => some value

namespace Parameter

variable {p : Parameter} {bounds : Bounds} {ctx : Context} {conversions : Conversions}
  {text : List Char} {tokens : List Token} {t : Token} {value : Value} {values : List Value}

/-- The tokens of a text are the elements of an endless parameter. -/
structure Takes (p : Parameter) (bounds : Bounds) (ctx : Context) (conversions : Conversions)
    (tokens : List Token) (values : List Value) : Prop where
  min_le : bounds.min ≤ tokens.length
  le_max : bounds.max = 0 ∨ tokens.length ≤ bounds.max
  closed : ∀ t ∈ tokens, t.unterminated = false
  converted : List.Forall₂
    (fun t value => (p.convert ctx conversions t.value).value? = some value) tokens values
  final_last : ∀ t ∈ tokens.dropLast, ∀ value, p.convert ctx conversions t.value ≠ .final value

/-- Tokens are converted from the left, and nothing is read after a final value. -/
inductive Reads (p : Parameter) (ctx : Context) (conversions : Conversions) :
    List Token → List Value → Prop
  | done : Reads p ctx conversions [] []
  | last {t : Token} {value : Value} :
      p.convert ctx conversions t.value = .final value → Reads p ctx conversions [t] [value]
  | more {t : Token} {value : Value} {tokens : List Token} {values : List Value} :
      p.convert ctx conversions t.value = .accepted value →
      Reads p ctx conversions tokens values →
      Reads p ctx conversions (t :: tokens) (value :: values)

section Reads

theorem reads_nil_iff : p.Reads ctx conversions [] values ↔ values = [] := by
  constructor
  · rintro ⟨⟩
    rfl
  · rintro rfl
    exact .done

theorem not_reads_of_rejected (h : p.convert ctx conversions t.value = .rejected) :
    ¬p.Reads ctx conversions (t :: tokens) values := by
  intro hreads
  cases hreads with
  | last hfinal => cases h.symm.trans hfinal
  | more haccepted _ => cases h.symm.trans haccepted

theorem reads_cons_iff_of_accepted (h : p.convert ctx conversions t.value = .accepted value) :
    p.Reads ctx conversions (t :: tokens) values ↔
      ∃ others, p.Reads ctx conversions tokens others ∧ value :: others = values := by
  constructor
  · intro hreads
    cases hreads with
    | last hfinal => cases h.symm.trans hfinal
    | more haccepted hothers =>
      cases h.symm.trans haccepted
      exact ⟨_, hothers, rfl⟩
  · rintro ⟨others, hothers, rfl⟩
    exact .more h hothers

theorem reads_cons_iff_of_final (h : p.convert ctx conversions t.value = .final value) :
    p.Reads ctx conversions (t :: tokens) values ↔ tokens = [] ∧ [value] = values := by
  constructor
  · intro hreads
    cases hreads with
    | last hfinal =>
      cases h.symm.trans hfinal
      exact ⟨rfl, rfl⟩
    | more haccepted _ => cases h.symm.trans haccepted
  · rintro ⟨rfl, rfl⟩
    exact .last h

/-- Reading from the left gives each token its value and lets only the last one be final. -/
theorem reads_iff : p.Reads ctx conversions tokens values ↔
    List.Forall₂ (fun t value => (p.convert ctx conversions t.value).value? = some value)
      tokens values ∧
    ∀ t ∈ tokens.dropLast, ∀ value, p.convert ctx conversions t.value ≠ .final value := by
  constructor
  · intro h
    induction h with
    | done => exact ⟨.nil, by simp⟩
    | last hfinal => exact ⟨.cons (by rw [hfinal]; rfl) .nil, by simp⟩
    | @more t value tokens values haccepted _ ih =>
      obtain ⟨hconverted, hlast⟩ := ih
      refine ⟨.cons (by rw [haccepted]; rfl) hconverted, fun u hu other hfinal => ?_⟩
      cases tokens with
      | nil => cases hu
      | cons next tokens =>
        rcases List.mem_cons.mp hu with rfl | hu
        · cases haccepted.symm.trans hfinal
        · exact hlast u hu other hfinal
  · rintro ⟨hconverted, hlast⟩
    induction hconverted with
    | nil => exact .done
    | @cons t value tokens values hvalue hothers ih =>
      cases ht : p.convert ctx conversions t.value with
      | rejected => simp [ht, Converted.value?] at hvalue
      | accepted other =>
        obtain rfl : other = value := by simpa [ht, Converted.value?] using hvalue
        apply Reads.more ht
        apply ih
        intro u hu
        cases tokens with
        | nil => cases hu
        | cons next tokens => exact hlast u (List.mem_cons_of_mem t hu)
      | final other =>
        obtain rfl : other = value := by simpa [ht, Converted.value?] using hvalue
        cases hothers with
        | nil => exact .last ht
        | cons _ _ => exact absurd ht (hlast t List.mem_cons_self other)

end Reads

theorem all_eq_nil (h : trimStart text = []) : Token.all p.acceptQuote text = [] := by
  simp [Token.all, Token.starts_of_blank (isBlank_iff.mpr h)]

theorem all_eq_next_cons (hrest : p.rest = false) (h : trimStart text ≠ []) :
    Token.all p.acceptQuote text =
      p.next text :: Token.all p.acceptQuote (p.next text).leftover := by
  have hnext : p.next text = Token.split p.acceptQuote text := by simp [next, hrest]
  rw [hnext]
  exact Token.all_of_not_blank (isBlank_eq_false_iff.mpr h)

/-- The loop uses the whole text up exactly when it can read all tokens and `max` allows as many.
`count` says how many were read before. -/
theorem elements_eq_some_iff (hrest : p.rest = false) {max count : Nat}
    (hcount : max = 0 ∨ count ≤ max) (text : List Char) (values : List Value) :
    p.elements ctx conversions max count text = some (values, []) ↔
      p.Reads ctx conversions (Token.all p.acceptQuote text) values ∧
        (∀ t ∈ Token.all p.acceptQuote text, t.unterminated = false) ∧
        (max = 0 ∨ count + (Token.all p.acceptQuote text).length ≤ max) := by
  fun_induction p.elements ctx conversions max count text generalizing values with
  | case1 count text hblank =>
    rw [all_eq_nil hblank, reads_nil_iff]
    constructor
    · rintro ⟨⟩
      exact ⟨rfl, by simp, hcount⟩
    · rintro ⟨rfl, -⟩
      rfl
  | case2 count text hblank hfull =>
    simp only [gt_iff_lt, Bool.and_eq_true, decide_eq_true_eq, beq_iff_eq] at hfull
    rw [all_eq_next_cons hrest hblank]
    constructor
    · intro hleft
      exact absurd (Prod.mk.inj (Option.some.inj hleft)).2 hblank
    · rintro ⟨-, -, hle⟩
      simp only [List.length_cons] at hle
      omega
  | case3 count text hblank hroom hopen =>
    rw [all_eq_next_cons hrest hblank]
    constructor
    · rintro ⟨⟩
    · rintro ⟨-, hclosed, -⟩
      cases hopen.symm.trans (hclosed _ List.mem_cons_self)
  | case4 count text hblank hroom hclosed hrejected =>
    rw [all_eq_next_cons hrest hblank]
    simp [not_reads_of_rejected hrejected]
  | case5 count text hblank hroom hclosed value haccepted ih =>
    have hmore : max = 0 ∨ count + 1 ≤ max := by
      simp only [gt_iff_lt, Bool.and_eq_true, decide_eq_true_eq, beq_iff_eq] at hroom
      omega
    rw [all_eq_next_cons hrest hblank, reads_cons_iff_of_accepted haccepted]
    simp only [Option.map_eq_some_iff, Prod.exists, Prod.mk.injEq, List.forall_mem_cons,
      List.length_cons]
    constructor
    · rintro ⟨others, _, helements, rfl, rfl⟩
      obtain ⟨hreads, hothers, hle⟩ := (ih hmore others).mp helements
      exact ⟨⟨others, hreads, rfl⟩, ⟨by simpa using hclosed, hothers⟩, by omega⟩
    · rintro ⟨⟨others, hreads, rfl⟩, ⟨-, hothers⟩, hle⟩
      exact ⟨others, [], (ih hmore others).mpr ⟨hreads, hothers, by omega⟩, rfl, rfl⟩
  | case6 count text hblank hroom hclosed value hfinal =>
    have hmore : max = 0 ∨ count + 1 ≤ max := by
      simp only [gt_iff_lt, Bool.and_eq_true, decide_eq_true_eq, beq_iff_eq] at hroom
      omega
    rw [all_eq_next_cons hrest hblank, reads_cons_iff_of_final hfinal]
    simp only [Option.some.injEq, Prod.mk.injEq]
    constructor
    · rintro ⟨rfl, hleft⟩
      rw [all_eq_nil hleft]
      exact ⟨⟨rfl, rfl⟩, by simpa using hclosed, by simpa using hmore⟩
    · rintro ⟨⟨hnone, rfl⟩, -⟩
      refine ⟨rfl, ?_⟩
      by_contra hleft
      cases (all_eq_next_cons hrest hleft).symm.trans hnone

theorem bind_cases (hendless : p.endless? = some bounds) (text : List Char) :
    p.bind ctx conversions text = .rejected ∨
      ∃ values, p.bind ctx conversions text = .final (.array values) [] := by
  simp only [bind, hendless, bindAll]
  split
  · split
    · exact Or.inl rfl
    · exact Or.inr ⟨_, rfl⟩
  · exact Or.inl rfl

/-- An endless parameter binds the values of all tokens, if it takes them. -/
theorem bind_eq_final_iff (hendless : p.endless? = some bounds) (hrest : p.rest = false)
    (text : List Char) (values : List Value) :
    p.bind ctx conversions text = .final (.array values) [] ↔
      p.Takes bounds ctx conversions (Token.all p.acceptQuote text) values := by
  have hloop : p.bind ctx conversions text = .final (.array values) [] ↔
      p.elements ctx conversions bounds.max 0 text = some (values, []) ∧
        bounds.min ≤ values.length := by
    simp only [bind, hendless, bindAll]
    split
    · rename_i others helements
      rw [helements]
      split
      · rename_i hfew
        constructor
        · rintro ⟨⟩
        · rintro ⟨⟨⟩, hmin⟩
          omega
      · rename_i hmany
        constructor
        · rintro ⟨⟩
          exact ⟨rfl, by omega⟩
        · rintro ⟨⟨⟩, -⟩
          rfl
    · rename_i hleft
      constructor
      · rintro ⟨⟩
      · rintro ⟨helements, -⟩
        exact absurd helements (hleft values)
  rw [hloop, elements_eq_some_iff hrest (Or.inr (Nat.zero_le _)), reads_iff]
  constructor
  · rintro ⟨⟨⟨hconverted, hlast⟩, hclosed, hmax⟩, hmin⟩
    exact ⟨hconverted.length_eq ▸ hmin, by simpa using hmax, hclosed, hconverted, hlast⟩
  · rintro ⟨hmin, hmax, hclosed, hconverted, hlast⟩
    exact ⟨⟨⟨hconverted, hlast⟩, hclosed, by simpa using hmax⟩, hconverted.length_eq ▸ hmin⟩

/-- Every round takes a token off, so that after as many as there are characters nothing is left. -/
theorem exists_rounds (p : Parameter) (text : List Char) :
    ∃ rounds ≤ text.length, isBlank ((fun left => (p.next left).leftover)^[rounds] text) = true := by
  suffices h : ∀ length, text.length ≤ length →
      ∃ rounds ≤ length, isBlank ((fun left => (p.next left).leftover)^[rounds] text) = true from
    h text.length (Nat.le_refl _)
  intro length
  induction length generalizing text with
  | zero =>
    intro hle
    obtain rfl := List.length_eq_zero_iff.mp (Nat.le_zero.mp hle)
    exact ⟨0, Nat.le_refl _, rfl⟩
  | succ length ih =>
    intro hle
    cases hblank : isBlank text with
    | true => exact ⟨0, Nat.zero_le _, hblank⟩
    | false =>
      have hshorter := p.length_leftover_next (isBlank_eq_false_iff.mp hblank)
      obtain ⟨rounds, hrounds, hdone⟩ := ih (p.next text).leftover (by omega)
      exact ⟨rounds + 1, Nat.succ_le_succ hrounds, hdone⟩

/-- An endless parameter is rejected or binds an array of all that was written, and it binds the
values of exactly the tokens that it takes. Its loop comes to an end on every text. -/
theorem endless_binds_exactly_what_it_takes (hendless : p.endless? = some bounds)
    (hrest : p.rest = false) (ctx : Context) (conversions : Conversions) (text : List Char) :
    (p.bind ctx conversions text = .rejected ∨
      ∃ values, p.bind ctx conversions text = .final (.array values) []) ∧
    (∀ values, p.bind ctx conversions text = .final (.array values) [] ↔
      p.Takes bounds ctx conversions (Token.all p.acceptQuote text) values) ∧
    ∃ rounds ≤ text.length,
      isBlank ((fun left => (p.next left).leftover)^[rounds] text) = true :=
  ⟨bind_cases hendless text, bind_eq_final_iff hendless hrest text, p.exists_rounds text⟩

/-- Takes two or three items, of which `end` is the last one. -/
def items : Parameter :=
  { name := "items", kind := .custom "item", endless? := some ⟨2, 3⟩ }

def upToEnd : Conversions :=
  Conversions.none.register (.custom "item") fun _ token =>
    if token = "end" then .final (.text token) else .accepted (.text token)

theorem endless_binds_exactly_what_it_takes_items :
    items.endless? = some ⟨2, 3⟩ ∧ items.rest = false ∧
    items.Takes ⟨2, 3⟩ {} upToEnd (Token.all items.acceptQuote " a \"b c\" end ".toList)
      [.text "a", .text "b c", .text "end"] ∧
    items.bind {} upToEnd " a \"b c\" end ".toList =
      .final (.array [.text "a", .text "b c", .text "end"]) [] := by
  obtain ⟨-, hiff, -⟩ := endless_binds_exactly_what_it_takes (p := items) rfl rfl {} upToEnd
    " a \"b c\" end ".toList
  have htokens : Token.all items.acceptQuote " a \"b c\" end ".toList =
      [⟨"a".toList, "\"b c\" end ".toList, false, false⟩,
        ⟨"b c".toList, "end ".toList, true, false⟩, ⟨"end".toList, [], false, false⟩] := by
    decide +kernel
  have htakes : items.Takes ⟨2, 3⟩ {} upToEnd (Token.all items.acceptQuote
      " a \"b c\" end ".toList) [.text "a", .text "b c", .text "end"] := by
    rw [htokens]
    refine ⟨by decide, by decide, by decide, .cons rfl (.cons rfl (.cons rfl .nil)), ?_⟩
    simp [convert, items, upToEnd, Conversions.register]
  exact ⟨rfl, rfl, htakes, (hiff _).mpr htakes⟩

end Parameter

end ChatCommands
