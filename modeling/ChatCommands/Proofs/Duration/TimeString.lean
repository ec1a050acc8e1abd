import Mathlib.Data.List.Perm.Basic
import Mathlib.Data.List.TakeWhile
import ChatCommands.Duration.TimeString
import ChatCommands.Proofs.Number.Decimal

/-! # What time strings denote

A time string denotes the exact sum of its groups: it is read if and only if this sum fits a 64-bit
word, and then nothing on the way to it has passed the word. Neither the order of the groups nor
where a text is put together from others makes a difference.
-/

namespace ChatCommands

open Number Text
open scoped List

namespace TimeUnit

def letter : TimeUnit → Char
  | second => 's'
  | minute => 'm'
  | hour => 'h'
  | day => 'd'

theorem ofLetter?_eq_some_iff {c : Char} {unit : TimeUnit} :
    ofLetter? c = some unit ↔ unit.letter = c := by
  constructor
  · intro h
    unfold ofLetter? at h
    split at h <;> cases h <;> rfl
  · rintro rfl
    cases unit <;> rfl

theorem isDecimalDigit_letter (unit : TimeUnit) : isDecimalDigit unit.letter = false := by
  cases unit <;> rfl

theorem millis_pos (unit : TimeUnit) : 0 < unit.millis := by
  cases unit <;> decide

end TimeUnit

namespace TimeString

/-- The number that digits denote. -/
def amount (digits : List Char) : Nat :=
  Nat.ofDigitChars 10 digits 0

/-- The text that groups make up. -/
def written : List (List Char × TimeUnit) → List Char
  | [] => []
  | (digits, unit) :: groups => digits ++ unit.letter :: written groups

/-- The milliseconds of all groups together. -/
def sum : List (List Char × TimeUnit) → Nat
  | [] => 0
  | (digits, unit) :: groups => amount digits * unit.millis + sum groups

/-- Each group has digits, of some class. -/
def InDigits (isDigit : Char → Bool) (groups : List (List Char × TimeUnit)) : Prop :=
  ∀ group ∈ groups, group.1 ≠ [] ∧ ∀ c ∈ group.1, isDigit c = true

/-- The text consists of these groups, one or more, in ASCII digits. -/
def Spells (groups : List (List Char × TimeUnit)) (s : List Char) : Prop :=
  groups ≠ [] ∧ InDigits Char.isDigit groups ∧ written groups = s

variable {groups others : List (List Char × TimeUnit)} {digits s t : List Char} {unit : TimeUnit}
  {isDigit : Char → Bool} {base n : Nat}

theorem written_append (groups others : List (List Char × TimeUnit)) :
    written (groups ++ others) = written groups ++ written others := by
  induction groups with
  | nil => rfl
  | cons group groups ih => simp [written, ih]

theorem sum_append (groups others : List (List Char × TimeUnit)) :
    sum (groups ++ others) = sum groups + sum others := by
  induction groups with
  | nil => simp [sum]
  | cons group groups ih => simp [sum, ih, Nat.add_assoc]

theorem sum_eq_of_perm (h : groups ~ others) : sum groups = sum others := by
  induction h with
  | nil => rfl
  | cons group _ ih => rw [sum, sum, ih]
  | swap first second groups => exact Nat.add_left_comm _ _ _
  | trans _ _ ih ih' => exact ih.trans ih'

theorem inDigits_cons : InDigits isDigit ((digits, unit) :: groups) ↔
    (digits ≠ [] ∧ ∀ c ∈ digits, isDigit c = true) ∧ InDigits isDigit groups :=
  List.forall_mem_cons

theorem InDigits.append (h : InDigits isDigit groups) (h' : InDigits isDigit others) :
    InDigits isDigit (groups ++ others) :=
  List.forall_mem_append.mpr ⟨h, h'⟩

theorem InDigits.decimal (h : InDigits Char.isDigit groups) : InDigits isDecimalDigit groups :=
  fun group hgroup => ⟨(h group hgroup).1, fun c hc =>
    isDecimalDigit_of_isDigit ((h group hgroup).2 c hc)⟩

/-! ## Accepting and finding -/

theorem group?_of_letter (hdigits : ∀ c ∈ digits, isDecimalDigit c = true) (hne : digits ≠ [])
    (s : List Char) : group? (digits ++ unit.letter :: s) = some ((digits, unit), s) := by
  obtain ⟨c, cs, rfl⟩ := List.exists_cons_of_ne_nil hne
  have hletter := unit.isDecimalDigit_letter
  have hdrop : (c :: cs ++ unit.letter :: s).dropWhile isDecimalDigit = unit.letter :: s := by
    rw [List.dropWhile_append_of_pos hdigits, List.dropWhile_cons_of_neg (by simp [hletter])]
  have htake : (c :: cs ++ unit.letter :: s).takeWhile isDecimalDigit = c :: cs := by
    rw [List.takeWhile_append_of_pos hdigits, List.takeWhile_cons_of_neg (by simp [hletter]),
      List.append_nil]
  rw [group?, hdrop, htake]
  simp only [TimeUnit.ofLetter?_eq_some_iff.mpr rfl, Option.map_some]

/-- In a text that groups make up, just these are found. -/
theorem found_written (h : InDigits isDecimalDigit groups) : found (written groups) = groups := by
  induction groups with
  | nil =>
    rw [written, found]
    rfl
  | cons group groups ih =>
    obtain ⟨⟨hne, hdigits⟩, hrest⟩ := inDigits_cons.mp h
    rw [written, found]
    split
    · rename_i next rest hgroup
      rw [group?_of_letter hdigits hne] at hgroup
      cases hgroup
      rw [ih hrest]
    · rename_i hnone
      rw [group?_of_letter hdigits hne] at hnone
      cases hnone

theorem completes_of_letter (hdigits : ∀ c ∈ digits, isDecimalDigit c = true) (s : List Char) :
    completes true (digits ++ unit.letter :: s) = completes false s := by
  induction digits with
  | nil =>
    rw [List.nil_append, completes, unit.isDecimalDigit_letter,
      TimeUnit.ofLetter?_eq_some_iff.mpr rfl]
    rfl
  | cons c cs ih =>
    obtain ⟨hc, hcs⟩ := List.forall_mem_cons.mp hdigits
    rw [List.cons_append, completes, if_pos hc, ih hcs]

theorem completes_written (h : InDigits isDecimalDigit groups) :
    completes false (written groups) = true := by
  induction groups with
  | nil => rfl
  | cons group groups ih =>
    obtain ⟨digits, unit⟩ := group
    obtain ⟨⟨hne, hdigits⟩, hrest⟩ := inDigits_cons.mp h
    obtain ⟨c, cs, rfl⟩ := List.exists_cons_of_ne_nil hne
    obtain ⟨hc, hcs⟩ := List.forall_mem_cons.mp hdigits
    rw [written, List.cons_append, completes, if_pos hc, completes_of_letter hcs, ih hrest]

/-- After a group there may be further groups; within the digits of a group, more of them and its
unit come first. -/
theorem exists_groups_of_completes (s : List Char) :
    (completes false s = true →
      ∃ groups, InDigits isDecimalDigit groups ∧ written groups = s) ∧
    (completes true s = true → ∃ digits, ∃ unit : TimeUnit, ∃ groups,
      (∀ c ∈ digits, isDecimalDigit c = true) ∧ InDigits isDecimalDigit groups ∧
        digits ++ unit.letter :: written groups = s) := by
  induction s with
  | nil => exact ⟨fun _ => ⟨[], List.forall_mem_nil _, rfl⟩, nofun⟩
  | cons c cs ih =>
    rw [completes, completes]
    by_cases hc : isDecimalDigit c = true
    · rw [if_pos hc, if_pos hc]
      constructor
      · intro h
        obtain ⟨digits, unit, groups, hdigits, hgroups, rfl⟩ := ih.2 h
        exact ⟨(c :: digits, unit) :: groups, inDigits_cons.mpr ⟨⟨List.cons_ne_nil _ _,
          List.forall_mem_cons.mpr ⟨hc, hdigits⟩⟩, hgroups⟩, rfl⟩
      · intro h
        obtain ⟨digits, unit, groups, hdigits, hgroups, rfl⟩ := ih.2 h
        exact ⟨c :: digits, unit, groups, List.forall_mem_cons.mpr ⟨hc, hdigits⟩, hgroups, rfl⟩
    · rw [if_neg hc, if_neg hc, Bool.false_and, Bool.false_and, Bool.true_and, Bool.and_eq_true,
        Option.isSome_iff_exists]
      refine ⟨nofun, ?_⟩
      rintro ⟨⟨unit, hunit⟩, h⟩
      obtain ⟨groups, hgroups, rfl⟩ := ih.1 h
      exact ⟨[], unit, groups, List.forall_mem_nil _, hgroups, by
        rw [TimeUnit.ofLetter?_eq_some_iff.mp hunit, List.nil_append]⟩

/-- What is accepted consists of groups. -/
theorem accepts_iff : accepts s = true ↔
    ∃ groups, groups ≠ [] ∧ InDigits isDecimalDigit groups ∧ written groups = s := by
  rw [accepts, Bool.and_eq_true, Bool.not_eq_true', List.isEmpty_eq_false_iff]
  constructor
  · rintro ⟨hne, h⟩
    obtain ⟨groups, hgroups, rfl⟩ := (exists_groups_of_completes s).1 h
    refine ⟨groups, ?_, hgroups, rfl⟩
    rintro rfl
    exact hne rfl
  · rintro ⟨groups, hne, hgroups, rfl⟩
    obtain ⟨group, rest, rfl⟩ := List.exists_cons_of_ne_nil hne
    exact ⟨List.append_ne_nil_of_right_ne_nil _ (List.cons_ne_nil _ _), completes_written hgroups⟩

/-- The two patterns agree: what is accepted consists of what is found in it. -/
theorem written_found (h : accepts s = true) : found s ≠ [] ∧
    InDigits isDecimalDigit (found s) ∧ written (found s) = s := by
  obtain ⟨groups, hne, hgroups, rfl⟩ := accepts_iff.mp h
  rw [found_written hgroups]
  exact ⟨hne, hgroups, rfl⟩

/-! ## Adding up -/

theorem readDecimal_eq_ok_amount_iff : readDecimal maxWord digits = .ok n ↔
    digits ≠ [] ∧ (∀ c ∈ digits, c.isDigit = true) ∧ amount digits = n ∧ n ≤ maxWord :=
  readDecimal_eq_ok_iff

/-- What is added up is exact, and nothing else than the limit of a word refuses it. -/
theorem total_eq_ok_iff (hbase : base ≤ maxWord) (hgroups : ∀ group ∈ groups, group.1 ≠ []) :
    total base groups = .ok n ↔
      InDigits Char.isDigit groups ∧ base + sum groups = n ∧ n ≤ maxWord := by
  induction groups generalizing base with
  | nil =>
    rw [total, sum, Except.ok.injEq]
    exact ⟨fun h => ⟨List.forall_mem_nil _, h, h ▸ hbase⟩, fun h => h.2.1⟩
  | cons group groups ih =>
    obtain ⟨digits, unit⟩ := group
    obtain ⟨hne : digits ≠ [], hrest⟩ := List.forall_mem_cons.mp hgroups
    rw [total, inDigits_cons, sum]
    cases hread : readDecimal maxWord digits with
    | error reason =>
      refine iff_of_false nofun ?_
      rintro ⟨⟨⟨-, hdigits⟩, -⟩, rfl, hn⟩
      have hle : amount digits ≤ amount digits * unit.millis :=
        Nat.le_mul_of_pos_right _ unit.millis_pos
      rw [readDecimal_eq_ok_amount_iff.mpr ⟨hne, hdigits, rfl, by omega⟩] at hread
      cases hread
    | ok value =>
      obtain ⟨-, hdigits, rfl, -⟩ := readDecimal_eq_ok_amount_iff.mp hread
      by_cases hfits : amount digits * unit.millis + base ≤ maxWord
      · have hfits' : amount digits * unit.millis ≤ maxWord := by omega
        simp only [hfits, hfits', decide_true, Bool.and_self, if_true]
        rw [ih hfits hrest, and_iff_right (And.intro hne hdigits), ← Nat.add_assoc,
          Nat.add_comm base (amount digits * unit.millis)]
      · simp only [hfits, decide_false, Bool.and_false, Bool.false_eq_true, if_false]
        refine iff_of_false nofun ?_
        rintro ⟨-, rfl, hn⟩
        omega

theorem toMillis_eq_ok_iff :
    toMillis s = .ok n ↔ ∃ groups, Spells groups s ∧ sum groups = n ∧ n < UInt64.size := by
  constructor
  · intro h
    cases haccepts : accepts s with
    | false => simp [toMillis, haccepts] at h
    | true =>
      obtain ⟨hne, hdigits, hwritten⟩ := written_found haccepts
      rw [toMillis, if_pos haccepts,
        total_eq_ok_iff (Nat.zero_le _) fun group hgroup => (hdigits group hgroup).1] at h
      obtain ⟨hascii, hsum, hn⟩ := h
      exact ⟨_, ⟨hne, hascii, hwritten⟩, by rwa [Nat.zero_add] at hsum, le_maxWord_iff.mp hn⟩
  · rintro ⟨groups, ⟨hne, hdigits, rfl⟩, hsum, hn⟩
    rw [toMillis, if_pos (accepts_iff.mpr ⟨groups, hne, hdigits.decimal, rfl⟩),
      found_written hdigits.decimal,
      total_eq_ok_iff (Nat.zero_le _) fun group hgroup => (hdigits group hgroup).1]
    exact ⟨hdigits, by rwa [Nat.zero_add], le_maxWord_iff.mpr hn⟩

/-- A text consists of groups in one way only. -/
theorem Spells.unique (h : Spells groups s) (h' : Spells others s) : groups = others :=
  calc groups
    _ = found s := by rw [← h.2.2, found_written h.2.1.decimal]
    _ = others := by rw [← h'.2.2, found_written h'.2.1.decimal]

theorem Spells.toMillis_eq_ok_iff (h : Spells groups s) :
    toMillis s = .ok n ↔ sum groups = n ∧ n < UInt64.size := by
  rw [TimeString.toMillis_eq_ok_iff]
  constructor
  · rintro ⟨others, hothers, hsum⟩
    rwa [h.unique hothers]
  · exact fun hsum => ⟨groups, h, hsum⟩

theorem exists_error_of_not_ok (h : ∀ n, toMillis s ≠ .ok n) : ∃ e, toMillis s = .error e := by
  cases hread : toMillis s with
  | ok n => exact absurd hread (h n)
  | error e => exact ⟨e, rfl⟩

theorem isDigit_or_letter_of_mem_written {c : Char} (hdigits : InDigits Char.isDigit groups)
    (hc : c ∈ written groups) : c.isDigit = true ∨ ∃ unit : TimeUnit, c = unit.letter := by
  induction groups with
  | nil => cases hc
  | cons group groups ih =>
    obtain ⟨⟨-, hdigits⟩, hrest⟩ := inDigits_cons.mp hdigits
    rw [written, List.mem_append, List.mem_cons] at hc
    rcases hc with hc | hc | hc
    · exact Or.inl (hdigits c hc)
    · exact Or.inr ⟨group.2, hc⟩
    · exact ih hrest hc

theorem Spells.of_perm (h : Spells groups s) (hperm : groups ~ others) :
    Spells others (written others) := by
  refine ⟨?_, fun group hgroup => h.2.1 group (hperm.mem_iff.mpr hgroup), rfl⟩
  rintro rfl
  exact h.1 hperm.eq_nil

theorem Spells.append (h : Spells groups s) (h' : Spells others t) :
    Spells (groups ++ others) (s ++ t) := by
  refine ⟨List.append_ne_nil_of_left_ne_nil h.1 others, h.2.1.append h'.2.1, ?_⟩
  rw [written_append, h.2.2, h'.2.2]

/-- All that is said of a text that may be a time string. -/
structure Exact (s : List Char) : Prop where
  /-- The value is the exact sum of the groups, which has to fit a word. -/
  read : ∀ n, toMillis s = .ok n ↔
    ∃ groups, Spells groups s ∧ sum groups = n ∧ n < UInt64.size
  refused : (¬∃ groups, Spells groups s ∧ sum groups < UInt64.size) → ∃ e, toMillis s = .error e
  /-- Digits of other scripts are refused. -/
  foreign : ∀ c ∈ s, isDecimalDigit c = true → c.isDigit = false → ∃ e, toMillis s = .error e
  /-- When groups are added up, no product and no sum passes a word. -/
  fits : ∀ n before digits unit after, toMillis s = .ok n →
    Spells (before ++ (digits, unit) :: after) s →
      amount digits * unit.millis < UInt64.size ∧
        amount digits * unit.millis + sum before < UInt64.size
  reordered : ∀ groups others, Spells groups s → groups ~ others →
    ∀ n, toMillis (written others) = .ok n ↔ toMillis s = .ok n
  joined : ∀ t m n, toMillis s = .ok m → toMillis t = .ok n → m + n < UInt64.size →
    toMillis (s ++ t) = .ok (m + n)

theorem time_strings_denote_exact_sums (s : List Char) : Exact s where
  read _ := toMillis_eq_ok_iff
  refused h := by
    refine exists_error_of_not_ok fun n hread => ?_
    obtain ⟨groups, hspells, rfl, hn⟩ := toMillis_eq_ok_iff.mp hread
    exact h ⟨groups, hspells, hn⟩
  foreign c hc hdecimal hascii := by
    refine exists_error_of_not_ok fun n hread => ?_
    obtain ⟨groups, ⟨-, hdigits, rfl⟩, -⟩ := toMillis_eq_ok_iff.mp hread
    rcases isDigit_or_letter_of_mem_written hdigits hc with hdigit | ⟨unit, rfl⟩
    · exact Bool.false_ne_true (hascii.symm.trans hdigit)
    · exact Bool.false_ne_true (unit.isDecimalDigit_letter.symm.trans hdecimal)
  fits n before digits unit after hread hspells := by
    obtain ⟨rfl, hn⟩ := hspells.toMillis_eq_ok_iff.mp hread
    rw [sum_append, sum] at hn
    omega
  reordered groups others hspells hperm n := by
    rw [hspells.toMillis_eq_ok_iff, (hspells.of_perm hperm).toMillis_eq_ok_iff,
      sum_eq_of_perm hperm]
  joined t m n hs ht hle := by
    obtain ⟨groups, hgroups, rfl, -⟩ := toMillis_eq_ok_iff.mp hs
    obtain ⟨others, hothers, rfl, -⟩ := toMillis_eq_ok_iff.mp ht
    exact (hgroups.append hothers).toMillis_eq_ok_iff.mpr ⟨sum_append groups others, hle⟩

end TimeString

end ChatCommands
