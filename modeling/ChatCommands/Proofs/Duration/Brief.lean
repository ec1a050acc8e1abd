import ChatCommands.Proofs.Duration.TimeString

/-! # Brief durations are time strings

A brief duration of a second or more, with its spaces left out, is a time string. It denotes the
whole seconds of the duration.
-/

namespace ChatCommands

open Number Text TimeString

namespace Duration

variable {d : Duration}

/-- The amounts of days, hours, minutes and seconds. -/
def allShares (d : Duration) : List (Nat × TimeUnit) :=
  [(d.secs / 86400, .day), (d.secs % 86400 / 3600, .hour), (d.secs % 3600 / 60, .minute),
    (d.secs % 60, .second)]

/-- The nonzero amounts among them. -/
def shares (d : Duration) : List (Nat × TimeUnit) :=
  d.allShares.filter fun share => share.1 > 0

/-- The groups that amounts with units are written as. -/
def groups (shares : List (Nat × TimeUnit)) : List (List Char × TimeUnit) :=
  shares.map fun share => (Nat.toDigits 10 share.1, share.2)

theorem parts_eq (d : Duration) :
    d.parts = d.shares.map fun share => (share.1, share.2.letter) := by
  have hall : d.parts = (d.allShares.map fun share => (share.1, share.2.letter)).filter
      fun part => part.1 > 0 := rfl
  rw [hall, List.filter_map]
  rfl

/-! ## The groups -/

theorem inDigits_groups (shares : List (Nat × TimeUnit)) :
    InDigits Char.isDigit (groups shares) := by
  rw [InDigits, groups, List.forall_mem_map]
  exact fun share _ => ⟨Nat.toDigits_ne_nil, isDigit_of_mem_toDigits⟩

theorem sum_groups_cons (n : Nat) (unit : TimeUnit) (shares : List (Nat × TimeUnit)) :
    sum (groups ((n, unit) :: shares)) = n * unit.millis + sum (groups shares) := by
  rw [groups, List.map_cons, sum, amount, Nat.ofDigitChars_ten_toDigits, groups]

/-- An amount that is left out would add nothing. -/
theorem sum_groups_filter (shares : List (Nat × TimeUnit)) :
    sum (groups (shares.filter fun share => share.1 > 0)) = sum (groups shares) := by
  induction shares with
  | nil => rfl
  | cons share shares ih =>
    obtain ⟨n, unit⟩ := share
    rw [List.filter_cons, sum_groups_cons]
    split
    · rw [sum_groups_cons, ih]
    · rename_i hzero
      obtain rfl : n = 0 := by simpa using hzero
      rw [ih, Nat.zero_mul, Nat.zero_add]

theorem sum_groups_shares (d : Duration) : sum (groups d.shares) = d.secs * 1000 := by
  rw [shares, sum_groups_filter, allShares]
  simp only [sum_groups_cons, TimeUnit.millis]
  simp only [groups, List.map_nil, sum]
  omega

theorem spells_shares (h : d.secs ≠ 0) : Spells (groups d.shares) (written (groups d.shares)) := by
  refine ⟨fun hnil => h ?_, inDigits_groups _, rfl⟩
  have hsum := d.sum_groups_shares
  rw [hnil, sum] at hsum
  omega

/-! ## The text -/

theorem filter_intercalate_space (texts : List (List Char)) :
    ([' '].intercalate texts).filter (· != ' ') = texts.flatten.filter (· != ' ') := by
  induction texts with
  | nil => rfl
  | cons text texts ih =>
    cases texts with
    | nil => rw [List.intercalate_singleton, List.flatten_singleton]
    | cons next texts =>
      rw [List.intercalate_cons_cons, List.flatten_cons, List.filter_append, List.filter_append,
        List.filter_append, ih, List.filter_cons_of_neg (by decide), List.filter_nil,
        List.append_nil]

theorem flatten_groups (shares : List (Nat × TimeUnit)) :
    (shares.map fun share => Nat.toDigits 10 share.1 ++ [share.2.letter]).flatten =
      written (groups shares) := by
  induction shares with
  | nil => rfl
  | cons share shares ih =>
    rw [List.map_cons, List.flatten_cons, ih, List.append_assoc, List.singleton_append]
    rfl

theorem filter_written_groups (shares : List (Nat × TimeUnit)) :
    (written (groups shares)).filter (· != ' ') = written (groups shares) := by
  refine List.filter_eq_self.mpr fun c hc => ?_
  rcases isDigit_or_letter_of_mem_written (inDigits_groups shares) hc with hdigit | ⟨unit, rfl⟩
  · rw [bne_iff_ne]
    rintro rfl
    cases hdigit
  · cases unit <;> rfl

theorem filter_brief (h : d.secs ≠ 0) :
    d.brief.toList.filter (· != ' ') = written (groups d.shares) := by
  rw [brief, if_neg (by simpa using h), parts_eq, List.map_map, String.toList_intercalate,
    List.map_map]
  refine (filter_intercalate_space _).trans ?_
  have htexts : (d.shares.map (String.toList ∘ (fun part : Nat × Char =>
      toString part.1 ++ part.2.toString) ∘ fun share => (share.1, share.2.letter))) =
      d.shares.map fun share => Nat.toDigits 10 share.1 ++ [share.2.letter] :=
    List.map_congr_left fun share _ => by
      simp [Char.toString]
  rw [← filter_written_groups, ← flatten_groups]
  exact congrArg (List.filter _ ∘ List.flatten) htexts

theorem toMillis_brief (h : d.secs ≠ 0) (hfits : d.secs * 1000 < UInt64.size) :
    toMillis (d.brief.toList.filter (· != ' ')) = .ok (d.secs * 1000) := by
  rw [filter_brief h]
  exact (spells_shares h).toMillis_eq_ok_iff.mpr ⟨d.sum_groups_shares, hfits⟩

theorem secs_ofMillis (m : Nat) : (ofMillis m).secs = m / 1000 := by
  have hnanos : (ofMillis m).nanos = m * 1000000 := rfl
  rw [secs, hnanos]
  omega

/-- What is written of a time in milliseconds is read as its whole seconds. -/
theorem brief_times_are_read_back {m : Nat} (hm : 1000 ≤ m) (hfits : m < UInt64.size) :
    toMillis ((ofMillis m).brief.toList.filter (· != ' ')) = .ok (m - m % 1000) := by
  have hsecs := secs_ofMillis m
  rw [toMillis_brief (by omega) (by omega), hsecs]
  congr 1
  omega

theorem brief_times_are_read_back_longest :
    (ofMillis 18446744073709551615).brief = "213503982334d 14h 25m 51s" ∧
    1000 ≤ 18446744073709551615 ∧ 18446744073709551615 < UInt64.size ∧
    toMillis ((ofMillis 18446744073709551615).brief.toList.filter (· != ' ')) =
      .ok 18446744073709551000 :=
  ⟨by decide +kernel, by decide, by decide, brief_times_are_read_back (by decide) (by decide)⟩

end Duration

end ChatCommands
