import ChatCommands.Cooldown.Table

/-! # Cooldown windows

The table is seen through its lookups: each key has at most one moment at which its window closes.
Checking a cooldown touches the window of its own key alone, and fails if the window that it has to
open would close past the horizon.
-/

namespace ChatCommands.CooldownTable

variable {table : CooldownTable} {now : Nat} {key other : CooldownKey} {cooldown : Cooldown}

/-- The time for which the window of a key stays open, if it is open. -/
def left? (table : CooldownTable) (now : Nat) (key : CooldownKey) : Option Duration :=
  (table.lookup key).bind fun expiry => if now < expiry then some ⟨expiry - now⟩ else none

theorem lookup_cons_of_ne (h : other ≠ key) (expiry : Nat) (table : CooldownTable) :
    List.lookup other ((key, expiry) :: table) = table.lookup other := by
  rw [List.lookup_cons, beq_eq_false_iff_ne.mpr h]

theorem lookup_drop (table : CooldownTable) (key other : CooldownKey) :
    (table.drop key).lookup other = if other = key then none else table.lookup other := by
  induction table with
  | nil => simp [drop]
  | cons entry table ih =>
    obtain ⟨k, expiry⟩ := entry
    rw [drop] at ih ⊢
    by_cases hk : k = key
    · subst hk
      rw [List.filter_cons_of_neg (by simp), ih]
      by_cases ho : other = k
      · simp [ho]
      · rw [lookup_cons_of_ne ho]
    · rw [List.filter_cons_of_pos (by simpa using hk)]
      by_cases ho : other = k
      · subst ho
        simp [hk]
      · rw [lookup_cons_of_ne ho, lookup_cons_of_ne ho, ih]

theorem lookup_put (table : CooldownTable) (key other : CooldownKey) (expiry : Nat) :
    (table.put key expiry).lookup other =
      if other = key then some expiry else table.lookup other := by
  by_cases h : other = key
  · subst h
    simp [put]
  · rw [put, lookup_cons_of_ne h, lookup_drop, if_neg h, if_neg h]

theorem fst_remaining (table : CooldownTable) (now : Nat) (key : CooldownKey) :
    (table.remaining now key).1 = table.left? now key := by
  unfold remaining left?
  cases table.lookup key with
  | none => rfl
  | some expiry =>
    simp only [Option.bind_some, gt_iff_lt]
    split <;> rfl

theorem lookup_snd_remaining_of_ne (h : other ≠ key) :
    (table.remaining now key).2.lookup other = table.lookup other := by
  unfold remaining
  split
  · rfl
  · split
    · rfl
    · rw [lookup_drop, if_neg h]

theorem remaining_of_open {left : Duration} (hl : table.left? now key = some left) :
    table.remaining now key = (some left, table) := by
  unfold left? at hl
  unfold remaining
  cases hlookup : table.lookup key with
  | none => simp [hlookup] at hl
  | some expiry =>
    rw [hlookup, Option.bind_some] at hl
    by_cases hlt : now < expiry
    · rw [if_pos hlt] at hl
      cases hl
      simp [hlt]
    · simp [hlt] at hl

theorem remaining_of_closed (hl : table.left? now key = none) :
    table.remaining now key = (none, (table.remaining now key).2) := by
  rw [← hl, ← fst_remaining]

/-! ## Checks -/

theorem check_of_zero (h : cooldown.duration.nanos = 0) :
    table.check now cooldown key = (.ok none, table) := by
  simp [check, h]

theorem check_of_open (h : cooldown.duration.nanos ≠ 0) {left : Duration}
    (hl : table.left? now key = some left) :
    table.check now cooldown key = (.ok (some left), table) := by
  rw [check, if_neg (by simpa using h), remaining_of_open hl]

theorem check_of_past (h : cooldown.duration.nanos ≠ 0) (hl : table.left? now key = none)
    (hlt : Timers.horizon < now + cooldown.duration.nanos) :
    table.check now cooldown key = (.error .pastHorizon, (table.remaining now key).2) := by
  rw [check, if_neg (by simpa using h), remaining_of_closed hl]
  exact if_pos hlt

theorem check_of_closed (h : cooldown.duration.nanos ≠ 0) (hl : table.left? now key = none)
    (hle : now + cooldown.duration.nanos ≤ Timers.horizon) :
    ∃ opened, table.check now cooldown key = (.ok none, opened) ∧
      ∀ other, opened.lookup other =
        if other = key then some (now + cooldown.duration.nanos) else table.lookup other := by
  refine ⟨(table.remaining now key).2.put key (now + cooldown.duration.nanos), ?_, fun other => ?_⟩
  · rw [check, if_neg (by simpa using h), remaining_of_closed hl]
    exact if_neg (Nat.not_lt.mpr hle)
  · rw [lookup_put]
    split
    · rfl
    · rename_i hne
      exact lookup_snd_remaining_of_ne hne

theorem fst_check (table : CooldownTable) (now : Nat) (cooldown : Cooldown) (key : CooldownKey) :
    (table.check now cooldown key).1 =
      if cooldown.duration.nanos = 0 then .ok none
      else match table.left? now key with
        | some left => .ok (some left)
        | none =>
          if Timers.horizon < now + cooldown.duration.nanos then .error .pastHorizon
          else .ok none := by
  split
  · rename_i hzero
    rw [check_of_zero hzero]
  · rename_i hpos
    cases hleft : table.left? now key with
    | some left => rw [check_of_open hpos hleft]
    | none =>
      simp only
      split
      · rename_i hlt
        rw [check_of_past hpos hleft hlt]
      · rename_i hle
        obtain ⟨opened, hcheck, -⟩ := check_of_closed hpos hleft (Nat.not_lt.mp hle)
        rw [hcheck]

/-! ## Windows after each operation -/

variable {later : Nat}

theorem left?_of_lookup {table table' : CooldownTable} (h : table'.lookup key = table.lookup key)
    (now : Nat) : table'.left? now key = table.left? now key := by
  rw [left?, h, left?]

/-- What is dropped when somebody asks has closed by then. -/
theorem left?_remaining (hle : now ≤ later) (other : CooldownKey) :
    (table.remaining now key).2.left? later other = table.left? later other := by
  by_cases hother : other = key
  · subst hother
    unfold remaining
    split
    · rfl
    · rename_i expiry hlookup
      split
      · rfl
      · have hclosed : ¬later < expiry := by omega
        simp [left?, lookup_drop, hlookup, hclosed]
  · exact left?_of_lookup (lookup_snd_remaining_of_ne hother) later

/-- A check that succeeds opens a window for its key, if it lasts any time at all. -/
theorem left?_check (hle : now ≤ later) (other : CooldownKey) :
    (table.check now cooldown key).2.left? later other =
      if cooldown.duration.nanos ≠ 0 ∧ table.left? now key = none ∧
          now + cooldown.duration.nanos ≤ Timers.horizon ∧ other = key then
        if later < now + cooldown.duration.nanos then
          some ⟨now + cooldown.duration.nanos - later⟩ else none
      else table.left? later other := by
  by_cases hzero : cooldown.duration.nanos = 0
  · simp [check_of_zero hzero, hzero]
  · cases hleft : table.left? now key with
    | some left => simp [check_of_open hzero hleft]
    | none =>
      by_cases hlt : Timers.horizon < now + cooldown.duration.nanos
      · simp [check_of_past hzero hleft hlt, left?_remaining hle, Nat.not_le.mpr hlt]
      · have hend := Nat.not_lt.mp hlt
        obtain ⟨opened, hcheck, hlookup⟩ := check_of_closed hzero hleft hend
        rw [hcheck]
        split
        · rename_i h
          simp [left?, hlookup, h.2.2.2]
        · rename_i h
          have hne : other ≠ key := fun heq => h ⟨hzero, rfl, hend, heq⟩
          exact left?_of_lookup (by rw [hlookup, if_neg hne]) later

theorem left?_reset (table : CooldownTable) (now : Nat) (key other : CooldownKey) :
    (table.reset key).left? now other = if other = key then none else table.left? now other := by
  unfold reset left?
  rw [lookup_drop]
  split <;> rfl

end ChatCommands.CooldownTable
