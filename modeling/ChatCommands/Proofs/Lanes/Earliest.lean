import ChatCommands.Lanes.Clock

/-! # What comes first

Of all elements, those are looked for that come at the least moment, and of these the first one.
The moments of workers that come later do not change while time passes.
-/

namespace ChatCommands

theorem eq_nil_of_earliest? {α : Type} {moment : α → Nat} {as : List α}
    (h : earliest? moment as = none) : as = [] := by
  cases as with
  | nil => rfl
  | cons a as =>
    rw [earliest?] at h
    split at h
    · cases h
    · split at h <;> cases h

/-- What comes first is the first of those elements that are due first. -/
theorem earliest?_spec {α : Type} {moment : α → Nat} {as before after : List α} {b : α}
    (h : earliest? moment as = some (before, b, after)) :
    (∀ a ∈ before, moment b < moment a) ∧ ∀ a ∈ after, moment b ≤ moment a := by
  induction as generalizing before b after with
  | nil => cases h
  | cons a as ih =>
    rw [earliest?] at h
    split at h
    · rename_i hnone
      cases h
      obtain rfl := eq_nil_of_earliest? hnone
      simp
    · rename_i earlier c later hsome
      obtain ⟨hearlier, hlater⟩ := ih hsome
      split at h
      · rename_i hlt
        cases h
        exact ⟨List.forall_mem_cons.mpr ⟨hlt, hearlier⟩, hlater⟩
      · rename_i hle
        cases h
        refine ⟨by simp, fun x hx => ?_⟩
        rw [eq_append_of_earliest? hsome] at hx
        rcases List.mem_append.mp hx with hx | hx
        · have := hearlier x hx
          omega
        · rcases List.mem_cons.mp hx with rfl | hx
          · omega
          · have := hlater x hx
            omega

theorem earliest?_eq_some {α : Type} {moment : α → Nat} {before after : List α} {b : α}
    (hbefore : ∀ a ∈ before, moment b < moment a) (hafter : ∀ a ∈ after, moment b ≤ moment a) :
    earliest? moment (before ++ b :: after) = some (before, b, after) := by
  induction before with
  | nil =>
    rw [List.nil_append, earliest?]
    cases hlater : earliest? moment after with
    | none => rw [eq_nil_of_earliest? hlater]
    | some found =>
      obtain ⟨earlier, c, later⟩ := found
      have hle := hafter c (by rw [eq_append_of_earliest? hlater]; simp)
      simp [Nat.not_lt.mpr hle]
  | cons a before ih =>
    obtain ⟨ha, hbefore⟩ := List.forall_mem_cons.mp hbefore
    simp [earliest?, ih hbefore, ha]

variable {P : Type} {clock : Nat} {w : Worker P}

theorem Worker.running_of_lt_due (h : clock < w.due clock) :
    ∃ job, w.stage = .running job (w.due clock) := by
  obtain ⟨lane?, stage⟩ := w
  cases stage with
  | holding job | between => exact absurd h (Nat.lt_irrefl _)
  | running job ends => exact ⟨job, rfl⟩

theorem Worker.due_eq_of_lt (h : clock < w.due clock) (later : Nat) :
    w.due later = w.due clock := by
  obtain ⟨job, hstage⟩ := Worker.running_of_lt_due h
  generalize w.due clock = ends at hstage
  rw [Worker.due, hstage]

theorem Worker.due_due (w : Worker P) (clock : Nat) : w.due (w.due clock) = w.due clock := by
  obtain ⟨lane?, stage⟩ := w
  cases stage <;> rfl

theorem le_due_of_earliest? {workers before after : List (Worker P)}
    (h : earliest? (·.due clock) workers = some (before, w, after)) :
    ∀ a ∈ workers, w.due clock ≤ a.due clock := by
  obtain ⟨hbefore, hafter⟩ := earliest?_spec h
  rw [eq_append_of_earliest? h]
  intro a ha
  rcases List.mem_append.mp ha with ha | ha
  · exact Nat.le_of_lt (hbefore a ha)
  · rcases List.mem_cons.mp ha with rfl | ha
    · exact Nat.le_refl _
    · exact hafter a ha

end ChatCommands
