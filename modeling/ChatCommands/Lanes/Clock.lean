import ChatCommands.Lanes.Basic

/-! # Lanes in time

Lanes that live on a clock. A step that needs no time is taken at once, and a running job ends at
its moment; the clock moves from one such moment to the next.
-/

namespace ChatCommands

/-- The first of those elements for which `moment` is least, with the elements around it. -/
def earliest? {α : Type} (moment : α → Nat) : List α → Option (List α × α × List α)
  | [] => none
  | a :: as =>
    match earliest? moment as with
    | none => some ([], a, [])
    | some (before, b, after) =>
      if moment b < moment a then some (a :: before, b, after) else some ([], a, as)

theorem eq_append_of_earliest? {α : Type} {moment : α → Nat} {as before after : List α} {b : α}
    (h : earliest? moment as = some (before, b, after)) : as = before ++ b :: after := by
  induction as generalizing before b after with
  | nil => simp [earliest?] at h
  | cons a as ih =>
    rw [earliest?] at h
    split at h
    · rename_i hnone
      cases as with
      | nil => simp_all
      | cons c cs =>
        rw [earliest?] at hnone
        split at hnone
        · simp at hnone
        · split at hnone <;> simp at hnone
    · rename_i hsome
      have := ih hsome
      split at h <;> simp only [Option.some.injEq, Prod.mk.injEq] at h <;>
        obtain ⟨rfl, rfl, rfl⟩ := h <;> simp [this]

/-- The moment of a worker's next step: the end of its running job, or at once. -/
def Worker.due {P : Type} (clock : Nat) (w : Worker P) : Nat :=
  match w.stage with
  | .running _ ends => ends
  | _ => clock

/-- Lanes with the time and all that was seen of their jobs, oldest first. -/
structure TimedLanes (P : Type) where
  clock : Nat := 0
  lanes : Lanes P := {}
  log : List (Nat × LaneEvent P) := []
  deriving Repr, Inhabited

namespace TimedLanes

variable {P : Type}

def submit (s : TimedLanes P) (key? : Option String) (job : Job P) : TimedLanes P :=
  { s with lanes := s.lanes.submit key? job }

/-- Takes every step that is due by the moment `target`, in time order, and ends there. -/
def advance (target : Nat) (s : TimedLanes P) : TimedLanes P :=
  match _h : earliest? (·.due s.clock) s.lanes.workers with
  | none => { s with clock := target }
  | some (before, w, after) =>
    if w.due s.clock ≤ target then
      let moment := w.due s.clock
      let taken := s.lanes.step moment before w after
      advance target
        ⟨moment, taken.1, s.log ++ (taken.2.map fun event => (moment, event)).toList⟩
    else { s with clock := target }
termination_by s.lanes.stepsLeft
decreasing_by exact Lanes.stepsLeft_step (eq_append_of_earliest? _h) _

/-- Takes every step that needs no time. -/
def settle (s : TimedLanes P) : TimedLanes P :=
  s.advance s.clock

end TimedLanes

end ChatCommands
