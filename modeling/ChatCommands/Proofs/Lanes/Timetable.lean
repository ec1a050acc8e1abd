import Mathlib.Data.List.Induction
import ChatCommands.Proofs.Lanes.History

/-! # Timetables of lanes

When each job starts and ends can be said from what was submitted alone, and when: a job starts at
once, or else when the last one that was submitted to its lane before has ended.
-/

namespace ChatCommands

variable {P : Type}

/-- What may be done with lanes on a clock. -/
inductive LaneAct (P : Type)
  | submit (key? : Option String) (job : Job P)
  | advance (nanos : Nat)

namespace LaneAct

def nanos : LaneAct P → Nat
  | submit _ _ => 0
  | advance nanos => nanos

/-- The time that has passed. -/
def elapsed : List (LaneAct P) → Nat
  | [] => 0
  | act :: acts => act.nanos + elapsed acts

theorem elapsed_append (acts later : List (LaneAct P)) :
    elapsed (acts ++ later) = elapsed acts + elapsed later := by
  induction acts with
  | nil => exact (Nat.zero_add _).symm
  | cons act acts ih => rw [List.cons_append, elapsed, elapsed, ih, Nat.add_assoc]

theorem elapsed_concat (acts : List (LaneAct P)) (act : LaneAct P) :
    elapsed (acts ++ [act]) = elapsed acts + act.nanos :=
  elapsed_append acts [act]

theorem elapsed_submit (acts : List (LaneAct P)) (key? : Option String) (job : Job P) :
    elapsed (acts ++ [.submit key? job]) = elapsed acts :=
  elapsed_concat acts (.submit key? job)

theorem elapsed_advance (acts : List (LaneAct P)) (nanos : Nat) :
    elapsed (acts ++ [.advance nanos]) = elapsed acts + nanos :=
  elapsed_concat acts (.advance nanos)

end LaneAct

/-- A job with the moments at which it is submitted and at which it starts. -/
structure Slot (P : Type) where
  submitted : Nat
  starts : Nat
  job : Job (Ticket P)

namespace Slot

def ticket (slot : Slot P) : Ticket P :=
  slot.job.task

def key? (slot : Slot P) : Option String :=
  slot.ticket.key?

def ends (slot : Slot P) : Nat :=
  slot.starts + slot.job.duration

/-- A panic breaks the receipt of whoever still waits for the result. -/
def receipt? (slot : Slot P) : Option (Receipt (Ticket P)) :=
  if slot.job.awaited then some (if slot.job.panics then .broken else .result slot.ticket) else none

/-- What is to be seen of the job, and when. -/
def events (slot : Slot P) : List (Nat × LaneEvent (Ticket P)) :=
  [(slot.starts, .started slot.ticket), (slot.ends, .ended slot.ticket slot.receipt?)]

/-- Those of the slots that belong to a lane. -/
def ofLane (key : String) (slots : List (Slot P)) : List (Slot P) :=
  slots.filter (·.key? == some key)

/-- The last slot of a lane. Jobs without a key wait for no other. -/
def last? (slots : List (Slot P)) (key? : Option String) : Option (Slot P) :=
  key?.bind fun key => (ofLane key slots).getLast?

/-- The moment at which a job starts that is submitted now and has to wait for another one. -/
def startAfter (previous? : Option (Slot P)) (now : Nat) : Nat :=
  match previous? with
  | none => now
  | some previous => max now previous.ends

end Slot

open LaneAct Slot

/-- The slots of all jobs, after some others and from a moment on. -/
def timetableFrom (clock : Nat) (slots : List (Slot P)) : List (LaneAct P) → List (Slot P)
  | [] => slots
  | .submit key? job :: acts =>
    let slot := ⟨clock, startAfter (last? slots key?) clock, job.ticketed slots.length key?⟩
    timetableFrom clock (slots ++ [slot]) acts
  | .advance nanos :: acts => timetableFrom (clock + nanos) slots acts

/-- The slots of all jobs that are submitted, in order. -/
def timetable (acts : List (LaneAct P)) : List (Slot P) :=
  timetableFrom 0 [] acts

variable {acts : List (LaneAct P)} {slot other : Slot P} {slots before after : List (Slot P)}
  {key : String} {clock : Nat}

theorem timetableFrom_append (acts later : List (LaneAct P)) :
    timetableFrom clock slots (acts ++ later) =
      timetableFrom (clock + elapsed acts) (timetableFrom clock slots acts) later := by
  induction acts generalizing clock slots with
  | nil => rfl
  | cons act acts ih =>
    cases act with
    | submit key? job =>
      simp only [List.cons_append, timetableFrom, ih, elapsed, LaneAct.nanos, Nat.zero_add]
    | advance nanos =>
      simp only [List.cons_append, timetableFrom, ih, elapsed, LaneAct.nanos, Nat.add_assoc]

theorem timetable_submit (acts : List (LaneAct P)) (key? : Option String) (job : Job P) :
    timetable (acts ++ [.submit key? job]) = timetable acts ++
      [⟨elapsed acts, startAfter (last? (timetable acts) key?) (elapsed acts),
        job.ticketed (timetable acts).length key?⟩] := by
  rw [timetable, timetableFrom_append, Nat.zero_add]
  rfl

theorem timetable_advance (acts : List (LaneAct P)) (nanos : Nat) :
    timetable (acts ++ [.advance nanos]) = timetable acts :=
  timetableFrom_append acts [.advance nanos]

namespace Slot

theorem ofLane_append (key : String) (slots others : List (Slot P)) :
    ofLane key (slots ++ others) = ofLane key slots ++ ofLane key others :=
  List.filter_append slots others

theorem ofLane_singleton (key : String) (slot : Slot P) :
    ofLane key [slot] = if slot.key? = some key then [slot] else [] := by
  simp only [ofLane, List.filter_cons, List.filter_nil, beq_iff_eq]

theorem mem_ofLane : slot ∈ ofLane key slots ↔ slot ∈ slots ∧ slot.key? = some key := by
  rw [ofLane, List.mem_filter, beq_iff_eq]

theorem subset_of_ofLane_eq (h : ofLane key slots = before ++ after) :
    before ⊆ slots ∧ after ⊆ slots := by
  rw [← List.append_subset, ← h]
  exact fun _ hslot => (mem_ofLane.mp hslot).1

theorem map_ticket_ofLane (key : String) (slots : List (Slot P)) :
    (ofLane key slots).map ticket = ofKey (some key) (slots.map ticket) := by
  rw [ofKey, List.filter_map]
  rfl

theorem receipt?_eq (slot : Slot P) : slot.receipt? = slot.job.receipt? := by
  rw [receipt?, Job.receipt?]
  cases slot.job.awaited <;> cases slot.job.panics <;> rfl

end Slot

/-! ## Slots of a timetable -/

theorem submitted_le_elapsed (h : slot ∈ timetable acts) : slot.submitted ≤ elapsed acts := by
  induction acts using List.reverseRecOn with
  | nil => cases h
  | append_singleton acts act ih =>
    rw [elapsed_concat]
    cases act with
    | submit key? job =>
      rw [timetable_submit, List.mem_append, List.mem_singleton] at h
      rcases h with h | rfl
      · exact Nat.le_add_right_of_le (ih h)
      · exact Nat.le_add_right _ _
    | advance nanos =>
      rw [timetable_advance] at h
      exact Nat.le_add_right_of_le (ih h)

theorem number_timetable (acts : List (LaneAct P)) :
    (timetable acts).map (·.ticket.number) = List.range (timetable acts).length := by
  induction acts using List.reverseRecOn with
  | nil => rfl
  | append_singleton acts act ih =>
    cases act with
    | submit key? job =>
      rw [timetable_submit, List.map_append, ih, List.length_append, List.length_singleton,
        List.range_succ]
      rfl
    | advance nanos => rw [timetable_advance, ih]

/-- A slot is known by its ticket. -/
theorem eq_of_ticket_eq (hslot : slot ∈ timetable acts) (hother : other ∈ timetable acts)
    (h : slot.ticket = other.ticket) : slot = other := by
  have hnodup : ((timetable acts).map (·.ticket.number)).Nodup := by
    rw [number_timetable]
    exact List.nodup_range
  exact List.inj_on_of_nodup_map hnodup hslot hother (congrArg Ticket.number h)

/-- A job of no lane starts as soon as it is submitted. -/
theorem starts_of_key?_eq_none (h : slot ∈ timetable acts) (hkey : slot.key? = none) :
    slot.starts = slot.submitted := by
  induction acts using List.reverseRecOn with
  | nil => cases h
  | append_singleton acts act ih =>
    cases act with
    | submit key? job =>
      rw [timetable_submit, List.mem_append, List.mem_singleton] at h
      rcases h with h | rfl
      · exact ih h
      · obtain rfl : key? = none := hkey
        rfl
    | advance nanos =>
      rw [timetable_advance] at h
      exact ih h

/-- A job of a lane starts when it has been submitted and the job before it has ended. -/
theorem starts_of_ofLane (h : ofLane key (timetable acts) = before ++ slot :: after) :
    slot.starts = startAfter before.getLast? slot.submitted := by
  induction acts using List.reverseRecOn generalizing after with
  | nil => simp [timetable, timetableFrom, ofLane] at h
  | append_singleton acts act ih =>
    cases act with
    | submit key? job =>
      rw [timetable_submit, ofLane_append, ofLane_singleton] at h
      split at h
      · rename_i hkey
        obtain rfl : key? = some key := hkey
        rcases List.eq_nil_or_concat after with rfl | ⟨rest, new, rfl⟩
        · obtain ⟨rfl, hnew⟩ := List.append_inj' h rfl
          cases List.singleton_inj.mp hnew
          rfl
        · rw [List.concat_eq_append, ← List.cons_append, ← List.append_assoc] at h
          exact ih (List.append_inj' h rfl).1
      · rw [List.append_nil] at h
        exact ih h
    | advance nanos =>
      rw [timetable_advance] at h
      exact ih h

/-- A job that comes when its lane has just run empty starts at once. -/
example : (timetable (P := String) [.submit (some "k") { duration := 5, task := "first" },
    .advance 5, .submit (some "k") { duration := 4, task := "second" },
    .submit (some "k") { duration := 1, task := "third" }]).map
      (fun slot => (slot.submitted, slot.starts, slot.ends)) =
    [(0, 0, 5), (5, 5, 9), (5, 9, 10)] := by
  decide

theorem ends_le_starts_of_getLast? (hlast : before.getLast? = some other)
    (h : ofLane key (timetable acts) = before ++ slot :: after) : other.ends ≤ slot.starts := by
  rw [starts_of_ofLane h, hlast]
  exact Nat.le_max_right _ _

/-- No job of a lane starts before any earlier one has ended. -/
theorem pairwise_ofLane (acts : List (LaneAct P)) (key : String) :
    (ofLane key (timetable acts)).Pairwise fun a b => a.ends ≤ b.starts := by
  have hprefix : ∀ before after, ofLane key (timetable acts) = before ++ after →
      before.Pairwise fun a b => a.ends ≤ b.starts := by
    intro before
    induction before using List.reverseRecOn with
    | nil => exact fun _ _ => .nil
    | append_singleton before slot ih =>
      intro after h
      have hslot : ofLane key (timetable acts) = before ++ slot :: after := by
        rw [h, List.append_assoc, List.singleton_append]
      have hbefore := ih _ hslot
      refine List.pairwise_append.mpr ⟨hbefore, List.pairwise_singleton _ _, ?_⟩
      intro a ha b hb
      obtain rfl := List.mem_singleton.mp hb
      -- The slot before this one ends no earlier than those before it.
      rcases List.eq_nil_or_concat before with rfl | ⟨earlier, last, rfl⟩
      · cases ha
      · rw [List.concat_eq_append] at *
        have hlast := ends_le_starts_of_getLast? List.getLast?_concat hslot
        rcases List.mem_append.mp ha with ha | ha
        · have hends := (List.pairwise_append.mp hbefore).2.2 a ha last (List.mem_singleton_self _)
          have hle : last.starts ≤ last.ends := Nat.le_add_right _ _
          omega
        · obtain rfl := List.mem_singleton.mp ha
          exact hlast
  exact hprefix _ [] (List.append_nil _).symm

end ChatCommands
