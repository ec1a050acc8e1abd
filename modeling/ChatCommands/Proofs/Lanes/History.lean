import Mathlib.Logic.Relation
import ChatCommands.Proofs.Lanes.Lines

/-! # Histories of lanes

Anyone may submit jobs while workers are spawned and take their steps, in any order. Whatever the
order, the jobs of a lane start in the order in which they were submitted, one at a time and each
once, and a panic breaks the receipt of its own job alone.
-/

namespace ChatCommands

open Relation
open scoped List

variable {P : Type}

/-- What a job has on it from its submission. -/
structure Ticket (P : Type) where
  /-- How many jobs were submitted before. -/
  number : Nat
  key? : Option String
  task : P

/-- The job with its ticket for its task. -/
def Job.ticketed (job : Job P) (number : Nat) (key? : Option String) : Job (Ticket P) :=
  ⟨job.duration, ⟨number, key?, job.task⟩, job.panics, job.awaited⟩

namespace LaneEvent

def started? : LaneEvent P → Option P
  | started task => some task
  | ended _ _ => none

def ended? : LaneEvent P → Option P
  | started _ => none
  | ended task _ => some task

end LaneEvent

/-- Lanes with the jobs submitted to them and all that was seen of these, oldest first. -/
structure LaneHistory (P : Type) where
  lanes : Lanes (Ticket P) := {}
  submitted : List (Job (Ticket P)) := []
  /-- The numbers of the jobs whose workers are about to be spawned. -/
  unspawned : List Nat := []
  log : List (LaneEvent (Ticket P)) := []

namespace LaneHistory

/-- Puts a job into its lane. A worker that comes up with it is still to be spawned. -/
def submit (h : LaneHistory P) (key? : Option String) (job : Job P) : LaneHistory P :=
  let number := h.submitted.length
  let job := job.ticketed number key?
  let lanes := h.lanes.submit key? job
  { h with
    lanes := lanes
    submitted := h.submitted ++ [job]
    unspawned :=
      if h.lanes.workers.length < lanes.workers.length then h.unspawned ++ [number]
      else h.unspawned }

/-- The next step of a worker. -/
def work (h : LaneHistory P) (now : Nat) (before : List (Worker (Ticket P)))
    (w : Worker (Ticket P)) (after : List (Worker (Ticket P))) : LaneHistory P :=
  let taken := h.lanes.step now before w after
  { h with lanes := taken.1, log := h.log ++ taken.2.toList }

/-- What may happen while nothing is submitted. A job that runs may end at any time. -/
inductive Works : LaneHistory P → LaneHistory P → Prop
  | spawn {h : LaneHistory P} {number : Nat} : number ∈ h.unspawned →
      Works h { h with unspawned := h.unspawned.erase number }
  | step {h : LaneHistory P} {before after : List (Worker (Ticket P))} {w : Worker (Ticket P)}
      (now : Nat) : h.lanes.workers = before ++ w :: after →
      (∀ job, w.held? = some job → job.task.number ∉ h.unspawned) →
      Works h (h.work now before w after)

inductive Step : LaneHistory P → LaneHistory P → Prop
  | submit (h : LaneHistory P) (key? : Option String) (job : Job P) : Step h (h.submit key? job)
  | works {h h' : LaneHistory P} : Works h h' → Step h h'

/-- The history comes about by submissions and steps of workers in some order. -/
def Reachable (h : LaneHistory P) : Prop :=
  ReflTransGen Step {} h

/-! ## What is seen of a history -/

def tickets (h : LaneHistory P) : List (Ticket P) :=
  h.submitted.map Job.task

def started (h : LaneHistory P) : List (Ticket P) :=
  h.log.filterMap LaneEvent.started?

def ended (h : LaneHistory P) : List (Ticket P) :=
  h.log.filterMap LaneEvent.ended?

def waiting (h : LaneHistory P) : List (Ticket P) :=
  h.lanes.waiting.map Job.task

def running (h : LaneHistory P) : List (Ticket P) :=
  h.lanes.running.map Job.task

end LaneHistory

/-- Those of the tickets that are for a lane. -/
def ofKey (key? : Option String) (tickets : List (Ticket P)) : List (Ticket P) :=
  tickets.filter (·.key? == key?)

theorem ofKey_append (key? : Option String) (tickets others : List (Ticket P)) :
    ofKey key? (tickets ++ others) = ofKey key? tickets ++ ofKey key? others :=
  List.filter_append tickets others

theorem ofKey_singleton (key? : Option String) (ticket : Ticket P) :
    ofKey key? [ticket] = if ticket.key? = key? then [ticket] else [] := by
  simp only [ofKey, List.filter_cons, List.filter_nil, beq_iff_eq]

namespace LaneHistory

/-- Where the jobs of a history are. -/
structure Kept (h : LaneHistory P) : Prop where
  tended : h.lanes.Tended
  numbered : h.tickets.map Ticket.number = List.range h.submitted.length
  /-- Only jobs that were submitted to a lane are in its line. -/
  own : ∀ key?, ∀ job ∈ h.lanes.line key?, job ∈ h.submitted ∧ job.task.key? = key?
  /-- The jobs of a lane have ended or are in its line, in order. -/
  lined : ∀ key, ofKey (some key) h.tickets =
    ofKey (some key) h.ended ++ (h.lanes.line (some key)).map Job.task
  begun : ∀ key, ofKey (some key) h.started =
    ofKey (some key) h.ended ++ (h.lanes.runningIn (some key)).map Job.task
  /-- Each job is in one place. -/
  placed : h.tickets ~ h.ended ++ (h.waiting ++ h.running)
  entered : h.started ~ h.ended ++ h.running
  receipts : ∀ ticket receipt?, .ended ticket receipt? ∈ h.log →
    ∃ job ∈ h.submitted, job.task = ticket ∧ receipt? = job.receipt?

variable {h h' : LaneHistory P}

theorem kept_start : Kept ({} : LaneHistory P) where
  tended := ⟨List.Perm.refl _, List.nodup_nil⟩
  numbered := rfl
  own := by
    intro key? job hjob
    cases key? <;> cases hjob
  lined := fun _ => rfl
  begun := fun _ => rfl
  placed := List.Perm.refl _
  entered := List.Perm.refl _
  receipts := by
    intro _ _ hmem
    cases hmem

theorem Kept.submit (hk : h.Kept) (key? : Option String) (job : Job P) :
    (h.submit key? job).Kept := by
  obtain ⟨htended, hline, hrunning⟩ :=
    hk.tended.submit key? (job.ticketed h.submitted.length key?)
  obtain ⟨-, hwaiting, hran⟩ :=
    hk.tended.served.submit key? (job.ticketed h.submitted.length key?)
  have htickets : (h.submit key? job).tickets =
      h.tickets ++ [⟨h.submitted.length, key?, job.task⟩] := List.map_append
  constructor
  case tended => exact htended
  case numbered =>
    rw [htickets, List.map_append, hk.numbered]
    simp [LaneHistory.submit, List.range_succ]
  case own =>
    intro k? other hother
    simp only [LaneHistory.submit, hline, List.mem_append, List.mem_singleton] at hother ⊢
    split at hother
    · rename_i heq
      rcases List.mem_append.mp hother with hother | hother
      · exact ⟨Or.inl (hk.own k? other hother).1, (hk.own k? other hother).2⟩
      · obtain rfl := List.mem_singleton.mp hother
        exact ⟨Or.inr rfl, heq.symm⟩
    · exact ⟨Or.inl (hk.own k? other hother).1, (hk.own k? other hother).2⟩
  case lined =>
    intro key
    rw [htickets, ofKey_append, hk.lined, ofKey_singleton, LaneHistory.submit, hline]
    by_cases hkey : key? = some key
    · subst hkey
      simp [Job.ticketed, LaneHistory.ended]
    · simp [hkey, Ne.symm hkey, LaneHistory.ended]
  case begun =>
    intro key
    rw [LaneHistory.submit, hrunning]
    exact hk.begun key
  case placed =>
    have hmore : (h.submit key? job).waiting ~ ⟨h.submitted.length, key?, job.task⟩ :: h.waiting :=
      hwaiting.map Job.task
    have hsame : (h.submit key? job).running = h.running := congrArg (List.map Job.task) hran
    rw [htickets, hsame]
    refine (List.perm_append_singleton _ _).trans ((hk.placed.cons _).trans ?_)
    exact List.perm_middle.symm.trans ((hmore.append_right _).symm.append_left _)
  case entered =>
    have hsame : (h.submit key? job).running = h.running := congrArg (List.map Job.task) hran
    rw [hsame]
    exact hk.entered
  case receipts =>
    intro ticket receipt? hmem
    obtain ⟨other, hother, heq⟩ := hk.receipts ticket receipt? hmem
    exact ⟨other, List.mem_append_left _ hother, heq⟩

theorem Kept.nodup_tickets (hk : h.Kept) : h.tickets.Nodup := by
  refine List.Nodup.of_map Ticket.number ?_
  rw [hk.numbered]
  exact List.nodup_range

theorem Kept.nodup_started (hk : h.Kept) : h.started.Nodup := by
  have hplaced : h.tickets ~ h.waiting ++ (h.ended ++ h.running) :=
    hk.placed.trans (List.perm_append_comm_assoc _ _ _)
  rw [hk.entered.nodup_iff]
  exact (hplaced.nodup_iff.mp hk.nodup_tickets).of_append_right

theorem Kept.nodup_ended (hk : h.Kept) : h.ended.Nodup :=
  (hk.placed.nodup_iff.mp hk.nodup_tickets).of_append_left

/-- The lanes after a step show in the log what the step showed. -/
theorem started_work (h : LaneHistory P) (now : Nat) (before : List (Worker (Ticket P)))
    (w : Worker (Ticket P)) (after : List (Worker (Ticket P))) :
    (h.work now before w after).started =
      h.started ++ ((h.lanes.step now before w after).2.bind LaneEvent.started?).toList := by
  rw [started, work, List.filterMap_append]
  cases (h.lanes.step now before w after).2 with
  | none => rfl
  | some event => cases event <;> rfl

theorem ended_work (h : LaneHistory P) (now : Nat) (before : List (Worker (Ticket P)))
    (w : Worker (Ticket P)) (after : List (Worker (Ticket P))) :
    (h.work now before w after).ended =
      h.ended ++ ((h.lanes.step now before w after).2.bind LaneEvent.ended?).toList := by
  rw [ended, work, List.filterMap_append]
  cases (h.lanes.step now before w after).2 with
  | none => rfl
  | some event => cases event <;> rfl

variable {before after : List (Worker (Ticket P))} {w : Worker (Ticket P)}

theorem Kept.placed_work (hk : h.Kept) (hw : h.lanes.workers = before ++ w :: after) (now : Nat) :
    h.tickets ~ (h.work now before w after).ended ++
      ((h.work now before w after).waiting ++ (h.work now before w after).running) := by
  rw [h.ended_work now before w after]
  refine hk.placed.trans ?_
  obtain ⟨-, ⟨job, hevent, hwaiting, hrunning⟩ | ⟨job, hevent, hwaiting, hrunning⟩ |
    ⟨hevent, hwaiting, hrunning⟩⟩ := hk.tended.served.step_cases hw now
  · rw [hevent]
    replace hwaiting := hwaiting.map Job.task
    replace hrunning := hrunning.map Job.task
    refine (List.Perm.of_eq (List.append_nil _)).symm.append ?_
    refine (hwaiting.append_right _).trans ?_
    exact List.perm_middle.symm.trans (hrunning.symm.append_left _)
  · rw [hevent]
    replace hwaiting := hwaiting.map Job.task
    replace hrunning := hrunning.map Job.task
    rw [List.append_assoc]
    refine List.Perm.append_left _ ?_
    exact (hwaiting.symm.append hrunning).trans List.perm_middle
  · rw [hevent]
    replace hwaiting := hwaiting.map Job.task
    replace hrunning := hrunning.map Job.task
    exact (List.Perm.of_eq (List.append_nil _)).symm.append (hwaiting.symm.append hrunning.symm)

theorem Kept.entered_work (hk : h.Kept) (hw : h.lanes.workers = before ++ w :: after) (now : Nat) :
    (h.work now before w after).started ~
      (h.work now before w after).ended ++ (h.work now before w after).running := by
  rw [h.ended_work now before w after, h.started_work now before w after]
  obtain ⟨-, ⟨job, hevent, hwaiting, hrunning⟩ | ⟨job, hevent, hwaiting, hrunning⟩ |
    ⟨hevent, hwaiting, hrunning⟩⟩ := hk.tended.served.step_cases hw now
  · rw [hevent]
    replace hrunning := hrunning.map Job.task
    refine (List.perm_append_singleton _ _).trans ((hk.entered.cons _).trans ?_)
    refine List.perm_middle.symm.trans ?_
    exact (List.Perm.of_eq (List.append_nil _)).symm.append hrunning.symm
  · rw [hevent]
    replace hrunning := hrunning.map Job.task
    refine (List.Perm.of_eq (List.append_nil _)).trans (hk.entered.trans ?_)
    rw [List.append_assoc]
    exact hrunning.append_left _
  · rw [hevent]
    replace hrunning := hrunning.map Job.task
    refine (List.Perm.of_eq (List.append_nil _)).trans (hk.entered.trans ?_)
    exact (List.Perm.of_eq (List.append_nil _)).symm.append hrunning.symm

theorem Kept.own_work (hk : h.Kept) (hw : h.lanes.workers = before ++ w :: after) (now : Nat)
    (key? : Option String) (job : Job (Ticket P))
    (hjob : job ∈ (h.work now before w after).lanes.line key?) :
    job ∈ h.submitted ∧ job.task.key? = key? := by
  refine hk.own key? job ?_
  cases (hk.tended.step hw now).2 with
  | idle _ hline _ => exact hline key? ▸ hjob
  | starts _ _ _ _ hline _ _ => exact hline key? ▸ hjob
  | ends lane? first _ hperm hothers _ =>
    by_cases hkey : key? = lane?
    · subst hkey
      exact hperm.symm.subset (List.mem_cons_of_mem first hjob)
    · exact (hothers key? hkey).1 ▸ hjob

theorem Kept.lined_work (hk : h.Kept) (hw : h.lanes.workers = before ++ w :: after) (now : Nat)
    (key : String) : ofKey (some key) h.tickets =
      ofKey (some key) (h.work now before w after).ended ++
        ((h.work now before w after).lanes.line (some key)).map Job.task := by
  rw [h.ended_work now before w after, hk.lined key]
  cases (hk.tended.step hw now).2 with
  | idle hevent hline _ =>
    rw [hevent, work, hline, Option.bind_none, Option.toList_none, List.append_nil]
  | starts lane? job hevent _ hline _ _ =>
    rw [hevent, work, hline, Option.bind_some, LaneEvent.ended?, Option.toList_none,
      List.append_nil]
  | ends lane? job hevent hperm hothers hfirst =>
    have hown := (hk.own lane? job (hperm.symm.subset List.mem_cons_self)).2
    rw [hevent, work, Option.bind_some, LaneEvent.ended?, Option.toList_some, ofKey_append,
      ofKey_singleton, hown]
    by_cases hkey : lane? = some key
    · subst hkey
      rw [if_pos rfl, (hfirst key rfl).1, List.map_cons, List.append_assoc, List.singleton_append]
    · rw [if_neg hkey, (hothers (some key) (Ne.symm hkey)).1, List.append_nil]

theorem Kept.begun_work (hk : h.Kept) (hw : h.lanes.workers = before ++ w :: after) (now : Nat)
    (key : String) : ofKey (some key) (h.work now before w after).started =
      ofKey (some key) (h.work now before w after).ended ++
        ((h.work now before w after).lanes.runningIn (some key)).map Job.task := by
  rw [h.started_work now before w after, h.ended_work now before w after, ofKey_append,
    ofKey_append, hk.begun key]
  cases (hk.tended.step hw now).2 with
  | idle hevent _ hrunning =>
    rw [hevent, work, hrunning, Option.bind_none, Option.bind_none]
    simp [ofKey]
  | starts lane? job hevent hmem _ hothers hfirst =>
    have hown := (hk.own lane? job hmem).2
    rw [hevent, work, Option.bind_some, Option.bind_some, LaneEvent.started?, LaneEvent.ended?,
      Option.toList_some, ofKey_singleton, hown]
    by_cases hkey : lane? = some key
    · subst hkey
      rw [(hfirst key rfl).1, (hfirst key rfl).2]
      simp [ofKey]
    · rw [if_neg hkey, hothers (some key) (Ne.symm hkey)]
      simp [ofKey]
  | ends lane? job hevent hperm hothers hfirst =>
    have hown := (hk.own lane? job (hperm.symm.subset List.mem_cons_self)).2
    rw [hevent, work, Option.bind_some, Option.bind_some, LaneEvent.started?, LaneEvent.ended?,
      Option.toList_some, ofKey_singleton, hown]
    by_cases hkey : lane? = some key
    · subst hkey
      rw [(hfirst key rfl).2.1, (hfirst key rfl).2.2]
      simp [ofKey]
    · rw [if_neg hkey, (hothers (some key) (Ne.symm hkey)).2]
      simp [ofKey]

theorem Kept.receipts_work (hk : h.Kept) (hw : h.lanes.workers = before ++ w :: after) (now : Nat)
    {ticket : Ticket P} {receipt? : Option (Receipt (Ticket P))}
    (hmem : .ended ticket receipt? ∈ (h.work now before w after).log) :
    ∃ job ∈ h.submitted, job.task = ticket ∧ receipt? = job.receipt? := by
  rw [work] at hmem
  rcases List.mem_append.mp hmem with hmem | hmem
  · exact hk.receipts ticket receipt? hmem
  · cases (hk.tended.step hw now).2 with
    | idle hevent _ _ =>
      rw [hevent] at hmem
      cases hmem
    | starts lane? job hevent _ _ _ _ =>
      rw [hevent] at hmem
      simp at hmem
    | ends lane? job hevent hperm _ _ =>
      rw [hevent, Option.toList_some, List.mem_singleton] at hmem
      cases hmem
      exact ⟨job, (hk.own lane? job (hperm.symm.subset List.mem_cons_self)).1, rfl, rfl⟩

theorem Kept.work (hk : h.Kept) (hw : h.lanes.workers = before ++ w :: after) (now : Nat) :
    (h.work now before w after).Kept where
  tended := (hk.tended.step hw now).1
  numbered := hk.numbered
  own := hk.own_work hw now
  lined := hk.lined_work hw now
  begun := hk.begun_work hw now
  placed := hk.placed_work hw now
  entered := hk.entered_work hw now
  receipts _ _ := hk.receipts_work hw now

theorem Kept.works (hk : h.Kept) (hs : h.Works h') : h'.Kept := by
  cases hs with
  | spawn _ => exact ⟨hk.tended, hk.numbered, hk.own, hk.lined, hk.begun, hk.placed, hk.entered,
      hk.receipts⟩
  | step now hw _ => exact hk.work hw now

theorem Reachable.kept (hr : h.Reachable) : h.Kept := by
  induction hr with
  | refl => exact kept_start
  | tail _ hs ih =>
    cases hs with
    | submit key? job => exact ih.submit key? job
    | works hs => exact ih.works hs

end LaneHistory

end ChatCommands
