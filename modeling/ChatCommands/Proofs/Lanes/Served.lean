import ChatCommands.Lanes.Basic

/-! # Lanes that are served

Each lane has a worker of its own, so that no job is lost in a queue. A step of a worker starts a
job that waits, ends one that runs, or looks for the next job.
-/

namespace ChatCommands

open scoped List

variable {P : Type}

namespace Worker

/-- The job that the worker is about to start. -/
def held? (w : Worker P) : Option (Job P) :=
  match w.stage with
  | .holding job => some job
  | _ => none

def running? (w : Worker P) : Option (Job P) :=
  match w.stage with
  | .running job _ => some job
  | _ => none

end Worker

namespace Lanes

/-- The jobs that were submitted and have not been started. -/
def waiting (s : Lanes P) : List (Job P) :=
  s.queues.flatMap Prod.snd ++ s.workers.filterMap Worker.held?

def running (s : Lanes P) : List (Job P) :=
  s.workers.filterMap Worker.running?

/-- The jobs that have not ended. -/
def jobs (s : Lanes P) : List (Job P) :=
  s.waiting ++ s.running

/-- The workers that belong to a lane belong to one lane each, and no lane is without. -/
def Served (s : Lanes P) : Prop :=
  s.workers.filterMap Worker.lane? ~ s.queues.map Prod.fst

variable {s : Lanes P} {key : String} {job : Job P}

theorem fst_push (key : String) (job : Job P) (queues : List (String × List (Job P))) :
    (push key job queues).map Prod.fst = queues.map Prod.fst := by
  induction queues with
  | nil => rfl
  | cons entry queues ih =>
    rw [push]
    split
    · rfl
    · rw [List.map_cons, ih, List.map_cons]

theorem snd_push {queues : List (String × List (Job P))} (h : key ∈ queues.map Prod.fst) :
    (push key job queues).flatMap Prod.snd ~ job :: queues.flatMap Prod.snd := by
  induction queues with
  | nil => cases h
  | cons entry queues ih =>
    obtain ⟨k, queue⟩ := entry
    rw [push]
    split
    · simp only [List.flatMap_cons, List.append_assoc, List.singleton_append]
      exact List.perm_middle
    · rename_i hne
      have hmem : key ∈ queues.map Prod.fst := by
        rcases List.mem_cons.mp h with rfl | h
        · simp at hne
        · exact h
      simp only [List.flatMap_cons]
      exact ((ih hmem).append_left queue).trans List.perm_middle

/-- Taking from a lane takes its next job, or the lane away if there is none. -/
theorem take_cases {queues : List (String × List (Job P))} (h : key ∈ queues.map Prod.fst) :
    (∃ job rest, take key queues = (some job, rest) ∧
      queues.flatMap Prod.snd ~ job :: rest.flatMap Prod.snd ∧
      rest.map Prod.fst = queues.map Prod.fst) ∨
    (∃ rest, take key queues = (none, rest) ∧ rest.flatMap Prod.snd = queues.flatMap Prod.snd ∧
      queues.map Prod.fst ~ key :: rest.map Prod.fst) := by
  induction queues with
  | nil => cases h
  | cons entry queues ih =>
    obtain ⟨k, queue⟩ := entry
    simp only [take]
    split
    · rename_i heq
      obtain rfl := eq_of_beq heq
      cases queue with
      | nil => exact Or.inr ⟨queues, rfl, rfl, List.Perm.refl _⟩
      | cons job queue => exact Or.inl ⟨job, (k, queue) :: queues, rfl, List.Perm.refl _, rfl⟩
    · rename_i hne
      have hmem : key ∈ queues.map Prod.fst := by
        rcases List.mem_cons.mp h with rfl | h
        · simp at hne
        · exact h
      rcases ih hmem with ⟨job, rest, htake, hjobs, hkeys⟩ | ⟨rest, htake, hjobs, hkeys⟩
      · refine Or.inl ⟨job, (k, queue) :: rest, by rw [htake], ?_, by simp [hkeys]⟩
        exact (hjobs.append_left queue).trans List.perm_middle
      · refine Or.inr ⟨(k, queue) :: rest, by rw [htake], by simp [hjobs], ?_⟩
        exact (hkeys.cons k).trans (List.Perm.swap key k _)

theorem Served.mem_keys (h : s.Served) {w : Worker P} (hw : w ∈ s.workers)
    (hlane : w.lane? = some key) : key ∈ s.queues.map Prod.fst :=
  h.subset (List.mem_filterMap.mpr ⟨w, hw, hlane⟩)

theorem hasLane_iff : s.hasLane key = true ↔ key ∈ s.queues.map Prod.fst := by
  simp [hasLane]

theorem not_mem_of_hasLane_eq_false (h : s.hasLane key = false) : key ∉ s.queues.map Prod.fst := by
  rw [← hasLane_iff, h]
  exact Bool.false_ne_true

theorem Served.hasWorker_eq (h : s.Served) (key : String) : s.hasWorker key = s.hasLane key := by
  have hw : s.hasWorker key = true ↔ key ∈ s.workers.filterMap Worker.lane? := by
    simp [hasWorker]
  rw [Bool.eq_iff_iff, hw, hasLane_iff]
  exact h.mem_iff

/-- A job goes to the lane that is there, or to a new one. -/
theorem Served.submit_eq (h : s.Served) (key : String) (job : Job P) :
    s.submit (some key) job = if s.hasLane key then { s with queues := push key job s.queues }
      else ⟨s.queues ++ [(key, [])], s.workers ++ [⟨some key, .holding job⟩]⟩ := by
  rw [Lanes.submit, h.hasWorker_eq, Bool.and_self]
  cases hlane : s.hasLane key with
  | true => rfl
  | false =>
    -- The lane is new, so that opening it throws no queue away.
    have hfilter : s.queues.filter (·.1 != key) = s.queues := by
      refine List.filter_eq_self.mpr fun entry hentry => ?_
      have hne : entry.1 ≠ key := by
        rintro rfl
        exact not_mem_of_hasLane_eq_false hlane (List.mem_map_of_mem hentry)
      simpa using hne
    simp [openLane, hfilter]

/-- A worker that comes up with a job keeps it waiting. -/
theorem waiting_holding (queues : List (String × List (Job P))) (workers : List (Worker P))
    (lane? : Option String) (job : Job P) :
    waiting ⟨queues, workers ++ [⟨lane?, .holding job⟩]⟩ ~ job :: waiting ⟨queues, workers⟩ := by
  simp only [waiting, List.filterMap_append, ← List.append_assoc]
  exact List.perm_append_singleton job _

/-- A job that was submitted waits, and nothing else changes. -/
theorem Served.submit (h : s.Served) (key? : Option String) (job : Job P) :
    (s.submit key? job).Served ∧ (s.submit key? job).waiting ~ job :: s.waiting ∧
      (s.submit key? job).running = s.running := by
  cases key? with
  | none =>
    refine ⟨?_, waiting_holding _ _ none job, ?_⟩
    · simpa [Lanes.submit, Served] using h
    · simp [Lanes.submit, running, Worker.running?]
  | some key =>
    rw [h.submit_eq]
    split
    · rename_i hlane
      refine ⟨?_, ?_, rfl⟩
      · simpa [Served, fst_push] using h
      · exact (snd_push (hasLane_iff.mp hlane)).append_right _
    · refine ⟨?_, ?_, ?_⟩
      · simpa [Served] using h.append_right [key]
      · have hwaiting := waiting_holding (s.queues ++ [(key, [])]) s.workers (some key) job
        simpa [waiting] using hwaiting
      · simp [running, Worker.running?]

/-- What a worker contributes comes on top of what the others do. -/
theorem filterMap_around {β : Type} (f : Worker P → Option β) (before : List (Worker P))
    (w : Worker P) (after : List (Worker P)) :
    (before ++ w :: after).filterMap f ~ (f w).toList ++ (before ++ after).filterMap f := by
  rw [List.filterMap_append, List.filterMap_append]
  cases hf : f w with
  | none =>
    rw [List.filterMap_cons_none hf]
    exact List.Perm.refl _
  | some b =>
    rw [List.filterMap_cons_some hf]
    exact List.perm_middle

theorem waiting_around (queues : List (String × List (Job P))) (before : List (Worker P))
    (w : Worker P) (after : List (Worker P)) :
    waiting ⟨queues, before ++ w :: after⟩ ~
      w.held?.toList ++ waiting ⟨queues, before ++ after⟩ := by
  refine ((filterMap_around Worker.held? before w after).append_left _).trans ?_
  simp only [waiting, ← List.append_assoc]
  exact List.perm_append_comm.append_right _

/-- A worker that looks for the next job of its lane takes it, or goes and takes the lane along. -/
theorem Served.step_between {queues : List (String × List (Job P))} {before after : List (Worker P)}
    (h : Served ⟨queues, before ++ ⟨some key, .between⟩ :: after⟩) (now : Nat) :
    ∃ t, step ⟨queues, before ++ ⟨some key, .between⟩ :: after⟩ now before ⟨some key, .between⟩
        after = (t, none) ∧ t.Served ∧
      t.waiting ~ waiting ⟨queues, before ++ ⟨some key, .between⟩ :: after⟩ ∧
      t.running ~ running ⟨queues, before ++ ⟨some key, .between⟩ :: after⟩ := by
  have hwaiting := waiting_around queues before ⟨some key, .between⟩ after
  have hrunning := filterMap_around Worker.running? before ⟨some key, .between⟩ after
  have hlanes := (filterMap_around Worker.lane? before ⟨some key, .between⟩ after).symm.trans h
  have hmem : key ∈ queues.map Prod.fst := h.mem_keys List.mem_append_cons_self rfl
  rcases take_cases hmem with ⟨job, rest, htake, hjobs, hkeys⟩ | ⟨rest, htake, hjobs, hkeys⟩
  · have hnext := waiting_around rest before ⟨some key, .holding job⟩ after
    refine ⟨⟨rest, before ++ ⟨some key, .holding job⟩ :: after⟩, ?_, ?_, ?_, ?_⟩
    · simp only [step, htake]
    · have hown := filterMap_around Worker.lane? before ⟨some key, .holding job⟩ after
      exact (hown.trans hlanes).trans (List.Perm.of_eq hkeys.symm)
    · exact (hnext.trans (hjobs.append_right _).symm).trans hwaiting.symm
    · exact (filterMap_around Worker.running? before _ after).trans hrunning.symm
  · refine ⟨⟨rest, before ++ after⟩, ?_, (hlanes.trans hkeys).cons_inv, ?_, hrunning.symm⟩
    · simp only [step, htake]
    · rw [waiting, hjobs]
      exact hwaiting.symm

/-- What a step of a worker does to the jobs, and what it shows. -/
theorem Served.step_cases (h : s.Served) {before after : List (Worker P)} {w : Worker P}
    (hw : s.workers = before ++ w :: after) (now : Nat) :
    (s.step now before w after).1.Served ∧
    ((∃ job, (s.step now before w after).2 = some (.started job.task) ∧
        s.waiting ~ job :: (s.step now before w after).1.waiting ∧
        (s.step now before w after).1.running ~ job :: s.running) ∨
      (∃ job, (s.step now before w after).2 = some (.ended job.task job.receipt?) ∧
        (s.step now before w after).1.waiting ~ s.waiting ∧
        s.running ~ job :: (s.step now before w after).1.running) ∨
      ((s.step now before w after).2 = none ∧
        (s.step now before w after).1.waiting ~ s.waiting ∧
        (s.step now before w after).1.running ~ s.running)) := by
  obtain ⟨queues, workers⟩ := s
  obtain rfl : workers = before ++ w :: after := hw
  obtain ⟨lane?, stage⟩ := w
  have hwaiting := waiting_around queues before ⟨lane?, stage⟩ after
  have hrunning := filterMap_around Worker.running? before ⟨lane?, stage⟩ after
  cases stage with
  | holding job =>
    have hafter := waiting_around queues before ⟨lane?, .running job (now + job.duration)⟩ after
    have hstarted :=
      filterMap_around Worker.running? before ⟨lane?, .running job (now + job.duration)⟩ after
    refine ⟨?_, Or.inl ⟨job, rfl, ?_, ?_⟩⟩
    · simpa only [step, Served, List.filterMap_append, List.filterMap_cons] using h
    · exact hwaiting.trans (hafter.symm.cons job)
    · exact hstarted.trans (hrunning.symm.cons job)
  | running job ends =>
    have hafter := waiting_around queues before ⟨lane?, .between⟩ after
    have hended := filterMap_around Worker.running? before ⟨lane?, .between⟩ after
    refine ⟨?_, Or.inr (Or.inl ⟨job, rfl, ?_, ?_⟩)⟩
    · simpa only [step, Served, List.filterMap_append, List.filterMap_cons] using h
    · exact hafter.trans hwaiting.symm
    · exact hrunning.trans (hended.symm.cons job)
  | between =>
    cases lane? with
    | none =>
      refine ⟨?_, Or.inr (Or.inr ⟨rfl, hwaiting.symm, hrunning.symm⟩)⟩
      simpa [step, Served] using h
    | some key =>
      obtain ⟨t, hstep, hserved, hkept, hquiet⟩ := h.step_between now
      rw [hstep]
      exact ⟨hserved, Or.inr (Or.inr ⟨rfl, hkept, hquiet⟩)⟩

/-- No step brings up a job. -/
theorem Served.jobs_step (h : s.Served) {before after : List (Worker P)} {w : Worker P}
    (hw : s.workers = before ++ w :: after) (now : Nat) :
    (s.step now before w after).1.jobs ⊆ s.jobs := by
  intro other hother
  simp only [jobs, List.mem_append] at hother ⊢
  obtain ⟨-, ⟨job, -, hwaiting, hrunning⟩ | ⟨job, -, hwaiting, hrunning⟩ |
    ⟨-, hwaiting, hrunning⟩⟩ := h.step_cases hw now
  · rw [hwaiting.mem_iff, List.mem_cons]
    rw [hrunning.mem_iff, List.mem_cons] at hother
    rcases hother with hother | rfl | hother
    · exact Or.inl (Or.inr hother)
    · exact Or.inl (Or.inl rfl)
    · exact Or.inr hother
  · rw [hrunning.mem_iff, List.mem_cons]
    rw [hwaiting.mem_iff] at hother
    rcases hother with hother | hother
    · exact Or.inl hother
    · exact Or.inr (Or.inr hother)
  · rwa [hwaiting.mem_iff, hrunning.mem_iff] at hother

end Lanes

end ChatCommands
