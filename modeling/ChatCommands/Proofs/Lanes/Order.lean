import ChatCommands.Proofs.Lanes.History

/-! # Jobs in order

In every history, the jobs of a lane start in the order in which they were submitted and never run
together, no job is lost or run twice, and a lane is there exactly as long as one worker owns it. A
panic is seen in the receipt of its own job alone: whatever is behind it runs all the same.
-/

namespace ChatCommands

open Relation
open scoped List

variable {P : Type}

namespace Lanes

variable {s : Lanes P} {before after : List (Worker P)} {w : Worker P} {key : String}

/-- A step leaves the queues alone, unless it is that of a worker that looks for the next job. -/
theorem queues_step (s : Lanes P) (now : Nat) (before : List (Worker P)) (w : Worker P)
    (after : List (Worker P)) : (s.step now before w after).1.queues = s.queues ∨
      ∃ key, w.lane? = some key ∧ (s.step now before w after).1.queues = (take key s.queues).2 := by
  obtain ⟨lane?, stage⟩ := w
  cases stage with
  | holding job => exact Or.inl rfl
  | running job ends => exact Or.inl rfl
  | between =>
    cases lane? with
    | none => exact Or.inl rfl
    | some key =>
      refine Or.inr ⟨key, rfl, ?_⟩
      simp only [step]
      split <;> rename_i htake <;> rw [htake]

/-- A lane is taken down with an empty queue only. -/
theorem Tended.queueOf_of_removed (h : s.Tended) (hw : s.workers = before ++ w :: after) (now : Nat)
    (hkey : s.hasLane key = true) (hgone : (s.step now before w after).1.hasLane key = false) :
    queueOf (some key) s.queues = [] := by
  have hnot := not_mem_of_hasLane_eq_false hgone
  rw [hasLane_iff] at hkey
  rcases s.queues_step now before w after with hsame | ⟨k, hlane, htaken⟩
  · exact absurd hkey (hsame ▸ hnot)
  · have hmem : k ∈ s.queues.map Prod.fst :=
      h.served.mem_keys (hw ▸ List.mem_append_cons_self) hlane
    rw [htaken] at hnot
    rcases take_cases hmem with ⟨job, rest, htake, -, hkeys⟩ | ⟨rest, htake, -, hkeys⟩
    · rw [htake, hkeys] at hnot
      exact absurd hkey hnot
    · rw [htake] at hnot
      rcases List.mem_cons.mp (hkeys.subset hkey) with rfl | hrest
      · have hhead := (take_eq h.keys key).1
        rw [htake] at hhead
        exact List.head?_eq_none_iff.mp hhead.symm
      · exact absurd hrest hnot

theorem Served.hasLane_submit (h : s.Served) (key? : Option String) (job : Job P)
    (hkey : s.hasLane key = true) : (s.submit key? job).hasLane key = true := by
  rw [hasLane_iff] at hkey ⊢
  cases key? with
  | none => exact hkey
  | some k =>
    rw [h.submit_eq]
    split
    · simpa [fst_push] using hkey
    · simpa using Or.inl hkey

/-- A job that runs is the first of its line. -/
theorem Tended.runningIn_spec (h : s.Tended) (key : String) :
    s.runningIn (some key) <+: s.line (some key) ∧ (s.runningIn (some key)).length ≤ 1 := by
  have hlength : (ofLane (some key) s.workers).length ≤ 1 := by
    rw [h.length_ofLane]
    split <;> omega
  rw [runningIn, line]
  rcases hworkers : ofLane (some key) s.workers with _ | ⟨w, _ | ⟨_, _⟩⟩
  · exact ⟨List.nil_prefix, Nat.zero_le 1⟩
  · obtain ⟨lane?, stage⟩ := w
    cases stage with
    | holding job | between => exact ⟨List.nil_prefix, Nat.zero_le 1⟩
    | running job ends => exact ⟨List.prefix_append [job] _, Nat.le_refl 1⟩
  · simp [hworkers] at hlength

end Lanes

namespace LaneHistory

variable {h h' : LaneHistory P}

/-! ## Workers left to themselves -/

/-- How many steps are left at most if nothing more is submitted. -/
def stepsLeft (h : LaneHistory P) : Nat :=
  h.lanes.stepsLeft + h.unspawned.length

theorem Works.stepsLeft_lt (hs : h.Works h') : h'.stepsLeft < h.stepsLeft := by
  cases hs with
  | @spawn number hmem =>
    have hpos := List.length_pos_of_mem hmem
    have hlength := List.length_erase_of_mem hmem
    simp only [stepsLeft, hlength]
    omega
  | step now hw _ =>
    have hlt := Lanes.stepsLeft_step hw now
    simp only [stepsLeft, work]
    omega

theorem acc_works (h : LaneHistory P) : Acc (fun b a => a.Works b) h := by
  have hwf : WellFounded fun b a : LaneHistory P => a.Works b :=
    Subrelation.wf (fun hs => hs.stepsLeft_lt) (measure stepsLeft).wf
  exact hwf.apply h

theorem submitted_of_works (hs : ReflTransGen Works h h') : h'.submitted = h.submitted := by
  induction hs with
  | refl => rfl
  | tail _ hs ih =>
    cases hs with
    | spawn _ => exact ih
    | step now hw _ => exact ih

theorem Kept.of_works (hk : h.Kept) (hs : ReflTransGen Works h h') : h'.Kept := by
  induction hs with
  | refl => exact hk
  | tail _ hs ih => exact ih.works hs

/-- When nobody can take a step, no lane is left. -/
theorem Kept.lanes_of_rest (hk : h.Kept) (hrest : ∀ h', ¬ h.Works h') : h.lanes = {} := by
  have hspawned : h.unspawned = [] := by
    refine List.eq_nil_iff_forall_not_mem.mpr fun number hmem => ?_
    exact hrest _ (.spawn hmem)
  have hworkers : h.lanes.workers = [] := by
    cases hw : h.lanes.workers with
    | nil => rfl
    | cons w after =>
      refine absurd (@Works.step _ h [] after w 0 hw ?_) (hrest _)
      simp [hspawned]
  have hqueues : h.lanes.queues = [] := by
    have hserved := hk.tended.served
    rw [Lanes.Served, hworkers] at hserved
    exact List.map_eq_nil_iff.mp (List.nil_perm.mp hserved)
  obtain ⟨⟨queues, workers⟩, submitted, unspawned, log⟩ := h
  obtain rfl : workers = [] := hworkers
  obtain rfl : queues = [] := hqueues
  rfl

/-! ## Order -/

/-- All that is said of the jobs of a history. -/
structure Orderly (h : LaneHistory P) : Prop where
  /-- The jobs of a lane start in the order of their submission, and none is passed over. -/
  in_order : ∀ key, ofKey (some key) h.started <+: ofKey (some key) h.tickets
  /-- No two jobs of a lane run together. -/
  alone : ∀ key, (ofKey (some key) h.running).length ≤ 1
  distinct : h.tickets.Nodup
  /-- Each job waits, runs or has ended. -/
  placed : h.tickets ~ h.waiting ++ (h.running ++ h.ended)
  /-- No job runs twice, and those that were started are running or have ended. -/
  once : h.started.Nodup ∧ h.started ~ h.running ++ h.ended
  /-- No job is left in the queue of a lane that is taken down. -/
  emptied : ∀ h' key, h.Step h' → h.lanes.hasLane key = true → h'.lanes.hasLane key = false →
    Lanes.queueOf (some key) h.lanes.queues = []
  /-- A lane that is there has one worker, spawned or about to be, and no other lane has any. -/
  owned : ∀ key, (Lanes.ofLane (some key) h.lanes.workers).length =
    if h.lanes.hasLane key then 1 else 0
  /-- Nobody comes upon a lane without a worker. -/
  live : ∀ key, h.lanes.hasLane key = true → h.lanes.hasWorker key = true
  /-- A job breaks its own receipt by a panic, and no other. -/
  receipts : ∀ ticket receipt?, .ended ticket receipt? ∈ h.log → ∃ job ∈ h.submitted,
    job.task = ticket ∧ receipt? = if job.awaited then
      some (if job.panics then .broken else .result ticket) else none
  /-- Workers that are left to themselves come to an end. -/
  ends : Acc (fun b a => a.Works b) h
  /-- By then they have run all jobs, panics or not, and those of a lane in order. -/
  served : ∀ h', ReflTransGen Works h h' → (∀ h'', ¬ h'.Works h'') →
    h'.ended ~ h.tickets ∧ ∀ key, ofKey (some key) h'.ended = ofKey (some key) h.tickets

theorem Kept.prefix_tickets (hk : h.Kept) (key : String) :
    ofKey (some key) h.started <+: ofKey (some key) h.tickets := by
  rw [hk.begun, hk.lined, List.prefix_append_right_inj]
  exact (hk.tended.runningIn_spec key).1.map Job.task

theorem Kept.length_running_le (hk : h.Kept) (key : String) :
    (ofKey (some key) h.running).length ≤ 1 := by
  have hentered : ofKey (some key) h.started ~ ofKey (some key) (h.ended ++ h.running) :=
    hk.entered.filter _
  rw [hk.begun, ofKey_append, List.perm_append_left_iff] at hentered
  rw [← hentered.length_eq, List.length_map]
  exact (hk.tended.runningIn_spec key).2

theorem Kept.queueOf_of_removed (hk : h.Kept) (hs : h.Step h') {key : String}
    (hkey : h.lanes.hasLane key = true) (hgone : h'.lanes.hasLane key = false) :
    Lanes.queueOf (some key) h.lanes.queues = [] := by
  cases hs with
  | submit key? job =>
    have hkept := hk.tended.served.hasLane_submit key? (job.ticketed h.submitted.length key?) hkey
    exact absurd (hkept.symm.trans hgone) Bool.noConfusion
  | works hs =>
    cases hs with
    | spawn _ => exact absurd (hkey.symm.trans hgone) Bool.noConfusion
    | step now hw _ => exact hk.tended.queueOf_of_removed hw now hkey hgone

theorem Kept.served (hk : h.Kept) (hrest : ∀ h', ¬ h.Works h') :
    h.ended ~ h.tickets ∧ ∀ key, ofKey (some key) h.ended = ofKey (some key) h.tickets := by
  have hlanes := hk.lanes_of_rest hrest
  constructor
  · have hplaced := hk.placed
    rw [waiting, running, hlanes] at hplaced
    simpa [Lanes.waiting, Lanes.running] using hplaced.symm
  · intro key
    have hlined := hk.lined key
    rw [hlanes] at hlined
    simpa [Lanes.line, Lanes.queueOf] using hlined.symm

theorem jobs_run_in_order_and_once (hr : h.Reachable) : h.Orderly := by
  have hk := hr.kept
  have hplaced : h.tickets ~ h.waiting ++ (h.running ++ h.ended) := by
    refine hk.placed.trans (List.perm_append_comm.trans ?_)
    rw [List.append_assoc]
  have hstarted : h.started ~ h.running ++ h.ended := hk.entered.trans List.perm_append_comm
  constructor
  case in_order => exact hk.prefix_tickets
  case alone => exact hk.length_running_le
  case distinct => exact hk.nodup_tickets
  case placed => exact hplaced
  case once => exact ⟨hk.nodup_started, hstarted⟩
  case emptied =>
    intro h' key hs
    exact hk.queueOf_of_removed hs
  case owned => exact hk.tended.length_ofLane
  case live =>
    intro key hlane
    rw [hk.tended.served.hasWorker_eq, hlane]
  case receipts =>
    intro ticket receipt? hmem
    obtain ⟨job, hjob, rfl, hreceipt⟩ := hk.receipts ticket receipt? hmem
    refine ⟨job, hjob, rfl, hreceipt.trans ?_⟩
    rw [Job.receipt?]
    cases job.awaited <;> cases job.panics <;> rfl
  case ends => exact h.acc_works
  case served =>
    intro h' hs hrest
    have htickets : h'.tickets = h.tickets := congrArg (List.map Job.task) (submitted_of_works hs)
    rw [← htickets]
    exact (hk.of_works hs).served hrest

/-- A job that panics as soon as it runs. -/
def doomed : Job String := { duration := 0, task := "doomed", panics := true }

/-- A lane whose first job has panicked while another one was behind it. -/
def crash : LaneHistory String :=
  let queued := (({} : LaneHistory String).submit (some "k") doomed).submit (some "k")
    { duration := 0, task := "spared" }
  let spawned := { queued with unspawned := queued.unspawned.erase 0 }
  let running := spawned.work 0 [] ⟨some "k", .holding (doomed.ticketed 0 (some "k"))⟩ []
  running.work 0 [] ⟨some "k", .running (doomed.ticketed 0 (some "k")) 0⟩ []

theorem reachable_crash : crash.Reachable := by
  have hqueued := (ReflTransGen.refl.tail (Step.submit {} (some "k") doomed)).tail
    (Step.submit _ (some "k") { duration := 0, task := "spared" })
  have hspawned := hqueued.tail (.works (@Works.spawn _ _ 0 (by decide)))
  have hrunning := hspawned.tail (.works (@Works.step _ _ [] []
    ⟨some "k", .holding (doomed.ticketed 0 (some "k"))⟩ 0 rfl (by
      intro job hjob
      cases hjob
      decide)))
  exact hrunning.tail (.works (@Works.step _ _ [] []
    ⟨some "k", .running (doomed.ticketed 0 (some "k")) 0⟩ 0 rfl (by
      intro job hjob
      cases hjob)))

theorem jobs_run_in_order_and_once_crash : crash.Reachable ∧
    crash.ended.map Ticket.task = ["doomed"] ∧ crash.waiting.map Ticket.task = ["spared"] ∧
    crash.Orderly :=
  ⟨reachable_crash, rfl, rfl, jobs_run_in_order_and_once reachable_crash⟩

end LaneHistory

end ChatCommands
