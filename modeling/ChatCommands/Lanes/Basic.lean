/-! # Lanes

Jobs that share a key run one after another, in the order in which they were submitted. Each key
in use has a lane: a queue, and a worker that runs the jobs and takes the lane down when it finds
the queue empty. Jobs without a key have a worker each and run side by side.

Whatever a worker does next is one step, and steps of different workers may come in any order.
-/

namespace ChatCommands

/-- Work that takes some time once it has started. -/
structure Job (P : Type) where
  duration : Nat
  task : P
  /-- The job panics when its time is over. -/
  panics : Bool := false
  /-- Someone still waits for the result. -/
  awaited : Bool := true
  deriving Repr, Inhabited

/-- What whoever waits for a job gets once it has ended. -/
inductive Receipt (P : Type)
  | result (task : P)
  /-- The job panicked and took its result with it. -/
  | broken
  deriving Repr

def Job.receipt? {P : Type} (job : Job P) : Option (Receipt P) :=
  if !job.awaited then none else if job.panics then some .broken else some (.result job.task)

inductive Stage (P : Type)
  /-- The worker is about to start a job. -/
  | holding (job : Job P)
  /-- The job runs until the moment `ends`. -/
  | running (job : Job P) (ends : Nat)
  /-- A job has ended, and the queue has not been looked at since. -/
  | between
  deriving Repr, Inhabited

structure Worker (P : Type) where
  lane? : Option String
  stage : Stage P
  deriving Repr, Inhabited

/-- What a step lets others see. -/
inductive LaneEvent (P : Type)
  | started (task : P)
  | ended (task : P) (receipt? : Option (Receipt P))
  deriving Repr

structure Lanes (P : Type) where
  /-- The queue of each lane, the running job not included. -/
  queues : List (String × List (Job P)) := []
  workers : List (Worker P) := []
  deriving Repr, Inhabited

namespace Lanes

variable {P : Type}

/-- The number of keys with queued or running jobs. -/
def active (s : Lanes P) : Nat :=
  s.queues.length

/-- Appends a job to the queue of a lane. -/
def push (key : String) (job : Job P) :
    List (String × List (Job P)) → List (String × List (Job P))
  | [] => []
  | (k, queue) :: rest =>
    if k == key then (k, queue ++ [job]) :: rest else (k, queue) :: push key job rest

/-- Takes the next job off the queue of a lane, or removes the lane when there is none. -/
def take (key : String) :
    List (String × List (Job P)) → Option (Job P) × List (String × List (Job P))
  | [] => (none, [])
  | (k, queue) :: rest =>
    if k == key then
      match queue with
      | [] => (none, rest)
      | job :: queue => (some job, (k, queue) :: rest)
    else
      let tail := take key rest
      (tail.1, (k, queue) :: tail.2)

def hasLane (s : Lanes P) (key : String) : Bool :=
  s.queues.any (·.1 == key)

def hasWorker (s : Lanes P) (key : String) : Bool :=
  s.workers.any (·.lane? == some key)

/-- Opens a lane with a worker for its first job. -/
def openLane (s : Lanes P) (key : String) (job : Job P) : Lanes P :=
  ⟨s.queues.filter (·.1 != key) ++ [(key, [])], s.workers ++ [⟨some key, .holding job⟩]⟩

/-- Submits a job. A lane whose worker is gone would be opened anew. -/
def submit (s : Lanes P) (key? : Option String) (job : Job P) : Lanes P :=
  match key? with
  | none => { s with workers := s.workers ++ [⟨none, .holding job⟩] }
  | some key =>
    if s.hasLane key && s.hasWorker key then { s with queues := push key job s.queues }
    else s.openLane key job

/-- The next step of the worker `w`, which stands between the workers `before` and `after`, taken
at the moment `now`. -/
def step (s : Lanes P) (now : Nat) (before : List (Worker P)) (w : Worker P)
    (after : List (Worker P)) : Lanes P × Option (LaneEvent P) :=
  match w.stage with
  | .holding job =>
    ({ s with workers := before ++ ⟨w.lane?, .running job (now + job.duration)⟩ :: after },
      some (.started job.task))
  | .running job _ =>
    ({ s with workers := before ++ ⟨w.lane?, .between⟩ :: after },
      some (.ended job.task job.receipt?))
  | .between =>
    match w.lane? with
    | none => ({ s with workers := before ++ after }, none)
    | some key =>
      match take key s.queues with
      | (some job, queues) => (⟨queues, before ++ ⟨w.lane?, .holding job⟩ :: after⟩, none)
      | (none, queues) => (⟨queues, before ++ after⟩, none)

/-- How many steps a worker has left with the job at hand. -/
def stepsAt : Stage P → Nat
  | .holding _ => 3
  | .running _ _ => 2
  | .between => 1

/-- How many steps workers have left with the jobs at hand. -/
def stepsOf (workers : List (Worker P)) : Nat :=
  workers.foldr (stepsAt ·.stage + ·) 0

/-- How many steps are left at most until all lanes are down. -/
def stepsLeft (s : Lanes P) : Nat :=
  3 * (s.queues.flatMap Prod.snd).length + stepsOf s.workers

@[simp] theorem stepsOf_cons (w : Worker P) (workers : List (Worker P)) :
    stepsOf (w :: workers) = stepsAt w.stage + stepsOf workers := rfl

@[simp] theorem stepsOf_append (before after : List (Worker P)) :
    stepsOf (before ++ after) = stepsOf before + stepsOf after := by
  induction before with
  | nil => simp [stepsOf]
  | cons w before ih => simp [ih, Nat.add_assoc]

theorem length_take (key : String) (queues : List (String × List (Job P))) :
    ((take key queues).2.flatMap Prod.snd).length + (take key queues).1.toList.length =
      (queues.flatMap Prod.snd).length := by
  induction queues with
  | nil => rfl
  | cons entry rest ih =>
    obtain ⟨k, queue⟩ := entry
    simp only [take]
    split
    · split
      · simp
      · simp [Nat.add_right_comm]
    · simp only [List.flatMap_cons, List.length_append, ← ih]
      omega

theorem stepsLeft_step {s : Lanes P} {before after : List (Worker P)} {w : Worker P}
    (h : s.workers = before ++ w :: after) (now : Nat) :
    (s.step now before w after).1.stepsLeft < s.stepsLeft := by
  obtain ⟨lane?, stage⟩ := w
  cases stage with
  | holding job => simp [step, stepsLeft, h, stepsAt]
  | running job ends => simp [step, stepsLeft, h, stepsAt]
  | between =>
    cases lane? with
    | none => simp [step, stepsLeft, h, stepsAt]
    | some key =>
      have ht := length_take key s.queues
      simp only [step]
      split <;> rename_i heq <;> simp only [heq, Option.toList_some, Option.toList_none,
        List.length_singleton, List.length_nil] at ht <;> simp [stepsLeft, h, stepsAt] at ht ⊢ <;>
        omega

end Lanes

end ChatCommands
