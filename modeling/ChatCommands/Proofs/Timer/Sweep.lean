import ChatCommands.Proofs.Timer.Ends

/-! # Forgetting timers one by one

Once all that was due has been dealt with, the task looks at the timers in its table in some order,
and drops the jobs of those that it finds ended. At last it drops the deadlines without a job. The
others go on in between, and may cancel a timer just before or just after the task looks at it. The
timers that such a sweep leaves could have been left by forgetting all at once.
-/

namespace ChatCommands

open Relation
open scoped List

namespace Timers

variable {J : Type} {t : Timers J} {ids : List Nat} {id : Nat}

/-- Looks at one timer, and drops its job if the timer has ended. -/
def look (t : Timers J) (id : Nat) : Timers J :=
  if t.isPending id then t
  else { t with table := { t.table with jobs := t.table.jobs.filter (·.1 != id) } }

/-- Drops the deadlines without a job, and waits again. -/
def forget (t : Timers J) : Timers J :=
  { t with
    table := { t.table with
      agenda := t.table.agenda.filter fun (_, id) => t.table.jobs.any (·.1 == id) }
    phase := .waiting }

theorem look_cases (t : Timers J) (id : Nat) :
    (t.isPending id = true ∧ t.look id = t) ∨
    (t.isPending id = false ∧ t.look id =
      { t with table := { t.table with jobs := t.table.jobs.filter (·.1 != id) } }) := by
  unfold look
  split
  · rename_i h
    exact Or.inl ⟨h, rfl⟩
  · rename_i h
    exact Or.inr ⟨by simpa using h, rfl⟩

theorem arms_look (t : Timers J) (id : Nat) : (t.look id).arms = t.arms := by
  obtain ⟨-, hlook⟩ | ⟨-, hlook⟩ := t.look_cases id <;> rw [hlook]

/-- Of the timers that were looked at, those that are armed are left. -/
theorem foldl_look (ids : List Nat) (t : Timers J) : ids.foldl look t =
    { t with table := { t.table with
      jobs := t.table.jobs.filter
        fun entry => t.isPending entry.1 || !ids.contains entry.1 } } := by
  induction ids generalizing t with
  | nil => simp
  | cons id ids ih =>
    have hjobs : (t.look id).table.jobs.filter
          (fun entry => t.isPending entry.1 || !ids.contains entry.1) =
        t.table.jobs.filter fun entry => t.isPending entry.1 || !(id :: ids).contains entry.1 := by
      obtain ⟨hp, hlook⟩ | ⟨hp, hlook⟩ := t.look_cases id <;> rw [hlook]
      · refine List.filter_congr fun entry _ => ?_
        by_cases heq : entry.1 = id <;> simp [heq, hp]
      · simp only [List.filter_filter]
        refine List.filter_congr fun entry _ => ?_
        by_cases heq : entry.1 = id <;> simp [heq, hp]
    have hpending : (t.look id).isPending = t.isPending := funext (isPending_congr (arms_look t id))
    rw [List.foldl_cons, ih, hpending, hjobs]
    obtain ⟨-, hlook⟩ | ⟨-, hlook⟩ := t.look_cases id <;> rw [hlook]

/-- If nothing comes in between, all that have ended are forgotten. -/
theorem forget_foldl_look (h : ∀ id ∈ t.listed, id ∈ ids) :
    (ids.foldl look t).forget = t.rest := by
  have hjobs : (t.table.jobs.filter fun entry => t.isPending entry.1 || !ids.contains entry.1) =
      t.table.jobs.filter fun entry => t.isPending entry.1 := by
    refine List.filter_congr fun entry hentry => ?_
    have hmem := h entry.1 (List.mem_map_of_mem hentry)
    simp [hmem]
  rw [foldl_look, hjobs]
  rfl

end Timers

/-- A history of timers, and how far the task has come if it is about to forget cancelled ones. -/
structure TimerLoop (K : Type) where
  history : TimerHistory K := {}
  /-- The timers that the task has yet to look at, while it forgets. -/
  unseen : Option (List Nat) := none

/-- A step that the task has no part in. -/
def TimerHistory.Aside {K : Type} (h h' : TimerHistory K) : Prop :=
  h.Step h' ∧ h'.timers.phase = h.timers.phase ∧ h'.timers.table = h.timers.table

/-- A history in which the task has another table. -/
def TimerHistory.withTable {K : Type} (h : TimerHistory K) (table : TimerTable (Nat × K)) :
    TimerHistory K :=
  { h with timers := { h.timers with table := table } }

namespace TimerLoop

variable {K : Type} {l l' : TimerLoop K} {h h' : TimerHistory K} {ids : List Nat} {now : Nat}

inductive Step : TimerLoop K → TimerLoop K → Prop
  /-- Any step but that of forgetting all at once. -/
  | moves {h h' : TimerHistory K} : h.Step h' →
      (∀ now, h.timers.phase = .firing now → h'.timers.phase = .firing now) →
      Step ⟨h, none⟩ ⟨h', none⟩
  /-- Nothing more is due, and the task begins to forget, in whatever order. -/
  | sweep {h : TimerHistory K} {now : Nat} {ids : List Nat} : h.timers.phase = .firing now →
      h.timers.fire? now = none → ids ~ h.timers.listed → Step ⟨h, none⟩ ⟨h, some ids⟩
  | look {h : TimerHistory K} {id : Nat} {ids : List Nat} :
      Step ⟨h, some (id :: ids)⟩ ⟨{ h with timers := h.timers.look id }, some ids⟩
  | aside {h h' : TimerHistory K} {ids : List Nat} : h.Aside h' → Step ⟨h, some ids⟩ ⟨h', some ids⟩
  | forget {h : TimerHistory K} :
      Step ⟨h, some []⟩ ⟨{ h with timers := h.timers.forget }, none⟩

/-- Steps of clients, of the task and of the jobs in some order have led here. -/
def Reachable (l : TimerLoop K) : Prop :=
  ReflTransGen Step {} l

theorem step_of_waiting (hp : h.timers.phase = .waiting) (hs : h.Step h') :
    Step ⟨h, none⟩ ⟨h', none⟩ :=
  .moves hs fun _ hfiring => by cases hp.symm.trans hfiring

/-- A timer may be cancelled while the task forgets others. -/
theorem aside_cancel (h : TimerHistory K) (id : Nat) : h.Aside { h with
    timers := (h.timers.cancel id).2
    answers := h.answers ++ [(id, (h.timers.cancel id).1)] } :=
  ⟨.cancel h id, (Timers.turn_eq _ _ _).2.2, (Timers.turn_eq _ _ _).2.1⟩

/-- A sweep that nothing interrupts does what the task does on a clock. -/
theorem reaches_rest (hp : h.timers.phase = .firing now) (hfire : h.timers.fire? now = none) :
    ReflTransGen Step ⟨h, none⟩ ⟨{ h with timers := h.timers.rest }, none⟩ := by
  have hlooks : ∀ (ids : List Nat) (t : Timers (Nat × K)),
      ReflTransGen Step ⟨{ h with timers := t }, some ids⟩
        ⟨{ h with timers := ids.foldl Timers.look t }, some []⟩ := by
    intro ids
    induction ids with
    | nil => exact fun t => .refl
    | cons id ids ih => exact fun t => .head .look (ih (t.look id))
  have hswept := ((ReflTransGen.single (Step.sweep hp hfire (.refl _))).trans
    (hlooks h.timers.listed h.timers)).tail .forget
  rwa [Timers.forget_foldl_look fun _ hid => hid] at hswept

/-! ## Sweeps that are interrupted -/

/-- The task has forgotten some of the timers of a full table, all of which have ended. With the
full table, the history has come about without a sweep. -/
structure Sweeps (h : TimerHistory K) (unseen : List Nat) (full : TimerTable (Nat × K))
    (keep : Nat → Bool) (now : Nat) : Prop where
  phase : h.timers.phase = .firing now
  ahead : ∀ deadline, full.earliest? = some deadline → now < deadline
  unseen : ∀ id ∈ unseen, id ∈ full.jobs.map Prod.fst
  table : h.timers.table = ⟨full.agenda, full.jobs.filter (keep ·.1)⟩
  ended : ∀ id, keep id = false → ∃ arm ≠ .armed, h.timers.arm? id = some arm
  reachable : (h.withTable full).Reachable

/-- What the loop comes to, in terms of a task that forgets all at once. -/
inductive Refines : TimerLoop K → Prop
  | whole {h : TimerHistory K} : h.Reachable → Refines ⟨h, none⟩
  | swept {h : TimerHistory K} {unseen : List Nat} {full : TimerTable (Nat × K)}
      {keep : Nat → Bool} {now : Nat} : Sweeps h unseen full keep now → Refines ⟨h, some unseen⟩

/-- Whoever takes a step while the task forgets does not look into its table. -/
theorem step_withTable (ha : h.Aside h') (hp : h.timers.phase = .firing now)
    (hfire : h.timers.fire? now = none) (full : TimerTable (Nat × K)) :
    (h.withTable full).Step (h'.withTable full) := by
  obtain ⟨hs, hphase, -⟩ := ha
  have hcancel : ∀ id, (h.withTable full).timers.cancel id =
      ((h.timers.cancel id).1, { (h.timers.cancel id).2 with table := full }) := by
    intro id
    obtain ⟨hpending, hturn⟩ | ⟨hpending, hturn⟩ := h.timers.turn_cases id .cancelled
    · rw [Timers.cancel, Timers.cancel, hturn]
      exact if_pos hpending
    · rw [Timers.cancel, Timers.cancel, hturn]
      exact if_neg (Bool.eq_false_iff.mp hpending)
  cases hs with
  | tick nanos => exact .tick _ nanos
  | make delay task hle => exact .make delay task hle
  | send before after hcalls hr => exact .send before after hcalls hr
  | refuse before after hcalls hr => exact .refuse before after hcalls hr
  | @giveUp before after id hcalls =>
    have hs := TimerHistory.Step.giveUp (h := h.withTable full) before after hcalls
    rwa [hcancel] at hs
  | cancel id =>
    have hs := TimerHistory.Step.cancel (h.withTable full) id
    rwa [hcancel] at hs
  | shutdown =>
    have hs := TimerHistory.Step.shutdown (h.withTable full)
    have hshutdown : (h.withTable full).timers.shutdown =
        { h.timers.shutdown with table := full } := by
      obtain ⟨hr, heq⟩ | ⟨hr, heq⟩ := h.timers.shutdown_cases <;> rw [heq]
      · exact if_pos hr
      · exact if_neg (Bool.eq_false_iff.mp hr)
    rwa [hshutdown] at hs
  | receive hp' _ | abandon hp' _ _ | wake hp' _ | close hp' | drain hp' _ =>
    cases hp.symm.trans hp'
  | fire hp' hs =>
    cases hp.symm.trans hp'
    cases hfire.symm.trans hs
  | rest _ hp' _ _ =>
    cases hphase.trans hp
  | run position htake =>
    obtain ⟨_, hjob, heq⟩ := Option.map_eq_some_iff.mp htake
    cases heq
    exact .run position (Option.map_eq_some_iff.mpr ⟨_, hjob, rfl⟩)

variable {full : TimerTable (Nat × K)} {keep : Nat → Bool} {id : Nat}

theorem sweeps_start (hr : h.Reachable) (hp : h.timers.phase = .firing now)
    (hfire : h.timers.fire? now = none) (hids : ids ~ h.timers.listed) :
    Sweeps h ids h.timers.table (fun _ => true) now where
  phase := hp
  ahead := Timers.earliest_of_fire?_eq_none hfire
  unseen _ hid := hids.mem_iff.mp hid
  table := by simp
  ended := by simp
  reachable := hr

theorem Sweeps.fire?_eq_none (hs : Sweeps h ids full keep now) : h.timers.fire? now = none := by
  apply Timers.fire?_eq_none_iff.mpr
  rw [hs.table]
  exact hs.ahead

theorem Sweeps.listed_eq (hs : Sweeps h ids full keep now) :
    h.timers.listed = (full.jobs.map Prod.fst).filter keep :=
  Timers.listed_filter (t := (h.withTable full).timers) keep (by rw [hs.table]; rfl)

theorem Sweeps.keeps (hs : Sweeps h ids full keep now) (hid : h.timers.isPending id = true) :
    keep id = true := by
  by_contra hkeep
  obtain ⟨arm, hne, harm⟩ := hs.ended id (Bool.eq_false_iff.mpr hkeep)
  rw [Timers.isPending_iff.mp hid] at harm
  exact hne (Option.some.inj harm).symm

theorem Sweeps.tracks (hs : Sweeps h ids full keep now) :
    (h.withTable full).timers.Tracks h.made := by
  have hp : (h.withTable full).timers.phase = .firing now := hs.phase
  exact hs.reachable.kept.tracks (by rw [Timers.isRunning, hp])

/-- A timer that the task looks at is one that was made. -/
theorem Sweeps.exists_arm (hs : Sweeps h ids full keep now) (hid : id ∈ ids) :
    ∃ arm, h.timers.arm? id = some arm := by
  have hlt := hs.tracks.lt_length (List.mem_append_left _ (hs.unseen id hid))
  have hlength : h.timers.arms.length = h.made.length := hs.reachable.kept.length
  exact ⟨_, List.getElem?_eq_getElem (hlength.symm ▸ hlt)⟩

/-- A timer that is dropped has ended. -/
theorem Sweeps.look (hs : Sweeps h (id :: ids) full keep now) :
    ∃ keep, Sweeps { h with timers := h.timers.look id } ids full keep now := by
  have hunseen : ∀ other ∈ ids, other ∈ full.jobs.map Prod.fst :=
    fun other hother => hs.unseen other (List.mem_cons_of_mem _ hother)
  obtain ⟨-, hlook⟩ | ⟨hp, hlook⟩ := h.timers.look_cases id
  · rw [hlook]
    exact ⟨keep, { hs with unseen := hunseen }⟩
  · refine ⟨fun other => keep other && other != id, ?_⟩
    rw [hlook]
    constructor
    case phase => exact hs.phase
    case ahead => exact hs.ahead
    case unseen => exact hunseen
    case table => simp [hs.table, List.filter_filter, Bool.and_comm]
    case ended =>
      intro other hother
      rcases Bool.and_eq_false_iff.mp hother with hother | hother
      · exact hs.ended other hother
      · obtain rfl : other = id := by simpa using hother
        obtain ⟨arm, harm⟩ := hs.exists_arm List.mem_cons_self
        refine ⟨arm, ?_, harm⟩
        rintro rfl
        cases hp.symm.trans (Timers.isPending_iff.mpr harm)
    case reachable => exact hs.reachable

theorem Sweeps.aside (hs : Sweeps h ids full keep now) (ha : h.Aside h') :
    Sweeps h' ids full keep now := by
  have hstep := step_withTable ha hs.phase hs.fire?_eq_none full
  constructor
  case phase => exact ha.2.1.trans hs.phase
  case ahead => exact hs.ahead
  case unseen => exact hs.unseen
  case table => exact ha.2.2.trans hs.table
  case ended =>
    intro id hid
    obtain ⟨arm, hne, harm⟩ := hs.ended id hid
    have hstill : (h'.withTable full).timers.arm? id = some arm :=
      hs.reachable.arm?_of_ended (.single hstep) hne harm
    exact ⟨arm, hne, hstill⟩
  case reachable => exact hs.reachable.tail hstep

/-- The timers that are left in the end could have been left at once. -/
theorem Sweeps.forget (hs : Sweeps h ids full keep now) :
    TimerHistory.Reachable { h with timers := h.timers.forget } := by
  have hfire : (h.withTable full).timers.fire? now = none :=
    Timers.fire?_eq_none_iff.mpr hs.ahead
  have hrest := hs.reachable.tail (.rest keep hs.phase hfire fun _ hid => hs.keeps hid)
  have hforget : h.timers.forget =
      { h.timers with table := full.prune keep, phase := .waiting } := by
    rw [Timers.forget, hs.table]
    rfl
  rwa [hforget]

theorem Refines.step (hl : Refines l) (hs : l.Step l') : Refines l' := by
  cases hs with
  | moves hs _ =>
    cases hl with
    | whole hr => exact .whole (hr.tail hs)
  | sweep hp hfire hids =>
    cases hl with
    | whole hr => exact .swept (sweeps_start hr hp hfire hids)
  | look =>
    cases hl with
    | swept hsweeps =>
      obtain ⟨keep, hlook⟩ := hsweeps.look
      exact .swept hlook
  | aside ha =>
    cases hl with
    | swept hsweeps => exact .swept (hsweeps.aside ha)
  | forget =>
    cases hl with
    | swept hsweeps => exact .whole hsweeps.forget

/-- Whenever the task is not about to forget, what has happened could have happened with all
timers forgotten at once. -/
theorem Reachable.refines (hr : l.Reachable) : Refines l := by
  induction hr with
  | refl => exact .whole .refl
  | tail _ hs ih => exact ih.step hs

end TimerLoop

end ChatCommands
