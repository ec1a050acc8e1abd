import Mathlib.Data.List.Count
import Mathlib.Data.List.Nodup
import ChatCommands.Proofs.Lanes.Served

/-! # Lines of jobs

The jobs of a lane stand in a line: the one that its worker has at hand comes first, then the queue.
A job joins the end of the line of its own lane, and only the first one of a line starts and ends.
A lane has exactly one worker for as long as it is there.
-/

namespace ChatCommands

open scoped List

variable {P : Type}

/-- The job that the worker has at hand, started or not. -/
def Worker.job? (w : Worker P) : Option (Job P) :=
  match w.stage with
  | .holding job | .running job _ => some job
  | .between => none

namespace Lanes

/-- Those of the workers that belong to a lane, or to no lane. -/
def ofLane (key? : Option String) (workers : List (Worker P)) : List (Worker P) :=
  workers.filter (·.lane? == key?)

def queueOf (key? : Option String) (queues : List (String × List (Job P))) : List (Job P) :=
  (key?.bind fun key => queues.lookup key).getD []

/-- The jobs of a lane that have not ended, in the order in which they are to run. -/
def line (s : Lanes P) (key? : Option String) : List (Job P) :=
  (ofLane key? s.workers).filterMap Worker.job? ++ queueOf key? s.queues

def runningIn (s : Lanes P) (key? : Option String) : List (Job P) :=
  (ofLane key? s.workers).filterMap Worker.running?

/-- Each lane is there once and has a worker of its own. -/
structure Tended (s : Lanes P) : Prop where
  served : s.Served
  keys : (s.queues.map Prod.fst).Nodup

variable {s : Lanes P} {queues : List (String × List (Job P))} {before after : List (Worker P)}
  {w : Worker P} {key k : String} {key? : Option String} {job : Job P}

/-! ## Queues -/

theorem lookup_eq_none_of_not_mem (h : key ∉ queues.map Prod.fst) : queues.lookup key = none := by
  refine List.lookup_eq_none_iff.mpr fun entry hentry => ?_
  have hne : key ≠ entry.1 := by
    rintro rfl
    exact h (List.mem_map_of_mem hentry)
  simpa using hne

theorem lookup_ne_none_of_mem (h : key ∈ queues.map Prod.fst) : queues.lookup key ≠ none := by
  obtain ⟨entry, hentry, rfl⟩ := List.mem_map.mp h
  intro hnone
  have hne := List.lookup_eq_none_iff.mp hnone entry hentry
  simp at hne

theorem lookup_push (queues : List (String × List (Job P))) (key : String) (job : Job P)
    (k : String) : (push key job queues).lookup k =
      if k = key then (queues.lookup key).map (· ++ [job]) else queues.lookup k := by
  induction queues with
  | nil => simp [push]
  | cons entry queues ih =>
    obtain ⟨name, queue⟩ := entry
    rw [push]
    by_cases hname : name = key
    · subst hname
      by_cases hk : k = name
      · simp [hk]
      · simp [hk, List.lookup_cons, beq_eq_false_iff_ne.mpr hk]
    · rw [if_neg (by simpa using hname), List.lookup_cons, List.lookup_cons, List.lookup_cons, ih]
      by_cases hk : k = name
      · subst hk
        simp [hname]
      · simp [beq_eq_false_iff_ne.mpr hk, beq_eq_false_iff_ne.mpr (Ne.symm hname)]

theorem take_spec (h : (queues.map Prod.fst).Nodup) (key : String) :
    (take key queues).1 = ((queues.lookup key).getD []).head? ∧
      ∀ k, ((take key queues).2.lookup k).getD [] =
        if k = key then ((queues.lookup key).getD []).tail else (queues.lookup k).getD [] := by
  induction queues with
  | nil => simp [take]
  | cons entry queues ih =>
    obtain ⟨name, queue⟩ := entry
    obtain ⟨hname, hrest⟩ := List.nodup_cons.mp h
    obtain ⟨ihead, itail⟩ := ih hrest
    simp only [take]
    by_cases hkey : name = key
    · subst hkey
      cases queue with
      | nil =>
        refine ⟨by simp, fun k => ?_⟩
        by_cases hk : k = name
        · subst hk
          simp [lookup_eq_none_of_not_mem hname]
        · simp [hk, List.lookup_cons, beq_eq_false_iff_ne.mpr hk]
      | cons job queue =>
        refine ⟨by simp, fun k => ?_⟩
        by_cases hk : k = name
        · simp [hk]
        · simp [hk, List.lookup_cons, beq_eq_false_iff_ne.mpr hk]
    · rw [if_neg (by simpa using hkey)]
      have hne : (key == name) = false := beq_eq_false_iff_ne.mpr (Ne.symm hkey)
      refine ⟨by simpa [List.lookup_cons, hne] using ihead, fun k => ?_⟩
      by_cases hk : k = name
      · subst hk
        simp [hkey]
      · simp [List.lookup_cons, beq_eq_false_iff_ne.mpr hk, itail, hne]

/-- Taking from a lane takes the head of its queue and touches no other queue. -/
theorem take_eq (h : (queues.map Prod.fst).Nodup) (key : String) :
    (take key queues).1 = (queueOf (some key) queues).head? ∧
      ∀ key?, queueOf key? (take key queues).2 =
        if key? = some key then (queueOf key? queues).tail else queueOf key? queues := by
  obtain ⟨hhead, htail⟩ := take_spec h key
  refine ⟨hhead, fun key? => ?_⟩
  cases key? with
  | none => rfl
  | some k =>
    rw [queueOf, Option.bind_some, htail k]
    by_cases hk : k = key
    · subst hk
      simp [queueOf]
    · simp [hk, queueOf]

/-! ## Workers -/

theorem Tended.length_ofLane (h : s.Tended) (key : String) :
    (ofLane (some key) s.workers).length = if s.hasLane key then 1 else 0 := by
  have hlength : (ofLane (some key) s.workers).length = (s.queues.map Prod.fst).count key := by
    rw [← h.served.count_eq, List.count, List.countP_filterMap, ofLane,
      ← List.countP_eq_length_filter]
    refine List.countP_congr fun w _ => ?_
    cases w.lane? <;> simp
  rw [hlength, h.keys.count]
  exact if_congr hasLane_iff.symm rfl rfl

@[simp] theorem ofLane_nil (key? : Option String) :
    ofLane key? ([] : List (Worker P)) = [] := rfl

theorem ofLane_append (key? : Option String) (before after : List (Worker P)) :
    ofLane key? (before ++ after) = ofLane key? before ++ ofLane key? after :=
  List.filter_append before after

theorem ofLane_around (key? : Option String) (before : List (Worker P)) (w : Worker P)
    (after : List (Worker P)) : ofLane key? (before ++ w :: after) =
      ofLane key? before ++ (if w.lane? = key? then [w] else []) ++ ofLane key? after := by
  simp only [ofLane, List.filter_append, List.filter_cons, List.append_assoc, beq_iff_eq]
  split <;> rfl

/-- The worker of a lane has no other worker of the lane beside it. -/
theorem Tended.alone (h : s.Tended) (hw : s.workers = before ++ w :: after)
    (hlane : w.lane? = some key) :
    ofLane (some key) before = [] ∧ ofLane (some key) after = [] := by
  have hlength := h.length_ofLane key
  have hmem : key ∈ s.queues.map Prod.fst :=
    h.served.mem_keys (hw ▸ List.mem_append_cons_self) hlane
  rw [if_pos (hasLane_iff.mpr hmem), hw, ofLane_around, if_pos hlane] at hlength
  simp only [List.length_append, List.length_singleton] at hlength
  constructor
  · exact List.length_eq_zero_iff.mp (by omega)
  · exact List.length_eq_zero_iff.mp (by omega)

/-- What a step of a worker does to the lines of jobs. -/
inductive Proceeds (s t : Lanes P) (event? : Option (LaneEvent P)) : Prop
  | idle : event? = none → (∀ key?, t.line key? = s.line key?) →
      (∀ key?, t.runningIn key? = s.runningIn key?) → Proceeds s t event?
  | starts (lane? : Option String) (job : Job P) : event? = some (.started job.task) →
      job ∈ s.line lane? → (∀ key?, t.line key? = s.line key?) →
      (∀ key?, key? ≠ lane? → t.runningIn key? = s.runningIn key?) →
      (∀ key, lane? = some key → s.runningIn lane? = [] ∧ t.runningIn lane? = [job]) →
      Proceeds s t event?
  | ends (lane? : Option String) (job : Job P) :
      event? = some (.ended job.task job.receipt?) → s.line lane? ~ job :: t.line lane? →
      (∀ key?, key? ≠ lane? → t.line key? = s.line key? ∧ t.runningIn key? = s.runningIn key?) →
      (∀ key, lane? = some key → s.line lane? = job :: t.line lane? ∧
        s.runningIn lane? = [job] ∧ t.runningIn lane? = []) →
      Proceeds s t event?

/-- What a worker contributes to its own lane stands between what the workers around it do. -/
theorem filterMap_ofLane_around {β : Type} (f : Worker P → Option β) (key? : Option String)
    (before : List (Worker P)) (w : Worker P) (after : List (Worker P)) :
    (ofLane key? (before ++ w :: after)).filterMap f = (ofLane key? before).filterMap f ++
      ((if w.lane? = key? then (f w).toList else []) ++ (ofLane key? after).filterMap f) := by
  rw [ofLane_around, List.filterMap_append, List.filterMap_append, List.append_assoc]
  split
  · cases hf : f w <;> simp [hf]
  · rfl

/-- A worker that looks for the next job of its lane changes no line. -/
theorem Tended.step_between (h : Tended ⟨queues, before ++ ⟨some key, .between⟩ :: after⟩)
    (now : Nat) : ∃ t, step ⟨queues, before ++ ⟨some key, .between⟩ :: after⟩ now before
        ⟨some key, .between⟩ after = (t, none) ∧ t.Tended ∧
      (∀ key?, t.line key? = line ⟨queues, before ++ ⟨some key, .between⟩ :: after⟩ key?) ∧
      (∀ key?, t.runningIn key? =
        runningIn ⟨queues, before ++ ⟨some key, .between⟩ :: after⟩ key?) := by
  obtain ⟨t, hstep, hserved, -, -⟩ := h.served.step_between now
  obtain ⟨hb, ha⟩ := h.alone rfl rfl
  have hmem : key ∈ queues.map Prod.fst := h.served.mem_keys List.mem_append_cons_self rfl
  obtain ⟨hhead, htail⟩ := take_eq h.keys key
  rcases take_cases hmem with ⟨job, rest, htake, -, hkeys⟩ | ⟨rest, htake, -, hkeys⟩
  · rw [htake] at hhead htail
    obtain rfl : _ = t := by simpa [Lanes.step, htake] using hstep
    refine ⟨_, hstep, ⟨hserved, hkeys ▸ h.keys⟩, fun key? => ?_, fun key? => ?_⟩
    · rw [line, line, htail]
      by_cases hk : key? = some key
      · subst hk
        simp [filterMap_ofLane_around, hb, ha, Worker.job?, List.cons_head?_tail hhead.symm]
      · simp [filterMap_ofLane_around, hk, Ne.symm hk]
    · simp [runningIn, filterMap_ofLane_around, Worker.running?]
  · rw [htake] at hhead htail
    obtain rfl : _ = t := by simpa [Lanes.step, htake] using hstep
    refine ⟨_, hstep, ⟨hserved, (hkeys.nodup_iff.mp h.keys).of_cons⟩, fun key? => ?_,
      fun key? => ?_⟩
    · rw [line, line, htail, filterMap_ofLane_around, ofLane_append]
      by_cases hk : key? = some key
      · subst hk
        have hnil : queueOf (some key) queues = [] := List.head?_eq_none_iff.mp hhead.symm
        simp [hb, ha, Worker.job?, hnil]
      · simp [hk, Ne.symm hk]
    · rw [runningIn, runningIn, filterMap_ofLane_around, ofLane_append]
      simp [Worker.running?]

theorem Tended.step (h : s.Tended) (hw : s.workers = before ++ w :: after) (now : Nat) :
    (s.step now before w after).1.Tended ∧
      s.Proceeds (s.step now before w after).1 (s.step now before w after).2 := by
  have halone (key : String) (hlane : w.lane? = some key) := h.alone hw hlane
  have hserved := (h.served.step_cases hw now).1
  obtain ⟨queues, workers⟩ := s
  obtain rfl : workers = before ++ w :: after := hw
  obtain ⟨lane?, stage⟩ := w
  cases stage with
  | holding job =>
    refine ⟨⟨hserved, h.keys⟩, .starts lane? job rfl ?_ (fun key? => ?_) ?_ ?_⟩
    · simp [line, filterMap_ofLane_around, Worker.job?]
    · simp [Lanes.step, line, filterMap_ofLane_around, Worker.job?]
    · intro key? hne
      simp [Lanes.step, runningIn, filterMap_ofLane_around, hne.symm]
    · rintro key rfl
      obtain ⟨hb, ha⟩ := halone key rfl
      simp [Lanes.step, runningIn, filterMap_ofLane_around, hb, ha, Worker.running?]
  | running job ends =>
    refine ⟨⟨hserved, h.keys⟩, .ends lane? job rfl ?_ ?_ ?_⟩
    · simp [Lanes.step, line, filterMap_ofLane_around, Worker.job?]
    · intro key? hne
      simp [Lanes.step, line, runningIn, filterMap_ofLane_around, hne.symm]
    · rintro key rfl
      obtain ⟨hb, ha⟩ := halone key rfl
      simp [Lanes.step, line, runningIn, filterMap_ofLane_around, hb, ha, Worker.job?,
        Worker.running?]
  | between =>
    cases lane? with
    | none =>
      refine ⟨⟨hserved, h.keys⟩, .idle rfl (fun key? => ?_) (fun key? => ?_)⟩
      · rw [Lanes.step, line, line, filterMap_ofLane_around, ofLane_append]
        simp [Worker.job?]
      · rw [Lanes.step, runningIn, runningIn, filterMap_ofLane_around, ofLane_append]
        simp [Worker.running?]
    | some key =>
      obtain ⟨t, hstep, htended, hline, hrunning⟩ := h.step_between now
      rw [hstep]
      exact ⟨htended, .idle rfl hline hrunning⟩

theorem queueOf_append_new (h : key ∉ queues.map Prod.fst) (key? : Option String) :
    queueOf key? (queues ++ [(key, [])]) = queueOf key? queues := by
  cases key? with
  | none => rfl
  | some k =>
    simp only [queueOf, Option.bind_some, List.lookup_append]
    by_cases hk : k = key
    · subst hk
      simp [lookup_eq_none_of_not_mem h]
    · simp [List.lookup_cons, beq_eq_false_iff_ne.mpr hk]

theorem queueOf_push (h : key ∈ queues.map Prod.fst) (job : Job P) (key? : Option String) :
    queueOf key? (push key job queues) =
      if key? = some key then queueOf key? queues ++ [job] else queueOf key? queues := by
  cases key? with
  | none => rfl
  | some k =>
    simp only [queueOf, Option.bind_some, lookup_push, Option.some.injEq]
    by_cases hk : k = key
    · subst hk
      obtain ⟨queue, hqueue⟩ := Option.ne_none_iff_exists'.mp (lookup_ne_none_of_mem h)
      simp [hqueue]
    · simp [hk]

/-- A lane that is not there has no worker. -/
theorem Tended.ofLane_eq_nil (h : s.Tended) (hlane : s.hasLane key = false) :
    ofLane (some key) s.workers = [] := by
  have hlength := h.length_ofLane key
  rw [hlane] at hlength
  exact List.length_eq_zero_iff.mp hlength

/-- A worker that is put behind the others has its job behind theirs. -/
theorem filterMap_ofLane_concat {β : Type} (f : Worker P → Option β) (key? : Option String)
    (workers : List (Worker P)) (w : Worker P) : (ofLane key? (workers ++ [w])).filterMap f =
      (ofLane key? workers).filterMap f ++ (if w.lane? = key? then (f w).toList else []) := by
  rw [filterMap_ofLane_around, ofLane_nil, List.filterMap_nil, List.append_nil]

/-- A job that was submitted joins the end of the line of its lane. -/
theorem Tended.submit (h : s.Tended) (key? : Option String) (job : Job P) :
    (s.submit key? job).Tended ∧
      (∀ k?, (s.submit key? job).line k? =
        if k? = key? then s.line k? ++ [job] else s.line k?) ∧
      (∀ k?, (s.submit key? job).runningIn k? = s.runningIn k?) := by
  have hserved := (h.served.submit key? job).1
  cases key? with
  | none =>
    refine ⟨⟨hserved, h.keys⟩, fun k? => ?_, fun k? => ?_⟩
    · simp only [Lanes.submit, line, filterMap_ofLane_concat]
      by_cases hk : k? = none
      · subst hk
        simp [Worker.job?, queueOf]
      · simp [hk, Ne.symm hk]
    · simp [Lanes.submit, runningIn, filterMap_ofLane_concat, Worker.running?]
  | some key =>
    rw [h.served.submit_eq] at hserved ⊢
    cases hlane : s.hasLane key with
    | true =>
      rw [hlane, if_pos rfl] at hserved
      refine ⟨⟨hserved, by simpa [fst_push] using h.keys⟩, fun k? => ?_, fun _ => rfl⟩
      simp only [if_true, line, queueOf_push (hasLane_iff.mp hlane)]
      split
      · rw [List.append_assoc]
      · rfl
    | false =>
      rw [hlane] at hserved
      have hmem := not_mem_of_hasLane_eq_false hlane
      refine ⟨⟨hserved, ?_⟩, fun k? => ?_, fun k? => ?_⟩
      · simp only [Bool.false_eq_true, if_false, List.map_append, List.map_cons, List.map_nil]
        exact h.keys.append (List.nodup_singleton key) (List.disjoint_singleton.mpr hmem)
      · simp only [Bool.false_eq_true, if_false, line, filterMap_ofLane_concat,
          queueOf_append_new hmem]
        by_cases hk : k? = some key
        · subst hk
          simp [h.ofLane_eq_nil hlane, queueOf, lookup_eq_none_of_not_mem hmem, Worker.job?]
        · simp [hk, Ne.symm hk]
      · simp [runningIn, filterMap_ofLane_concat, Worker.running?]

end Lanes

end ChatCommands
