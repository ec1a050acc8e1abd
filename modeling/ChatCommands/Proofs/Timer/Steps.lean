import ChatCommands.Proofs.Timer.Table
import ChatCommands.Timer.Clock

/-! # Steps of a timer task

Whatever the task does, it keeps the timers that are still armed, in its table or in its inbox. So
none of them is missed when their deadlines pass, nor when the task stops.
-/

namespace ChatCommands

/-- The timer that a message is about. -/
def TimerMessage.id? {J : Type} : TimerMessage J → Option Nat
  | .schedule id _ _ => some id
  | .shutdown => none

namespace Timers

variable {J : Type} {timers : List (Nat × J)} {others : List Nat} {t s : Timers J}
  {id other deadline now : Nat} {job : J} {arm : Arm} {rest : List (TimerMessage J)}

/-- The timers in the table. -/
def listed (t : Timers J) : List Nat :=
  t.table.jobs.map Prod.fst

/-- The timers that the task has yet to hear of. -/
def queued (t : Timers J) : List Nat :=
  t.inbox.filterMap TimerMessage.id?

/-- The timers that the task keeps. -/
def kept (t : Timers J) : List Nat :=
  t.listed ++ t.queued

/-- The task keeps some of the timers that were set, each of them once. -/
structure Tracks (timers : List (Nat × J)) (t : Timers J) : Prop where
  lists : t.table.Lists timers
  inbox : ∀ id deadline job, .schedule id deadline job ∈ t.inbox →
    timers[id]? = some (deadline, job)
  nodup : t.kept.Nodup

/-- A timer that is armed is kept by the task, or is one of the others. -/
def Accounted (others : List Nat) (t : Timers J) : Prop :=
  ∀ id, t.isPending id = true → id ∈ t.kept ∨ id ∈ others

theorem listed_filter (keep : Nat → Bool)
    (hjobs : s.table.jobs = t.table.jobs.filter (keep ·.1)) : s.listed = t.listed.filter keep := by
  rw [listed, hjobs, listed, List.filter_map]
  rfl

theorem isPending_iff : t.isPending id = true ↔ t.arm? id = some .armed := by
  rw [isPending, beq_iff_eq]

theorem mem_queued : id ∈ t.queued ↔ ∃ deadline job, .schedule id deadline job ∈ t.inbox := by
  rw [queued, List.mem_filterMap]
  constructor
  · rintro ⟨message, hmem, hid⟩
    cases message with
    | schedule id deadline job =>
      cases hid
      exact ⟨deadline, job, hmem⟩
    | shutdown => cases hid
  · rintro ⟨deadline, job, hmem⟩
    exact ⟨_, hmem, rfl⟩

/-- The task keeps only timers that were set. -/
theorem Tracks.lt_length (h : t.Tracks timers) (hid : id ∈ t.kept) : id < timers.length := by
  obtain ⟨timer, hset⟩ : ∃ timer, timers[id]? = some timer := by
    rcases List.mem_append.mp hid with hid | hid
    · obtain ⟨⟨_, job⟩, hjob, rfl⟩ := List.mem_map.mp hid
      obtain ⟨deadline, hset⟩ := h.lists.known _ job hjob
      exact ⟨_, hset⟩
    · obtain ⟨deadline, job, hmem⟩ := mem_queued.mp hid
      exact ⟨_, h.inbox id deadline job hmem⟩
  exact (List.getElem?_eq_some_iff.mp hset).1

theorem Tracks.append (h : t.Tracks timers) (more : List (Nat × J)) : t.Tracks (timers ++ more) :=
  ⟨h.lists.append more, fun id deadline job hmem =>
    getElem?_append_of_eq_some (h.inbox id deadline job hmem) more, h.nodup⟩

theorem kept_congr (htable : s.table = t.table) (hinbox : s.inbox = t.inbox) :
    s.kept = t.kept := by
  rw [kept, kept, listed, listed, queued, queued, htable, hinbox]

theorem Tracks.congr (h : t.Tracks timers) (htable : s.table = t.table)
    (hinbox : s.inbox = t.inbox) : s.Tracks timers :=
  ⟨htable ▸ h.lists, hinbox ▸ h.inbox, kept_congr htable hinbox ▸ h.nodup⟩

/-! ## Arms -/

theorem isPending_congr (h : s.arms = t.arms) (id : Nat) : s.isPending id = t.isPending id := by
  rw [isPending, arm?, h, isPending, arm?]

/-- Turning the arm of a timer that is armed ends it; otherwise nothing happens. -/
theorem turn_cases (t : Timers J) (id : Nat) (arm : Arm) :
    (t.isPending id = true ∧ t.turn id arm = (true, { t with arms := t.arms.set id arm })) ∨
    (t.isPending id = false ∧ t.turn id arm = (false, t)) := by
  unfold turn
  split
  · rename_i h
    exact Or.inl ⟨h, rfl⟩
  · rename_i h
    exact Or.inr ⟨by simpa using h, rfl⟩

theorem arms_turn_congr (h : s.arms = t.arms) (id : Nat) (arm : Arm) :
    (s.turn id arm).2.arms = (t.turn id arm).2.arms := by
  rw [turn, turn, isPending_congr h]
  split
  · rw [h]
  · exact h

theorem arm?_set (h : t.isPending id = true) (arm : Arm) (other : Nat) :
    (t.arms.set id arm)[other]? = if other = id then some arm else t.arm? other := by
  have hlt : id < t.arms.length := (List.getElem?_eq_some_iff.mp (isPending_iff.mp h)).1
  rw [List.getElem?_set, if_pos hlt, arm?]
  split
  · rename_i heq
    rw [if_pos heq.symm]
  · rename_i hne
    rw [if_neg (Ne.symm hne)]

/-- A timer that was turned is not armed, and the others are as they were. -/
theorem isPending_set (h : t.isPending id = true) (harm : arm ≠ .armed)
    (hs : s.arms = t.arms.set id arm) :
    s.isPending other = true ↔ other ≠ id ∧ t.isPending other = true := by
  rw [isPending_iff, isPending_iff, arm?, hs, arm?_set h]
  split
  · rename_i heq
    simp [heq, harm]
  · rename_i hne
    simp [hne]

theorem isPending_turn (harm : arm ≠ .armed) :
    (t.turn id arm).2.isPending other = true ↔ other ≠ id ∧ t.isPending other = true := by
  obtain ⟨hp, hturn⟩ | ⟨hp, hturn⟩ := t.turn_cases id arm
  · exact isPending_set hp harm (by rw [hturn])
  · rw [hturn, ne_eq, and_iff_right_of_imp]
    rintro hother rfl
    rw [hp] at hother
    cases hother

theorem handed_turn (t : Timers J) (id : Nat) (arm : Arm) :
    (t.turn id arm).2.handed = t.handed := by
  obtain ⟨-, hturn⟩ | ⟨-, hturn⟩ := t.turn_cases id arm <;> rw [hturn]

theorem length_turn (t : Timers J) (id : Nat) (arm : Arm) :
    (t.turn id arm).2.arms.length = t.arms.length := by
  obtain ⟨-, hturn⟩ | ⟨-, hturn⟩ := t.turn_cases id arm <;> simp [hturn]

theorem kept_turn (t : Timers J) (id : Nat) (arm : Arm) : (t.turn id arm).2.kept = t.kept :=
  kept_congr (turn_eq t id arm).2.1 (turn_eq t id arm).1

theorem Tracks.turn (h : t.Tracks timers) (id : Nat) (arm : Arm) :
    (t.turn id arm).2.Tracks timers :=
  h.congr (turn_eq t id arm).2.1 (turn_eq t id arm).1

theorem Accounted.turn (ha : t.Accounted others) (id : Nat) :
    (t.turn id .cancelled).2.Accounted others := by
  intro other hother
  rw [kept_turn]
  exact ha other ((isPending_turn (by decide)).mp hother).2

/-- A new arm leaves the others as they are. -/
theorem isPending_concat (hs : s.arms = t.arms ++ [arm]) (id : Nat) :
    s.isPending id = true ↔ t.isPending id = true ∨ id = t.arms.length ∧ arm = .armed := by
  rw [isPending_iff, isPending_iff, arm?, arm?, hs, List.getElem?_append]
  split
  · rename_i hlt
    exact ⟨Or.inl, fun h => h.resolve_right fun h => Nat.ne_of_lt hlt h.1⟩
  · rename_i hge
    rw [List.getElem?_eq_none (Nat.not_lt.mp hge), List.getElem?_singleton]
    split <;> simp <;> omega

/-! ## Messages -/

/-- A timer that can be set is armed and reaches the task as long as that runs, and is cancelled on
the spot afterwards. -/
theorem schedule_cases (t : Timers J) (now delay : Nat) (job : J) :
    (horizon < now + delay ∧ t.schedule now delay job = .error .pastHorizon) ∨
    (now + delay ≤ horizon ∧ t.isRunning = true ∧
      t.schedule now delay job = .ok (t.arms.length, { t with
        arms := t.arms ++ [.armed]
        inbox := t.inbox ++ [.schedule t.arms.length (now + delay) job] })) ∨
    (now + delay ≤ horizon ∧ t.isRunning = false ∧
      t.schedule now delay job =
        .ok (t.arms.length, { t with arms := t.arms ++ [.cancelled] })) := by
  simp only [schedule]
  split
  · rename_i h
    exact Or.inl ⟨h, rfl⟩
  · rename_i h
    split
    · rename_i hrunning
      exact Or.inr (Or.inl ⟨Nat.not_lt.mp h, hrunning, rfl⟩)
    · rename_i hrunning
      exact Or.inr (Or.inr ⟨Nat.not_lt.mp h, by simpa using hrunning, rfl⟩)

/-- A message that tells the task to stop reaches it as long as it runs. -/
theorem shutdown_cases (t : Timers J) :
    (t.isRunning = true ∧ t.shutdown = { t with inbox := t.inbox ++ [.shutdown] }) ∨
    (t.isRunning = false ∧ t.shutdown = t) := by
  unfold shutdown
  split
  · rename_i h
    exact Or.inl ⟨h, rfl⟩
  · rename_i h
    exact Or.inr ⟨by simpa using h, rfl⟩

theorem shutdown_eq (t : Timers J) : t.shutdown.arms = t.arms ∧ t.shutdown.phase = t.phase ∧
    t.shutdown.handed = t.handed := by
  obtain ⟨-, hshutdown⟩ | ⟨-, hshutdown⟩ := t.shutdown_cases <;> rw [hshutdown] <;>
    exact ⟨rfl, rfl, rfl⟩

theorem isRunning_congr (h : s.phase = t.phase) : s.isRunning = t.isRunning := by
  rw [isRunning, h, isRunning]

theorem kept_schedule (hs : s.inbox = t.inbox ++ [.schedule id deadline job])
    (htable : s.table = t.table) : s.kept = t.kept ++ [id] := by
  rw [kept, listed, queued, hs, htable, List.filterMap_append, ← List.append_assoc]
  rfl

theorem kept_shutdown (t : Timers J) : t.shutdown.kept = t.kept := by
  obtain ⟨-, hshutdown⟩ | ⟨-, hshutdown⟩ := t.shutdown_cases
  · rw [hshutdown, kept, queued, List.filterMap_append]
    exact congrArg (t.listed ++ ·) (List.append_nil _)
  · rw [hshutdown]

/-- A timer that is set is one more for the task to hear of. -/
theorem Tracks.schedule (h : t.Tracks timers)
    (hs : s.inbox = t.inbox ++ [.schedule id deadline job])
    (htable : s.table = t.table) (hset : timers[id]? = some (deadline, job))
    (hnew : id ∉ t.kept) : s.Tracks timers := by
  refine ⟨htable ▸ h.lists, fun i d j hmem => ?_, ?_⟩
  · rw [hs] at hmem
    rcases List.mem_append.mp hmem with hmem | hmem
    · exact h.inbox i d j hmem
    · cases List.mem_singleton.mp hmem
      exact hset
  · rw [kept_schedule hs htable]
    refine List.nodup_append.mpr ⟨h.nodup, List.nodup_singleton _, fun a ha b hb heq => hnew ?_⟩
    obtain rfl := List.mem_singleton.mp hb
    exact heq ▸ ha

theorem Accounted.schedule (ha : t.Accounted others) (harms : s.arms = t.arms ++ [.armed])
    (hs : s.inbox = t.inbox ++ [.schedule t.arms.length deadline job])
    (htable : s.table = t.table) : s.Accounted others := by
  intro id hid
  rw [kept_schedule hs htable, List.mem_append, List.mem_singleton]
  rcases (isPending_concat harms id).mp hid with hid | ⟨hnew, -⟩
  · exact (ha id hid).imp_left Or.inl
  · exact Or.inl (Or.inr hnew)

theorem Tracks.shutdown (h : t.Tracks timers) : t.shutdown.Tracks timers := by
  refine ⟨?_, fun id deadline job hmem => h.inbox id deadline job ?_, t.kept_shutdown ▸ h.nodup⟩
  · obtain ⟨-, hshutdown⟩ | ⟨-, hshutdown⟩ := t.shutdown_cases <;> rw [hshutdown] <;> exact h.lists
  · obtain ⟨-, hshutdown⟩ | ⟨-, hshutdown⟩ := t.shutdown_cases <;> rw [hshutdown] at hmem
    · simpa using hmem
    · exact hmem

/-- Messages are handled in order. One that sets a timer brings it into the table, and the first
that tells the task to stop is the last one it looks at. -/
theorem receive?_cases (h : t.receive? = some s) :
    (∃ id deadline job, t.inbox = .schedule id deadline job :: s.inbox ∧
      s = { t with inbox := s.inbox, table := t.table.insert id deadline job }) ∨
    (t.inbox = .shutdown :: s.inbox ∧ s = { t with inbox := s.inbox, phase := .stopping }) := by
  unfold Timers.receive? at h
  split at h
  · cases h
  · rename_i id deadline job rest hinbox
    cases h
    exact Or.inl ⟨id, deadline, job, hinbox, rfl⟩
  · rename_i rest hinbox
    cases h
    exact Or.inr ⟨hinbox, rfl⟩

theorem Tracks.not_mem_listed (h : t.Tracks timers)
    (hinbox : t.inbox = .schedule id deadline job :: rest) : id ∉ t.listed := by
  have hqueued : id ∈ t.queued := mem_queued.mpr ⟨deadline, job, hinbox ▸ List.mem_cons_self⟩
  exact fun hlisted => (List.nodup_append.mp h.nodup).2.2 id hlisted id hqueued rfl

/-- A timer that moves from the inbox into the table is kept as before. -/
theorem Tracks.kept_insert (h : t.Tracks timers)
    (hinbox : t.inbox = .schedule id deadline job :: rest) :
    kept { t with inbox := rest, table := t.table.insert id deadline job } = t.kept := by
  have hjobs : (t.table.jobs.filter (·.1 != id)).map Prod.fst = t.listed := by
    rw [List.filter_eq_self.mpr fun entry hentry => ?_, listed]
    have hne : entry.1 ≠ id := fun heq =>
      h.not_mem_listed hinbox (heq ▸ List.mem_map_of_mem hentry)
    simpa using hne
  have hqueued : t.queued = id :: rest.filterMap TimerMessage.id? := by
    rw [queued, hinbox]
    rfl
  rw [kept, listed, TimerTable.insert, List.map_append, hjobs, List.append_assoc, kept, hqueued]
  rfl

theorem Tracks.insert (h : t.Tracks timers)
    (hinbox : t.inbox = .schedule id deadline job :: rest) :
    Tracks timers { t with inbox := rest, table := t.table.insert id deadline job } := by
  have hset := h.inbox id deadline job (hinbox ▸ List.mem_cons_self)
  refine ⟨h.lists.insert hset (h.not_mem_listed hinbox), fun i d j hmem => h.inbox i d j ?_, ?_⟩
  · rw [hinbox]
    exact List.mem_cons_of_mem _ hmem
  · rw [h.kept_insert hinbox]
    exact h.nodup

theorem kept_stop (hinbox : t.inbox = .shutdown :: rest) :
    kept { t with inbox := rest, phase := .stopping } = t.kept := by
  have hqueued : t.queued = rest.filterMap TimerMessage.id? := by
    rw [queued, hinbox]
    rfl
  rw [kept, kept, hqueued]
  rfl

theorem Tracks.receive? (h : t.Tracks timers) (hs : t.receive? = some s) :
    s.Tracks timers ∧ s.kept = t.kept ∧ s.arms = t.arms ∧ s.handed = t.handed := by
  obtain ⟨id, deadline, job, hinbox, heq⟩ | ⟨hinbox, heq⟩ := receive?_cases hs
  · rw [heq]
    exact ⟨h.insert hinbox, h.kept_insert hinbox, rfl, rfl⟩
  · have hkept := kept_stop hinbox
    rw [heq]
    refine ⟨⟨h.lists, fun i d j hmem => h.inbox i d j ?_, hkept ▸ h.nodup⟩, hkept, rfl, rfl⟩
    rw [hinbox]
    exact List.mem_cons_of_mem _ hmem

theorem Accounted.congr (ha : t.Accounted others) (harms : s.arms = t.arms)
    (hkept : s.kept = t.kept) : s.Accounted others := by
  intro id hid
  rw [isPending_congr harms] at hid
  rw [hkept]
  exact ha id hid

/-! ## Firing -/

/-- The first timer of a table that is due leaves it. If it is armed, it is fired and its job is
handed over. -/
theorem fire?_cases (hl : t.table.Lists timers) (h : t.fire? now = some s) :
    ∃ deadline id job, timers[id]? = some (deadline, job) ∧ deadline ≤ now ∧
      t.table.agenda = (deadline, id) :: s.table.agenda ∧
      s.table.jobs = t.table.jobs.filter (·.1 != id) ∧ s.table.Lists timers ∧
      s.inbox = t.inbox ∧ s.phase = .firing now ∧
      ((t.isPending id = true ∧ s.arms = t.arms.set id .fired ∧ s.handed = t.handed ++ [job]) ∨
        (t.isPending id = false ∧ s.arms = t.arms ∧ s.handed = t.handed)) := by
  unfold fire? at h
  split at h
  · cases h
  · rename_i hpop
    obtain ⟨_, _, hjob, _⟩ := hl.popDue? hpop
    cases hjob
  · rename_i id job left hpop
    obtain ⟨deadline, _, hjob, hdue, hset, hagenda, hjobs, hleft⟩ := hl.popDue? hpop
    cases hjob
    refine ⟨deadline, id, job, hset, hdue, ?_⟩
    obtain ⟨hp, hturn⟩ | ⟨hp, hturn⟩ :=
        turn_cases { t with table := left, phase := .firing now } id .fired <;>
      simp only [hturn, Option.some.injEq] at h <;> subst h
    · exact ⟨hagenda, hjobs, hleft, rfl, rfl, Or.inl ⟨hp, rfl, rfl⟩⟩
    · exact ⟨hagenda, hjobs, hleft, rfl, rfl, Or.inr ⟨hp, rfl, rfl⟩⟩

theorem earliest_of_fire?_eq_none (h : t.fire? now = none) :
    ∀ deadline, t.table.earliest? = some deadline → now < deadline := by
  refine TimerTable.popDue?_eq_none ?_
  unfold fire? at h
  split at h
  · assumption
  · cases h
  · simp only at h
    split at h <;> cases h

theorem fire?_eq_none_iff : t.fire? now = none ↔
    ∀ deadline, t.table.earliest? = some deadline → now < deadline := by
  constructor
  · exact earliest_of_fire?_eq_none
  · intro hahead
    unfold fire? TimerTable.popDue?
    unfold TimerTable.earliest? at hahead
    split
    · rfl
    all_goals
      rename_i hpop
      split at hpop
      · cases hpop
      · rename_i hagenda
        have hlt := hahead _ (by rw [hagenda]; rfl)
        rw [if_neg (Nat.not_le.mpr hlt)] at hpop
        cases hpop

theorem Accounted.fire? (ha : t.Accounted others) (hl : t.table.Lists timers)
    (h : t.fire? now = some s) : s.Accounted others := by
  obtain ⟨deadline, id, job, -, -, -, hjobs, -, hinbox, -, harms⟩ := fire?_cases hl h
  intro other hother
  obtain ⟨hne, hother⟩ : other ≠ id ∧ t.isPending other = true := by
    obtain ⟨hp, harms, -⟩ | ⟨hp, harms, -⟩ := harms
    · exact (isPending_set hp (by decide) harms).mp hother
    · rw [isPending_congr harms] at hother
      refine ⟨?_, hother⟩
      rintro rfl
      rw [hp] at hother
      cases hother
  refine (ha other hother).imp_left fun hmem => ?_
  rw [kept, listed_filter (· != id) hjobs]
  rcases List.mem_append.mp hmem with hlisted | hqueued
  · exact List.mem_append_left _ (List.mem_filter.mpr ⟨hlisted, by simpa using hne⟩)
  · exact List.mem_append_right _ (by rwa [queued, hinbox])

theorem Tracks.fire? (h : t.Tracks timers) (hs : t.fire? now = some s) :
    s.Tracks timers ∧ s.kept.Sublist t.kept := by
  obtain ⟨deadline, id, job, -, -, -, hjobs, hlists, hinbox, -⟩ := fire?_cases h.lists hs
  have hkept : s.kept.Sublist t.kept := by
    rw [kept, queued, listed_filter (· != id) hjobs, hinbox]
    exact List.filter_sublist.append_right _
  exact ⟨⟨hlists, hinbox ▸ h.inbox, h.nodup.sublist hkept⟩, hkept⟩

/-! ## Forgetting cancelled timers -/

theorem Accounted.prune (ha : t.Accounted others) {keep : Nat → Bool}
    (hkeep : ∀ id, t.isPending id = true → keep id = true) :
    Accounted others { t with table := t.table.prune keep, phase := .waiting } := by
  intro id hid
  have hpending : t.isPending id = true := by rwa [isPending_congr rfl] at hid
  refine (ha id hpending).imp_left fun hmem => ?_
  rw [kept, listed_filter keep rfl]
  rcases List.mem_append.mp hmem with hmem | hmem
  · exact List.mem_append_left _ (List.mem_filter.mpr ⟨hmem, hkeep _ hpending⟩)
  · exact List.mem_append_right _ hmem

theorem Tracks.prune (h : t.Tracks timers) (keep : Nat → Bool) :
    Tracks timers { t with table := t.table.prune keep, phase := .waiting } ∧
      (kept { t with table := t.table.prune keep, phase := .waiting }).Sublist t.kept := by
  obtain ⟨hlists, -, hjobs⟩ := h.lists.prune keep
  have hkept : (kept { t with table := t.table.prune keep, phase := .waiting }).Sublist t.kept := by
    rw [kept, listed_filter keep hjobs]
    exact List.filter_sublist.append_right _
  exact ⟨⟨hlists, h.inbox, h.nodup.sublist hkept⟩, hkept⟩

/-! ## Stopping -/

/-- When the task stops, it takes out one timer after the other and cancels it. -/
theorem drain_cases (t : Timers J) :
    (∃ id, t.kept = id :: t.drain.kept ∧ t.drain.arms = (t.turn id .cancelled).2.arms ∧
      t.drain.handed = t.handed ∧ t.drain.phase = t.phase) ∨
    (t.drain.kept = t.kept ∧ t.drain.arms = t.arms ∧ t.drain.handed = t.handed ∧
      (t.drain.phase = t.phase ∨ t.kept = [] ∧ t.drain.phase = .finished)) := by
  unfold drain
  split
  · rename_i id job jobs hjobs
    obtain ⟨hinbox, -, hphase⟩ := turn_eq t id .cancelled
    refine Or.inl ⟨id, ?_, rfl, handed_turn t id .cancelled, hphase⟩
    rw [kept, kept, listed, listed, queued, queued, hjobs, hinbox]
    rfl
  · rename_i hjobs
    split
    · rename_i id deadline job inbox hin
      obtain ⟨-, htable, hphase⟩ := turn_eq t id .cancelled
      refine Or.inl ⟨id, ?_, rfl, handed_turn t id .cancelled, hphase⟩
      rw [kept, kept, listed, listed, queued, queued, hin, htable, hjobs]
      rfl
    · rename_i inbox hin
      refine Or.inr ⟨?_, rfl, rfl, Or.inl rfl⟩
      rw [kept, kept, queued, queued, hin]
      rfl
    · rename_i hin
      refine Or.inr ⟨rfl, rfl, rfl, Or.inr ⟨?_, rfl⟩⟩
      rw [kept, listed, queued, hjobs, hin]
      rfl

/-- A timer that is taken out when the task stops is armed no longer. -/
theorem Accounted.drain (ha : t.Accounted others) : t.drain.Accounted others := by
  intro id hid
  rcases t.drain_cases with ⟨first, hkept, harms, -⟩ | ⟨hkept, harms, -⟩
  · rw [isPending_congr harms, isPending_turn (by decide)] at hid
    have hmem := ha id hid.2
    rw [hkept, List.mem_cons] at hmem
    exact hmem.imp_left fun hmem => hmem.resolve_left hid.1
  · rw [isPending_congr harms] at hid
    rw [hkept]
    exact ha id hid

/-! ## The task at work -/

/-- A step of the task at a moment, as long as nobody has told it to stop. -/
inductive TaskStep (clock : Nat) : Timers J → Timers J → Prop
  | receive {t s : Timers J} : t.phase = .waiting → t.receive? = some s → TaskStep clock t s
  /-- The task wakes, and fires the first timer that is due. -/
  | wake {t s : Timers J} : t.phase = .waiting → t.fire? clock = some s → TaskStep clock t s
  /-- The task fires the next timer that was due when it woke. -/
  | fire {t s : Timers J} {now : Nat} : t.phase = .firing now → t.fire? now = some s →
      TaskStep clock t s
  /-- The task forgets cancelled timers, but maybe not those that are cancelled just then. -/
  | rest {t : Timers J} {now : Nat} (keep : Nat → Bool) : t.phase = .firing now →
      t.fire? now = none → (∀ id, t.isPending id = true → keep id = true) →
      TaskStep clock t { t with table := t.table.prune keep, phase := .waiting }

theorem fire?_ends (h : t.fire? now = some s) : (s.arms = t.arms ∧ s.handed = t.handed) ∨
    ∃ id job, t.isPending id = true ∧ s.arms = t.arms.set id .fired ∧
      s.handed = t.handed ++ [job] := by
  unfold fire? at h
  split at h
  · cases h
  · cases h
    exact Or.inl ⟨rfl, rfl⟩
  · rename_i id job table _
    rcases turn_cases { t with table := table, phase := .firing now } id .fired with
      ⟨hp, hturn⟩ | ⟨-, hturn⟩
    · simp only [hturn] at h
      cases h
      exact Or.inr ⟨id, job, hp, rfl, rfl⟩
    · simp only [hturn] at h
      cases h
      exact Or.inl ⟨rfl, rfl⟩

/-- The task ends a timer only by firing it, and hands its job over then. -/
theorem TaskStep.ends {clock : Nat} (h : TaskStep clock t s) :
    (s.arms = t.arms ∧ s.handed = t.handed) ∨
    ∃ id job, t.isPending id = true ∧ s.arms = t.arms.set id .fired ∧
      s.handed = t.handed ++ [job] := by
  cases h with
  | receive _ hreceive =>
    rcases receive?_cases hreceive with ⟨_, _, _, -, hs⟩ | ⟨-, hs⟩
    · rw [hs]
      exact Or.inl ⟨rfl, rfl⟩
    · rw [hs]
      exact Or.inl ⟨rfl, rfl⟩
  | wake _ hfire => exact fire?_ends hfire
  | fire _ hfire => exact fire?_ends hfire
  | rest _ _ _ _ => exact Or.inl ⟨rfl, rfl⟩

end Timers

end ChatCommands
