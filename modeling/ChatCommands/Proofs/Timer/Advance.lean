import Mathlib.Data.Nat.Basic
import Mathlib.Order.Basic
import ChatCommands.Proofs.Timer.Steps

/-! # A timer task as time passes

The task handles its messages, and then fires what is due, one deadline after the other. If it finds
a message that tells it to stop, it fires nothing and cancels all that it has.
-/

namespace ChatCommands

namespace TimedTimers

variable {J : Type} {timers : List (Nat × J)} {t s : Timers J} {clock target moment : Nat}

theorem advance_of_none (h : t.next? clock = none) (target : Nat) :
    advance target ⟨clock, t⟩ = ([], ⟨target, t⟩) := by
  rw [advance]
  split
  · rfl
  · rename_i hs
    rw [h] at hs
    cases hs

theorem advance_of_some (h : t.next? clock = some (moment, s)) (target : Nat) :
    advance target ⟨clock, t⟩ =
      if moment ≤ target then
        (s.handed.map (fun job => (moment, job)) ++
          (advance target ⟨moment, { s with handed := [] }⟩).1,
          (advance target ⟨moment, { s with handed := [] }⟩).2)
      else ([], ⟨target, t⟩) := by
  rw [advance]
  split
  · rename_i hs
    rw [h] at hs
    cases hs
  · rename_i hs
    rw [h] at hs
    cases hs
    rfl

/-- The clock ends at the moment up to which time passes. -/
theorem clock_advance (target : Nat) (t : TimedTimers J) : (t.advance target).2.clock = target := by
  induction t using advance.induct target with
  | case1 t hnext => rw [advance_of_none hnext]
  | case2 t moment s hnext hle ih =>
    rw [advance_of_some hnext, if_pos hle]
    exact ih
  | case3 t moment s hnext hlt => rw [advance_of_some hnext, if_neg hlt]

/-- A step that needs no time and hands nothing over goes unseen. -/
theorem advance_of_act? (h : t.act? clock = some s) (hhanded : s.handed = [])
    (hclock : clock ≤ target) : advance target ⟨clock, t⟩ = advance target ⟨clock, s⟩ := by
  have hnext : t.next? clock = some (clock, s) := by
    unfold Timers.next?
    rw [h]
  have hs : { s with handed := [] } = s := by rw [← hhanded]
  rw [advance_of_some hnext, if_pos hclock, hs, hhanded]
  rfl

/-! ## Stopping -/

/-- The task has stopped and has no timer left. -/
structure Stopped (t : Timers J) : Prop where
  phase : t.phase = .finished
  handed : t.handed = []
  unarmed : ∀ id, t.isPending id = false

theorem Stopped.advance (h : Stopped t) (clock target : Nat) :
    advance target ⟨clock, t⟩ = ([], ⟨target, t⟩) := by
  refine advance_of_none ?_ target
  have hact : ∀ now, t.act? now = none := fun now => by rw [Timers.act?, h.phase]
  unfold Timers.next?
  rw [hact]
  cases t.table.earliest? with
  | none => rfl
  | some deadline => simp [hact]

/-- Whatever is armed when the task begins to take its timers out is cancelled. -/
theorem advance_draining (t : Timers J) (hp : t.phase = .draining) (hhanded : t.handed = [])
    (ha : t.Accounted []) (hclock : clock ≤ target) :
    ∃ u, advance target ⟨clock, t⟩ = ([], ⟨target, u⟩) ∧ Stopped u ∧
      u.arms.length = t.arms.length := by
  have hact : t.act? clock = some t.drain := by rw [Timers.act?, hp]
  have hless := Timers.stepsLeft_drain hp
  have hdrained := ha.drain
  rcases t.drain_cases with ⟨id, -, harms, hkept, hphase⟩ |
    ⟨-, harms, hkept, hphase | ⟨hnone, hphase⟩⟩
  · rw [advance_of_act? hact (hkept.trans hhanded) hclock]
    obtain ⟨u, hu, hstopped, hlength⟩ :=
      advance_draining t.drain (hphase.trans hp) (hkept.trans hhanded) hdrained hclock
    exact ⟨u, hu, hstopped, by rw [hlength, harms, Timers.length_turn]⟩
  · rw [advance_of_act? hact (hkept.trans hhanded) hclock]
    obtain ⟨u, hu, hstopped, hlength⟩ :=
      advance_draining t.drain (hphase.trans hp) (hkept.trans hhanded) hdrained hclock
    exact ⟨u, hu, hstopped, by rw [hlength, harms]⟩
  · have hunarmed : ∀ id, t.drain.isPending id = false := by
      intro id
      rw [Timers.isPending_congr harms, Bool.eq_false_iff]
      intro hid
      have hmem := ha id hid
      rw [hnone] at hmem
      simp at hmem
    have hstopped : Stopped t.drain := ⟨hphase, hkept.trans hhanded, hunarmed⟩
    rw [advance_of_act? hact (hkept.trans hhanded) hclock, hstopped.advance]
    exact ⟨t.drain, rfl, hstopped, by rw [harms]⟩
termination_by t.stepsLeft

theorem advance_stopping (hp : t.phase = .stopping) (hhanded : t.handed = []) (ha : t.Accounted [])
    (hclock : clock ≤ target) : ∃ u, advance target ⟨clock, t⟩ = ([], ⟨target, u⟩) ∧ Stopped u ∧
      u.arms.length = t.arms.length := by
  have hact : t.act? clock = some t.close := by rw [Timers.act?, hp]
  rw [advance_of_act? hact hhanded hclock]
  exact advance_draining t.close rfl hhanded ha hclock

/-! ## Handling messages -/

theorem act?_of_receive? (hp : t.phase = .waiting) (h : t.receive? = some s) (now : Nat) :
    t.act? now = some s := by
  rw [Timers.act?, hp, h]
  rfl

/-- A message that tells the task to stop is the last that it looks at. -/
theorem advance_told (h : t.Tracks timers) (hp : t.phase = .waiting) (hhanded : t.handed = [])
    (ha : t.Accounted []) (htold : .shutdown ∈ t.inbox) (hclock : clock ≤ target) :
    ∃ u, advance target ⟨clock, t⟩ = ([], ⟨target, u⟩) ∧ Stopped u ∧
      u.arms.length = t.arms.length := by
  induction hinbox : t.inbox generalizing t with
  | nil =>
    rw [hinbox] at htold
    cases htold
  | cons message rest ih =>
    cases message with
    | schedule id deadline job =>
      have hact := act?_of_receive? hp (by rw [Timers.receive?, hinbox]) clock
      rw [advance_of_act? hact hhanded hclock]
      refine ih (h.insert hinbox) hp hhanded (ha.congr rfl (h.kept_insert hinbox)) ?_ rfl
      rw [hinbox] at htold
      exact (List.mem_cons.mp htold).resolve_left (by simp)
    | shutdown =>
      have hact := act?_of_receive? hp (by rw [Timers.receive?, hinbox]) clock
      rw [advance_of_act? hact hhanded hclock]
      exact advance_stopping rfl hhanded (ha.congr rfl (Timers.kept_stop hinbox)) hclock

/-- The task looks at all of its messages if none of them tells it to stop. -/
theorem advance_heard (h : t.Tracks timers) (hp : t.phase = .waiting) (hhanded : t.handed = [])
    (ha : t.Accounted []) (htold : .shutdown ∉ t.inbox) (hclock : clock ≤ target) :
    ∃ u, advance target ⟨clock, t⟩ = advance target ⟨clock, u⟩ ∧ u.phase = .waiting ∧
      u.handed = [] ∧ u.inbox = [] ∧ u.arms = t.arms ∧ u.Tracks timers ∧ u.Accounted [] := by
  induction hinbox : t.inbox generalizing t with
  | nil => exact ⟨t, rfl, hp, hhanded, hinbox, rfl, h, ha⟩
  | cons message rest ih =>
    rw [hinbox] at htold
    cases message with
    | schedule id deadline job =>
      have hact := act?_of_receive? hp (by rw [Timers.receive?, hinbox]) clock
      rw [advance_of_act? hact hhanded hclock]
      exact ih (h.insert hinbox) hp hhanded (ha.congr rfl (h.kept_insert hinbox))
        (fun hmem => htold (List.mem_cons_of_mem _ hmem)) rfl
    | shutdown => exact absurd List.mem_cons_self htold

/-! ## Firing -/

/-- The timers that fire by the moment `target` if nothing is done before, in order. -/
def due (t : Timers J) (target : Nat) : List Nat :=
  (t.table.agenda.filter fun entry => entry.1 ≤ target && t.isPending entry.2).map Prod.snd

/-- The task has no messages left, and has missed no deadline of a timer that is armed. -/
structure Heard (timers : List (Nat × J)) (clock : Nat) (t : Timers J) : Prop where
  lists : t.table.Lists timers
  inbox : t.inbox = []
  handed : t.handed = []
  accounted : t.Accounted []
  ahead : ∀ id deadline job, t.isPending id = true → timers[id]? = some (deadline, job) →
    clock ≤ deadline

theorem Heard.mem_agenda (h : Heard timers clock t) {id deadline : Nat} {job : J}
    (hid : t.isPending id = true) (hset : timers[id]? = some (deadline, job)) :
    (deadline, id) ∈ t.table.agenda := by
  have hmem := (h.accounted id hid).resolve_right (by simp)
  rw [Timers.kept, Timers.queued, h.inbox, List.filterMap_nil, List.append_nil] at hmem
  obtain ⟨⟨other, kept⟩, hkept, rfl⟩ := List.mem_map.mp hmem
  obtain ⟨d, hknown⟩ := h.lists.known other kept hkept
  rw [hknown] at hset
  cases hset
  exact (h.lists.mem_agenda _ _).mpr ⟨_, hkept, hknown⟩

theorem Heard.rest (h : Heard timers clock t) : Heard timers clock t.rest where
  lists := (h.lists.prune t.isPending).1
  inbox := h.inbox
  handed := h.handed
  accounted := h.accounted.prune fun _ => id
  ahead id deadline job hid := h.ahead id deadline job (by rwa [Timers.isPending_congr rfl] at hid)

/-- Forgetting cancelled timers makes nothing less due. -/
theorem due_rest (hl : t.table.Lists timers) (target : Nat) : due t.rest target = due t target := by
  obtain ⟨-, hagenda, -⟩ := hl.prune t.isPending
  have hpending : t.rest.isPending = t.isPending := funext (Timers.isPending_congr rfl)
  rw [due, due, hpending, Timers.rest, hagenda, List.filter_filter]
  refine congrArg (List.map Prod.snd) (List.filter_congr fun entry _ => ?_)
  cases t.isPending entry.2 <;> simp

theorem Heard.earliest?_of_fire? (h : Heard timers clock t) {now : Nat}
    (hs : t.fire? now = some s) :
    ∃ deadline, t.table.earliest? = some deadline ∧ deadline ≤ now := by
  obtain ⟨deadline, id, job, -, hle, hagenda, -⟩ := Timers.fire?_cases h.lists hs
  exact ⟨deadline, by rw [TimerTable.earliest?, hagenda]; rfl, hle⟩

/-- A task that waits and has no messages fires the first timer as soon as it is due. -/
theorem Heard.next?_of_waiting (h : Heard timers clock t) (hp : t.phase = .waiting) :
    (t.table.agenda = [] ∧ t.next? clock = none) ∨
    ∃ deadline s, t.table.earliest? = some deadline ∧ t.fire? (max clock deadline) = some s ∧
      t.next? clock = some (max clock deadline, s) := by
  have hact : ∀ now, t.act? now = t.fire? now := by
    intro now
    rw [Timers.act?, hp, Timers.receive?, h.inbox]
    rfl
  cases hfire : t.fire? clock with
  | some s =>
    obtain ⟨deadline, hearliest, hle⟩ := h.earliest?_of_fire? hfire
    refine Or.inr ⟨deadline, s, hearliest, ?_, ?_⟩
    · rwa [Nat.max_eq_left hle]
    · rw [Timers.next?, hact, hfire, Nat.max_eq_left hle]
  | none =>
    cases hearliest : t.table.earliest? with
    | none =>
      refine Or.inl ⟨?_, ?_⟩
      · exact List.head?_eq_none_iff.mp (Option.map_eq_none_iff.mp hearliest)
      · simp [Timers.next?, hact, hfire, hearliest]
    | some deadline =>
      have hlater := Timers.earliest_of_fire?_eq_none hfire deadline hearliest
      obtain ⟨s, hs⟩ : ∃ s, t.fire? deadline = some s := by
        refine Option.ne_none_iff_exists'.mp fun hnone => ?_
        exact Nat.lt_irrefl _ (Timers.earliest_of_fire?_eq_none hnone deadline hearliest)
      refine Or.inr ⟨deadline, s, rfl, ?_, ?_⟩
      · rwa [Nat.max_eq_right hlater.le]
      · simp [Timers.next?, hact, hfire, hearliest, hs, Nat.max_eq_right hlater.le]

/-- What the task does next when it has no messages. -/
theorem Heard.next?_cases (h : Heard timers clock t)
    (hp : t.phase = .waiting ∨ t.phase = .firing clock) :
    (t.table.agenda = [] ∧ t.phase = .waiting ∧ t.next? clock = none) ∨
    t.next? clock = some (clock, t.rest) ∨
    ∃ deadline s, t.table.earliest? = some deadline ∧ t.fire? (max clock deadline) = some s ∧
      (t.phase = .waiting ∨ deadline ≤ clock) ∧ t.next? clock = some (max clock deadline, s) := by
  rcases hp with hp | hp
  · rcases h.next?_of_waiting hp with ⟨hagenda, hnext⟩ | ⟨deadline, s, hearliest, hs, hnext⟩
    · exact Or.inl ⟨hagenda, hp, hnext⟩
    · exact Or.inr (Or.inr ⟨deadline, s, hearliest, hs, Or.inl hp, hnext⟩)
  · have hact : t.act? clock = some ((t.fire? clock).getD t.rest) := by rw [Timers.act?, hp]
    cases hfire : t.fire? clock with
    | none =>
      refine Or.inr (Or.inl ?_)
      rw [Timers.next?, hact, hfire]
      rfl
    | some s =>
      obtain ⟨deadline, hearliest, hle⟩ := h.earliest?_of_fire? hfire
      refine Or.inr (Or.inr ⟨deadline, s, hearliest, ?_, Or.inr hle, ?_⟩)
      · rwa [Nat.max_eq_left hle]
      · rw [Timers.next?, hact, hfire, Nat.max_eq_left hle]
        rfl

theorem due_of_agenda {deadline id : Nat}
    (hagenda : t.table.agenda = (deadline, id) :: s.table.agenda)
    (hpending : ∀ entry ∈ s.table.agenda, s.isPending entry.2 = t.isPending entry.2)
    (target : Nat) :
    due t target =
      if deadline ≤ target ∧ t.isPending id = true then id :: due s target else due s target := by
  have hsame : s.table.agenda.filter (fun entry => entry.1 ≤ target && t.isPending entry.2) =
      s.table.agenda.filter (fun entry => entry.1 ≤ target && s.isPending entry.2) :=
    List.filter_congr fun entry hentry => by rw [hpending entry hentry]
  rw [due, hagenda, List.filter_cons, hsame]
  simp only [Bool.and_eq_true, decide_eq_true_eq]
  split <;> rfl

/-- What becomes of the timer whose deadline comes first. If it is armed, its job is handed over at
its deadline. -/
inductive Passes (timers : List (Nat × J)) (moment : Nat) (t s : Timers J) : Prop
  | fired (id : Nat) (job : J) : timers[id]? = some (moment, job) → s.handed = [job] →
      (∀ other, s.arm? other = if other = id then some .fired else t.arm? other) →
      (∀ target, moment ≤ target → due t target = id :: due s target) → Passes timers moment t s
  | dropped : s.handed = [] → s.arms = t.arms →
      (∀ target, due t target = due s target) → Passes timers moment t s

/-- Whatever is armed when the first timer has left was armed before, and so is behind it in the
agenda. -/
theorem Heard.left (h : Heard timers clock t) {deadline id : Nat}
    (hagenda : t.table.agenda = (deadline, id) :: s.table.agenda) (hlists : s.table.Lists timers)
    (hinbox : s.inbox = t.inbox) (haccounted : s.Accounted [])
    (hpending : ∀ other, s.isPending other = true → t.isPending other = true) :
    Heard timers (max clock deadline) { s with handed := [] } := by
  have hsorted := hagenda ▸ h.lists.sorted
  refine ⟨hlists, hinbox.trans h.inbox, rfl, haccounted, fun other later job hid hother => ?_⟩
  have hid := hpending other hid
  have hclock := h.ahead other later job hid hother
  have hmem := h.mem_agenda hid hother
  rw [hagenda] at hmem
  rcases List.mem_cons.mp hmem with heq | hmem
  · cases heq
    exact max_le hclock (Nat.le_refl _)
  · have hsooner := (List.pairwise_cons.mp hsorted).1 _ hmem
    simp only [Sooner] at hsooner
    omega

theorem Heard.fire? (h : Heard timers clock t) {deadline : Nat}
    (hearliest : t.table.earliest? = some deadline) (hs : t.fire? (max clock deadline) = some s) :
    Heard timers (max clock deadline) { s with handed := [] } ∧
      s.phase = .firing (max clock deadline) ∧ s.arms.length = t.arms.length ∧
      Passes timers (max clock deadline) t s := by
  have haccounted := h.accounted.fire? h.lists hs
  obtain ⟨d, id, job, hset, -, hagenda, hjobs, hlists, hinbox, hphase, harms⟩ :=
    Timers.fire?_cases h.lists hs
  obtain rfl : d = deadline := by
    rw [TimerTable.earliest?, hagenda] at hearliest
    exact Option.some.inj hearliest
  have hleft := h.left hagenda hlists hinbox haccounted
  have hothers : ∀ entry ∈ s.table.agenda, entry.2 ≠ id := by
    intro entry hentry
    rw [← h.lists.agenda_filter hagenda] at hentry
    simpa using (List.mem_filter.mp hentry).2
  rcases harms with ⟨hid, harms, hhanded⟩ | ⟨hid, harms, hhanded⟩
  · have harm : ∀ other, s.arm? other = if other = id then some .fired else t.arm? other := by
      intro other
      rw [Timers.arm?, harms, Timers.arm?_set hid]
    have hpending : ∀ {other}, s.isPending other = true ↔ other ≠ id ∧ t.isPending other = true :=
      Timers.isPending_set hid (by decide) harms
    have hmoment : max clock d = d := Nat.max_eq_right (h.ahead id d job hid hset)
    refine ⟨hleft fun other hother => (hpending.mp hother).2, hphase, ?_, ?_⟩
    · rw [harms, List.length_set]
    · refine .fired id job (by rw [hmoment, hset]) ?_ harm fun target htarget => ?_
      · rw [hhanded, h.handed, List.nil_append]
      · rw [due_of_agenda hagenda (fun entry hentry => ?_), if_pos ⟨hmoment ▸ htarget, hid⟩]
        rw [Bool.eq_iff_iff, hpending]
        exact and_iff_right (hothers entry hentry)
  · have hpending := Timers.isPending_congr harms
    refine ⟨hleft fun other hother => hpending other ▸ hother, hphase, by rw [harms], ?_⟩
    refine .dropped (hhanded.trans h.handed) harms fun target => ?_
    rw [due_of_agenda hagenda (fun entry _ => hpending entry.2), if_neg (by simp [hid])]

/-- Nothing fires before the first deadline. -/
theorem due_eq_nil (hl : t.table.Lists timers) {deadline : Nat}
    (hearliest : t.table.earliest? = some deadline) (hlater : target < deadline) :
    due t target = [] := by
  rw [due, List.map_eq_nil_iff, List.filter_eq_nil_iff]
  intro entry hentry
  obtain ⟨first, hfirst, hle⟩ := hl.earliest?_le hentry
  cases hearliest.symm.trans hfirst
  simp [Nat.not_le.mpr (Nat.lt_of_lt_of_le hlater hle)]

/-- The task has dealt with everything up to the moment `target`: what was due of `t` has fired. -/
structure Fired (timers : List (Nat × J)) (target : Nat) (t u : Timers J) : Prop where
  phase : u.phase = .waiting
  lists : u.table.Lists timers
  inbox : u.inbox = []
  handed : u.handed = []
  accounted : u.Accounted []
  length : u.arms.length = t.arms.length
  arm? : ∀ id, u.arm? id = if id ∈ due t target then some .fired else t.arm? id

/-- Time lets the task fire all that is due, in the order of the deadlines, and nothing else. -/
theorem Heard.advance {clock : Nat} (t : Timers J) (h : Heard timers clock t)
    (hp : t.phase = .waiting ∨ t.phase = .firing clock) (hclock : clock ≤ target) :
    ∃ out u, advance target ⟨clock, t⟩ = (out, ⟨target, u⟩) ∧
      out.map some = (due t target).map (timers[·]?) ∧ Fired timers target t u := by
  rcases h.next?_cases hp with
    ⟨hnone, hwaiting, hnext⟩ | hnext | ⟨deadline, s, hearliest, hs, hearly, hnext⟩
  · have hdue : due t target = [] := by
      rw [due, hnone]
      rfl
    rw [advance_of_none hnext, hdue]
    refine ⟨[], t, rfl, rfl, hwaiting, h.lists, h.inbox, h.handed, h.accounted, rfl, ?_⟩
    simp [hdue]
  · have hless := Timers.stepsLeft_next? hnext
    obtain ⟨out, u, hu, hout, hfired⟩ := Heard.advance t.rest h.rest (Or.inl rfl) hclock
    have hhanded : { t.rest with handed := [] } = t.rest := by rw [← h.rest.handed]
    rw [due_rest h.lists] at hout
    refine ⟨out, u, ?_, hout, ?_⟩
    · rw [advance_of_some hnext, if_pos hclock, hhanded, hu, h.rest.handed]
      rfl
    · obtain ⟨hphase, hlists, hinbox, hhanded, haccounted, hlength, harm⟩ := hfired
      rw [due_rest h.lists] at harm
      exact ⟨hphase, hlists, hinbox, hhanded, haccounted, hlength, harm⟩
  · have hless := Timers.stepsLeft_next? hnext
    by_cases hle : max clock deadline ≤ target
    · obtain ⟨hheard, hphase, hlength, hpasses⟩ := h.fire? hearliest hs
      have hless : Timers.stepsLeft { s with handed := [] } < t.stepsLeft := hless
      obtain ⟨out, u, hu, hout, hfired⟩ :=
        Heard.advance { s with handed := [] } hheard (Or.inr hphase) hle
      rw [advance_of_some hnext, if_pos hle, hu]
      have hout : out.map some = (due s target).map (timers[·]?) := hout
      have harms : ∀ id, u.arm? id = if id ∈ due s target then some .fired else s.arm? id :=
        hfired.arm?
      cases hpasses with
      | fired id job hset hhanded harm hdue =>
        refine ⟨_, u, rfl, ?_, { hfired with length := hfired.length.trans hlength, arm? := ?_ }⟩
        · simp [hhanded, hdue target hle, hout, hset]
        · intro other
          rw [harms, harm, hdue target hle]
          by_cases heq : other = id <;> simp [heq]
      | dropped hhanded hkept hdue =>
        refine ⟨_, u, rfl, ?_, { hfired with length := hfired.length.trans hlength, arm? := ?_ }⟩
        · simp [hhanded, hdue target, hout]
        · intro other
          rw [harms, hdue target, Timers.arm?, hkept, Timers.arm?]
    · have hwaiting : t.phase = .waiting := hearly.resolve_right fun hearly => hle (by
        rwa [Nat.max_eq_left hearly])
      have hdue : due t target = [] := due_eq_nil h.lists hearliest (by omega)
      rw [advance_of_some hnext, if_neg hle, hdue]
      refine ⟨[], t, rfl, rfl, hwaiting, h.lists, h.inbox, h.handed, h.accounted, rfl, ?_⟩
      simp [hdue]
termination_by t.stepsLeft

end TimedTimers

end ChatCommands
