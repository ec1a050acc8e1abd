import ChatCommands.Proofs.Timeout.History

/-! # The calls of a timeout

Every arm that is left alone for its whole duration makes one call, at its deadline, with the
callback that is set by then, and nothing else makes one.
-/

namespace ChatCommands

namespace TimeoutRun

open TimeoutAct

variable {C : Type} {duration : Duration} {enabled : Bool} {acts : List (TimeoutAct C)}
  {act : TimeoutAct C} {arm? : Option TimeoutArm} {ran : List (TimeoutArm × Option C)}

/-- Arms that have run out one after the other, before the one that stands was set, and the calls
that they made. -/
structure Called (duration : Duration) (enabled : Bool) (acts : List (TimeoutAct C))
    (ran : List (TimeoutArm × Option C)) : Prop where
  sorted : ran.Pairwise fun one other => one.1.place < other.1.place
  mem_iff : ∀ arm set?, (arm, set?) ∈ ran ↔ RunsOut duration enabled acts arm set?
  calls : (after duration enabled acts).calls =
    ran.filterMap fun one => one.2.map fun callback => (one.1.deadline, callback)
  before : ∀ arm, Stands duration enabled acts arm → ∀ one ∈ ran, one.1.place < arm.place

theorem called_nil : Called duration enabled ([] : List (TimeoutAct C)) [] :=
  ⟨.nil, fun _ _ => by simp [not_runsOut_nil], rfl, by simp⟩

theorem Called.place_lt (h : Called duration enabled acts ran) {one : TimeoutArm × Option C}
    (hone : one ∈ ran) : one.1.place < acts.length :=
  ((h.mem_iff one.1 one.2).mp hone).place_lt

/-- No call is made by an act before whose end no arm runs out. -/
theorem Called.of_quiet (h : Called duration enabled acts ran)
    (hcalls : (after duration enabled (acts ++ [act])).calls = (after duration enabled acts).calls)
    (hahead : ∀ nanos arm, act = .advance nanos → Stands duration enabled acts arm →
      elapsed acts + nanos < arm.deadline) : Called duration enabled (acts ++ [act]) ran := by
  constructor
  · exact h.sorted
  · intro arm set?
    rw [h.mem_iff, runsOut_concat]
    refine (or_iff_left ?_).symm
    rintro ⟨nanos, hact, hstands, hle, -⟩
    exact absurd (hahead nanos arm hact hstands) (Nat.not_lt.mpr hle)
  · rw [hcalls, h.calls]
  · intro arm harm one hone
    rcases stands_concat.mp harm with ⟨-, hplace, -⟩ | ⟨hstands, -⟩
    · rw [hplace]
      exact h.place_lt hone
    · exact h.before arm hstands one hone

/-- Time that comes to the deadline of the arm that stands makes it run out. -/
theorem Called.of_due (h : Called duration enabled acts ran) {arm : TimeoutArm} {nanos : Nat}
    (harm : Matches duration enabled acts (some arm)) (hle : arm.deadline ≤ elapsed acts + nanos)
    (hcalls : (after duration enabled (acts ++ [.advance nanos])).calls =
      (after duration enabled acts).calls ++
        ((TimeoutAct.callback? acts).map fun callback => (arm.deadline, callback)).toList) :
    Called duration enabled (acts ++ [.advance nanos])
      (ran ++ [(arm, TimeoutAct.callback? acts)]) := by
  have hstands := (harm.stands_iff arm).mpr rfl
  constructor
  · rw [List.pairwise_append]
    refine ⟨h.sorted, List.pairwise_singleton _ _, fun one hone other hother => ?_⟩
    rw [List.mem_singleton.mp hother]
    exact h.before arm hstands one hone
  · intro other set?
    rw [List.mem_append, List.mem_singleton, Prod.mk.injEq, h.mem_iff, runsOut_concat]
    refine or_congr_right ?_
    constructor
    · rintro ⟨rfl, rfl⟩
      exact ⟨nanos, rfl, hstands, hle, rfl⟩
    · rintro ⟨_, -, hother, -, rfl⟩
      exact ⟨(Option.some.inj ((harm.stands_iff other).mp hother)).symm, rfl⟩
  · rw [hcalls, h.calls, List.filterMap_append]
    cases TimeoutAct.callback? acts <;> rfl
  · intro other hother
    rcases stands_concat.mp hother with ⟨harms, -⟩ | ⟨hother, -, hahead⟩
    · cases harms.1
    · cases (harm.stands_iff other).mp hother
      exact absurd (hahead nanos rfl) (Nat.not_lt.mpr hle)

theorem Called.concat (h : Called duration enabled acts ran)
    (hmatches : Matches duration enabled acts arm?) (act : TimeoutAct C) :
    ∃ later, Called duration enabled (acts ++ [act]) later := by
  have hclock := clock_after duration enabled acts
  cases act with
  | advance nanos =>
    obtain ⟨later, -, ⟨timer, htimer, hle, hpassed, -⟩ | ⟨hahead, hpassed, -⟩⟩ :=
      hmatches.tended.advance nanos
    · obtain ⟨arm, rfl, rfl⟩ := Option.map_eq_some_iff.mp htimer
      refine ⟨_, h.of_due hmatches (hclock ▸ hle) ?_⟩
      rw [after_concat, perform, hpassed, callback?_after]
      cases TimeoutAct.callback? acts <;> rfl
    · refine ⟨ran, h.of_quiet ?_ ?_⟩
      · rw [after_concat, perform, hpassed]
        exact List.append_nil _
      · intro other arm hother hstands
        cases hother
        rw [← hclock]
        exact hahead _ (by rw [(hmatches.stands_iff arm).mp hstands]; rfl)
  | start | startWith _ | stop | restart | onTimeout _ | drop =>
    refine ⟨ran, h.of_quiet ?_ (by simp)⟩
    rw [after_concat]
    exact (frame_perform _ _).calls (by simp)

theorem exists_called (duration : Duration) (enabled : Bool) (acts : List (TimeoutAct C)) :
    ∃ ran, Called duration enabled acts ran := by
  induction acts using List.reverseRecOn with
  | nil => exact ⟨[], called_nil⟩
  | append_singleton acts act ih =>
    obtain ⟨ran, hran⟩ := ih
    obtain ⟨arm?, harm⟩ := exists_matches duration enabled acts
    exact hran.concat harm act

theorem Stands.unique {arm other : TimeoutArm} (h : Stands duration enabled acts arm)
    (hother : Stands duration enabled acts other) : arm = other := by
  obtain ⟨arm?, harm⟩ := exists_matches duration enabled acts
  rw [harm.stands_iff] at h hother
  exact Option.some.inj (h.symm.trans hother)

/-- An arm that stands has not run out. -/
theorem Stands.not_runsOut {arm : TimeoutArm} (h : Stands duration enabled acts arm)
    (set? : Option C) : ¬RunsOut duration enabled acts arm set? := by
  intro hruns
  obtain ⟨ran, hran⟩ := exists_called duration enabled acts
  exact Nat.lt_irrefl _ (hran.before arm h _ ((hran.mem_iff arm set?).mpr hruns))

/-! ## What may be relied upon -/

/-- An act that may arm the timeout sets a timer if that is enabled and still there and no arm
stands in the way, and is refused otherwise. -/
theorem answer_of_arming (hact : act.Arming) :
    (enabled = true ∧ .drop ∉ acts ∧ (act = .restart ∨ ∀ arm, ¬Stands duration enabled acts arm)) ∧
      answer duration enabled acts act = some (Timeout.settled (elapsed acts +
        (act.duration (after duration enabled acts).timeout.duration).nanos)) ∨
    ¬(enabled = true ∧ .drop ∉ acts ∧
        (act = .restart ∨ ∀ arm, ¬Stands duration enabled acts arm)) ∧
      (answer duration enabled acts act = none ∨
        answer duration enabled acts act = some (.ok false)) := by
  obtain ⟨arm?, harm⟩ := exists_matches duration enabled acts
  have hnone : (∀ arm, ¬Stands duration enabled acts arm) ↔
      arm?.map (fun arm => (arm.deadline, ())) = none := by
    rw [Option.map_eq_none_iff, Option.eq_none_iff_forall_ne_some]
    simp only [harm.stands_iff, ne_eq]
  have hable := enabled_after duration enabled acts
  rw [hnone, ← clock_after duration enabled acts]
  by_cases hdropped : .drop ∈ acts
  · have hnot : ∀ nanos, act ≠ .advance nanos := by
      rintro nanos rfl
      cases hact
    refine Or.inr ⟨fun h => h.2.1 hdropped, Or.inl ?_⟩
    rw [answer, perform_of_dropped (dropped_after_iff.mpr hdropped) hnot]
  · rw [and_iff_right hdropped, answer]
    cases hact with
    | start =>
      have hperform : (after duration enabled acts).perform .start = take _ _ :=
        perform_eq hdropped _
      rw [hperform, take, harm.tended.fst_start, hable]
      split <;> simp_all [TimeoutAct.duration]
    | startWith next =>
      have hperform : (after duration enabled acts).perform (.startWith next) = take _ _ :=
        perform_eq hdropped _
      rw [hperform, take, harm.tended.fst_startWith, hable]
      split <;> simp_all [TimeoutAct.duration]
    | restart =>
      have hperform : (after duration enabled acts).perform .restart = take _ _ :=
        perform_eq hdropped _
      rw [hperform, take, harm.tended.fst_restart, hable]
      split <;> simp_all [TimeoutAct.duration]

/-- An act arms the timeout if that is enabled and still there, no arm stands in the way, and the
deadline is not past the horizon. -/
theorem arms_iff (hact : act.Arming) : Arms duration enabled acts act ↔
    enabled = true ∧ .drop ∉ acts ∧ (act = .restart ∨ ∀ arm, ¬Stands duration enabled acts arm) ∧
      elapsed acts + (act.duration (after duration enabled acts).timeout.duration).nanos ≤
        Timers.horizon := by
  rw [Arms, and_iff_right hact]
  rcases answer_of_arming hact with ⟨⟨henabled, hdropped, hfree⟩, hanswer⟩ | ⟨hnot, hanswer⟩
  · rw [hanswer, Option.some_inj, Timeout.settled_eq_ok_iff]
    exact ⟨fun hle => ⟨henabled, hdropped, hfree, hle⟩, fun h => h.2.2.2⟩
  · constructor
    · intro harms
      rcases hanswer with hanswer | hanswer <;> simp [hanswer] at harms
    · rintro ⟨henabled, hdropped, hfree, -⟩
      exact absurd ⟨henabled, hdropped, hfree⟩ hnot

/-- It fails to do so if all is the same, but the deadline is past the horizon. -/
theorem overruns_iff (hact : act.Arming) : Overruns duration enabled acts act ↔
    enabled = true ∧ .drop ∉ acts ∧ (act = .restart ∨ ∀ arm, ¬Stands duration enabled acts arm) ∧
      Timers.horizon <
        elapsed acts + (act.duration (after duration enabled acts).timeout.duration).nanos := by
  rw [Overruns, and_iff_right hact]
  rcases answer_of_arming hact with ⟨⟨henabled, hdropped, hfree⟩, hanswer⟩ | ⟨hnot, hanswer⟩
  · rw [hanswer, Option.some_inj, Timeout.settled_eq_error_iff]
    exact ⟨fun hlt => ⟨henabled, hdropped, hfree, hlt⟩, fun h => h.2.2.2⟩
  · constructor
    · intro hoverruns
      rcases hanswer with hanswer | hanswer <;> simp [hanswer] at hoverruns
    · rintro ⟨henabled, hdropped, hfree, -⟩
      exact absurd ⟨henabled, hdropped, hfree⟩ hnot

/-- What fails to arm the timeout leaves no arm: none was in the way, unless the act ended it. -/
theorem Overruns.not_stands (h : Overruns duration enabled acts act) (arm : TimeoutArm) :
    ¬Stands duration enabled (acts ++ [act]) arm := by
  intro hstands
  obtain ⟨-, -, hfree, -⟩ := (overruns_iff h.1).mp h
  rcases stands_concat.mp hstands with ⟨harms, -⟩ | ⟨hstands, hending, -⟩
  · have hanswer := harms.2.symm.trans h.2
    cases hanswer
  · rcases hfree with rfl | hnone
    · exact hending .restart
    · exact hnone arm hstands

theorem Overruns.duration_after (h : Overruns duration enabled acts act) :
    (after duration enabled (acts ++ [act])).timeout.duration =
      act.duration (after duration enabled acts).timeout.duration := by
  obtain ⟨henabled, hdropped, -⟩ := (overruns_iff h.1).mp h
  obtain ⟨hact, hanswer⟩ := h
  cases hact with
  | startWith next =>
    have hstill : .drop ∉ acts ++ [.startWith next] := by simpa using hdropped
    have htaken : InEffect duration enabled (acts ++ [.startWith next]) next :=
      .taken (Or.inr ⟨.startWith next, hanswer⟩)
    exact (inEffect_after henabled hstill).unique htaken
  | start | restart =>
    rw [after_concat]
    exact (frame_perform _ _).duration (by simp)

/-- What a timeout makes of acts: which arms it sets and keeps, and which calls it makes. -/
structure AsArmed (duration : Duration) (enabled : Bool) (acts : List (TimeoutAct C)) : Prop where
  /-- At most one timer is pending. -/
  one_pending : ∀ i j, (after duration enabled acts).timers.timers.isPending i = true →
    (after duration enabled acts).timers.timers.isPending j = true → i = j
  /-- It is armed while an arm stands. -/
  isArmed_iff : (after duration enabled acts).timeout.isArmed
    (after duration enabled acts).timers = true ↔ ∃ arm, Stands duration enabled acts arm
  /-- Every arm that runs out makes one call at its deadline if a callback is set by then, and there
  are no other calls. -/
  calls : ∃ ran : List (TimeoutArm × Option C),
    (ran.Pairwise fun one other => one.1.place < other.1.place) ∧
    (∀ arm set?, (arm, set?) ∈ ran ↔ RunsOut duration enabled acts arm set?) ∧
    (after duration enabled acts).calls =
      ran.filterMap fun one => one.2.map fun callback => (one.1.deadline, callback)
  /-- No start changes anything while an arm stands. -/
  left_alone : ∀ act, (act = .start ∨ ∃ next, act = .startWith next) →
    (∃ arm, Stands duration enabled acts arm) →
    answer duration enabled acts act = some (.ok false) ∧
      after duration enabled (acts ++ [act]) = after duration enabled acts
  /-- A stop answers whether it keeps an arm from running out. -/
  stopped : answer duration enabled acts .stop = some (.ok true) ↔ ∃ arm,
    (∃ nanos set?, RunsOut duration enabled (acts ++ [.advance nanos]) arm set? ∧
      ¬RunsOut duration enabled acts arm set?) ∧
    ∀ later set?, ¬RunsOut duration enabled (acts ++ .stop :: later) arm set?
  /-- An arm that was stopped, restarted or dropped does not run out any more. -/
  ended : ∀ act, act.Ending → ∀ arm, arm.place < acts.length → ∀ later set?,
    RunsOut duration enabled (acts ++ act :: later) arm set? ↔
      RunsOut duration enabled acts arm set?
  /-- Once it was stopped or has run out, no arm stands. -/
  freed : ∀ act, (act = .stop ∨ ∃ arm set?, RunsOut duration enabled (acts ++ [act]) arm set? ∧
      ¬RunsOut duration enabled acts arm set?) →
    ∀ arm, ¬Stands duration enabled (acts ++ [act]) arm
  /-- It can be armed as long as it is there and no arm stands, unless it is disabled. -/
  arms_iff : ∀ act, act.Arming → (Arms duration enabled acts act ↔
    enabled = true ∧ .drop ∉ acts ∧ (act = .restart ∨ ∀ arm, ¬Stands duration enabled acts arm) ∧
      elapsed acts + (act.duration (after duration enabled acts).timeout.duration).nanos ≤
        Timers.horizon)
  /-- What could be armed but for a deadline past the horizon fails. -/
  overruns_iff : ∀ act, act.Arming → (Overruns duration enabled acts act ↔
    enabled = true ∧ .drop ∉ acts ∧ (act = .restart ∨ ∀ arm, ¬Stands duration enabled acts arm) ∧
      Timers.horizon <
        elapsed acts + (act.duration (after duration enabled acts).timeout.duration).nanos)
  /-- What fails so leaves no arm, not even the one that it ends, and its duration in effect. -/
  overrun : ∀ act, Overruns duration enabled acts act →
    (∀ arm, ¬Stands duration enabled (acts ++ [act]) arm) ∧
    (after duration enabled (acts ++ [act])).timeout.duration =
      act.duration (after duration enabled acts).timeout.duration
  /-- An arm has the duration that is in effect then. -/
  armed : ∀ act, Arms duration enabled acts act →
    Stands duration enabled (acts ++ [act]) ⟨acts.length, elapsed acts,
      act.duration (after duration enabled acts).timeout.duration⟩
  /-- A start with a duration that arms it puts the duration into effect, until another start arms
  it with a new duration or fails because the deadline lies past the horizon. -/
  kept : ∀ before next between, acts = before ++ .startWith next :: between →
    Arms duration enabled before (.startWith next) → .drop ∉ acts →
    (∀ earlier other later, between = earlier ++ .startWith other :: later →
      ¬Arms duration enabled (before ++ .startWith next :: earlier) (.startWith other) ∧
      ¬Overruns duration enabled (before ++ .startWith next :: earlier) (.startWith other)) →
    (after duration enabled acts).timeout.duration = next

/-- Nothing takes over another duration but a start that says so. -/
theorem InEffect.append {before : List (TimeoutAct C)} {current : Duration}
    (h : InEffect duration enabled before current) (between : List (TimeoutAct C))
    (hnone : ∀ earlier other later, between = earlier ++ .startWith other :: later →
      ¬Takes duration enabled (before ++ earlier) other) :
    InEffect duration enabled (before ++ between) current := by
  induction between using List.reverseRecOn with
  | nil => rwa [List.append_nil]
  | append_singleton between act ih =>
    rw [← List.append_assoc]
    refine .kept (ih fun earlier other later heq => ?_) fun other hact => ?_
    · exact hnone earlier other (later ++ [act]) (by simp [heq])
    · exact hnone between other [] (by rw [hact])

theorem Matches.stopped_iff (h : Matches duration enabled acts arm?) :
    answer duration enabled acts .stop = some (.ok true) ↔
      ∃ arm, Stands duration enabled acts arm := by
  simp only [h.stands_iff, ← Option.isSome_iff_exists]
  unfold answer
  by_cases hdropped : .drop ∈ acts
  · rw [perform_of_dropped (dropped_after_iff.mpr hdropped) (by simp)]
    constructor
    · intro hfalse
      cases hfalse
    · intro hsome
      exact absurd hdropped (h.usable hsome).2
  · have hperform : (after duration enabled acts).perform .stop = take _ _ :=
      perform_eq hdropped _
    obtain ⟨left, hstop, -⟩ := h.tended.stop
    rw [hperform, hstop]
    simp [take]

/-- While an arm stands, starting is refused and changes nothing. -/
theorem Matches.start_refused {arm : TimeoutArm} (h : Matches duration enabled acts (some arm))
    (hact : act = .start ∨ ∃ next, act = .startWith next) :
    (after duration enabled acts).perform act =
      (some (.ok false), after duration enabled acts) := by
  obtain ⟨-, hdropped⟩ := h.usable rfl
  rcases hact with rfl | ⟨next, rfl⟩
  · have hperform : (after duration enabled acts).perform .start = take _ _ :=
      perform_eq hdropped _
    rcases h.tended.start () with ⟨-, hstart⟩ | ⟨-, hnone, -⟩
    · rw [hperform, hstart]
      rfl
    · cases hnone
  · have hperform : (after duration enabled acts).perform (.startWith next) = take _ _ :=
      perform_eq hdropped _
    rcases h.tended.startWith next () with ⟨-, hstart⟩ | ⟨hnone, -⟩
    · rw [hperform, hstart]
      rfl
    · cases hnone

/-- An arm stands if time alone makes it run out. -/
theorem stands_iff_runsOut {arm : TimeoutArm} : Stands duration enabled acts arm ↔ ∃ nanos set?,
    RunsOut duration enabled (acts ++ [.advance nanos]) arm set? ∧
      ¬RunsOut duration enabled acts arm set? := by
  constructor
  · intro hstands
    have hdue : arm.deadline ≤ elapsed acts + arm.deadline := Nat.le_add_left _ _
    exact ⟨arm.deadline, TimeoutAct.callback? acts,
      runsOut_concat.mpr (Or.inr ⟨_, rfl, hstands, hdue, rfl⟩), hstands.not_runsOut _⟩
  · rintro ⟨nanos, set?, hruns, hnot⟩
    rcases runsOut_concat.mp hruns with hruns | ⟨_, -, hstands, -⟩
    · exact absurd hruns hnot
    · exact hstands

/-- No arm is left after a stop, or once one has run out. -/
theorem not_stands_of_ended (hact : act = .stop ∨ ∃ arm set?,
    RunsOut duration enabled (acts ++ [act]) arm set? ∧ ¬RunsOut duration enabled acts arm set?)
    (arm : TimeoutArm) : ¬Stands duration enabled (acts ++ [act]) arm := by
  intro hstands
  rcases hact with rfl | ⟨other, set?, hruns, hnot⟩
  · rcases stands_concat.mp hstands with ⟨harms, -⟩ | ⟨-, hending, -⟩
    · cases harms.1
    · exact hending .stop
  · rcases runsOut_concat.mp hruns with hruns | ⟨nanos, rfl, hother, hle, -⟩
    · exact hnot hruns
    · rcases stands_concat.mp hstands with ⟨harms, -⟩ | ⟨hstands, -, hahead⟩
      · cases harms.1
      · cases hother.unique hstands
        exact absurd (hahead nanos rfl) (Nat.not_lt.mpr hle)

/-- What was armed runs out at its deadline unless it is stopped or armed anew, where the task wakes
at the exact moment of a deadline, as in `TimedTimers.advance`. -/
theorem timeouts_run_as_armed (duration : Duration) (enabled : Bool) (acts : List (TimeoutAct C)) :
    AsArmed duration enabled acts := by
  obtain ⟨arm?, harm⟩ := exists_matches duration enabled acts
  obtain ⟨ran, hran⟩ := exists_called duration enabled acts
  constructor
  case one_pending =>
    intro i j hi hj
    exact harm.tended.pending_unique hi hj
  case isArmed_iff =>
    rw [harm.tended.isArmed, Option.isSome_map, Option.isSome_iff_exists]
    simp only [harm.stands_iff]
  case calls => exact ⟨ran, hran.sorted, hran.mem_iff, hran.calls⟩
  case left_alone =>
    rintro act hact ⟨arm, hstands⟩
    obtain rfl := (harm.stands_iff arm).mp hstands
    have hperform := harm.start_refused hact
    constructor
    · rw [answer, hperform]
    · rw [after_concat, hperform]
  case stopped =>
    rw [harm.stopped_iff]
    apply exists_congr
    intro arm
    rw [← stands_iff_runsOut]
    constructor
    · intro hstands
      constructor
      · exact hstands
      · intro later set?
        rw [runsOut_append_cons_iff .stop hstands.place_lt]
        exact hstands.not_runsOut set?
    · exact And.left
  case ended =>
    intro act hending arm hplace later set?
    exact runsOut_append_cons_iff hending hplace later
  case freed =>
    intro act hact
    exact not_stands_of_ended hact
  case arms_iff =>
    intro act hact
    exact TimeoutRun.arms_iff hact
  case overruns_iff =>
    intro act hact
    exact TimeoutRun.overruns_iff hact
  case overrun =>
    intro act hoverruns
    exact ⟨hoverruns.not_stands, hoverruns.duration_after⟩
  case armed =>
    intro act harms
    obtain ⟨henabled, hdropped, -⟩ := (TimeoutRun.arms_iff harms.1).mp harms
    apply Stands.armed harms
    obtain ⟨hact, hanswer⟩ := harms
    cases hact with
    | startWith next => exact .taken (Or.inl ⟨.startWith next, hanswer⟩)
    | start | restart => exact .kept (inEffect_after henabled hdropped) (by simp)
  case kept =>
    rintro before next between rfl harms hdropped hnone
    obtain ⟨henabled, -⟩ := (TimeoutRun.arms_iff harms.1).mp harms
    have hbefore : InEffect duration enabled (before ++ [.startWith next]) next :=
      .taken (Or.inl harms)
    have hcurrent := hbefore.append between fun earlier other later heq => by
      simpa [Takes] using hnone earlier other later heq
    rw [List.append_assoc] at hcurrent
    exact (inEffect_after henabled hdropped).unique hcurrent

/-- A timeout that was armed for 5 ns and stopped cannot be armed again for the longest duration,
whose deadline lies past the horizon. That start arms nothing, and yet it is the longest duration
that the next start would use. -/
theorem overrun_changes_duration :
    Arms ⟨1⟩ true ([] : List (TimeoutAct Unit)) (.startWith ⟨5⟩) ∧
    answer ⟨1⟩ true ([.startWith ⟨5⟩] : List (TimeoutAct Unit)) .stop = some (.ok true) ∧
    ¬Arms ⟨1⟩ true ([.startWith ⟨5⟩, .stop] : List (TimeoutAct Unit)) (.startWith .longest) ∧
    (after ⟨1⟩ true ([.startWith ⟨5⟩, .stop, .startWith .longest] : List (TimeoutAct Unit))
      ).timeout.duration = .longest ∧
    answer ⟨1⟩ true ([.startWith ⟨5⟩, .stop, .startWith .longest] : List (TimeoutAct Unit)) .start =
      some (.error .pastHorizon) := by
  have hfails : answer ⟨1⟩ true ([.startWith ⟨5⟩, .stop] : List (TimeoutAct Unit))
      (.startWith .longest) = some (.error .pastHorizon) := by rfl
  refine ⟨⟨.startWith _, by rfl⟩, by rfl, fun harms => ?_, by rfl, by rfl⟩
  have hanswer := harms.2.symm.trans hfails
  cases hanswer

end TimeoutRun

end ChatCommands
