import ChatCommands.Proofs.Timeout.Acts

/-! # The arm that stands

At most one arm of a timeout stands at a time. Its timer is the only one that is pending, with the
deadline of the arm, whatever was done with the timeout before.
-/

namespace ChatCommands

namespace TimeoutRun

open TimeoutAct

variable {C : Type} {duration : Duration} {enabled : Bool} {acts : List (TimeoutAct C)}
  {act : TimeoutAct C} {arm? : Option TimeoutArm}

/-! ## What acts leave as it is -/

/-- What only some acts change is as it was after all others. -/
structure Frame (r : TimeoutRun C) (act : TimeoutAct C) (u : TimeoutRun C) : Prop where
  enabled : u.timeout.enabled = r.timeout.enabled
  clock : u.timers.clock = r.timers.clock + act.nanos
  duration : (∀ next, act ≠ .startWith next) → u.timeout.duration = r.timeout.duration
  callback? : (∀ callback, act ≠ .onTimeout callback) → u.timeout.callback? = r.timeout.callback?
  dropped : act ≠ .drop → u.dropped = r.dropped
  calls : (∀ nanos, act ≠ .advance nanos) → u.calls = r.calls

theorem frame_refl (r : TimeoutRun C) (h : act.nanos = 0) : r.Frame act r := by
  refine ⟨rfl, ?_, fun _ => rfl, fun _ => rfl, fun _ => rfl, fun _ => rfl⟩
  rw [h, Nat.add_zero]

theorem frame_take {r : TimeoutRun C} {done : Except TimerError Bool × Timeout C × TimedTimers Unit}
    (h : r.timeout.Keeps done.2.1 r.timers done.2.2) (hnanos : act.nanos = 0) :
    r.Frame act (r.take done).2 := by
  refine ⟨h.enabled, ?_, fun _ => h.duration, fun _ => h.callback?, fun _ => rfl, fun _ => rfl⟩
  rw [hnanos]
  exact h.clock

theorem perform_of_dropped {r : TimeoutRun C} (h : r.dropped = true)
    (hact : ∀ nanos, act ≠ .advance nanos) : r.perform act = (none, r) := by
  cases act with
  | advance nanos => exact absurd rfl (hact nanos)
  | start | startWith _ | stop | restart | onTimeout _ | drop =>
    simp [perform, unlessDropped, h]

theorem unlessDropped_of_not {r : TimeoutRun C} (h : r.dropped = false)
    (done : Option (Except TimerError Bool) × TimeoutRun C) : r.unlessDropped done = done := by
  simp [unlessDropped, h]

theorem frame_perform (r : TimeoutRun C) (act : TimeoutAct C) : r.Frame act (r.perform act).2 := by
  cases hdropped : r.dropped with
  | true =>
    cases act with
    | advance nanos =>
      exact ⟨rfl, TimedTimers.clock_advance _ _, fun _ => rfl, fun _ => rfl, fun _ => rfl,
        fun h => absurd rfl (h nanos)⟩
    | start | startWith _ | stop | restart | onTimeout _ | drop =>
      rw [perform_of_dropped hdropped (by simp)]
      exact r.frame_refl rfl
  | false =>
    cases act with
    | advance nanos =>
      exact ⟨rfl, TimedTimers.clock_advance _ _, fun _ => rfl, fun _ => rfl, fun _ => rfl,
        fun h => absurd rfl (h nanos)⟩
    | start =>
      rw [perform, unlessDropped_of_not hdropped]
      exact frame_take (r.timeout.keeps_start r.timers ()) rfl
    | startWith next =>
      rw [perform, unlessDropped_of_not hdropped]
      rcases r.timeout.startWith_cases next r.timers () with hsame | ⟨-, hstart⟩
      · rw [hsame]
        exact r.frame_refl rfl
      · have hkeeps := Timeout.keeps_start { r.timeout with duration := next } r.timers ()
        rw [hstart]
        exact ⟨hkeeps.enabled, hkeeps.clock, fun h => absurd rfl (h next),
          fun _ => hkeeps.callback?, fun _ => rfl, fun _ => rfl⟩
    | stop =>
      have hkeeps := r.timeout.keeps_stop r.timers
      rw [perform, unlessDropped_of_not hdropped]
      exact ⟨hkeeps.enabled, hkeeps.clock, fun _ => hkeeps.duration, fun _ => hkeeps.callback?,
        fun _ => rfl, fun _ => rfl⟩
    | drop =>
      have hkeeps := r.timeout.keeps_stop r.timers
      rw [perform, unlessDropped_of_not hdropped]
      exact ⟨hkeeps.enabled, hkeeps.clock, fun _ => hkeeps.duration, fun _ => hkeeps.callback?,
        fun h => absurd rfl h, fun _ => rfl⟩
    | restart =>
      rw [perform, unlessDropped_of_not hdropped]
      exact frame_take (r.timeout.keeps_restart r.timers ()) rfl
    | onTimeout callback =>
      rw [perform, unlessDropped_of_not hdropped]
      unfold listen Timeout.onTimeout
      cases r.timeout.callback? with
      | some _ => exact r.frame_refl rfl
      | none =>
        exact ⟨rfl, rfl, fun _ => rfl, fun h => absurd rfl (h callback), fun _ => rfl, fun _ => rfl⟩

theorem enabled_after (duration : Duration) (enabled : Bool) (acts : List (TimeoutAct C)) :
    (after duration enabled acts).timeout.enabled = enabled := by
  induction acts using List.reverseRecOn with
  | nil => rfl
  | append_singleton acts act ih => rw [after_concat, (frame_perform _ act).enabled, ih]

theorem clock_after (duration : Duration) (enabled : Bool) (acts : List (TimeoutAct C)) :
    (after duration enabled acts).timers.clock = elapsed acts := by
  induction acts using List.reverseRecOn with
  | nil => rfl
  | append_singleton acts act ih =>
    rw [after_concat, (frame_perform _ act).clock, ih, elapsed_concat]

theorem dropped_perform (r : TimeoutRun C) : (r.perform .drop).2.dropped = true := by
  rw [perform]
  unfold unlessDropped
  split
  · rename_i hdropped
    exact hdropped
  · rfl

theorem dropped_after_iff : (after duration enabled acts).dropped = true ↔ .drop ∈ acts := by
  induction acts using List.reverseRecOn with
  | nil => simp [after]
  | append_singleton acts act ih =>
    rw [after_concat, List.mem_append, List.mem_singleton]
    by_cases hact : act = .drop
    · subst hact
      simp [dropped_perform]
    · rw [(frame_perform _ act).dropped hact, ih]
      exact (or_iff_left (Ne.symm hact)).symm

theorem not_dropped_after (h : .drop ∉ acts) : (after duration enabled acts).dropped = false := by
  rw [← Bool.not_eq_true, dropped_after_iff]
  exact h

theorem perform_onTimeout {r : TimeoutRun C} (h : r.dropped = false) (callback : C) :
    (r.perform (.onTimeout callback)).2.timeout.callback? =
      r.timeout.callback?.or (some callback) := by
  rw [perform, unlessDropped_of_not h]
  unfold listen Timeout.onTimeout
  cases hset : r.timeout.callback? with
  | some other => simp [take, hset]
  | none => simp [take]

theorem callback?_after :
    (after duration enabled acts).timeout.callback? = TimeoutAct.callback? acts := by
  induction acts using List.reverseRecOn with
  | nil => rfl
  | append_singleton acts act ih =>
    rw [after_concat]
    by_cases hdropped : .drop ∈ acts
    · rw [callback?_append_of_dropped hdropped, ← ih]
      cases act with
      | advance nanos => rfl
      | start | startWith _ | stop | restart | onTimeout _ | drop =>
        rw [perform_of_dropped (dropped_after_iff.mpr hdropped) (by simp)]
    · rw [callback?_append hdropped, ← ih]
      cases act with
      | onTimeout callback => exact perform_onTimeout (not_dropped_after hdropped) callback
      | start | startWith _ | stop | restart | drop | advance _ =>
        rw [(frame_perform _ _).callback? (by simp)]
        exact Option.or_none.symm

/-- The timeout has the duration that is in effect. -/
theorem inEffect_after (henabled : enabled = true) (hdropped : .drop ∉ acts) :
    InEffect duration enabled acts (after duration enabled acts).timeout.duration := by
  induction acts using List.reverseRecOn with
  | nil => exact .made
  | append_singleton acts act ih =>
    have hbefore : .drop ∉ acts := fun hmem => hdropped (List.mem_append_left _ hmem)
    have hcurrent := ih hbefore
    rw [after_concat, inEffect_concat]
    cases act with
    | startWith next =>
      have hperform : (after duration enabled acts).perform (.startWith next) = take _ _ :=
        unlessDropped_of_not (not_dropped_after hbefore) _
      unfold Takes Arms Overruns answer
      rcases Timeout.startWith_takes (after duration enabled acts).timeout next
        (after duration enabled acts).timers () ((enabled_after ..).trans henabled) with
        hsame | ⟨htakes, hnext⟩
      · right
        rw [hperform, hsame]
        refine ⟨hcurrent, fun other hother => ?_⟩
        cases hother
        rw [hperform, hsame]
        simp [take]
      · left
        rw [hperform, take, hnext, hperform]
        exact ⟨rfl, htakes.imp (fun h => ⟨.startWith next, congrArg some h⟩)
          (fun h => ⟨.startWith next, congrArg some h⟩)⟩
    | start | stop | restart | drop | onTimeout _ | advance _ =>
      rw [(frame_perform _ _).duration (by simp)]
      exact Or.inr ⟨hcurrent, by simp⟩

/-! ## What acts do to it -/

/-- The timer of the arm that stands, if one does, is the one that is pending. -/
structure Matches (duration : Duration) (enabled : Bool) (acts : List (TimeoutAct C))
    (arm? : Option TimeoutArm) : Prop where
  tended : (after duration enabled acts).timeout.Tended (after duration enabled acts).timers
    (arm?.map fun arm => (arm.deadline, ()))
  stands_iff : ∀ arm, Stands duration enabled acts arm ↔ arm? = some arm
  usable : arm?.isSome = true → enabled = true ∧ .drop ∉ acts

theorem matches_nil : Matches duration enabled ([] : List (TimeoutAct C)) none :=
  ⟨Timeout.tended_start _ 0, fun _ => by simp [not_stands_nil], by simp⟩

/-- The arm that stands goes on to stand after an act that has nothing to do with it. -/
theorem Matches.of_quiet (h : Matches duration enabled acts arm?)
    (htended : (after duration enabled (acts ++ [act])).timeout.Tended
      (after duration enabled (acts ++ [act])).timers (arm?.map fun arm => (arm.deadline, ())))
    (harms : ¬Arms duration enabled acts act) (hending : arm?.isSome = true → ¬act.Ending)
    (hahead : ∀ nanos arm, act = .advance nanos → arm? = some arm →
      elapsed acts + nanos < arm.deadline) : Matches duration enabled (acts ++ [act]) arm? := by
  constructor
  · exact htended
  · intro arm
    rw [stands_concat, h.stands_iff]
    constructor
    · rintro (⟨hset, -⟩ | ⟨harm, -⟩)
      · exact absurd hset harms
      · exact harm
    · intro harm
      exact Or.inr ⟨harm, hending (by simp [harm]), fun nanos hact => hahead nanos arm hact harm⟩
  · intro harm
    obtain ⟨henabled, hdropped⟩ := h.usable harm
    refine ⟨henabled, fun hmem => ?_⟩
    rcases List.mem_append.mp hmem with hmem | hmem
    · exact hdropped hmem
    · apply hending harm
      rw [← List.mem_singleton.mp hmem]
      exact .drop

/-- No arm stands after an act that ends the one that stood. -/
theorem Matches.of_ended (h : Matches duration enabled acts arm?)
    (htended : (after duration enabled (acts ++ [act])).timeout.Tended
      (after duration enabled (acts ++ [act])).timers none)
    (harms : ¬Arms duration enabled acts act)
    (hends : ∀ arm, arm? = some arm → act.Ending ∨
      ∃ nanos, act = .advance nanos ∧ arm.deadline ≤ elapsed acts + nanos) :
    Matches duration enabled (acts ++ [act]) none := by
  constructor
  · exact htended
  · intro arm
    rw [stands_concat, h.stands_iff]
    constructor
    · rintro (⟨hset, -⟩ | ⟨harm, hending, hahead⟩)
      · exact absurd hset harms
      · rcases hends arm harm with hends | ⟨nanos, hact, hle⟩
        · exact absurd hends hending
        · exact absurd (hahead nanos hact) (Nat.not_lt.mpr hle)
    · intro hnone
      cases hnone
  · intro hnone
    cases hnone

/-- An act that arms the timeout leaves its own arm standing. -/
theorem Matches.of_armed (h : Matches duration enabled acts arm?)
    (harms : Arms duration enabled acts act) (henabled : enabled = true) (hdropped : .drop ∉ acts)
    (hends : arm?.isSome = true → act.Ending)
    (htended : (after duration enabled (acts ++ [act])).timeout.Tended
      (after duration enabled (acts ++ [act])).timers
      (some (elapsed acts + (after duration enabled (acts ++ [act])).timeout.duration.nanos, ()))) :
    Matches duration enabled (acts ++ [act])
      (some ⟨acts.length, elapsed acts,
        (after duration enabled (acts ++ [act])).timeout.duration⟩) := by
  have hstill : .drop ∉ acts ++ [act] := by
    intro hmem
    rcases List.mem_append.mp hmem with hmem | hmem
    · exact hdropped hmem
    · obtain ⟨harming, -⟩ := harms
      rw [← List.mem_singleton.mp hmem] at harming
      cases harming
  have hcurrent : InEffect duration enabled _ _ := inEffect_after henabled hstill
  constructor
  · exact htended
  · intro arm
    rw [stands_concat, h.stands_iff, Option.some.injEq]
    constructor
    · rintro (⟨-, hplace, hmoment, hduration⟩ | ⟨harm, hending, -⟩)
      · obtain ⟨place, moment, current⟩ := arm
        simp only at hplace hmoment hduration
        rw [hplace, hmoment, hcurrent.unique hduration]
      · exact absurd (hends (by simp [harm])) hending
    · rintro rfl
      exact Or.inl ⟨harms, rfl, rfl, hcurrent⟩
  · intro
    exact ⟨henabled, hstill⟩

/-- Setting a timer when no arm stands any more leaves an arm, unless it would be too late. -/
theorem Matches.of_arm (h : Matches duration enabled acts arm?) (hact : act.Arming)
    (henabled : enabled = true) (hdropped : .drop ∉ acts)
    (hends : arm?.isSome = true → act.Ending) {t : Timeout C} {timers : TimedTimers Unit}
    (htended : t.Tended timers none) (hclock : timers.clock = elapsed acts)
    (hperform : (after duration enabled acts).perform act =
      (after duration enabled acts).take (t.arm timers ())) :
    ∃ next?, Matches duration enabled (acts ++ [act]) next? := by
  have hafter : after duration enabled (acts ++ [act]) = _ := after_concat acts act
  have hanswer : answer duration enabled acts act = some (t.arm timers ()).1 := by
    rw [answer, hperform]
    rfl
  rw [hperform] at hafter
  rcases htended.arm () with ⟨-, harm⟩ | ⟨-, id, armed, harm, -, harmed⟩
  · rw [harm] at hafter hanswer
    refine ⟨none, h.of_ended ?_ ?_ fun arm harm => Or.inl (hends (by simp [harm]))⟩
    · rw [hafter]
      exact htended
    · rintro ⟨-, htrue⟩
      rw [hanswer] at htrue
      cases htrue
  · rw [harm] at hafter hanswer
    refine ⟨_, h.of_armed ⟨hact, hanswer⟩ henabled hdropped hends ?_⟩
    rw [hafter, ← hclock]
    exact harmed

/-- An operation that refuses to arm the timeout changes nothing. -/
theorem Matches.of_refused (h : Matches duration enabled acts arm?)
    (hperform : (after duration enabled acts).perform act =
      (after duration enabled acts).take
        (.ok false, (after duration enabled acts).timeout, (after duration enabled acts).timers))
    (hending : arm?.isSome = true → ¬act.Ending) (hact : ∀ nanos, act ≠ .advance nanos) :
    Matches duration enabled (acts ++ [act]) arm? := by
  refine h.of_quiet ?_ ?_ hending fun nanos _ hnanos => absurd hnanos (hact nanos)
  · rw [after_concat, hperform]
    exact h.tended
  · rintro ⟨-, htrue⟩
    rw [answer, hperform] at htrue
    cases htrue

theorem perform_eq (hdropped : .drop ∉ acts)
    (done : Option (Except TimerError Bool) × TimeoutRun C) :
    (after duration enabled acts).unlessDropped done = done :=
  unlessDropped_of_not (not_dropped_after hdropped) done

theorem Matches.start (h : Matches duration enabled acts arm?) (hdropped : .drop ∉ acts) :
    ∃ next?, Matches duration enabled (acts ++ [.start]) next? := by
  have hperform : (after duration enabled acts).perform .start = _ := perform_eq hdropped _
  rcases h.tended.start () with ⟨-, hstart⟩ | ⟨henabled, hnone, hstart⟩
  · rw [hstart] at hperform
    exact ⟨_, h.of_refused hperform (fun _ => nofun) (by simp)⟩
  · rw [hstart] at hperform
    rw [enabled_after] at henabled
    have harm : arm? = none := by simpa using hnone
    exact h.of_arm .start henabled hdropped (by simp [harm]) (hnone ▸ h.tended)
      (clock_after ..) hperform

theorem Matches.startWith (h : Matches duration enabled acts arm?) (hdropped : .drop ∉ acts)
    (next : Duration) : ∃ next?, Matches duration enabled (acts ++ [.startWith next]) next? := by
  have hperform : (after duration enabled acts).perform (.startWith next) = _ :=
    perform_eq hdropped _
  rcases h.tended.startWith next () with ⟨-, hstart⟩ | ⟨hnone, hstart⟩
  · rw [hstart] at hperform
    exact ⟨_, h.of_refused hperform (fun _ => nofun) (by simp)⟩
  · have harm : arm? = none := by simpa using hnone
    have htended : Timeout.Tended { (after duration enabled acts).timeout with duration := next }
        (after duration enabled acts).timers none := hnone ▸ h.tended.congr rfl
    rcases htended.start () with ⟨-, hrefused⟩ | ⟨henabled, -, harmed⟩
    · rw [hstart, hrefused] at hperform
      refine ⟨none, h.of_ended ?_ ?_ (by simp [harm])⟩
      · rw [after_concat, hperform]
        exact htended
      · rintro ⟨-, htrue⟩
        rw [answer, hperform] at htrue
        cases htrue
    · rw [hstart, harmed] at hperform
      rw [enabled_after] at henabled
      exact h.of_arm (.startWith next) henabled hdropped (by simp [harm]) htended
        (clock_after ..) hperform

theorem Matches.restart (h : Matches duration enabled acts arm?) (hdropped : .drop ∉ acts) :
    ∃ next?, Matches duration enabled (acts ++ [.restart]) next? := by
  have hperform : (after duration enabled acts).perform .restart = _ := perform_eq hdropped _
  rcases h.tended.restart () with ⟨hdisabled, hrestart⟩ | ⟨henabled, left, hclock, hleft, hrestart⟩
  · rw [hrestart] at hperform
    refine ⟨_, h.of_refused hperform (fun harm => ?_) (by simp)⟩
    rw [enabled_after, (h.usable harm).1] at hdisabled
    cases hdisabled
  · rw [hrestart] at hperform
    rw [enabled_after] at henabled
    exact h.of_arm .restart henabled hdropped (fun _ => .restart) hleft
      (hclock.trans (clock_after ..)) hperform

theorem Matches.stop (h : Matches duration enabled acts arm?) (hdropped : .drop ∉ acts) :
    Matches duration enabled (acts ++ [.stop]) none := by
  have hperform : (after duration enabled acts).perform .stop = _ := perform_eq hdropped _
  obtain ⟨left, hstop, -, hleft⟩ := h.tended.stop
  rw [hstop] at hperform
  refine h.of_ended ?_ (fun harms => nomatch harms.1) fun _ _ => Or.inl .stop
  rw [after_concat, hperform]
  exact hleft

theorem Matches.drop (h : Matches duration enabled acts arm?) (hdropped : .drop ∉ acts) :
    Matches duration enabled (acts ++ [.drop]) none := by
  have hperform : (after duration enabled acts).perform .drop = _ := perform_eq hdropped _
  obtain ⟨left, hstop, -, hleft⟩ := h.tended.stop
  rw [hstop] at hperform
  refine h.of_ended ?_ (fun harms => nomatch harms.1) fun _ _ => Or.inl .drop
  rw [after_concat, hperform]
  exact hleft

theorem Matches.onTimeout (h : Matches duration enabled acts arm?) (hdropped : .drop ∉ acts)
    (callback : C) : Matches duration enabled (acts ++ [.onTimeout callback]) arm? := by
  have hperform : (after duration enabled acts).perform (.onTimeout callback) = _ :=
    perform_eq hdropped _
  refine h.of_quiet ?_ (fun harms => nomatch harms.1) (fun _ => nofun) (by simp)
  rw [after_concat, hperform]
  unfold listen Timeout.onTimeout
  cases (after duration enabled acts).timeout.callback? with
  | some _ => exact h.tended
  | none => exact h.tended.congr rfl

theorem Matches.advance (h : Matches duration enabled acts arm?) (nanos : Nat) :
    ∃ next?, Matches duration enabled (acts ++ [.advance nanos]) next? := by
  have hclock := clock_after duration enabled acts
  obtain ⟨later, -, ⟨timer, htimer, hle, hpassed, hlater⟩ | ⟨hahead, hpassed, hlater⟩⟩ :=
    h.tended.advance nanos
  · obtain ⟨arm, rfl, rfl⟩ := Option.map_eq_some_iff.mp htimer
    refine ⟨none, h.of_ended ?_ (fun harms => nomatch harms.1) fun other hother => ?_⟩
    · rw [after_concat, perform, hpassed]
      exact hlater
    · cases hother
      exact Or.inr ⟨nanos, rfl, hclock ▸ hle⟩
  · refine ⟨arm?, h.of_quiet ?_ (fun harms => nomatch harms.1) (fun _ => nofun) ?_⟩
    · rw [after_concat, perform, hpassed]
      exact hlater
    · intro other arm hother harm
      cases hother
      rw [← hclock]
      exact hahead _ (by rw [harm]; rfl)

/-- Nothing but time goes on once the timeout was dropped. -/
theorem Matches.of_dropped (h : Matches duration enabled acts arm?) (hdropped : .drop ∈ acts)
    (hact : ∀ nanos, act ≠ .advance nanos) : Matches duration enabled (acts ++ [act]) none := by
  have hgone : (after duration enabled acts).dropped = true := dropped_after_iff.mpr hdropped
  have hperform := perform_of_dropped hgone hact
  have harm : arm? = none := by
    by_contra hsome
    exact (h.usable (Option.isSome_iff_ne_none.mpr hsome)).2 hdropped
  have htended := h.tended
  rw [harm] at htended
  refine h.of_ended ?_ ?_ (by simp [harm])
  · rw [after_concat, hperform]
    exact htended
  · rintro ⟨-, htrue⟩
    rw [answer, hperform] at htrue
    cases htrue

theorem Matches.concat (h : Matches duration enabled acts arm?) (act : TimeoutAct C) :
    ∃ next?, Matches duration enabled (acts ++ [act]) next? := by
  by_cases hdropped : .drop ∈ acts
  · cases act with
    | advance nanos => exact h.advance nanos
    | start | startWith _ | stop | restart | onTimeout _ | drop =>
      exact ⟨none, h.of_dropped hdropped (by simp)⟩
  · cases act with
    | start => exact h.start hdropped
    | startWith next => exact h.startWith hdropped next
    | stop => exact ⟨none, h.stop hdropped⟩
    | restart => exact h.restart hdropped
    | onTimeout callback => exact ⟨arm?, h.onTimeout hdropped callback⟩
    | drop => exact ⟨none, h.drop hdropped⟩
    | advance nanos => exact h.advance nanos

theorem exists_matches (duration : Duration) (enabled : Bool) (acts : List (TimeoutAct C)) :
    ∃ arm?, Matches duration enabled acts arm? := by
  induction acts using List.reverseRecOn with
  | nil => exact ⟨none, matches_nil⟩
  | append_singleton acts act ih =>
    obtain ⟨arm?, harm⟩ := ih
    exact harm.concat act

end TimeoutRun

end ChatCommands
