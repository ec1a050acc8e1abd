import ChatCommands.Proofs.Waiter.Jobs

/-! # Replies to those who wait

A listener is there until an event comes that it wants, or the job of its timer runs, and gets one
reply then. A call whose timer could not be set leaves a listener behind that nobody waits at, and
that no timer removes: only an event does, and counts it as completed.
-/

namespace ChatCommands

open Relation WaiterEvent WaiterLog

variable {E J : Type}

/-- The listeners are those that the log tells of, and the others have got their replies. -/
structure Answers (log : List (WaiterEvent E)) (w : EventWaiter E) : Prop where
  began : (log.filterMap beginning?).map Prod.fst = List.range w.nextId
  lt_nextId : ∀ entry ∈ w.listeners, entry.1 < w.nextId
  nodup : (w.listeners.map Prod.fst).Nodup
  listening_iff : ∀ id wants waits, Listening log id wants waits ↔
    ∃ timer?, (id, Listener.mk wants timer?) ∈ w.listeners ∧ timer?.isSome = waits
  replied_once : ((replies log).map Prod.fst).Nodup
  replied_iff : ∀ id, id ∈ (replies log).map Prod.fst ↔
    id < w.nextId ∧ id ∉ w.listeners.map Prod.fst
  some_iff : ∀ id event, (id, some event) ∈ replies log ↔ ∃ waits, FirstWanted log id waits event
  none_iff : ∀ id, (id, none) ∈ replies log ↔ ∃ waits, ExpiredFirst log id waits

variable {log : List (WaiterEvent E)} {w : EventWaiter E} {id : Nat}

theorem answers_start (defaultTimeout : Duration) :
    Answers ([] : List (WaiterEvent E)) { defaultTimeout := defaultTimeout } := by
  constructor
  case listening_iff => simp [not_listening_nil]
  case some_iff => simp [replies, FirstWanted]
  case none_iff => simp [replies, ExpiredFirst]
  all_goals simp [replies]

/-- A listener is there once. -/
theorem Answers.listener_unique (h : Answers log w) {one other : Nat × Listener E}
    (hone : one ∈ w.listeners) (hother : other ∈ w.listeners) (heq : one.1 = other.1) :
    one = other :=
  List.inj_on_of_nodup_map h.nodup hone hother heq

/-- A call enters its listener once, and goes on to wait or not. -/
theorem Answers.began_unique (h : Answers log w) {wants wants' : E → Bool} {waits waits' : Bool}
    (hone : .began id wants waits ∈ log) (hother : .began id wants' waits' ∈ log) :
    waits = waits' := by
  have hnodup : ((log.filterMap beginning?).map Prod.fst).Nodup := by
    rw [h.began]
    exact List.nodup_range
  have hone' : (id, waits) ∈ log.filterMap beginning? := List.mem_filterMap.mpr ⟨_, hone, rfl⟩
  have hother' : (id, waits') ∈ log.filterMap beginning? := List.mem_filterMap.mpr ⟨_, hother, rfl⟩
  exact congrArg Prod.snd (List.inj_on_of_nodup_map hnodup hone' hother' rfl)

theorem Answers.lt_of_began (h : Answers log w) {wants : E → Bool} {waits : Bool}
    (hbegan : .began id wants waits ∈ log) : id < w.nextId := by
  rw [← List.mem_range, ← h.began]
  exact List.mem_map.mpr ⟨(id, waits), List.mem_filterMap.mpr ⟨_, hbegan, rfl⟩, rfl⟩

theorem Answers.enter (h : Answers log w) (wants : E → Bool) (timer? : Option Nat) :
    Answers (log ++ [.began w.nextId wants timer?.isSome]) (w.enter ⟨wants, timer?⟩) := by
  have hnew : w.nextId ∉ w.listeners.map Prod.fst := by
    intro hmem
    obtain ⟨entry, hentry, heq⟩ := List.mem_map.mp hmem
    exact absurd (h.lt_nextId entry hentry) (by omega)
  constructor
  case began =>
    rw [List.filterMap_append, List.map_append, h.began, EventWaiter.enter, List.range_succ]
    rfl
  case lt_nextId =>
    intro entry hentry
    rcases List.mem_append.mp hentry with hentry | hentry
    · exact Nat.lt_succ_of_lt (h.lt_nextId entry hentry)
    · cases List.mem_singleton.mp hentry
      exact Nat.lt_succ_self _
  case nodup =>
    rw [EventWaiter.enter, List.map_append, List.nodup_append]
    refine ⟨h.nodup, List.nodup_singleton _, ?_⟩
    rintro one hone other hother rfl
    cases List.mem_singleton.mp hother
    exact hnew hone
  case listening_iff =>
    intro id wants' waits
    rw [listening_concat, h.listening_iff]
    simp only [EventWaiter.enter, List.mem_append, List.mem_singleton]
    constructor
    · rintro (hentry | ⟨⟨timer?, hentry, hwaits⟩, -⟩)
      · cases hentry
        exact ⟨timer?, Or.inr rfl, rfl⟩
      · exact ⟨timer?, Or.inl hentry, hwaits⟩
    · rintro ⟨timer?, hentry | hentry, rfl⟩
      · exact Or.inr ⟨⟨timer?, hentry, rfl⟩, by simp, by simp⟩
      · cases hentry
        exact Or.inl rfl
  case replied_once =>
    rw [replies_concat, sent, List.append_nil]
    exact h.replied_once
  case replied_iff =>
    intro id
    rw [replies_concat, sent, List.append_nil, h.replied_iff]
    simp only [EventWaiter.enter, List.map_append, List.map_cons, List.map_nil, List.mem_append,
      List.mem_singleton, not_or]
    constructor
    · rintro ⟨hlt, hgone⟩
      exact ⟨by omega, hgone, by omega⟩
    · rintro ⟨hlt, hgone, hne⟩
      exact ⟨by omega, hgone⟩
  case some_iff =>
    intro id event
    rw [replies_concat, sent, List.append_nil, h.some_iff]
    simp only [firstWanted_concat, reduceCtorEq, false_and, exists_false, or_false]
  case none_iff =>
    intro id
    rw [replies_concat, sent, List.append_nil, h.none_iff]
    simp only [expiredFirst_concat, reduceCtorEq, false_and, exists_false, or_false]

/-- Listeners that leave with a reply each were there and had none. -/
theorem Answers.replied_of_left (h : Answers log w) (later : EventWaiter E) {entry : WaiterEvent E}
    (hnext : later.nextId = w.nextId) (hsub : later.listeners ⊆ w.listeners)
    (honce : ((sent entry).map Prod.fst).Nodup)
    (hsent : ∀ id, id ∈ (sent entry).map Prod.fst ↔
      id ∈ w.listeners.map Prod.fst ∧ id ∉ later.listeners.map Prod.fst) :
    ((replies (log ++ [entry])).map Prod.fst).Nodup ∧
      ∀ id, id ∈ (replies (log ++ [entry])).map Prod.fst ↔
        id < later.nextId ∧ id ∉ later.listeners.map Prod.fst := by
  rw [replies_concat, List.map_append, hnext]
  constructor
  · rw [List.nodup_append]
    refine ⟨h.replied_once, honce, ?_⟩
    rintro one hone other hother rfl
    exact ((h.replied_iff one).mp hone).2 ((hsent one).mp hother).1
  · intro id
    rw [List.mem_append, h.replied_iff, hsent]
    constructor
    · rintro (⟨hlt, hgone⟩ | ⟨hthere, hgone⟩)
      · exact ⟨hlt, fun hmem => hgone (List.map_subset _ hsub hmem)⟩
      · obtain ⟨entry, hentry, rfl⟩ := List.mem_map.mp hthere
        exact ⟨h.lt_nextId entry hentry, hgone⟩
    · rintro ⟨hlt, hgone⟩
      by_cases hthere : id ∈ w.listeners.map Prod.fst
      · exact Or.inr ⟨hthere, hgone⟩
      · exact Or.inl ⟨hlt, hthere⟩

/-- An event claims the listeners that do not stay. -/
theorem Answers.claimed_iff (h : Answers log w) (event : E) (id : Nat) :
    id ∈ (w.listeners.filter (·.2.wants event)).map Prod.fst ↔
      id ∈ w.listeners.map Prod.fst ∧
        id ∉ (w.listeners.filter (!·.2.wants event)).map Prod.fst := by
  constructor
  · intro hmem
    obtain ⟨entry, hentry, rfl⟩ := List.mem_map.mp hmem
    obtain ⟨hentry, hwants⟩ := List.mem_filter.mp hentry
    constructor
    · exact List.mem_map_of_mem hentry
    · intro hstays
      obtain ⟨other, hother, heq⟩ := List.mem_map.mp hstays
      obtain ⟨hother, hwants'⟩ := List.mem_filter.mp hother
      cases h.listener_unique hother hentry heq
      simp [hwants] at hwants'
  · rintro ⟨hmem, hnot⟩
    obtain ⟨entry, hentry, rfl⟩ := List.mem_map.mp hmem
    apply List.mem_map_of_mem
    apply List.mem_filter.mpr
    constructor
    · exact hentry
    · by_contra hwants
      have hstays : entry ∈ w.listeners.filter (!·.2.wants event) :=
        List.mem_filter.mpr ⟨hentry, by simpa using hwants⟩
      exact hnot (List.mem_map_of_mem hstays)

theorem map_fst_sent_offered (event : E) (ids : List Nat) :
    (sent (.offered event ids)).map Prod.fst = ids := by
  rw [sent, List.map_map, Function.comp_def, List.map_id']

theorem Answers.offer (h : Answers log w) (event : E) (timers : TimedTimers J) :
    Answers (log ++ [.offered event (w.offer event timers).1]) (w.offer event timers).2.1 := by
  rw [w.offer_eq]
  have hmatched : ∀ id, id ∈ (w.listeners.filter (·.2.wants event)).map Prod.fst ↔
      ∃ l : Listener E, (id, l) ∈ w.listeners ∧ l.wants event = true := by
    intro id
    simp [List.mem_map, List.mem_filter]
  have hids := map_fst_sent_offered event ((w.listeners.filter (·.2.wants event)).map Prod.fst)
  have honce : ((sent (.offered event ((w.listeners.filter (·.2.wants event)).map Prod.fst) :
      WaiterEvent E)).map Prod.fst).Nodup := by
    rw [hids]
    exact h.nodup.sublist (List.filter_sublist.map _)
  have hreplied := h.replied_of_left { w with listeners := w.listeners.filter (!·.2.wants event) }
    rfl (List.filter_subset_self _) honce fun id => by
      rw [hids]
      exact h.claimed_iff event id
  constructor
  case began =>
    rw [List.filterMap_append, List.map_append, h.began]
    exact List.append_nil _
  case lt_nextId =>
    intro entry hentry
    exact h.lt_nextId entry (List.mem_of_mem_filter hentry)
  case nodup => exact h.nodup.sublist (List.filter_sublist.map _)
  case listening_iff =>
    intro id wants waits
    rw [listening_concat, h.listening_iff]
    simp only [List.mem_filter, reduceCtorEq, false_or, offered.injEq, and_imp, ne_eq,
      not_false_eq_true, implies_true, and_true, Bool.not_eq_eq_eq_not, Bool.not_true]
    constructor
    · rintro ⟨⟨timer?, hentry, hwaits⟩, hwants⟩
      exact ⟨timer?, ⟨hentry, hwants event _ rfl rfl⟩, hwaits⟩
    · rintro ⟨timer?, ⟨hentry, hwants⟩, hwaits⟩
      refine ⟨⟨timer?, hentry, hwaits⟩, ?_⟩
      rintro _ _ rfl -
      exact hwants
  case replied_once => exact hreplied.1
  case replied_iff => exact hreplied.2
  case some_iff =>
    intro id other
    rw [replies_concat, sent, List.mem_append, h.some_iff]
    simp only [firstWanted_concat, exists_or]
    refine or_congr_right ?_
    constructor
    · intro hreply
      obtain ⟨_, hid, heq⟩ := List.mem_map.mp hreply
      cases heq
      obtain ⟨⟨wants, timer?⟩, hl, hwants⟩ := (hmatched id).mp hid
      exact ⟨_, _, wants, rfl, (h.listening_iff _ _ _).mpr ⟨timer?, hl, rfl⟩, hwants⟩
    · rintro ⟨waits, ids, wants, heq, hlistening, hwants⟩
      cases heq
      obtain ⟨timer?, hl, -⟩ := (h.listening_iff _ _ _).mp hlistening
      exact List.mem_map.mpr ⟨id, (hmatched id).mpr ⟨_, hl, hwants⟩, rfl⟩
  case none_iff =>
    intro id
    rw [replies_concat, sent, List.mem_append, h.none_iff]
    simp only [expiredFirst_concat, reduceCtorEq, false_and, exists_false, or_false]
    simp

theorem Answers.expire (h : Answers log w) (id : Nat) :
    Answers (log ++ [.expired id (w.expire id).1]) (w.expire id).2 := by
  have hfound : (w.expire id).1 = true ↔ id ∈ w.listeners.map Prod.fst := by
    simp [EventWaiter.expire]
  have hleft : ∀ other, other ∈ (w.expire id).2.listeners.map Prod.fst ↔
      other ∈ w.listeners.map Prod.fst ∧ other ≠ id := by
    intro other
    simp only [List.mem_map, w.mem_listeners_expire]
    constructor
    · rintro ⟨entry, ⟨hentry, hne⟩, rfl⟩
      exact ⟨⟨entry, hentry, rfl⟩, hne⟩
    · rintro ⟨⟨entry, hentry, rfl⟩, hne⟩
      exact ⟨entry, ⟨hentry, hne⟩, rfl⟩
  have hsent : ∀ reply, reply ∈ sent (.expired id (w.expire id).1 : WaiterEvent E) ↔
      reply = (id, none) ∧ id ∈ w.listeners.map Prod.fst := by
    intro reply
    rw [← hfound, sent]
    split
    · rename_i htrue
      simp [htrue]
    · rename_i hfalse
      simp [hfalse]
  have hids : ∀ other, other ∈ (sent (.expired id (w.expire id).1 : WaiterEvent E)).map Prod.fst ↔
      other ∈ w.listeners.map Prod.fst ∧ other ∉ (w.expire id).2.listeners.map Prod.fst := by
    intro other
    rw [hleft, List.mem_map]
    simp only [hsent]
    constructor
    · rintro ⟨reply, ⟨rfl, hid⟩, rfl⟩
      exact ⟨hid, fun hmem => hmem.2 rfl⟩
    · rintro ⟨hmem, hgone⟩
      obtain rfl : other = id := by
        by_contra hne
        exact hgone ⟨hmem, hne⟩
      exact ⟨_, ⟨rfl, hmem⟩, rfl⟩
  have honce : ((sent (.expired id (w.expire id).1 : WaiterEvent E)).map Prod.fst).Nodup := by
    rw [sent]
    split <;> simp
  have hreplied := h.replied_of_left (w.expire id).2 rfl (List.filter_subset_self _) honce hids
  constructor
  case began =>
    rw [List.filterMap_append, List.map_append, h.began]
    exact List.append_nil _
  case lt_nextId =>
    intro entry hentry
    exact h.lt_nextId entry (List.mem_of_mem_filter hentry)
  case nodup => exact h.nodup.sublist (List.filter_sublist.map _)
  case listening_iff =>
    intro other wants waits
    rw [listening_concat, h.listening_iff]
    simp only [w.mem_listeners_expire, reduceCtorEq, false_or, expired.injEq, not_and, ne_eq,
      false_imp_iff, implies_true, true_and]
    constructor
    · rintro ⟨⟨timer?, hentry, hwaits⟩, hne⟩
      exact ⟨timer?, ⟨hentry, fun heq => hne _ heq.symm rfl⟩, hwaits⟩
    · rintro ⟨timer?, ⟨hentry, hne⟩, hwaits⟩
      exact ⟨⟨timer?, hentry, hwaits⟩, fun _ heq _ => hne heq.symm⟩
  case replied_once => exact hreplied.1
  case replied_iff => exact hreplied.2
  case some_iff =>
    intro other event
    rw [replies_concat, List.mem_append, h.some_iff, hsent]
    simp only [firstWanted_concat, reduceCtorEq, false_and, exists_false, or_false, Prod.mk.injEq,
      and_false]
  case none_iff =>
    intro other
    rw [replies_concat, List.mem_append, h.none_iff, hsent]
    simp only [expiredFirst_concat, exists_or]
    refine or_congr_right ?_
    constructor
    · rintro ⟨heq, hmem⟩
      cases heq
      obtain ⟨⟨_, ⟨wants, timer?⟩⟩, hl, rfl⟩ := List.mem_map.mp hmem
      exact ⟨_, _, wants, rfl, (h.listening_iff _ _ _).mpr ⟨timer?, hl, rfl⟩⟩
    · rintro ⟨waits, found, wants, heq, hlistening⟩
      cases heq
      obtain ⟨timer?, hl, -⟩ := (h.listening_iff _ _ _).mp hlistening
      exact ⟨rfl, List.mem_map.mpr ⟨_, hl, rfl⟩⟩

/-- An offer answers how many listeners it completes: those of the calls that return now, and those
of calls that failed. -/
def Counts (before : List (WaiterEvent E)) (event : E) (ids : List Nat) : Prop :=
  ids.length + (results before).length = (results (before ++ [.offered event ids])).length +
    (ids.filter (deserted before).contains).length

theorem Answers.counts (h : Answers log w) (event : E) (timers : TimedTimers J) :
    Counts log event (w.offer event timers).1 := by
  have hcallers : callers (log ++ [.offered event (w.offer event timers).1]) = callers log := by
    rw [callers, List.filterMap_append]
    simp [beginning?, callers]
  have hids : ∀ id ∈ (w.offer event timers).1, (deserted log).contains id =
      !(callers log).contains id := by
    intro id hid
    rw [w.offer_eq] at hid
    obtain ⟨⟨_, ⟨wants, timer?⟩⟩, hl, rfl⟩ := List.mem_map.mp hid
    have hbegan := ((h.listening_iff _ _ _).mpr
      ⟨timer?, List.mem_of_mem_filter hl, rfl⟩ : Listening log _ wants _).mem
    rw [Bool.eq_iff_iff, List.contains_iff_mem, Bool.not_eq_true', ← Bool.not_eq_true,
      List.contains_iff_mem, mem_deserted, mem_callers]
    cases htimer : timer?.isSome with
    | true =>
      rw [htimer] at hbegan
      constructor
      · rintro ⟨other, hother⟩
        cases h.began_unique hbegan hother
      · intro hnone
        exact absurd ⟨wants, hbegan⟩ hnone
    | false =>
      rw [htimer] at hbegan
      constructor
      · rintro - ⟨other, hother⟩
        cases h.began_unique hbegan hother
      · intro
        exact ⟨wants, hbegan⟩
  unfold Counts
  generalize (w.offer event timers).1 = ids at hcallers hids ⊢
  have hresults : (results (log ++ [.offered event ids])).length =
      (results log).length + (ids.filter (callers log).contains).length := by
    rw [results, hcallers, replies_concat, List.filter_append, List.length_append, sent,
      List.filter_map, List.length_map, results]
    rfl
  have hsplit := List.length_eq_countP_add_countP (callers log).contains (l := ids)
  have hdeserted : ids.filter (deserted log).contains =
      ids.filter fun id => !(callers log).contains id := List.filter_congr hids
  rw [hresults, hdeserted, ← List.countP_eq_length_filter, ← List.countP_eq_length_filter]
  simp only [Bool.not_eq_true, Bool.decide_eq_false] at hsplit
  omega

theorem mem_of_firstWanted {waits : Bool} {event : E} (h : FirstWanted log id waits event) :
    ∃ wants, .began id wants waits ∈ log := by
  obtain ⟨before, ids, after, wants, rfl, hlistening, -⟩ := h
  exact ⟨wants, List.mem_append_left _ hlistening.mem⟩

theorem mem_of_expiredFirst {waits : Bool} (h : ExpiredFirst log id waits) :
    ∃ wants, .began id wants waits ∈ log := by
  obtain ⟨before, found, after, wants, rfl, hlistening⟩ := h
  exact ⟨wants, List.mem_append_left _ hlistening.mem⟩

theorem Answers.result_some_iff (h : Answers log w) (event : E) :
    (id, some event) ∈ results log ↔ FirstWanted log id true event := by
  rw [mem_results, h.some_iff, mem_callers]
  constructor
  · rintro ⟨⟨waits, hfirst⟩, ⟨wants, hbegan⟩⟩
    obtain ⟨wants', hbegan'⟩ := mem_of_firstWanted hfirst
    rwa [h.began_unique hbegan hbegan']
  · intro hfirst
    exact ⟨⟨true, hfirst⟩, mem_of_firstWanted hfirst⟩

theorem Answers.result_none_iff (h : Answers log w) :
    (id, none) ∈ results log ↔ ExpiredFirst log id true := by
  rw [mem_results, h.none_iff, mem_callers]
  constructor
  · rintro ⟨⟨waits, hfirst⟩, ⟨wants, hbegan⟩⟩
    obtain ⟨wants', hbegan'⟩ := mem_of_expiredFirst hfirst
    rwa [h.began_unique hbegan hbegan']
  · intro hfirst
    exact ⟨⟨true, hfirst⟩, mem_of_expiredFirst hfirst⟩

/-- A call has returned when its listener is gone, and not before. -/
theorem Answers.result_iff (h : Answers log w) (hid : id ∈ callers log) :
    (∃ reply?, (id, reply?) ∈ results log) ↔ id ∉ w.listeners.map Prod.fst := by
  obtain ⟨wants, hbegan⟩ := mem_callers.mp hid
  have hreplied : (∃ reply?, (id, reply?) ∈ results log) ↔ id ∈ (replies log).map Prod.fst := by
    simp only [mem_results, hid, and_true, List.mem_map, Prod.exists]
    exact ⟨fun ⟨reply?, hreply⟩ => ⟨id, reply?, hreply, rfl⟩, fun ⟨_, reply?, hreply, heq⟩ =>
      ⟨reply?, heq ▸ hreply⟩⟩
  rw [hreplied, h.replied_iff]
  exact and_iff_right (h.lt_of_began hbegan)

/-- The listeners of the calls that wait have timers, and those of calls that failed have none. -/
theorem Answers.timed_iff (h : Answers log w) {entry : Nat × Listener E}
    (hentry : entry ∈ w.listeners) : entry.2.timer?.isSome = true ↔ entry.1 ∈ callers log := by
  have hbegan := ((h.listening_iff _ _ _).mpr ⟨entry.2.timer?, hentry, rfl⟩).mem
  rw [mem_callers]
  constructor
  · intro htimer
    rw [htimer] at hbegan
    exact ⟨_, hbegan⟩
  · rintro ⟨wants, hcalled⟩
    exact h.began_unique hbegan hcalled

namespace WaiterHistory

variable {h h' : WaiterHistory E}

/-- The log tells who listens, and every offer in it counts as it should. -/
structure Kept (h : WaiterHistory E) : Prop where
  answers : Answers h.log h.waiter
  counts : ∀ before event ids after, h.log = before ++ .offered event ids :: after →
    Counts before event ids

theorem Kept.wait (hk : h.Kept) (wants : E → Bool) (timeout? : Option Duration) :
    (h.wait wants timeout?).Kept := by
  constructor
  · unfold WaiterHistory.wait
    rcases h.waiter.wait_cases wants timeout? h.timed fun id => (h.timers.arms.length, id) with
      ⟨timer, later, -, hwait⟩ | ⟨e, hwait⟩
    · rw [hwait]
      exact hk.answers.enter wants (some timer)
    · rw [hwait]
      exact hk.answers.enter wants none
  · intro before event ids after hlog
    rcases TimerAct.eq_append_cons_of_concat hlog with ⟨-, hentry⟩ | ⟨rest, hlog⟩
    · cases hentry
    · exact hk.counts before event ids rest hlog

theorem Kept.offer (hk : h.Kept) (event : E) : (h.offer event).Kept := by
  constructor
  · exact hk.answers.offer event h.timed
  · intro before other ids after hlog
    rcases TimerAct.eq_append_cons_of_concat hlog with ⟨rfl, hentry⟩ | ⟨rest, hlog⟩
    · cases hentry
      exact hk.answers.counts event h.timed
    · exact hk.counts before other ids rest hlog

theorem Kept.expire (hk : h.Kept) (id : Nat) (timers : Timers (Nat × Nat)) :
    ({ h with timers := timers }.expire id).Kept := by
  constructor
  · exact hk.answers.expire id
  · intro before event ids after hlog
    rcases TimerAct.eq_append_cons_of_concat hlog with ⟨-, hentry⟩ | ⟨rest, hlog⟩
    · cases hentry
    · exact hk.counts before event ids rest hlog

theorem Kept.step (hk : h.Kept) (hs : h.Step h') : h'.Kept := by
  cases hs with
  | tick nanos => exact ⟨hk.answers, hk.counts⟩
  | wait wants timeout? => exact hk.wait wants timeout?
  | offer event => exact hk.offer event
  | task _ => exact ⟨hk.answers, hk.counts⟩
  | run position htake => exact hk.expire _ _

theorem Reachable.kept (hr : h.Reachable) : h.Kept := by
  obtain ⟨defaultTimeout, hr⟩ := hr
  induction hr with
  | refl => exact ⟨answers_start defaultTimeout, by simp⟩
  | tail _ hs ih => exact ih.step hs

/-- Cancelling some timers changes no other one. -/
theorem arm?_cancel_all (ids : List Nat) (timers : TimedTimers J) {timer : Nat}
    (htimer : timer ∉ ids) :
    (ids.foldl (fun timers id => (timers.cancel id).2) timers).timers.arm? timer =
      timers.timers.arm? timer := by
  induction ids generalizing timers with
  | nil => rfl
  | cons id ids ih =>
    rw [List.mem_cons, not_or] at htimer
    rw [List.foldl_cons, ih _ htimer.2]
    unfold TimedTimers.cancel Timers.cancel
    obtain ⟨hp, hturn⟩ | ⟨-, hturn⟩ := timers.timers.turn_cases id .cancelled
    · rw [hturn, Timers.arm?, Timers.arm?_set hp, if_neg htimer.1]
    · rw [hturn]

/-- A call waits unless its deadline lies past the horizon. -/
theorem isOk_wait (w : EventWaiter E) (wants : E → Bool) (timeout? : Option Duration)
    (timers : TimedTimers J) (job : Nat → J) : (w.wait wants timeout? timers job).1.isOk = true ↔
      timers.clock + (timeout?.getD w.defaultTimeout).nanos ≤ Timers.horizon := by
  have hset := timers.timers.schedule_cases timers.clock (timeout?.getD w.defaultTimeout).nanos
    (job w.nextId)
  unfold EventWaiter.wait TimedTimers.schedule
  rcases hset with ⟨hpast, hset⟩ | ⟨hle, -, hset⟩ | ⟨hle, -, hset⟩
  · rw [hset]
    simpa [Except.map, Except.isOk, Except.toBool] using hpast
  · rw [hset]
    simpa [Except.map, Except.isOk, Except.toBool] using hle
  · rw [hset]
    simpa [Except.map, Except.isOk, Except.toBool] using hle

/-- How those who wait are served. -/
structure ServesOnce (h : WaiterHistory E) : Prop where
  /-- A call returns at most once. -/
  once : ((results h.log).map Prod.fst).Nodup
  /-- Its listener is gone from then on, and is there before. -/
  gone_iff : ∀ id ∈ callers h.log,
    (∃ reply?, (id, reply?) ∈ results h.log) ↔ id ∉ h.waiter.listeners.map Prod.fst
  some_iff : ∀ id event, (id, some event) ∈ results h.log ↔ FirstWanted h.log id true event
  none_iff : ∀ id, (id, none) ∈ results h.log ↔ ExpiredFirst h.log id true
  expired_once : (h.log.filterMap expired?).Nodup
  counts : ∀ before event ids after, h.log = before ++ .offered event ids :: after →
    Counts before event ids
  /-- An event that a listener does not want changes neither the listener nor its timer. -/
  rejected : ∀ event, ∀ entry ∈ h.waiter.listeners, entry.2.wants event = false →
    entry ∈ (h.offer event).waiter.listeners ∧
      ∀ timer, entry.2.timer? = some timer →
        (h.offer event).timers.arm? timer = h.timers.arm? timer
  /-- A listener has a timer unless its call failed. -/
  timed_iff : ∀ entry ∈ h.waiter.listeners,
    entry.2.timer?.isSome = true ↔ entry.1 ∈ callers h.log
  /-- A call fails if its deadline lies past the horizon. -/
  fails_iff : ∀ wants timeout?, h.waiter.nextId ∈ deserted (h.wait wants timeout?).log ↔
    Timers.horizon < h.clock + (timeout?.getD h.waiter.defaultTimeout).nanos

theorem waiters_serve_once (hr : h.Reachable) : h.ServesOnce := by
  obtain ⟨t, ht⟩ := hr.exists_times
  have hk := hr.kept
  constructor
  case once => exact hk.answers.replied_once.sublist (List.filter_sublist.map _)
  case gone_iff =>
    intro id hid
    exact hk.answers.result_iff hid
  case some_iff =>
    intro id event
    exact hk.answers.result_some_iff event
  case none_iff =>
    intro id
    exact hk.answers.result_none_iff
  case expired_once => exact ht.expired_once
  case counts => exact hk.counts
  case rejected =>
    intro event entry hentry hwants
    unfold WaiterHistory.offer
    rw [h.waiter.offer_eq]
    constructor
    · exact List.mem_filter.mpr ⟨hentry, by simp [hwants]⟩
    · intro timer htimer
      apply arm?_cancel_all
      intro hmem
      obtain ⟨other, hother, htimer'⟩ := List.mem_filterMap.mp hmem
      obtain ⟨hother, hwants'⟩ := List.mem_filter.mp hother
      cases hk.answers.listener_unique hentry hother
        (ht.handle_unique hentry hother htimer htimer')
      rw [hwants] at hwants'
      cases hwants'
  case timed_iff =>
    intro entry hentry
    exact hk.answers.timed_iff hentry
  case fails_iff =>
    intro wants timeout?
    have hok := isOk_wait h.waiter wants timeout? h.timed fun id => (h.timers.arms.length, id)
    rw [← Nat.not_le, ← show _ ↔ h.clock + _ ≤ Timers.horizon from hok, mem_deserted,
      Bool.not_eq_true]
    constructor
    · rintro ⟨other, hmem⟩
      rcases List.mem_append.mp hmem with hmem | hmem
      · exact absurd (hk.answers.lt_of_began hmem) (Nat.lt_irrefl _)
      · exact (WaiterEvent.began.inj (List.mem_singleton.mp hmem)).2.2.symm
    · intro hfails
      refine ⟨wants, List.mem_append_right _ ?_⟩
      rw [hfails]
      exact List.mem_singleton_self _

/-- An event is claimed by a call whose job was handed over and finds nothing any more, while
another call waits on. -/
theorem waiters_serve_once_race : ∃ h : WaiterHistory Nat, h.Reachable ∧
    results h.log = [(1, some 2)] ∧ h.log.filterMap expired? = [1] ∧
    h.waiter.listeners.map Prod.fst = [0] ∧ h.timers.arms = [.armed, .fired] ∧ h.ServesOnce := by
  have hwaiting := ((ReflTransGen.refl.tail (Step.wait { waiter := { defaultTimeout := ⟨9⟩ } }
    (fun event => event == 1) none)).tail (.wait _ (fun event => event == 2) (some ⟨3⟩)))
  have hfired := (((hwaiting.tail (.task (.receive rfl rfl))).tail
    (.task (.receive rfl rfl))).tail (.tick _ 3)).tail (.task (.wake rfl rfl))
  have hran := (hfired.tail (.offer _ 2)).tail (.run 0 rfl)
  exact ⟨_, ⟨_, hran⟩, rfl, rfl, rfl, rfl, waiters_serve_once ⟨_, hran⟩⟩

/-- A listener that has no timer, since its call failed, is counted although nobody waits there. -/
theorem offer_counts_failed_call : ∃ h : WaiterHistory Unit, h.Reachable ∧
    h.waiter.defaultTimeout = ⟨18446744073709551615 * 1000000000⟩ ∧
    h.waiter.listeners.map (fun entry => (entry.1, entry.2.timer?)) = [(0, none)] ∧
    (h.offer ()).log = h.log ++ [.offered () [0]] ∧ results (h.offer ()).log = [] := by
  have hfailed := ReflTransGen.refl.tail (Step.wait
    { waiter := { defaultTimeout := ⟨18446744073709551615 * 1000000000⟩ } }
    (fun _ : Unit => true) none)
  exact ⟨_, ⟨_, hfailed⟩, rfl, rfl, rfl, rfl⟩

end WaiterHistory

end ChatCommands
