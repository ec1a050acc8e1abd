import Mathlib.Data.List.Nodup
import Mathlib.Data.List.Perm.Basic
import ChatCommands.Timer.Table

/-! # What a timer table lists

The timers of a table are some of those that were set. Its agenda has their deadlines, each once, in
the order in which they pass, and its jobs are theirs.
-/

namespace ChatCommands

open scoped List

/-- One entry of an agenda passes before another one. -/
def Sooner (a b : Nat × Nat) : Prop :=
  a.1 < b.1 ∨ a.1 = b.1 ∧ a.2 < b.2

theorem Sooner.trans {a b c : Nat × Nat} (hab : Sooner a b) (hbc : Sooner b c) : Sooner a c := by
  simp only [Sooner] at hab hbc ⊢
  omega

theorem getElem?_append_of_eq_some {α : Type} {as : List α} {i : Nat} {a : α}
    (h : as[i]? = some a) (more : List α) : (as ++ more)[i]? = some a := by
  rw [List.getElem?_append_left (List.getElem?_eq_some_iff.mp h).1, h]

namespace TimerTable

variable {J : Type} {timers : List (Nat × J)} {table : TimerTable J} {deadline id : Nat} {job : J}

/-- The table holds some of the timers that were set, which are given with deadline and job in the
order of their ids. -/
structure Lists (timers : List (Nat × J)) (table : TimerTable J) : Prop where
  sorted : table.agenda.Pairwise Sooner
  nodup : (table.jobs.map Prod.fst).Nodup
  known : ∀ id job, (id, job) ∈ table.jobs → ∃ deadline, timers[id]? = some (deadline, job)
  mem_agenda : ∀ deadline id, (deadline, id) ∈ table.agenda ↔
    ∃ job, (id, job) ∈ table.jobs ∧ timers[id]? = some (deadline, job)

theorem lists_empty (timers : List (Nat × J)) : Lists timers {} :=
  ⟨.nil, .nil, by simp, by simp⟩

theorem mem_enter {entry : Nat × Nat} {agenda : List (Nat × Nat)} :
    entry ∈ enter deadline id agenda ↔ entry = (deadline, id) ∨ entry ∈ agenda := by
  induction agenda with
  | nil => simp [enter]
  | cons first rest ih =>
    rw [enter]
    split
    · simp
    · simp only [List.mem_cons, ih]
      exact or_left_comm

theorem sorted_enter {agenda : List (Nat × Nat)} (h : agenda.Pairwise Sooner)
    (hnew : (deadline, id) ∉ agenda) : (enter deadline id agenda).Pairwise Sooner := by
  induction agenda with
  | nil => exact List.pairwise_singleton _ _
  | cons first rest ih =>
    obtain ⟨hfirst, hrest⟩ := List.pairwise_cons.mp h
    rw [enter]
    split
    · rename_i hsooner
      have hsooner : Sooner (deadline, id) first := by simpa [Sooner] using hsooner
      exact .cons (List.forall_mem_cons.mpr ⟨hsooner, fun e he => hsooner.trans (hfirst e he)⟩) h
    · rename_i hlater
      have hlater : ¬Sooner (deadline, id) first := by simpa [Sooner] using hlater
      obtain ⟨hne, hnew⟩ := List.ne_and_not_mem_of_not_mem_cons hnew
      have hfirst' : Sooner first (deadline, id) := by
        simp only [Sooner, ne_eq, Prod.ext_iff] at hlater hne ⊢
        omega
      refine .cons (fun e he => ?_) (ih hrest hnew)
      rcases mem_enter.mp he with rfl | he
      · exact hfirst'
      · exact hfirst e he

/-- Setting more timers changes nothing about those in the table. -/
theorem Lists.append (h : table.Lists timers) (more : List (Nat × J)) :
    table.Lists (timers ++ more) where
  sorted := h.sorted
  nodup := h.nodup
  known id job hjob := by
    obtain ⟨deadline, hdeadline⟩ := h.known id job hjob
    exact ⟨deadline, getElem?_append_of_eq_some hdeadline more⟩
  mem_agenda deadline id := by
    rw [h.mem_agenda]
    refine exists_congr fun job => and_congr_right fun hjob => ?_
    obtain ⟨other, hother⟩ := h.known id job hjob
    rw [hother, getElem?_append_of_eq_some hother more]

theorem Lists.insert (h : table.Lists timers) (hid : timers[id]? = some (deadline, job))
    (hnew : id ∉ table.jobs.map Prod.fst) : (table.insert id deadline job).Lists timers := by
  have hfilter : table.jobs.filter (·.1 != id) = table.jobs := by
    refine List.filter_eq_self.mpr fun entry hentry => ?_
    have hne : entry.1 ≠ id := fun heq => hnew (heq ▸ List.mem_map_of_mem hentry)
    simpa using hne
  rw [TimerTable.insert, hfilter]
  constructor
  · refine sorted_enter h.sorted fun hmem => ?_
    obtain ⟨other, hother, -⟩ := (h.mem_agenda _ _).mp hmem
    exact hnew (List.mem_map_of_mem hother)
  · rw [List.map_append]
    refine List.nodup_append.mpr ⟨h.nodup, List.nodup_singleton _, fun a ha b hb heq => hnew ?_⟩
    obtain rfl : b = id := List.mem_singleton.mp hb
    exact heq ▸ ha
  · intro other otherJob hother
    rcases List.mem_append.mp hother with hother | hother
    · exact h.known other otherJob hother
    · cases List.mem_singleton.mp hother
      exact ⟨deadline, hid⟩
  · intro d i
    rw [mem_enter, h.mem_agenda]
    simp only [List.mem_append, List.mem_singleton, Prod.mk.injEq]
    constructor
    · rintro (⟨rfl, rfl⟩ | ⟨other, hother, hset⟩)
      · exact ⟨job, Or.inr ⟨rfl, rfl⟩, hid⟩
      · exact ⟨other, Or.inl hother, hset⟩
    · rintro ⟨other, hother | ⟨rfl, rfl⟩, hset⟩
      · exact Or.inr ⟨other, hother, hset⟩
      · rw [hid] at hset
        cases hset
        exact Or.inl ⟨rfl, rfl⟩

/-- What is left of a table when some of its timers are taken out. -/
theorem Lists.filter (h : table.Lists timers) (keep : Nat → Bool) :
    Lists timers ⟨table.agenda.filter (keep ·.2), table.jobs.filter (keep ·.1)⟩ where
  sorted := h.sorted.filter _
  nodup := h.nodup.sublist (List.filter_sublist.map Prod.fst)
  known id job hjob := h.known id job (List.mem_of_mem_filter hjob)
  mem_agenda deadline id := by
    simp only [List.mem_filter, h.mem_agenda]
    constructor
    · rintro ⟨⟨job, hjob, hset⟩, hkeep⟩
      exact ⟨job, ⟨hjob, hkeep⟩, hset⟩
    · rintro ⟨job, ⟨hjob, hkeep⟩, hset⟩
      exact ⟨⟨job, hjob, hset⟩, hkeep⟩

/-- A table without what is in no timer's name any more. -/
theorem Lists.prune (h : table.Lists timers) (keep : Nat → Bool) :
    (table.prune keep).Lists timers ∧ (table.prune keep).agenda = table.agenda.filter (keep ·.2) ∧
      (table.prune keep).jobs = table.jobs.filter (keep ·.1) := by
  have hagenda : (table.prune keep).agenda = table.agenda.filter (keep ·.2) := by
    refine List.filter_congr fun entry hentry => ?_
    obtain ⟨job, hjob, -⟩ := (h.mem_agenda entry.1 entry.2).mp hentry
    rw [Bool.eq_iff_iff, List.any_eq_true]
    constructor
    · rintro ⟨other, hother, heq⟩
      rw [← eq_of_beq heq]
      exact (List.mem_filter.mp hother).2
    · intro hkeep
      exact ⟨(entry.2, job), List.mem_filter.mpr ⟨hjob, hkeep⟩, beq_self_eq_true _⟩
  have hjobs : (table.prune keep).jobs = table.jobs.filter (keep ·.1) := rfl
  refine ⟨?_, hagenda, hjobs⟩
  have hfilter := h.filter keep
  rw [← hagenda, ← hjobs] at hfilter
  exact hfilter

theorem lookup_eq_some_of_nodup {jobs : List (Nat × J)} (h : (jobs.map Prod.fst).Nodup)
    (hjob : (id, job) ∈ jobs) : jobs.lookup id = some job := by
  obtain ⟨before, after, rfl⟩ := List.append_of_mem hjob
  refine List.lookup_eq_some_iff.mpr ⟨before, after, rfl, fun entry hentry => ?_⟩
  rw [List.map_append, List.map_cons] at h
  have hmem : entry.1 ∈ _ := List.mem_map_of_mem hentry
  have hne := (List.nodup_append.mp h).2.2 entry.1 hmem id List.mem_cons_self
  simpa using Ne.symm hne

/-- No timer has two deadlines. -/
theorem Lists.nodup_agenda (h : table.Lists timers) : (table.agenda.map Prod.snd).Nodup := by
  refine List.pairwise_map.mpr (h.sorted.imp_of_mem fun {a b} ha hb hsooner heq => ?_)
  obtain ⟨_, -, hset⟩ := (h.mem_agenda a.1 a.2).mp ha
  obtain ⟨_, -, hother⟩ := (h.mem_agenda b.1 b.2).mp hb
  rw [heq, hother] at hset
  obtain ⟨hsame, -⟩ := Prod.mk.inj (Option.some.inj hset)
  simp only [Sooner] at hsooner
  omega

/-- The deadlines and the jobs are those of the same timers. -/
theorem Lists.agenda_perm (h : table.Lists timers) :
    table.agenda.map Prod.snd ~ table.jobs.map Prod.fst := by
  refine (List.perm_ext_iff_of_nodup h.nodup_agenda h.nodup).mpr fun id => ?_
  simp only [List.mem_map, Prod.exists, exists_and_right, exists_eq_right, h.mem_agenda]
  constructor
  · rintro ⟨_, job, hjob, -⟩
    exact ⟨job, hjob⟩
  · rintro ⟨job, hjob⟩
    obtain ⟨deadline, hset⟩ := h.known id job hjob
    exact ⟨deadline, job, hjob, hset⟩

/-- The first deadline is no later than any other. -/
theorem Lists.earliest?_le (h : table.Lists timers) (hmem : (deadline, id) ∈ table.agenda) :
    ∃ first, table.earliest? = some first ∧ first ≤ deadline := by
  obtain ⟨entry, rest, hagenda⟩ := List.exists_cons_of_ne_nil (List.ne_nil_of_mem hmem)
  refine ⟨entry.1, by rw [earliest?, hagenda]; rfl, ?_⟩
  rw [hagenda] at hmem
  rcases List.mem_cons.mp hmem with rfl | hmem
  · exact Nat.le_refl _
  · have hsooner := (List.pairwise_cons.mp (hagenda ▸ h.sorted)).1 _ hmem
    simp only [Sooner] at hsooner
    omega

/-- A timer that passes first is not in the rest of the agenda. -/
theorem Lists.agenda_filter (h : table.Lists timers) {rest : List (Nat × Nat)}
    (hagenda : table.agenda = (deadline, id) :: rest) :
    table.agenda.filter (·.2 != id) = rest := by
  have hnodup := hagenda ▸ h.nodup_agenda
  rw [hagenda, List.filter_cons_of_neg (by simp)]
  refine List.filter_eq_self.mpr fun entry hentry => ?_
  have hne : entry.2 ≠ id := by
    rintro rfl
    have hmem : entry.2 ∈ rest.map Prod.snd := List.mem_map_of_mem hentry
    exact (List.nodup_cons.mp hnodup).1 hmem
  simpa using hne

/-- The first timer of a table, if it is due, is taken out as a whole. -/
theorem Lists.popDue? (h : table.Lists timers) {now : Nat} {job? : Option J}
    {left : TimerTable J} (hpop : table.popDue? now = some (id, job?, left)) :
    ∃ deadline job, job? = some job ∧ deadline ≤ now ∧ timers[id]? = some (deadline, job) ∧
      table.agenda = (deadline, id) :: left.agenda ∧
      left.jobs = table.jobs.filter (·.1 != id) ∧ left.Lists timers := by
  unfold TimerTable.popDue? at hpop
  split at hpop
  · cases hpop
  · rename_i deadline first rest hagenda
    split at hpop
    · rename_i hdue
      cases hpop
      obtain ⟨job, hjob, hset⟩ := (h.mem_agenda deadline id).mp (hagenda ▸ List.mem_cons_self)
      have hleft := h.filter (· != id)
      rw [h.agenda_filter hagenda] at hleft
      exact ⟨deadline, job, lookup_eq_some_of_nodup h.nodup hjob, hdue, hset, hagenda, rfl, hleft⟩
    · cases hpop

theorem popDue?_eq_none {now : Nat} (h : table.popDue? now = none) :
    ∀ deadline, table.earliest? = some deadline → now < deadline := by
  intro deadline hearliest
  unfold TimerTable.popDue? at h
  split at h
  · rename_i hagenda
    simp [earliest?, hagenda] at hearliest
  · rename_i first id rest hagenda
    split at h
    · cases h
    · simp only [earliest?, hagenda, List.head?_cons, Option.map_some,
        Option.some.injEq] at hearliest
      omega

end TimerTable

end ChatCommands
