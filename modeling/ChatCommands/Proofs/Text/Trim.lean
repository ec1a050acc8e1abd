import ChatCommands.Proofs.Text.Words

/-! # Trimming

What trimming does to texts put together, and the white space that it takes off.
-/

namespace ChatCommands.Text

variable {s t g : List Char}

theorem head?_append_of_ne_nil (h : s ≠ []) (t : List Char) : (s ++ t).head? = s.head? := by
  obtain ⟨c, s, rfl⟩ := List.exists_cons_of_ne_nil h
  rfl

theorem isBlank_iff : isBlank s = true ↔ trimStart s = [] := by
  induction s with
  | nil => simp [isBlank, trimStart]
  | cons c s ih =>
    cases hc : isSpace c with
    | false => simp [isBlank, trimStart, hc]
    | true =>
      rw [isBlank, trimStart, List.all_cons, List.dropWhile_cons, hc, Bool.true_and, if_pos rfl]
      exact ih

theorem isBlank_eq_false_iff : isBlank s = false ↔ trimStart s ≠ [] := by
  rw [Bool.eq_false_iff, ne_eq, isBlank_iff]

theorem isBlank_cons {c : Char} : isBlank (c :: s) = (isSpace c && isBlank s) :=
  List.all_cons

theorem isBlank_append : isBlank (s ++ t) = (isBlank s && isBlank t) :=
  List.all_append

/-- White space is all that is taken off in front. -/
theorem exists_blank_trimStart (s : List Char) : ∃ g, isBlank g = true ∧ s = g ++ trimStart s :=
  ⟨s.takeWhile isSpace, List.all_takeWhile, List.takeWhile_append_dropWhile.symm⟩

theorem trimStart_append_of_blank (h : isBlank s = true) : trimStart (s ++ t) = trimStart t :=
  List.dropWhile_append_of_pos (List.all_eq_true.mp h)

theorem trimStart_append (h : isBlank s = false) : trimStart (s ++ t) = trimStart s ++ t := by
  have hne : (s.dropWhile isSpace).isEmpty = false :=
    List.isEmpty_eq_false_iff.mpr (isBlank_eq_false_iff.mp h)
  rw [trimStart, List.dropWhile_append, hne]
  rfl

/-- Where a space parts two texts, it does so with their words. -/
theorem words_append_space (s t : List Char) : words (s ++ ' ' :: t) = words s ++ words t := by
  fun_induction words s with
  | case1 s hs =>
    have hblank : isBlank (s ++ [' ']) = true := by
      rw [isBlank_append, isBlank_iff.mpr hs]
      rfl
    rw [List.append_cons, ← words_trimStart, trimStart_append_of_blank hblank, words_trimStart]
    rfl
  | case2 s c cs hs ih =>
    have hc : isSpace c = false := head?_trimStart (by rw [hs]; rfl)
    have hblank : isBlank s = false := by
      rw [isBlank_eq_false_iff, hs]
      exact List.cons_ne_nil _ _
    have hsplit : c :: cs ++ ' ' :: t = (c :: cs.takeWhile (!isSpace ·)) ++
        (cs.dropWhile (!isSpace ·) ++ ' ' :: t) := by
      rw [← List.append_assoc, List.cons_append, List.cons_append, List.cons_append,
        List.takeWhile_append_dropWhile]
    have hbreak : ∀ d ∈ (cs.dropWhile (!isSpace ·) ++ ' ' :: t).head?, isSpace d = true := by
      intro d hd
      have hfirst := List.head?_dropWhile_not (!isSpace ·) cs
      cases hdrop : cs.dropWhile (!isSpace ·) with
      | nil =>
        rw [hdrop] at hd
        cases hd
        rfl
      | cons e es =>
        rw [hdrop] at hd hfirst
        cases hd
        simpa using hfirst
    rw [← words_trimStart, trimStart_append hblank, hs, hsplit,
      words_append (isWord_takeWhile hc cs) hbreak, ih]
    rfl

theorem trimStart_trimStart_append (s t : List Char) :
    trimStart (trimStart s ++ t) = trimStart (s ++ t) := by
  obtain ⟨g, hg, hs⟩ := exists_blank_trimStart s
  have h := trimStart_append_of_blank (t := trimStart s ++ t) hg
  rwa [← List.append_assoc, ← hs, eq_comm] at h

theorem trimStart_suffix (s : List Char) : trimStart s <:+ s :=
  List.dropWhile_suffix isSpace

/-- White space is all that is taken off behind. -/
theorem exists_blank_trimEnd (s : List Char) : ∃ g, isBlank g = true ∧ s = trimEnd s ++ g := by
  obtain ⟨g, hg, hs⟩ := exists_blank_trimStart s.reverse
  refine ⟨g.reverse, by simpa [isBlank] using hg, ?_⟩
  have h := congrArg List.reverse hs
  rwa [List.reverse_append, List.reverse_reverse] at h

theorem trimEnd_append_of_blank (h : isBlank t = true) : trimEnd (s ++ t) = trimEnd s := by
  have hr : isBlank t.reverse = true := by simpa [isBlank] using h
  have ht := trimStart_append_of_blank (t := s.reverse) hr
  rw [trimStart, trimStart] at ht
  rw [trimEnd, trimEnd, List.reverse_append, ht]

theorem trimEnd_of_blank (h : isBlank s = true) : trimEnd s = [] :=
  trimEnd_append_of_blank (s := []) h

theorem trimEnd_append (h : isBlank t = false) : trimEnd (s ++ t) = s ++ trimEnd t := by
  have hr : isBlank t.reverse = false := by simpa [isBlank] using h
  have ht := trimStart_append (t := s.reverse) hr
  rw [trimStart, trimStart] at ht
  rw [trimEnd, trimEnd, List.reverse_append, ht, List.reverse_append, List.reverse_reverse]

theorem trimEnd_of_getLast (h : ∀ c ∈ s.getLast?, isSpace c = false) : trimEnd s = s := by
  have hr : trimStart s.reverse = s.reverse :=
    trimStart_of_head fun c hc => h c (by rwa [List.head?_reverse] at hc)
  rw [trimStart] at hr
  rw [trimEnd, hr, List.reverse_reverse]

theorem trim_of_blank (h : isBlank s = true) : trim s = [] := by
  rw [trim, isBlank_iff.mp h]
  rfl

theorem trim_append_of_blank (h : isBlank t = true) : trim (s ++ t) = trim s := by
  cases hs : isBlank s with
  | true => rw [trim, trim, trimStart_append_of_blank hs, isBlank_iff.mp h, isBlank_iff.mp hs]
  | false => rw [trim, trimStart_append hs, trimEnd_append_of_blank h, trim]

theorem exists_blank_trim (s : List Char) : ∃ g, isBlank g = true ∧ trimEnd s = g ++ trim s := by
  cases h : isBlank s with
  | true => exact ⟨[], rfl, by rw [trimEnd_of_blank h, trim_of_blank h]; rfl⟩
  | false =>
    obtain ⟨g, hg, hs⟩ := exists_blank_trimStart s
    have hstart : isBlank (trimStart s) = false := by
      rw [isBlank_eq_false_iff, trimStart_trimStart]
      exact isBlank_eq_false_iff.mp h
    refine ⟨g, hg, ?_⟩
    rw [trim, ← trimEnd_append hstart, ← hs]

end ChatCommands.Text
