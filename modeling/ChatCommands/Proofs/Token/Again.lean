import ChatCommands.Proofs.Token.Escaped

/-! # Tokens read again

A token that is cut out of a text together with the white space behind it is read once more as it
was. Without that white space it is, unless a backslash at the end kept some of it.
-/

namespace ChatCommands

open Text

namespace Token

variable {s x g : List Char} {c : Char} {q : Bool}

section Front

theorem alone_of_leftover {t : Token} (h : t.leftover = []) : t.alone = t := by
  cases t
  cases h
  rfl

theorem leftover_eq_nil_of_before {t : Token} (ht : trimStart t.leftover = t.leftover)
    (h : (t.before x).leftover = x) : t.leftover = [] := by
  cases hblank : isBlank t.leftover with
  | true => rwa [← ht, ← isBlank_iff]
  | false =>
    rw [before, trimStart_append hblank, ht] at h
    exact List.append_left_eq_self.mp h

/-- A token is read again from the text in front of what it left. -/
theorem front_of_leftover (hs : s ≠ []) (h : (front q (s ++ x)).leftover = x) :
    front q s = (front q (s ++ x)).alone := by
  cases x with
  | nil =>
    rw [alone_of_leftover h, List.append_nil]
  | cons c cs =>
    have hx : ∀ d ∈ (c :: cs).head?, isSpace d = false := by
      rw [← h, ← trimStart_leftover_front]
      exact fun d hd => head?_trimStart hd
    have hbefore := front_append_of_length hx (List.cons_ne_nil c cs) (Nat.le_of_eq (by rw [h])) hs
    have hnil := leftover_eq_nil_of_before (trimStart_leftover_front q s) (hbefore ▸ h)
    rw [hbefore, alone, before, ← hnil]

/-- White space behind a backslash goes to the first token, if that is the last, or to what that
leaves. -/
theorem front_append_cases (hs : leavesEscaped false s = true) (hx : isBlank x = true) :
    (∃ u, (splitSpace false s).2 = [] ∧ front q s = bare s u ∧
      front q (s ++ x) = bare (s ++ x) u) ∨
    (leavesEscaped false (front q s).leftover = true ∧
      front q (s ++ x) = (front q s).before x) := by
  by_cases hquote : q = true ∧ ∃ body p, s = '"' :: body ∧ closeQuote? false body = some p
  · obtain ⟨rfl, body, ⟨inner, after⟩, rfl, hclosed⟩ := hquote
    exact .inr ⟨leavesEscaped_leftover_quoted hclosed hs, front_quoted_append hclosed x⟩
  · have hbare : ∃ u, front q s = bare s u ∧ front q (s ++ x) = bare (s ++ x) u := by
      cases q with
      | false => exact ⟨false, front_false s, front_false _⟩
      | true =>
        by_cases hhead : s.head? = some '"'
        · obtain ⟨body, rfl⟩ := List.head?_eq_some_iff.mp hhead
          have hopen : closeQuote? false body = none :=
            Option.eq_none_iff_forall_ne_some.mpr fun p hp => hquote ⟨rfl, body, p, rfl, hp⟩
          exact ⟨true, front_open hopen,
            front_open (closeQuote?_append_eq_none_iff.mpr ⟨hopen, closeQuote?_of_blank hx⟩)⟩
        · refine ⟨false, front_bare hhead, front_bare ?_⟩
          rwa [head?_append_of_ne_nil]
          rintro rfl
          cases hs
    obtain ⟨u, hfront, happend⟩ := hbare
    by_cases hnil : (splitSpace false s).2 = []
    · exact .inl ⟨u, hnil, hfront, happend⟩
    · rw [happend, hfront]
      exact .inr ⟨leavesEscaped_leftover_bare hnil hs, bare_append hnil x⟩

end Front

section All

/-- White space behind a text is part of no token, unless a backslash keeps it. -/
theorem all_append_blank (hg : isBlank g = true) (h : leavesEscaped false s = false) :
    (all q (s ++ g)).map alone = (all q s).map alone := by
  have hspace : ∀ c ∈ g.head?, isSpace c = true := fun c hc =>
    List.all_eq_true.mp hg c (List.mem_of_mem_head? hc)
  induction s using starts.induct q with
  | case1 s hs =>
    have hblank := isBlank_iff.mpr hs
    rw [all, all, starts_append_of_blank hblank, starts_of_blank hg, starts_of_blank hblank]
  | case2 s hs ih =>
    have hblank : isBlank s = false := isBlank_eq_false_iff.mpr hs
    have hfront : split q (s ++ g) = (split q s).before g := by
      rw [split_of_not_blank_append hblank]
      exact front_append_of_space hspace (leavesEscaped_suffix (trimStart_suffix s) h)
        (fun _ => closeQuote?_of_blank hg) hs
    have hrest := ih (leavesEscaped_suffix (leftover_split_suffix q s) h)
    rw [all_of_not_blank (by rw [isBlank_append, hblank, Bool.false_and]), hfront,
      all_of_not_blank hblank, List.map_cons, List.map_cons, ← hrest, before, all,
      starts_trimStart]
    rfl

/-- White space behind a backslash is drawn into the last token. -/
theorem all_append_ne (h : leavesEscaped false s = true) (hc : isSpace c = true)
    (hg : isBlank g = true) : (all q (s ++ c :: g)).map value ≠ (all q s).map value := by
  have hx : isBlank (c :: g) = true := by rw [isBlank_cons, hc, hg, Bool.and_self]
  induction s using starts.induct q with
  | case1 s hs => exact absurd hs (isBlank_eq_false_iff.mp (not_blank_of_leavesEscaped h))
  | case2 s hs ih =>
    have hblank := not_blank_of_leavesEscaped h
    rw [all_of_not_blank (by rw [isBlank_append, hblank, Bool.false_and]),
      all_of_not_blank hblank, split_of_not_blank_append hblank, List.map_cons, List.map_cons]
    intro heq
    obtain ⟨hvalue, hrest⟩ := List.cons.inj heq
    rcases front_append_cases (q := q) (leavesEscaped_trimStart h) hx with
      ⟨u, hnil, hfront, happend⟩ | ⟨hleft, happend⟩
    · -- The first token is the last: it ends in the backslash, or in the white space it kept.
      have hne : (c == '\\') = false := by
        refine beq_eq_false_iff_ne.mpr ?_
        rintro rfl
        cases hc
      have hspace : ∀ d ∈ g.head?, isSpace d = true := fun d hd =>
        List.all_eq_true.mp hg d (List.mem_of_mem_head? hd)
      have hsplit : splitSpace true (c :: g) = ([c], g) := by
        rw [splitSpace, hc, hne, splitSpace_of_space hspace]
        rfl
      obtain ⟨drawn, hdrawn⟩ := unescape_append_space (trimStart s)
      have hstart := leavesEscaped_trimStart h
      rw [happend, bare_append_of_nil hnil, hstart, hsplit, split, hfront, bare_of_nil hnil,
        hdrawn c hc] at hvalue
      have hlast := congrArg List.getLast? hvalue
      simp only [List.getLast?_concat, getLast?_unescape hstart] at hlast
      cases hlast
      cases hc
    · rw [happend, before, all, starts_trimStart] at hrest
      exact ih hleft hrest

/-- Without the white space behind them, the tokens of a text are the same just if no backslash keeps
it. -/
theorem all_append_blank_iff (hg : isBlank g = true) :
    (all q (s ++ g)).map value = (all q s).map value ↔ g = [] ∨ s.getLast? ≠ some '\\' := by
  rw [← leavesEscaped_eq_false_iff]
  cases g with
  | nil => simp
  | cons c g =>
    obtain ⟨hc, hblank⟩ : isSpace c = true ∧ isBlank g = true := by
      rwa [isBlank_cons, Bool.and_eq_true] at hg
    cases h : leavesEscaped false s with
    | true => simpa using all_append_ne h hc hblank
    | false =>
      have hsame := congrArg (List.map value) (all_append_blank (q := q) hg h)
      rw [List.map_map, List.map_map] at hsame
      exact iff_of_true hsame (.inr rfl)

end All

end Token

end ChatCommands
