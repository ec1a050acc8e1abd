import ChatCommands.Proofs.Token.Parts

/-! # Texts that end in a backslash

A backslash at the end of a text draws white space that is put behind it into the last token. The
tokens before that one stay as they are.
-/

namespace ChatCommands

open Text

namespace Token

variable {s r w x g : List Char} {c d : Char}

section Unescape

theorem mem_unescape (hc : c ∈ s) (hne : c ≠ '\\') : c ∈ unescape s := by
  induction s with
  | nil => cases hc
  | cons d s ih =>
    rw [unescape]
    split
    · rename_i hd
      simp only [Bool.and_eq_true, beq_iff_eq] at hd
      rcases List.mem_cons.mp hc with rfl | hc
      · exact absurd hd.1 hne
      · exact ih hc
    · rcases List.mem_cons.mp hc with rfl | hc
      · exact List.mem_cons_self
      · exact List.mem_cons_of_mem _ (ih hc)

theorem getLast?_unescape (h : leavesEscaped false s = true) :
    (unescape s).getLast? = some '\\' := by
  induction s with
  | nil => cases h
  | cons c s ih =>
    cases s with
    | nil =>
      have hc : c = '\\' := by simpa [leavesEscaped] using h
      simp [unescape, hc]
    | cons d s =>
      have hlast := ih h
      rw [unescape]
      split
      · exact hlast
      · rw [List.getLast?_cons, hlast, Option.getD_some]

/-- A backslash in front is dropped for nothing but white space and quotes. -/
theorem head?_of_head?_unescape (h : (unescape s).head? = some c) (hspace : isSpace c = false)
    (hquote : c ≠ '"') : s.head? = some c := by
  cases s with
  | nil => cases h
  | cons a s =>
    rw [unescape] at h
    split at h
    · rename_i hdrop
      simp only [Bool.and_eq_true, Option.any_eq_true, Bool.or_eq_true, beq_iff_eq] at hdrop
      obtain ⟨-, next, hhead, hnext⟩ := hdrop
      obtain ⟨s, rfl⟩ := List.head?_eq_some_iff.mp hhead
      have hne : (next == '\\') = false := by
        refine beq_eq_false_iff_ne.mpr ?_
        rintro rfl
        exact absurd hnext (by decide)
      rw [unescape, hne, Bool.false_and, if_neg Bool.false_ne_true, List.head?_cons,
        Option.some.injEq] at h
      subst h
      rcases hnext with rfl | hnext
      · exact absurd rfl hquote
      · rw [hspace] at hnext
        cases hnext
    · exact h

/-- White space behind a text stays, and what becomes of the text is the same for all of it. -/
theorem unescape_append_space (s : List Char) :
    ∃ front, ∀ c, isSpace c = true → unescape (s ++ [c]) = front ++ [c] := by
  induction s with
  | nil => exact ⟨[], fun c _ => by simp [unescape]⟩
  | cons a s ih =>
    obtain ⟨front, hfront⟩ := ih
    have hhead : ∀ c, isSpace c = true →
        ((s ++ [c]).head?.any fun next => next == '"' || isSpace next) =
          (s ++ [' ']).head?.any fun next => next == '"' || isSpace next := by
      intro c hc
      have hspace : isSpace ' ' = true := by decide
      cases s with
      | nil => simp [hc, hspace]
      | cons b s => rfl
    cases hdrop : a == '\\' &&
        (s ++ [' ']).head?.any fun next => next == '"' || isSpace next with
    | true =>
      refine ⟨front, fun c hc => ?_⟩
      rw [List.cons_append, unescape, hhead c hc, hdrop, if_pos rfl, hfront c hc]
    | false =>
      refine ⟨a :: front, fun c hc => ?_⟩
      rw [List.cons_append, unescape, hhead c hc, hdrop, if_neg Bool.false_ne_true, hfront c hc]
      rfl

end Unescape

/-- The text `s` ends in `w`, where its last token starts. That token ends in a backslash and is not
a closed one, so that it goes on if something follows; `u` says whether it opens a quote. -/
structure Trails (s r w : List Char) (u : Bool) : Prop where
  eq : s = r ++ w
  unbroken : (splitSpace false w).2 = []
  escaped : leavesEscaped false w = true
  mem : ∀ x, ((∃ t ∈ all true s, t.unterminated = true) → closeQuote? true x = none) →
    (w ++ x, bare (w ++ x) u) ∈ starts true (s ++ x)

section Exists

theorem leavesEscaped_of_suffix {l : List Char} (h : l <:+ s) (hne : l ≠ [])
    (hs : leavesEscaped false s = true) : leavesEscaped false l = true := by
  obtain ⟨a, rfl⟩ := h
  obtain ⟨c, l, rfl⟩ := List.exists_cons_of_ne_nil hne
  rwa [leavesEscaped_append] at hs

theorem not_blank_of_leavesEscaped (h : leavesEscaped false s = true) : isBlank s = false := by
  refine Bool.eq_false_iff.mpr fun hblank => Bool.eq_false_iff.mp ?_ h
  refine leavesEscaped_eq_false_iff.mpr fun hlast => ?_
  exact absurd (List.all_eq_true.mp hblank _ (List.mem_of_getLast? hlast)) (by decide)

theorem leavesEscaped_trimStart (h : leavesEscaped false s = true) :
    leavesEscaped false (trimStart s) = true :=
  leavesEscaped_of_suffix (trimStart_suffix s)
    (isBlank_eq_false_iff.mp (not_blank_of_leavesEscaped h)) h

/-- A backslash at the end is not part of a closed quote in front. -/
theorem leavesEscaped_leftover_quoted {inner after : List Char}
    (hclosed : closeQuote? false s = some (inner, after))
    (h : leavesEscaped false ('"' :: s) = true) :
    leavesEscaped false (front true ('"' :: s)).leftover = true := by
  have hne : after ≠ [] := by
    rintro rfl
    rw [closeQuote?_eq hclosed, ← List.cons_append, leavesEscaped_append] at h
    cases h
  have hsuffix : after <:+ '"' :: s := ⟨'"' :: inner ++ ['"'], by
    rw [closeQuote?_eq hclosed]
    simp⟩
  rw [front_quoted hclosed]
  exact leavesEscaped_trimStart (leavesEscaped_of_suffix hsuffix hne h)

theorem leavesEscaped_leftover_bare {u : Bool} (hnil : (splitSpace false s).2 ≠ [])
    (h : leavesEscaped false s = true) : leavesEscaped false (bare s u).leftover = true :=
  leavesEscaped_trimStart (leavesEscaped_of_suffix ⟨_, splitSpace_append_snd false s⟩ hnil h)

/-- A quote that the first token leaves open is not closed in `x`. -/
theorem closeQuote?_append_of_open {body : List Char} (h : leavesEscaped false s = true)
    (hbody : trimStart s = '"' :: body) (hnone : closeQuote? false body = none)
    (hx : (∃ t ∈ all true s, t.unterminated = true) → closeQuote? true x = none) :
    closeQuote? false (body ++ x) = none := by
  have hstart := leavesEscaped_trimStart h
  have hescaped : leavesEscaped false body = true := by
    refine leavesEscaped_of_suffix ⟨['"'], hbody.symm⟩ ?_ hstart
    rintro rfl
    rw [hbody] at hstart
    cases hstart
  have hopen : (split true s).unterminated = true := by
    rw [split, hbody]
    exact unterminated_front.mpr ⟨body, rfl, hnone⟩
  refine closeQuote?_append_eq_none_iff.mpr ⟨hnone, ?_⟩
  rw [hescaped]
  refine hx ⟨split true s, ?_, hopen⟩
  rw [all_of_not_blank (not_blank_of_leavesEscaped h)]
  exact List.mem_cons_self

/-- A first token whose quote is not closed is a bare one, whatever follows. -/
theorem exists_front_eq_bare (h : leavesEscaped false s = true)
    (hopen : ∀ body, trimStart s = '"' :: body → closeQuote? false body = none) :
    ∃ u, ∀ x, ((∃ t ∈ all true s, t.unterminated = true) → closeQuote? true x = none) →
      front true (trimStart s ++ x) = bare (trimStart s ++ x) u := by
  by_cases hquote : (trimStart s).head? = some '"'
  · obtain ⟨body, hbody⟩ := List.head?_eq_some_iff.mp hquote
    refine ⟨true, fun x hx => ?_⟩
    have hnone := closeQuote?_append_of_open h hbody (hopen body hbody) hx
    rw [hbody]
    exact front_open hnone
  · refine ⟨false, fun x _ => front_bare ?_⟩
    rwa [head?_append_of_ne_nil (isBlank_eq_false_iff.mp (not_blank_of_leavesEscaped h))]

/-- The first token of `s` is its last. -/
theorem exists_trails_of_first (h : leavesEscaped false s = true)
    (hnil : (splitSpace false (trimStart s)).2 = [])
    (hopen : ∀ body, trimStart s = '"' :: body → closeQuote? false body = none) :
    ∃ r w u, Trails s r w u := by
  obtain ⟨gap, -, hs⟩ := exists_blank_trimStart s
  obtain ⟨u, hfront⟩ := exists_front_eq_bare h hopen
  have hblank := not_blank_of_leavesEscaped h
  refine ⟨gap, trimStart s, u, hs, hnil, leavesEscaped_trimStart h, fun x hx => ?_⟩
  rw [starts_of_not_blank (by rw [isBlank_append, hblank, Bool.false_and]),
    split_of_not_blank_append hblank, trimStart_append hblank, hfront x hx]
  exact List.mem_cons_self

/-- The last token of `s` is that of what its first token leaves. -/
theorem exists_trails_of_leftover (hs : isBlank s = false)
    (hfront : ∀ x, ((∃ t ∈ all true s, t.unterminated = true) → closeQuote? true x = none) →
      front true (trimStart s ++ x) = (front true (trimStart s)).before x)
    (h : ∃ r w u, Trails (split true s).leftover r w u) : ∃ r w u, Trails s r w u := by
  obtain ⟨r, w, u, h⟩ := h
  obtain ⟨a, ha⟩ := leftover_split_suffix true s
  refine ⟨a ++ r, w, u, ?_, h.unbroken, h.escaped, fun x hx => ?_⟩
  · rw [List.append_assoc, ← h.eq, ha]
  · have hmem := h.mem x fun ⟨t, ht, hopen⟩ => hx ⟨t, by
      rw [all_of_not_blank hs]
      exact List.mem_cons_of_mem _ ht, hopen⟩
    rw [starts_of_not_blank (by rw [isBlank_append, hs, Bool.false_and]),
      split_of_not_blank_append hs, hfront x hx, before, starts_trimStart]
    exact List.mem_cons_of_mem _ hmem

theorem exists_trails (h : leavesEscaped false s = true) : ∃ r w u, Trails s r w u := by
  induction s using starts.induct true with
  | case1 s hs => exact absurd hs (isBlank_eq_false_iff.mp (not_blank_of_leavesEscaped h))
  | case2 s hs ih =>
    have hblank := not_blank_of_leavesEscaped h
    have hstart := leavesEscaped_trimStart h
    by_cases hquote : ∃ body p, trimStart s = '"' :: body ∧ closeQuote? false body = some p
    · obtain ⟨body, ⟨inner, after⟩, hbody, hclosed⟩ := hquote
      refine exists_trails_of_leftover hblank (fun x _ => ?_) (ih ?_)
      · rw [hbody]
        exact front_quoted_append hclosed x
      · rw [split, hbody]
        exact leavesEscaped_leftover_quoted hclosed (hbody ▸ hstart)
    · have hopen : ∀ body, trimStart s = '"' :: body → closeQuote? false body = none := by
        intro body hbody
        exact Option.eq_none_iff_forall_ne_some.mpr fun p hp => hquote ⟨body, p, hbody, hp⟩
      by_cases hnil : (splitSpace false (trimStart s)).2 = []
      · exact exists_trails_of_first h hnil hopen
      · refine exists_trails_of_leftover hblank (fun x hx => ?_) (ih ?_)
        · exact front_append (fun u _ => bare_append hnil x)
            (fun body hbody hnone => closeQuote?_append_of_open h hbody hnone hx) hs
        · obtain ⟨u, hfront⟩ := exists_front_eq_bare h hopen
          have hfront := hfront [] fun _ => rfl
          rw [List.append_nil] at hfront
          rw [split, hfront]
          exact leavesEscaped_leftover_bare hnil hstart

end Exists

namespace Trails

/-- What follows is drawn into the last token up to white space that no backslash keeps. -/
theorem lexemes_append {u : Bool} (h : Trails s r w u)
    (hx : (∃ t ∈ all true s, t.unterminated = true) → closeQuote? true x = none) :
    lexemes (s ++ x) = lexemes r ++
      ⟨unescape (w ++ (splitSpace true x).1), [], false, u⟩ :: lexemes (splitSpace true x).2 := by
  have hmem := h.mem x hx
  obtain ⟨hfront, hne, hhead, -⟩ := mem_starts hmem
  have hblank : isBlank (w ++ x) = false := by
    rw [isBlank_eq_false_iff, trimStart_of_head hhead]
    exact hne
  have hsplit : split true (w ++ x) = bare (w ++ x) u := by
    rw [split, trimStart_of_head hhead, ← hfront]
  rw [h.eq, List.append_assoc] at hmem
  rw [h.eq, List.append_assoc, (Parts.of_mem hmem).lexemes_append, lexemes, lexemes,
    all_of_not_blank (s := w ++ x) hblank, hsplit, bare_append_of_nil h.unbroken, h.escaped,
    List.map_cons]
  simp only [lexemes, all, starts_trimStart]
  rfl

end Trails

/-- White space behind a backslash turns the last token, which has that backslash in it, into one
that ends in white space. -/
theorem lexemes_of_escaped (h : leavesEscaped false s = true) :
    ∃ ts kept drawn u, '\\' ∈ kept ∧ lexemes s = ts ++ [⟨kept, [], false, u⟩] ∧
      ∀ c g, isSpace c = true → isBlank g = true →
        lexemes (s ++ c :: g) = ts ++ [⟨drawn ++ [c], [], false, u⟩] := by
  obtain ⟨r, w, u, htrails⟩ := exists_trails h
  obtain ⟨drawn, hdrawn⟩ := unescape_append_space w
  refine ⟨lexemes r, unescape w, drawn, u, List.mem_of_getLast? (getLast?_unescape htrails.escaped), ?_, ?_⟩
  · have hs := htrails.lexemes_append (x := []) fun _ => rfl
    rwa [List.append_nil, splitSpace, List.append_nil, lexemes_of_blank (s := []) rfl] at hs
  · intro c g hc hg
    have hblank : isBlank (c :: g) = true := by rw [isBlank_cons, hc, hg, Bool.and_self]
    have hne : (c == '\\') = false := by
      refine beq_eq_false_iff_ne.mpr ?_
      rintro rfl
      cases hc
    have hspace : ∀ d ∈ g.head?, isSpace d = true := fun d hd =>
      List.all_eq_true.mp hg d (List.mem_of_mem_head? hd)
    have hsplit : splitSpace true (c :: g) = ([c], g) := by
      rw [splitSpace, hc, hne, splitSpace_of_space hspace]
      rfl
    have hs := htrails.lexemes_append (x := c :: g) fun _ => closeQuote?_of_blank hblank
    rwa [hsplit, hdrawn c hc, lexemes_of_blank hg] at hs

/-- White space behind a text changes at most its last token. -/
theorem lexemes_append_blank (hg : isBlank g = true) (s : List Char) :
    lexemes (s ++ g) = lexemes s ∨ ∃ ts kept drawn c u, '\\' ∈ kept ∧ isSpace c = true ∧
      lexemes s = ts ++ [⟨kept, [], false, u⟩] ∧
      lexemes (s ++ g) = ts ++ [⟨drawn ++ [c], [], false, u⟩] := by
  cases g with
  | nil =>
    rw [List.append_nil]
    exact .inl rfl
  | cons c g =>
    obtain ⟨hc, hblank⟩ : isSpace c = true ∧ isBlank g = true := by
      rwa [isBlank_cons, Bool.and_eq_true] at hg
    cases he : leavesEscaped false s with
    | false =>
      have hparts : Parts s (c :: g) := Parts.of_space (by simp [hc]) he fun _ =>
        closeQuote?_of_blank hg
      rw [hparts.lexemes_append, lexemes_of_blank hg, List.append_nil]
      exact .inl rfl
    | true =>
      obtain ⟨ts, kept, drawn, u, hkept, hs, happend⟩ := lexemes_of_escaped he
      exact .inr ⟨ts, kept, drawn, c, u, hkept, hc, hs, happend c g hc hblank⟩

theorem unterminated_append_blank (hg : isBlank g = true) (s : List Char) :
    (∃ t ∈ lexemes (s ++ g), t.unterminated = true) ↔
      ∃ t ∈ lexemes s, t.unterminated = true := by
  obtain heq | ⟨ts, kept, drawn, c, u, -, -, hs, happend⟩ := lexemes_append_blank hg s
  · rw [heq]
  · simp [hs, happend]

end Token

end ChatCommands
