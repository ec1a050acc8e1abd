import ChatCommands.Proofs.Text.Trim
import ChatCommands.Token

/-! # Where tokens part

A text cut between two of its tokens has the tokens of both parts, one after the other. It may be
cut at white space that no backslash keeps, unless a quote left open before is closed behind.
-/

namespace ChatCommands

open Text

namespace Token

variable {s x : List Char} {e q : Bool}

/-- Whether a backslash directly precedes what follows a text. `escaped` says so of the text. -/
def leavesEscaped (escaped : Bool) : List Char → Bool
  | [] => escaped
  | c :: cs => leavesEscaped (c == '\\') cs

theorem leavesEscaped_eq (e : Bool) (s : List Char) :
    leavesEscaped e s = (s.getLast?.map (· == '\\')).getD e := by
  induction s generalizing e with
  | nil => rfl
  | cons c s ih =>
    rw [leavesEscaped, ih, List.getLast?_cons]
    cases s.getLast? <;> rfl

theorem leavesEscaped_iff : leavesEscaped false s = true ↔ s.getLast? = some '\\' := by
  rw [leavesEscaped_eq]
  cases s.getLast? <;> simp

theorem leavesEscaped_eq_false_iff :
    leavesEscaped false s = false ↔ s.getLast? ≠ some '\\' := by
  rw [Bool.eq_false_iff, ne_eq, leavesEscaped_iff]

theorem leavesEscaped_append (e : Bool) (s x : List Char) :
    leavesEscaped e (s ++ x) = leavesEscaped (leavesEscaped e s) x := by
  induction s generalizing e with
  | nil => rfl
  | cons c s ih => exact ih (c == '\\')

theorem leavesEscaped_suffix {l : List Char} (h : l <:+ s) (hs : leavesEscaped false s = false) :
    leavesEscaped false l = false := by
  obtain ⟨a, rfl⟩ := h
  cases l with
  | nil => rfl
  | cons c l => rwa [leavesEscaped_append] at hs

section CloseQuote

theorem closeQuote?_append {inner after : List Char} (h : closeQuote? e s = some (inner, after))
    (x : List Char) : closeQuote? e (s ++ x) = some (inner, after ++ x) := by
  induction s generalizing e inner with
  | nil => simp [closeQuote?] at h
  | cons c s ih =>
    rw [closeQuote?] at h
    rw [List.cons_append, closeQuote?]
    split
    · rename_i hc
      rw [if_pos hc] at h
      cases h
      rfl
    · rename_i hc
      rw [if_neg hc] at h
      obtain ⟨⟨i, a⟩, hi, heq⟩ := Option.map_eq_some_iff.mp h
      cases heq
      rw [ih hi]
      rfl

theorem closeQuote?_append_of_none (h : closeQuote? e s = none) (x : List Char) :
    closeQuote? e (s ++ x) = (closeQuote? (leavesEscaped e s) x).map
      fun (inner, after) => (s ++ inner, after) := by
  induction s generalizing e with
  | nil => simp [leavesEscaped]
  | cons c s ih =>
    rw [closeQuote?] at h
    rw [List.cons_append, closeQuote?, leavesEscaped]
    split
    · rename_i hc
      simp [hc] at h
    · rename_i hc
      rw [if_neg hc, Option.map_eq_none_iff] at h
      rw [ih h, Option.map_map]
      rfl

theorem closeQuote?_append_eq_none_iff : closeQuote? e (s ++ x) = none ↔
    closeQuote? e s = none ∧ closeQuote? (leavesEscaped e s) x = none := by
  cases h : closeQuote? e s with
  | none => simp [closeQuote?_append_of_none h]
  | some p =>
    obtain ⟨inner, after⟩ := p
    simp [closeQuote?_append h]

/-- A quote that is closed before `x` is closed without `x`. -/
theorem closeQuote?_ne_none_of_length {inner after : List Char}
    (h : closeQuote? e (s ++ x) = some (inner, after)) (hlen : x.length ≤ after.length) :
    closeQuote? e s ≠ none := by
  intro hs
  rw [closeQuote?_append_of_none hs] at h
  obtain ⟨⟨i, a⟩, hi, heq⟩ := Option.map_eq_some_iff.mp h
  cases heq
  have := length_closeQuote? hi
  omega

theorem closeQuote?_of_not_mem (h : '"' ∉ s) : closeQuote? e s = none := by
  induction s generalizing e with
  | nil => rfl
  | cons c s ih =>
    rw [List.mem_cons, not_or] at h
    have hc : (c == '"') = false := by simpa using fun hc => h.1 hc.symm
    simp [closeQuote?, hc, ih h.2]

theorem closeQuote?_of_blank (h : isBlank s = true) : closeQuote? e s = none :=
  closeQuote?_of_not_mem fun hq => absurd (List.all_eq_true.mp h _ hq) (by decide)

/-- A backslash in front escapes nothing but a quote. -/
theorem closeQuote?_of_head {f : Bool} (h : s.head? ≠ some '"') :
    closeQuote? e s = closeQuote? f s := by
  cases s with
  | nil => rfl
  | cons c s =>
    have hc : (c == '"') = false := by simpa using h
    simp [closeQuote?, hc]

end CloseQuote

section SplitSpace

theorem splitSpace_append_snd (e : Bool) (s : List Char) :
    (splitSpace e s).1 ++ (splitSpace e s).2 = s := by
  induction s generalizing e with
  | nil => rfl
  | cons c s ih =>
    rw [splitSpace]
    split
    · rfl
    · simp [ih]

theorem splitSpace_append (h : (splitSpace e s).2 ≠ []) (x : List Char) :
    splitSpace e (s ++ x) = ((splitSpace e s).1, (splitSpace e s).2 ++ x) := by
  induction s generalizing e with
  | nil => exact absurd rfl h
  | cons c s ih =>
    rw [splitSpace] at h
    rw [List.cons_append, splitSpace, splitSpace]
    split
    · rfl
    · rename_i hc
      rw [if_neg hc] at h
      rw [ih h]

theorem splitSpace_append_of_nil (h : (splitSpace e s).2 = []) (x : List Char) :
    splitSpace e (s ++ x) = (s ++ (splitSpace (leavesEscaped e s) x).1,
      (splitSpace (leavesEscaped e s) x).2) := by
  induction s generalizing e with
  | nil => rfl
  | cons c s ih =>
    rw [splitSpace] at h
    rw [List.cons_append, splitSpace, leavesEscaped]
    split
    · rename_i hc
      simp [hc] at h
    · rename_i hc
      rw [if_neg hc] at h
      rw [ih h]
      rfl

theorem splitSpace_of_space (hx : ∀ c ∈ x.head?, isSpace c = true) :
    splitSpace false x = ([], x) := by
  cases x with
  | nil => rfl
  | cons c x => simp [splitSpace, hx c rfl]

theorem length_snd_splitSpace_lt {c : Char} (hc : isSpace c = false) (cs : List Char) :
    (splitSpace e (c :: cs)).2.length ≤ cs.length := by
  have h := length_splitSpace (c == '\\') cs
  simp only [splitSpace, hc, Bool.false_and, Bool.false_eq_true, if_false]
  omega

end SplitSpace

/-- A token with `x` put behind what was left after it. -/
def before (x : List Char) (t : Token) : Token :=
  { t with leftover := trimStart (t.leftover ++ x) }

section Front

theorem front_quoted {inner after : List Char} (h : closeQuote? false s = some (inner, after)) :
    front true ('"' :: s) = ⟨unescapeQuotes inner, trimStart after, true, false⟩ := by
  simp [front, h]

theorem front_open (h : closeQuote? false s = none) :
    front true ('"' :: s) = bare ('"' :: s) true := by
  simp [front, h]

theorem front_bare (h : s.head? ≠ some '"') : front q s = bare s false := by
  unfold front
  split
  · exact absurd rfl h
  · rfl

theorem front_false (s : List Char) : front false s = bare s false := by
  unfold front
  split
  · contradiction
  · rfl

theorem unterminated_front : (front true s).unterminated = true ↔
    ∃ body, s = '"' :: body ∧ closeQuote? false body = none := by
  constructor
  · intro h
    by_cases hs : s.head? = some '"'
    · obtain ⟨body, rfl⟩ := List.head?_eq_some_iff.mp hs
      refine ⟨body, rfl, ?_⟩
      cases hc : closeQuote? false body with
      | none => rfl
      | some p =>
        rw [front_quoted hc] at h
        cases h
    · rw [front_bare hs] at h
      cases h
  · rintro ⟨body, rfl, hc⟩
    rw [front_open hc]
    rfl

theorem bare_of_nil {u : Bool} (h : (splitSpace false s).2 = []) :
    bare s u = ⟨unescape s, [], false, u⟩ := by
  have hs := splitSpace_append_snd false s
  rw [h, List.append_nil] at hs
  simp [bare, h, hs, trimStart]

theorem bare_append_of_nil {u : Bool} (h : (splitSpace false s).2 = []) (x : List Char) :
    bare (s ++ x) u = ⟨unescape (s ++ (splitSpace (leavesEscaped false s) x).1),
      trimStart (splitSpace (leavesEscaped false s) x).2, false, u⟩ := by
  rw [bare, splitSpace_append_of_nil h]

theorem bare_append {u : Bool} (h : (splitSpace false s).2 ≠ []) (x : List Char) :
    bare (s ++ x) u = (bare s u).before x := by
  rw [bare, splitSpace_append h]
  simp [bare, before, trimStart_trimStart_append]

theorem bare_append_of_space {u : Bool} (hx : ∀ c ∈ x.head?, isSpace c = true)
    (he : leavesEscaped false s = false) : bare (s ++ x) u = (bare s u).before x := by
  by_cases h : (splitSpace false s).2 = []
  · rw [bare_append_of_nil h, bare_of_nil h, he, splitSpace_of_space hx, List.append_nil]
    rfl
  · exact bare_append h x

theorem front_quoted_append {inner after : List Char}
    (h : closeQuote? false s = some (inner, after)) (x : List Char) :
    front true ('"' :: s ++ x) = (front true ('"' :: s)).before x := by
  rw [front_quoted h, List.cons_append, front_quoted (closeQuote?_append h x)]
  simp [before, trimStart_trimStart_append]

/-- The first token is the same with `x` behind it if it is so as a bare one and no quote that it
leaves open is closed in `x`. -/
theorem front_append
    (hbare : ∀ u, front q s = bare s u → bare (s ++ x) u = (bare s u).before x)
    (hopen : ∀ body, s = '"' :: body → closeQuote? false body = none →
      closeQuote? false (body ++ x) = none)
    (hne : s ≠ []) : front q (s ++ x) = (front q s).before x := by
  by_cases hs : s.head? = some '"'
  · obtain ⟨body, rfl⟩ := List.head?_eq_some_iff.mp hs
    cases q with
    | false => rw [front_false, front_false, hbare false (front_false _)]
    | true =>
      cases hc : closeQuote? false body with
      | none =>
        rw [front_open hc, ← hbare true (front_open hc)]
        exact front_open (hopen body rfl hc)
      | some p => exact front_quoted_append hc x
  · rw [front_bare hs, ← hbare false (front_bare hs)]
    refine front_bare ?_
    rwa [head?_append_of_ne_nil hne]

theorem front_append_of_space (hx : ∀ c ∈ x.head?, isSpace c = true)
    (he : leavesEscaped false s = false)
    (hq : (front q s).unterminated = true → closeQuote? false x = none) (hne : s ≠ []) :
    front q (s ++ x) = (front q s).before x := by
  cases q with
  | false => rw [front_false, front_false, bare_append_of_space hx he]
  | true =>
    refine front_append (fun u _ => bare_append_of_space hx he) ?_ hne
    rintro body rfl hbody
    refine closeQuote?_append_eq_none_iff.mpr ⟨hbody, ?_⟩
    rw [closeQuote?_of_head (f := false)]
    · exact hq (unterminated_front.mpr ⟨body, rfl, hbody⟩)
    · intro hhead
      exact absurd (hx '"' hhead) (by decide)

theorem length_leftover_bare_of_nil {u : Bool} {c : Char} (hc : isSpace c = false)
    (h : (splitSpace false s).2 = []) (cs : List Char) :
    (bare (s ++ c :: cs) u).leftover.length ≤ cs.length := by
  have h₁ := length_snd_splitSpace_lt (e := leavesEscaped false s) hc cs
  have h₂ := length_trimStart_le (splitSpace (leavesEscaped false s) (c :: cs)).2
  rw [bare_append_of_nil h]
  exact Nat.le_trans h₂ h₁

/-- A token that ends before `x` is the same without `x`. -/
theorem front_append_of_length (hx : ∀ c ∈ x.head?, isSpace c = false) (hxn : x ≠ [])
    (hlen : x.length ≤ (front q (s ++ x)).leftover.length) (hne : s ≠ []) :
    front q (s ++ x) = (front q s).before x := by
  obtain ⟨c, cs, rfl⟩ := List.exists_cons_of_ne_nil hxn
  have hbare : ∀ u, front q (s ++ c :: cs) = bare (s ++ c :: cs) u →
      ∀ v, front q s = bare s v →
        bare (s ++ c :: cs) v = (bare s v).before (c :: cs) := by
    intro u hfront v _
    refine bare_append (fun hnil => ?_) _
    rw [hfront] at hlen
    exact absurd (Nat.le_trans hlen (length_leftover_bare_of_nil (hx c rfl) hnil cs)) (by simp)
  by_cases hs : s.head? = some '"'
  · obtain ⟨body, rfl⟩ := List.head?_eq_some_iff.mp hs
    cases q with
    | false => exact hbare false (front_false _) false (front_false _)
    | true =>
      cases hc : closeQuote? false (body ++ c :: cs) with
      | none =>
        refine front_append (hbare true (front_open hc)) ?_ hne
        rintro _ ⟨⟩ -
        exact hc
      | some p =>
        obtain ⟨inner, after⟩ := p
        rw [List.cons_append, front_quoted hc] at hlen
        have hclosed := closeQuote?_ne_none_of_length hc
          (Nat.le_trans hlen (length_trimStart_le after))
        obtain ⟨⟨i, a⟩, hi⟩ := Option.ne_none_iff_exists'.mp hclosed
        exact front_quoted_append hi _
  · have hhead : (s ++ c :: cs).head? ≠ some '"' := by rwa [head?_append_of_ne_nil hne]
    refine front_append (hbare false (front_bare hhead)) ?_ hne
    rintro body rfl -
    exact absurd rfl hs

end Front

section Starts

theorem split_of_not_blank_append (h : isBlank s = false) (x : List Char) :
    split q (s ++ x) = front q (trimStart s ++ x) := by
  rw [split, trimStart_append h]

theorem split_append_of_blank (h : isBlank s = true) : split q (s ++ x) = split q x := by
  rw [split, split, trimStart_append_of_blank h]

theorem starts_of_blank (h : isBlank s = true) : starts q s = [] := by
  rw [starts, dif_pos (isBlank_iff.mp h)]

theorem starts_of_not_blank (h : isBlank s = false) :
    starts q s = (trimStart s, split q s) :: starts q (split q s).leftover := by
  rw [starts, dif_neg (isBlank_eq_false_iff.mp h)]

theorem starts_append_of_blank (h : isBlank s = true) : starts q (s ++ x) = starts q x := by
  cases hx : isBlank x
  · rw [starts_of_not_blank (by rw [isBlank_append, hx, Bool.and_false]), starts_of_not_blank hx,
      split_append_of_blank h, trimStart_append_of_blank h]
  · rw [starts_of_blank (by rw [isBlank_append, h, hx, Bool.and_self]), starts_of_blank hx]

theorem starts_trimStart (s : List Char) : starts q (trimStart s) = starts q s := by
  obtain ⟨g, hg, hs⟩ := exists_blank_trimStart s
  have h := starts_append_of_blank (q := q) (x := trimStart s) hg
  rw [← hs] at h
  exact h.symm

theorem closeQuote?_eq {inner after : List Char} (h : closeQuote? e s = some (inner, after)) :
    s = inner ++ '"' :: after := by
  induction s generalizing e inner with
  | nil => simp [closeQuote?] at h
  | cons c s ih =>
    rw [closeQuote?] at h
    split at h
    · rename_i hc
      simp only [Bool.and_eq_true, beq_iff_eq] at hc
      cases h
      rw [hc.1, List.nil_append]
    · obtain ⟨⟨i, a⟩, hi, heq⟩ := Option.map_eq_some_iff.mp h
      cases heq
      rw [ih hi, List.cons_append]

theorem leftover_bare_suffix (s : List Char) (u : Bool) : (bare s u).leftover <:+ s := by
  have h : (splitSpace false s).2 <:+ s := ⟨_, splitSpace_append_snd false s⟩
  exact (trimStart_suffix _).trans h

theorem leftover_front_suffix (q : Bool) (s : List Char) : (front q s).leftover <:+ s := by
  unfold front
  split
  · rename_i body
    split
    · rename_i inner after h
      refine (trimStart_suffix after).trans ⟨'"' :: inner ++ ['"'], ?_⟩
      simp [closeQuote?_eq h]
    · exact leftover_bare_suffix _ _
  · exact leftover_bare_suffix _ _

theorem trimStart_leftover_front (q : Bool) (s : List Char) :
    trimStart (front q s).leftover = (front q s).leftover := by
  unfold front
  split
  · split
    · exact trimStart_trimStart _
    · exact trimStart_trimStart _
  · exact trimStart_trimStart _

theorem leftover_split_of_blank (h : isBlank s = true) : (split q s).leftover = [] := by
  rw [split, isBlank_iff.mp h]
  cases q <;> rfl

theorem leftover_split_suffix (q : Bool) (s : List Char) : (split q s).leftover <:+ s :=
  (leftover_front_suffix q _).trans (trimStart_suffix s)

theorem all_of_not_blank (h : isBlank s = false) :
    all q s = split q s :: all q (split q s).leftover := by
  rw [all, starts_of_not_blank h]
  rfl

theorem mem_starts {l : List Char} {t : Token} (h : (l, t) ∈ starts q s) :
    t = front q l ∧ l ≠ [] ∧ (∀ c ∈ l.head?, isSpace c = false) ∧ l <:+ s := by
  fun_induction starts q s with
  | case1 => cases h
  | case2 s hs ih =>
    rcases List.mem_cons.mp h with heq | h
    · cases heq
      exact ⟨rfl, hs, fun c hc => head?_trimStart hc, trimStart_suffix s⟩
    · obtain ⟨ht, hn, hc, hl⟩ := ih h
      exact ⟨ht, hn, hc, hl.trans (leftover_split_suffix q s)⟩

end Starts

/-- The tokens of `s` end where `x` starts. -/
def Parts (s x : List Char) : Prop :=
  starts true (s ++ x) = (starts true s).map (fun (l, t) => (l ++ x, t.before x)) ++ starts true x

namespace Parts

theorem of_blank (h : isBlank s = true) : Parts s x := by
  rw [Parts, starts_append_of_blank h, starts_of_blank h]
  rfl

theorem cons_iff (hs : isBlank s = false) : Parts s x ↔
    front true (trimStart s ++ x) = (front true (trimStart s)).before x ∧
      Parts (split true s).leftover x := by
  have hsx : isBlank (s ++ x) = false := by rw [isBlank_append, hs, Bool.false_and]
  rw [Parts, Parts, starts_of_not_blank hsx, starts_of_not_blank hs, trimStart_append hs,
    split_of_not_blank_append hs,
    List.map_cons, List.cons_append, List.cons.injEq, Prod.mk.injEq]
  constructor
  · rintro ⟨⟨-, hfront⟩, hrest⟩
    rw [hfront, before, starts_trimStart] at hrest
    exact ⟨hfront, hrest⟩
  · rintro ⟨hfront, hrest⟩
    rw [hfront, before, starts_trimStart]
    exact ⟨⟨rfl, rfl⟩, hrest⟩

theorem nil (s : List Char) : Parts s [] := by
  have hbefore : ∀ l, front true l = (front true l).before [] := by
    intro l
    rw [before, List.append_nil, trimStart_leftover_front]
  induction s using starts.induct true with
  | case1 s hs => exact of_blank (isBlank_iff.mpr hs)
  | case2 s hs ih =>
    refine (cons_iff (isBlank_eq_false_iff.mpr hs)).mpr ⟨?_, ih⟩
    rw [List.append_nil]
    exact hbefore _

/-- White space that no backslash keeps parts tokens, and a quote may stay open behind it. -/
theorem of_space (hx : ∀ c ∈ x.head?, isSpace c = true) (he : leavesEscaped false s = false)
    (hq : (∃ t ∈ all true s, t.unterminated = true) → closeQuote? false x = none) :
    Parts s x := by
  induction s using starts.induct true with
  | case1 s hs => exact of_blank (isBlank_iff.mpr hs)
  | case2 s hs ih =>
    have hblank : isBlank s = false := isBlank_eq_false_iff.mpr hs
    rw [all_of_not_blank hblank] at hq
    refine (cons_iff hblank).mpr ⟨?_, ih ?_ ?_⟩
    · refine front_append_of_space hx (leavesEscaped_suffix (trimStart_suffix s) he) ?_ hs
      exact fun hopen => hq ⟨_, List.mem_cons_self, hopen⟩
    · exact leavesEscaped_suffix (leftover_split_suffix true s) he
    · exact fun ⟨t, ht, hopen⟩ => hq ⟨t, List.mem_cons_of_mem _ ht, hopen⟩

/-- A token of a text that starts with `x` is not part of what stands before. -/
theorem of_mem {t : Token} (h : (x, t) ∈ starts true (s ++ x)) : Parts s x := by
  obtain ⟨-, hxn, hx, -⟩ := mem_starts h
  induction s using starts.induct true with
  | case1 s hs => exact of_blank (isBlank_iff.mpr hs)
  | case2 s hs ih =>
    have hblank : isBlank s = false := isBlank_eq_false_iff.mpr hs
    rw [starts_of_not_blank (by rw [isBlank_append, hblank, Bool.false_and]),
      trimStart_append hblank, split_of_not_blank_append hblank] at h
    rcases List.mem_cons.mp h with heq | h
    · have hlen := congrArg List.length (Prod.mk.inj heq).1
      rw [List.length_append] at hlen
      have := List.length_pos_iff.mpr hs
      omega
    · have hfront := front_append_of_length hx hxn (mem_starts h).2.2.2.length_le hs
      refine (cons_iff hblank).mpr ⟨hfront, ih ?_⟩
      rw [hfront, before, starts_trimStart] at h
      exact h

theorem leftover (h : Parts s x) (hs : isBlank s = false) : Parts (split true s).leftover x :=
  ((cons_iff hs).mp h).2

/-- A quote left open in front is not closed behind. -/
theorem closeQuote?_eq_none (h : Parts s x) (hx : x.head? ≠ some '"')
    (hopen : ∃ t ∈ all true s, t.unterminated = true) : closeQuote? false x = none := by
  obtain ⟨t, ht, hopen⟩ := hopen
  obtain ⟨⟨l, t⟩, hl, rfl⟩ := List.mem_map.mp ht
  have hmem : (l ++ x, t.before x) ∈ starts true (s ++ x) := by
    rw [h]
    exact List.mem_append_left _ (List.mem_map_of_mem hl)
  obtain ⟨ht, -, -, -⟩ := mem_starts hl
  obtain ⟨hfront, -, -, -⟩ := mem_starts hmem
  obtain ⟨body, rfl, -⟩ := unterminated_front.mp (ht ▸ hopen)
  have hopen' : (front true ('"' :: body ++ x)).unterminated = true := hfront ▸ hopen
  obtain ⟨body', heq, hnone⟩ := unterminated_front.mp hopen'
  cases heq
  rw [closeQuote?_of_head hx]
  exact (closeQuote?_append_eq_none_iff.mp hnone).2

end Parts

/-- A token without the text after it. -/
def alone (t : Token) : Token :=
  { t with leftover := [] }

/-- The tokens of a text, each by itself. -/
def lexemes (s : List Char) : List Token :=
  (all true s).map alone

theorem Parts.lexemes_append (h : Parts s x) : lexemes (s ++ x) = lexemes s ++ lexemes x := by
  rw [lexemes, all, h, List.map_append, List.map_append, List.map_map, List.map_map]
  simp [lexemes, all, before, alone, Function.comp_def]

theorem lexemes_of_blank (h : isBlank s = true) : lexemes s = [] := by
  rw [lexemes, all, starts_of_blank h]
  rfl

theorem lexemes_append_of_blank (h : isBlank s = true) : lexemes (s ++ x) = lexemes x := by
  rw [lexemes, all, starts_append_of_blank h, lexemes, all]

theorem lexemes_trimStart (s : List Char) : lexemes (trimStart s) = lexemes s := by
  rw [lexemes, all, starts_trimStart, lexemes, all]

/-- Unless a backslash keeps it, white space at the end is part of no token. -/
theorem lexemes_trimEnd (h : leavesEscaped false (trimEnd s) = false ∨ trimEnd s = s) :
    lexemes (trimEnd s) = lexemes s := by
  rcases h with h | h
  · obtain ⟨g, hg, hs⟩ := exists_blank_trimEnd s
    have hspace : ∀ c ∈ g.head?, isSpace c = true := fun c hc =>
      List.all_eq_true.mp hg c (List.mem_of_mem_head? hc)
    have hparts := Parts.of_space hspace h fun _ => closeQuote?_of_blank hg
    have happend := hparts.lexemes_append
    rw [← hs, lexemes_of_blank hg, List.append_nil] at happend
    exact happend.symm
  · rw [h]

end Token

end ChatCommands
