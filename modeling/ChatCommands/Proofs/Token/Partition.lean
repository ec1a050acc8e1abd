import ChatCommands.Proofs.Token.Parts

/-! # The parts of a split

A text without white space in front is a raw token, white space behind it, and what is left. Where
quotes count, a raw token goes from a quote to the first one that closes it. Any other raw token is
the longest start of the text in which backslashes keep all white space.
-/

namespace ChatCommands

open Text

namespace Token

variable {s inner after raw : List Char} {c : Char} {e q : Bool}

/-- A backslash directly precedes every white space character. -/
def Unbroken (s : List Char) : Prop :=
  ∀ front c back, s = front ++ c :: back → isSpace c = true → front.getLast? = some '\\'

/-- The text starts with a quote, and `raw` ends with a later one that no backslash directly
precedes. -/
def Closes (raw s : List Char) : Prop :=
  ∃ inner, raw = '"' :: (inner ++ ['"']) ∧ raw <+: s ∧ inner.getLast? ≠ some '\\'

/-- The text is the raw token, white space, and what the token leaves. -/
structure SplitsOff (q : Bool) (s : List Char) (t : Token) (raw gap : List Char) : Prop where
  eq : s = raw ++ gap ++ t.leftover
  blank : isBlank gap = true
  head : ∀ c ∈ t.leftover.head?, isSpace c = false
  shorter : s ≠ [] → t.leftover.length < s.length
  quoted_iff : t.quoted = true ↔ q = true ∧ ∃ closed, Closes closed s
  unterminated_iff : t.unterminated = true ↔
    q = true ∧ s.head? = some '"' ∧ ¬∃ closed, Closes closed s
  /-- A quoted token ends at the first quote that can end it. -/
  closed : t.quoted = true → Closes raw s ∧ (∀ closed, Closes closed s → raw <+: closed) ∧
    ∃ inner, raw = '"' :: (inner ++ ['"']) ∧ t.value = unescapeQuotes inner
  /-- Any other token goes on to the first white space that nothing keeps. -/
  unbroken : t.quoted = false → raw <+: s ∧ Unbroken raw ∧
    (∀ longer, longer <+: s → Unbroken longer → longer <+: raw) ∧ t.value = unescape raw

section Closes

theorem leavesEscaped_of_closeQuote? (h : closeQuote? e s = some (inner, after)) :
    leavesEscaped e inner = false := by
  induction s generalizing e inner with
  | nil => simp [closeQuote?] at h
  | cons c s ih =>
    rw [closeQuote?] at h
    split at h
    · rename_i hc
      cases h
      simpa [leavesEscaped] using (Bool.and_eq_true_iff.mp hc).2
    · obtain ⟨⟨i, a⟩, hi, heq⟩ := Option.map_eq_some_iff.mp h
      cases heq
      have hrest := ih hi
      exact hrest

/-- The first quote that closes is found no later than any other that does. -/
theorem exists_closeQuote?_append (h : leavesEscaped e inner = false) (after : List Char) :
    ∃ first rest, closeQuote? e (inner ++ '"' :: after) = some (first, rest) ∧
      first <+: inner := by
  cases hinner : closeQuote? e inner with
  | none =>
    refine ⟨inner, after, ?_, List.prefix_rfl⟩
    rw [closeQuote?_append_of_none hinner, h]
    simp [closeQuote?]
  | some found =>
    obtain ⟨first, rest⟩ := found
    exact ⟨first, _, closeQuote?_append hinner _, ⟨'"' :: rest, (closeQuote?_eq hinner).symm⟩⟩

theorem closes_of_closeQuote? (h : closeQuote? false s = some (inner, after)) :
    Closes ('"' :: (inner ++ ['"'])) ('"' :: s) := by
  refine ⟨inner, rfl, ⟨after, ?_⟩, ?_⟩
  · rw [closeQuote?_eq h]
    simp
  · exact leavesEscaped_eq_false_iff.mp (leavesEscaped_of_closeQuote? h)

theorem Closes.exists_closeQuote? (h : Closes raw s) : ∃ body first rest, s = '"' :: body ∧
    closeQuote? false body = some (first, rest) ∧ '"' :: (first ++ ['"']) <+: raw := by
  obtain ⟨inner, rfl, ⟨after, rfl⟩, hlast⟩ := h
  obtain ⟨first, rest, hfirst, hprefix⟩ :=
    exists_closeQuote?_append (leavesEscaped_eq_false_iff.mpr hlast) after
  refine ⟨inner ++ '"' :: after, first, rest, by simp, hfirst, ?_⟩
  -- What is found is as long as `inner`, or a quote of `inner` comes next in both.
  have hbody := closeQuote?_eq hfirst
  obtain ⟨more, rfl⟩ := hprefix
  rw [List.append_assoc, List.append_cancel_left_eq] at hbody
  cases more with
  | nil => simp
  | cons c more =>
    obtain ⟨rfl, -⟩ := List.cons.inj hbody
    exact ⟨more ++ ['"'], by simp⟩

theorem exists_closes_iff : (∃ closed, Closes closed s) ↔
    ∃ body, s = '"' :: body ∧ closeQuote? false body ≠ none := by
  constructor
  · rintro ⟨closed, h⟩
    obtain ⟨body, first, rest, rfl, hfirst, -⟩ := h.exists_closeQuote?
    exact ⟨body, rfl, by simp [hfirst]⟩
  · rintro ⟨body, rfl, h⟩
    obtain ⟨⟨first, rest⟩, hfirst⟩ := Option.ne_none_iff_exists'.mp h
    exact ⟨_, closes_of_closeQuote? hfirst⟩

end Closes

section Unbroken

theorem leavesEscaped_of_splitSpace {front back : List Char}
    (h : (splitSpace e s).1 = front ++ c :: back) (hc : isSpace c = true) :
    leavesEscaped e front = true := by
  induction s generalizing e front with
  | nil => simp [splitSpace] at h
  | cons d s ih =>
    rw [splitSpace] at h
    split at h
    · simp at h
    · rename_i hd
      cases front with
      | nil =>
        obtain ⟨rfl, -⟩ := List.cons.inj h
        simpa [leavesEscaped, hc] using hd
      | cons f front =>
        simp only [List.cons_append, List.cons.injEq] at h
        obtain ⟨rfl, h⟩ := h
        have hrest := ih h
        exact hrest

theorem unbroken_splitSpace (s : List Char) : Unbroken (splitSpace false s).1 :=
  fun _ _ _ h hc => leavesEscaped_iff.mp (leavesEscaped_of_splitSpace h hc)

/-- What is left starts with white space that no backslash keeps. -/
theorem splitSpace_snd_eq_cons {rest : List Char} (h : (splitSpace e s).2 = c :: rest) :
    isSpace c = true ∧ leavesEscaped e (splitSpace e s).1 = false := by
  induction s generalizing e with
  | nil => simp [splitSpace] at h
  | cons d s ih =>
    rw [splitSpace] at h ⊢
    split at h
    · rename_i hd
      rw [if_pos hd]
      obtain ⟨rfl, -⟩ := List.cons.inj h
      simpa [leavesEscaped] using hd
    · rename_i hd
      rw [if_neg hd]
      exact ih h

theorem Unbroken.prefix_splitSpace {longer : List Char} (h : Unbroken longer)
    (hlonger : longer <+: s) : longer <+: (splitSpace false s).1 := by
  have hs := splitSpace_append_snd false s
  rcases List.prefix_or_prefix_of_prefix hlonger ⟨_, hs⟩ with hprefix | ⟨more, rfl⟩
  · exact hprefix
  · cases more with
    | nil => simp
    | cons c more =>
      -- White space that nothing keeps comes next, so that the longer start is a broken one.
      obtain ⟨rest, hrest⟩ := hlonger
      rw [List.append_assoc] at hrest
      have hnext : (splitSpace false s).2 = c :: (more ++ rest) :=
        List.append_cancel_left (hs.trans hrest.symm)
      obtain ⟨hc, hescaped⟩ := splitSpace_snd_eq_cons hnext
      exact absurd (h _ c more rfl hc) (leavesEscaped_eq_false_iff.mp hescaped)

end Unbroken

section Split

theorem exists_blank_splitSpace (s : List Char) : ∃ gap, isBlank gap = true ∧
    s = (splitSpace false s).1 ++ gap ++ trimStart (splitSpace false s).2 := by
  obtain ⟨gap, hgap, hrest⟩ := exists_blank_trimStart (splitSpace false s).2
  refine ⟨gap, hgap, ?_⟩
  rw [List.append_assoc, ← hrest, splitSpace_append_snd]

/-- The token in front of a text that starts with no closed quote, or whose quotes do not count. -/
theorem exists_splitsOff_of_bare {u : Bool} (hs : front q s = bare s u)
    (hquoted : ¬(q = true ∧ ∃ closed, Closes closed s))
    (hopen : u = true ↔ q = true ∧ s.head? = some '"' ∧ ¬∃ closed, Closes closed s)
    (hshorter : s ≠ [] → (front q s).leftover.length < s.length) :
    ∃ raw gap, SplitsOff q s (front q s) raw gap := by
  obtain ⟨gap, hgap, heq⟩ := exists_blank_splitSpace s
  rw [hs] at hshorter ⊢
  exact ⟨_, gap, {
    eq := heq
    blank := hgap
    head := fun c hc => head?_trimStart hc
    shorter := hshorter
    quoted_iff := iff_of_false Bool.false_ne_true hquoted
    unterminated_iff := hopen
    closed := nofun
    unbroken := fun _ => ⟨⟨_, splitSpace_append_snd false s⟩, unbroken_splitSpace s,
      fun _ hlonger h => h.prefix_splitSpace hlonger, rfl⟩ }⟩

theorem exists_splitsOff_of_closed (h : closeQuote? false s = some (inner, after))
    (hshorter : (front true ('"' :: s)).leftover.length < ('"' :: s).length) :
    ∃ raw gap, SplitsOff true ('"' :: s) (front true ('"' :: s)) raw gap := by
  obtain ⟨gap, hgap, hafter⟩ := exists_blank_trimStart after
  have hcloses := closes_of_closeQuote? h
  rw [front_quoted h] at hshorter ⊢
  exact ⟨'"' :: (inner ++ ['"']), gap, {
    eq := by
      rw [List.append_assoc, ← hafter, closeQuote?_eq h]
      simp
    blank := hgap
    head := fun c hc => head?_trimStart hc
    shorter := fun _ => hshorter
    quoted_iff := iff_of_true rfl ⟨rfl, _, hcloses⟩
    unterminated_iff := iff_of_false Bool.false_ne_true fun hopen => hopen.2.2 ⟨_, hcloses⟩
    closed := fun _ => by
      refine ⟨hcloses, fun closed hclosed => ?_, inner, rfl, rfl⟩
      obtain ⟨body, first, rest, heq, hfirst, hprefix⟩ := hclosed.exists_closeQuote?
      obtain ⟨-, rfl⟩ := List.cons.inj heq
      cases h.symm.trans hfirst
      exact hprefix
    unbroken := nofun }⟩

theorem exists_splitsOff (q : Bool) (s : List Char) :
    ∃ raw gap, SplitsOff q (trimStart s) (split q s) raw gap := by
  have hshorter : trimStart s ≠ [] →
      (front q (trimStart s)).leftover.length < (trimStart s).length := by
    intro hne
    obtain ⟨c, cs, hcs⟩ := List.exists_cons_of_ne_nil hne
    rw [hcs]
    exact Nat.lt_succ_of_le (length_leftover_front q (trimStart_eq_cons hcs).1 cs)
  rw [split]
  generalize trimStart s = t at hshorter ⊢
  cases q with
  | false => exact exists_splitsOff_of_bare (front_false t) (by simp) (by simp) hshorter
  | true =>
    by_cases hhead : t.head? = some '"'
    · obtain ⟨body, rfl⟩ := List.head?_eq_some_iff.mp hhead
      cases hclose : closeQuote? false body with
      | some found => exact exists_splitsOff_of_closed hclose (hshorter (List.cons_ne_nil _ _))
      | none =>
        have hnone : ¬∃ closed, Closes closed ('"' :: body) := by
          rw [exists_closes_iff]
          rintro ⟨_, ⟨⟩, hclosed⟩
          exact hclosed hclose
        exact exists_splitsOff_of_bare (front_open hclose) (fun h => hnone h.2)
          (iff_of_true rfl ⟨rfl, rfl, hnone⟩) hshorter
    · refine exists_splitsOff_of_bare (front_bare hhead) ?_ ?_ hshorter
      · rintro ⟨-, hclosed⟩
        obtain ⟨body, rfl, -⟩ := exists_closes_iff.mp hclosed
        exact hhead rfl
      · exact iff_of_false Bool.false_ne_true fun hopen => hhead hopen.2.1

end Split

end Token

end ChatCommands
