import ChatCommands.Command.Resolution

/-! # Words

A text is read word by word: splitting its first word off gives the words of the text one after
another. Words that are joined by single spaces are found again.
-/

namespace ChatCommands

namespace Text

/-- The code points of white space. -/
def spaceCodes : List Nat :=
  [0x20, 0x09, 0x0A, 0x0B, 0x0C, 0x0D, 0x85, 0xA0, 0x1680, 0x2000, 0x2001, 0x2002, 0x2003, 0x2004,
   0x2005, 0x2006, 0x2007, 0x2008, 0x2009, 0x200A, 0x2028, 0x2029, 0x202F, 0x205F, 0x3000]

theorem toNat_mem_spaceCodes {c : Char} (h : isSpace c = true) : c.toNat ∈ spaceCodes := by
  by_cases hc : c = ' '
  · subst hc
    decide
  · simp only [isSpace, Bool.or_eq_true, Bool.and_eq_true, beq_iff_eq, decide_eq_true_eq, hc,
      false_or] at h
    simp only [spaceCodes, List.mem_cons, List.not_mem_nil, or_false]
    omega

/-- A nonempty run of characters without white space. -/
def IsWord (w : List Char) : Prop :=
  w ≠ [] ∧ ∀ c ∈ w, isSpace c = false

theorem head?_trimStart {s : List Char} {c : Char} (h : (trimStart s).head? = some c) :
    isSpace c = false := by
  have hs := List.head?_dropWhile_not isSpace s
  rw [trimStart] at h
  rwa [h] at hs

theorem trimStart_of_head {s : List Char} (h : ∀ c ∈ s.head?, isSpace c = false) :
    trimStart s = s := by
  cases s with
  | nil => rfl
  | cons c s =>
    have hc : isSpace c = false := h c rfl
    simp [trimStart, hc]

theorem trimStart_trimStart (s : List Char) : trimStart (trimStart s) = trimStart s :=
  trimStart_of_head fun _ hc => head?_trimStart hc

theorem words_trimStart (s : List Char) : words (trimStart s) = words s := by
  rw [words, trimStart_trimStart, words]

theorem words_eq_nil_iff {s : List Char} : words s = [] ↔ trimStart s = [] := by
  rw [words]
  split <;> simp_all

theorem isWord_takeWhile {c : Char} (hc : isSpace c = false) (cs : List Char) :
    IsWord (c :: cs.takeWhile (!isSpace ·)) := by
  refine ⟨by simp, fun d hd => ?_⟩
  rcases List.mem_cons.mp hd with rfl | hd
  · exact hc
  · simpa using List.all_eq_true.mp (List.all_takeWhile (p := (!isSpace ·)) (l := cs)) d hd

theorem isWord_of_mem_words {s w : List Char} (h : w ∈ words s) : IsWord w := by
  fun_induction words s with
  | case1 => simp at h
  | case2 s c cs hs ih =>
    rcases List.mem_cons.mp h with rfl | h
    · exact isWord_takeWhile (head?_trimStart (by rw [hs]; rfl)) cs
    · exact ih h

/-- A word ends where the text does, or at white space. -/
theorem words_append {w rest : List Char} (hw : IsWord w)
    (hr : ∀ c ∈ rest.head?, isSpace c = true) : words (w ++ rest) = w :: words rest := by
  obtain ⟨hn, hs⟩ := hw
  cases w with
  | nil => exact absurd rfl hn
  | cons c w =>
    have ht : trimStart (c :: w ++ rest) = c :: (w ++ rest) :=
      trimStart_of_head fun d hd => by
        cases hd
        exact hs c List.mem_cons_self
    have hw : ∀ d ∈ w, (!isSpace d) = true := fun d hd => by
      simp [hs d (List.mem_cons_of_mem c hd)]
    have hrest : rest.takeWhile (!isSpace ·) = [] ∧ rest.dropWhile (!isSpace ·) = rest := by
      cases rest with
      | nil => exact ⟨rfl, rfl⟩
      | cons d rest =>
        have hd : isSpace d = true := hr d rfl
        simp [hd]
    rw [words]
    split
    · simp_all
    · rename_i d ds hds
      rw [ht] at hds
      cases hds
      rw [List.takeWhile_append_of_pos hw, List.dropWhile_append_of_pos hw, hrest.1, hrest.2,
        List.append_nil]

theorem words_intercalate {ws : List (List Char)} (h : ∀ w ∈ ws, IsWord w) :
    words ([' '].intercalate ws) = ws := by
  induction ws with
  | nil => simp [words_eq_nil_iff, trimStart]
  | cons w ws ih =>
    have hw := h w List.mem_cons_self
    have hws := fun v hv => h v (List.mem_cons_of_mem w hv)
    cases ws with
    | nil =>
      rw [List.intercalate_singleton, ← List.append_nil w, words_append hw (by simp)]
      simp [words_eq_nil_iff, trimStart]
    | cons v vs =>
      rw [List.intercalate_cons_cons, List.append_assoc, words_append hw (by simp [isSpace]),
        ← words_trimStart]
      have hsp : trimStart ([' '] ++ [' '].intercalate (v :: vs)) =
          trimStart ([' '].intercalate (v :: vs)) := by
        simp [trimStart, isSpace]
      rw [hsp, words_trimStart, ih hws]

theorem IsWord.words_eq {w : List Char} (h : IsWord w) : words w = [w] := by
  have hw := words_intercalate (List.forall_mem_singleton.mpr h)
  rwa [List.intercalate_singleton] at hw

end Text

open Text

theorem splitTrigger_eq_nil_iff {text : List Char} :
    (splitTrigger text).1 = [] ↔ words text = [] := by
  rw [words_eq_nil_iff, splitTrigger]
  constructor
  · intro h
    cases ht : trimStart text with
    | nil => rfl
    | cons c cs =>
      have hc : isSpace c = false := head?_trimStart (by rw [ht]; rfl)
      simp [ht, hc] at h
  · intro h
    simp [h]

theorem words_splitTrigger {text : List Char} (h : (splitTrigger text).1 ≠ []) :
    words text = (splitTrigger text).1 :: words (splitTrigger text).2 := by
  rw [words]
  split
  · rename_i ht
    exact absurd (splitTrigger_eq_nil_iff.mpr (words_eq_nil_iff.mpr ht)) h
  · rename_i c cs ht
    have hc : isSpace c = false := head?_trimStart (by rw [ht]; rfl)
    simp [splitTrigger, ht, hc, words_trimStart]

end ChatCommands
