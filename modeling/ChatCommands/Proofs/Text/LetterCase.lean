import ChatCommands.Proofs.Text.Words
import ChatCommands.Text.LetterCase

/-! # Lower-case forms

The lower-case form of a text is its own lower-case form, and it is a word just if the text is one.
Both are seen from the code points that the case table maps and from those that it maps them to:
none is one of both, and none is white space.
-/

namespace ChatCommands.Text

section Bits

variable {codes : List Nat} {first second n : Nat}

/-- A set of code points as one number, with a bit for each. -/
def bits (codes : List Nat) : Nat :=
  codes.foldr (fun n set => 1 <<< n ||| set) 0

theorem testBit_bits : (bits codes).testBit n = true ↔ n ∈ codes := by
  induction codes with
  | nil => simp [bits]
  | cons m codes ih =>
    rw [bits, List.foldr_cons, ← bits, Nat.testBit_or, Bool.or_eq_true, ih, Nat.one_shiftLeft,
      Nat.testBit_two_pow, decide_eq_true_iff, List.mem_cons, eq_comm]

theorem not_testBit_and (h : first &&& second = 0) :
    ¬ (first.testBit n = true ∧ second.testBit n = true) := by
  rw [← Bool.and_eq_true, ← Nat.testBit_and, h, Nat.zero_testBit]
  exact Bool.false_ne_true

end Bits

namespace CaseRun

variable {run : CaseRun} {runs : List CaseRun} {start : CaseRun → Nat} {n m : Nat}

/-- How far the mapped characters lie behind the first. -/
def offsets (run : CaseRun) : List Nat :=
  List.range' 0 ((run.last - run.first) / run.stride + 1) run.stride

theorem exists_offset_of_map? (h : run.map? n = some m) :
    ∃ offset ∈ run.offsets, n = run.first + offset ∧ m = run.image + offset := by
  rw [map?] at h
  split at h
  · rename_i hmaps
    simp only [Bool.and_eq_true, decide_eq_true_eq, beq_iff_eq] at hmaps
    obtain ⟨⟨hfirst, hlast⟩, hstride⟩ := hmaps
    have hsteps := Nat.mul_div_cancel' (Nat.dvd_of_mod_eq_zero hstride)
    have hle : (n - run.first) / run.stride ≤ (run.last - run.first) / run.stride :=
      Nat.div_le_div_right (by omega)
    cases h
    refine ⟨n - run.first, List.mem_range'.mpr ⟨_, Nat.lt_succ_of_le hle, ?_⟩, by omega, rfl⟩
    rw [Nat.zero_add, hsteps]
  · cases h

/-- The code points at the offsets of the runs, each from a start of its own. -/
def bitsFrom (start : CaseRun → Nat) (runs : List CaseRun) : Nat :=
  runs.foldr (fun run set => bits run.offsets <<< start run ||| set) 0

theorem testBit_bitsFrom {offset : Nat} (hrun : run ∈ runs) (hoffset : offset ∈ run.offsets) :
    (bitsFrom start runs).testBit (start run + offset) = true := by
  induction runs with
  | nil => cases hrun
  | cons other runs ih =>
    rw [bitsFrom, List.foldr_cons, ← bitsFrom, Nat.testBit_or, Bool.or_eq_true]
    rcases List.mem_cons.mp hrun with rfl | hrun
    · refine Or.inl ?_
      rw [Nat.testBit_shiftLeft, Nat.add_sub_cancel_left, testBit_bits.mpr hoffset]
      simp
    · exact Or.inr (ih hrun)

end CaseRun

def mapped : Nat :=
  CaseRun.bitsFrom (·.first) lowerRuns

def images : Nat :=
  CaseRun.bitsFrom (·.image) lowerRuns

/-- What the capitals become whose forms are not left to the table: the dot of `İ` and the two
small sigmas. -/
def smallCodes : List Nat :=
  [0x307, 0x3C2, 0x3C3]

/-- No images: all ASCII characters but `k`, the two capitals, and white space. -/
def foreignCodes : List Nat :=
  (List.range 0x80).filter (· != 0x6B) ++ 0x130 :: 0x3A3 :: spaceCodes

theorem mapped_and_images : mapped &&& images = 0 ∧
    mapped &&& bits (smallCodes ++ spaceCodes) = 0 ∧ images &&& bits foreignCodes = 0 := by
  decide +kernel

theorem lower_ascii : ∀ n < 0x80, lowerChar (Char.ofNat n).toLower = [(Char.ofNat n).toLower] ∧
    (Char.ofNat n).toLower ≠ 'Σ' ∧ isSpace (Char.ofNat n).toLower = isSpace (Char.ofNat n) := by
  decide +kernel

/-- Lower-casing leaves the character as it is wherever it stands. -/
def IsLower (c : Char) : Prop :=
  lowerChar c = [c] ∧ c ≠ 'Σ'

section Chars

variable {c d : Char} {run : CaseRun} {n m : Nat}

theorem testBit_of_map? (hrun : run ∈ lowerRuns) (hm : run.map? n = some m) :
    mapped.testBit n = true ∧ images.testBit m = true := by
  obtain ⟨offset, hoffset, rfl, rfl⟩ := CaseRun.exists_offset_of_map? hm
  exact ⟨CaseRun.testBit_bitsFrom hrun hoffset, CaseRun.testBit_bitsFrom hrun hoffset⟩

theorem lowerChar_of_wide (hwide : 0x80 ≤ c.toNat) (hdotted : c.toNat ≠ 0x130) :
    lowerChar c = [((lowerRuns.findSome? (·.map? c.toNat)).map Char.ofNat).getD c] := by
  rw [lowerChar, if_neg (by omega), if_neg (by simpa using hdotted)]

theorem lowerChar_of_not_mapped (h : ¬ mapped.testBit c.toNat = true) (hwide : 0x80 ≤ c.toNat)
    (hdotted : c.toNat ≠ 0x130) : lowerChar c = [c] := by
  have hnone : lowerRuns.findSome? (·.map? c.toNat) = none :=
    List.findSome?_eq_none_iff.mpr fun run hrun =>
      Option.eq_none_iff_forall_ne_some.mpr fun m hm => h (testBit_of_map? hrun hm).1
  rw [lowerChar_of_wide hwide hdotted, hnone]
  rfl

theorem isLower_of_smallCodes (h : c.toNat ∈ smallCodes) : IsLower c := by
  have hmapped : ¬ mapped.testBit c.toNat = true := fun hmapped =>
    not_testBit_and mapped_and_images.2.1
      ⟨hmapped, testBit_bits.mpr (List.mem_append_left spaceCodes h)⟩
  simp only [smallCodes, List.mem_cons, List.not_mem_nil, or_false] at h
  refine ⟨lowerChar_of_not_mapped hmapped (by omega) (by omega), ?_⟩
  rintro rfl
  exact absurd h (by decide)

theorem isSpace_of_mapped (h : mapped.testBit c.toNat = true) : isSpace c = false :=
  Bool.eq_false_iff.mpr fun hspace => not_testBit_and mapped_and_images.2.1
    ⟨h, testBit_bits.mpr (List.mem_append_right smallCodes (toNat_mem_spaceCodes hspace))⟩

theorem toNat_ofNat_or (n : Nat) : (Char.ofNat n).toNat = n ∨ Char.ofNat n = '\x00' := by
  by_cases hvalid : n.isValidChar
  · have hchar : Char.ofNat n = Char.ofNatAux n hvalid := dif_pos hvalid
    exact Or.inl (hchar ▸ rfl)
  · exact Or.inr (dif_neg hvalid)

/-- An image is lower-case, and no white space. -/
theorem isLower_of_images (h : images.testBit m = true) :
    IsLower (Char.ofNat m) ∧ isSpace (Char.ofNat m) = false := by
  -- A number that is no character would be read as `\x00`, which is lower-case too.
  obtain hnat | hzero := toNat_ofNat_or m
  · have hforeign : m ∉ foreignCodes := fun hmem =>
      not_testBit_and mapped_and_images.2.2 ⟨h, testBit_bits.mpr hmem⟩
    simp only [foreignCodes, List.mem_append, List.mem_filter, List.mem_range, bne_iff_ne,
      List.mem_cons, not_or, not_and, Decidable.not_not] at hforeign
    obtain ⟨hascii, hdotted, hsigma, hspaces⟩ := hforeign
    by_cases hlt : m < 0x80
    · obtain rfl := hascii hlt
      exact ⟨⟨rfl, by decide⟩, by decide⟩
    · have hmapped : ¬ mapped.testBit (Char.ofNat m).toNat = true := fun hmapped =>
        not_testBit_and mapped_and_images.1 ⟨hnat ▸ hmapped, h⟩
      refine ⟨⟨lowerChar_of_not_mapped hmapped (by omega) (by omega), fun heq => ?_⟩, ?_⟩
      · rw [heq] at hnat
        exact hsigma hnat.symm
      · refine Bool.eq_false_iff.mpr fun hspace => hspaces ?_
        rw [← hnat]
        exact toNat_mem_spaceCodes hspace
  · rw [hzero]
    exact ⟨⟨rfl, by decide⟩, by decide⟩

/-- Lower-casing a character gives lower-case ones, and white space just from white space. A capital
sigma depends on its place in a text. -/
theorem isLower_of_mem_lowerChar (hc : c ≠ 'Σ') (h : d ∈ lowerChar c) :
    IsLower d ∧ isSpace d = isSpace c := by
  by_cases hascii : c.toNat < 0x80
  · rw [lowerChar, if_pos hascii, List.mem_singleton] at h
    obtain rfl := h
    obtain ⟨hlower, hsigma, hspace⟩ := lower_ascii c.toNat hascii
    rw [Char.ofNat_toNat] at hlower hsigma hspace
    exact ⟨⟨hlower, hsigma⟩, hspace⟩
  · by_cases hdotted : c.toNat = 0x130
    · have hspace : isSpace c = false := Bool.eq_false_iff.mpr fun hspace =>
        absurd (hdotted ▸ toNat_mem_spaceCodes hspace) (by decide)
      rw [lowerChar, if_neg hascii, if_pos (beq_iff_eq.mpr hdotted)] at h
      simp only [List.mem_cons, List.not_mem_nil, or_false] at h
      rw [hspace]
      rcases h with rfl | rfl
      · exact ⟨⟨rfl, by decide⟩, by decide⟩
      · exact ⟨isLower_of_smallCodes (by decide), by decide⟩
    · have hlower := lowerChar_of_wide (by omega) hdotted
      rw [hlower, List.mem_singleton] at h
      cases hfind : lowerRuns.findSome? (·.map? c.toNat) with
      | none =>
        rw [hfind] at h hlower
        obtain rfl : d = c := h
        exact ⟨⟨hlower, hc⟩, rfl⟩
      | some m =>
        rw [hfind] at h
        obtain rfl : d = Char.ofNat m := h
        obtain ⟨run, hrun, hm⟩ := List.exists_of_findSome?_eq_some hfind
        obtain ⟨hmapped, himage⟩ := testBit_of_map? hrun hm
        obtain ⟨hfixed, hspace⟩ := isLower_of_images himage
        exact ⟨hfixed, hspace.trans (isSpace_of_mapped hmapped).symm⟩

end Chars

section Texts

variable {before s : List Char}

/-- A text of lower-case characters is its own lower-case form. -/
theorem lowerAfter_of_isLower (h : ∀ c ∈ s, IsLower c) : lowerAfter before s = s := by
  induction s generalizing before with
  | nil => rfl
  | cons c s ih =>
    obtain ⟨hc, hsigma⟩ := h c List.mem_cons_self
    rw [lowerAfter, if_neg (by simpa using hsigma), hc,
      ih fun d hd => h d (List.mem_cons_of_mem c hd)]
    rfl

/-- What a character becomes in a text: at least one character, all of them lower-case. -/
theorem lowerAfter_cons (before : List Char) (c : Char) (s : List Char) :
    ∃ image, lowerAfter before (c :: s) = image ++ lowerAfter (c :: before) s ∧ image ≠ [] ∧
      ∀ d ∈ image, IsLower d ∧ isSpace d = isSpace c := by
  refine ⟨_, rfl, ?_⟩
  split
  · rename_i hsigma
    obtain rfl := beq_iff_eq.mp hsigma
    refine ⟨List.cons_ne_nil _ _, fun d hd => ?_⟩
    split at hd
    all_goals
      obtain rfl := List.mem_singleton.mp hd
      exact ⟨isLower_of_smallCodes (by decide), by decide⟩
  · rename_i hsigma
    refine ⟨?_, fun d => isLower_of_mem_lowerChar (by simpa using hsigma)⟩
    rw [lowerChar]
    split
    · exact List.cons_ne_nil _ _
    · split <;> exact List.cons_ne_nil _ _

theorem isLower_of_mem_lowerAfter {d : Char} (h : d ∈ lowerAfter before s) : IsLower d := by
  induction s generalizing before with
  | nil => cases h
  | cons c s ih =>
    obtain ⟨image, heq, -, himage⟩ := lowerAfter_cons before c s
    rw [heq, List.mem_append] at h
    rcases h with h | h
    · exact (himage d h).1
    · exact ih h

/-- Lower-casing twice changes nothing more. -/
theorem lowercase_lowercase (s : String) : lowercase (lowercase s) = lowercase s := by
  rw [lowercase, lowercase, String.toList_ofList,
    lowerAfter_of_isLower fun c hc => isLower_of_mem_lowerAfter hc]

theorem isSpace_lowerAfter_iff : (∀ d ∈ lowerAfter before s, isSpace d = false) ↔
    ∀ c ∈ s, isSpace c = false := by
  induction s generalizing before with
  | nil => rfl
  | cons c s ih =>
    obtain ⟨image, heq, hne, himage⟩ := lowerAfter_cons before c s
    have hc : (∀ d ∈ image, isSpace d = false) ↔ isSpace c = false := by
      constructor
      · intro h
        obtain ⟨d, hd⟩ := List.exists_mem_of_ne_nil image hne
        exact (himage d hd).2.symm.trans (h d hd)
      · intro h d hd
        exact (himage d hd).2.trans h
    rw [heq, List.forall_mem_append, hc, ih, List.forall_mem_cons]

theorem lowerAfter_eq_nil_iff : lowerAfter before s = [] ↔ s = [] := by
  cases s with
  | nil => simp [lowerAfter]
  | cons c s =>
    obtain ⟨image, heq, hne, -⟩ := lowerAfter_cons before c s
    simp [heq, hne]

theorem isWord_lowerAfter_iff : IsWord (lowerAfter before s) ↔ IsWord s := by
  rw [IsWord, IsWord, isSpace_lowerAfter_iff, ne_eq, lowerAfter_eq_nil_iff]

/-- Texts that differ in letter case alone are both words or neither is. -/
theorem isWord_iff_of_lowercase_eq {s t : String} (h : lowercase s = lowercase t) :
    IsWord s.toList ↔ IsWord t.toList := by
  have hlower := congrArg String.toList h
  rw [lowercase, lowercase, String.toList_ofList, String.toList_ofList] at hlower
  rw [← isWord_lowerAfter_iff (s := s.toList), hlower, isWord_lowerAfter_iff]

end Texts

end ChatCommands.Text
