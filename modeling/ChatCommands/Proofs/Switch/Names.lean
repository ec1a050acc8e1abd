import ChatCommands.Proofs.Token.Escaped
import ChatCommands.Switch

/-! # Names of switches

A token that names a switch has no quotes, backslashes or white space in it. So white space behind
a text, which a backslash may draw into its last token, makes no switch and breaks none.
-/

namespace ChatCommands

open Text

namespace Text

theorem isWordChar_of_isSpace {c : Char} (h : isSpace c = true) : isWordChar c = false := by
  have hall : ∀ n ∈ spaceCodes, isWordChar (Char.ofNat n) = false := by decide +kernel
  have hc := hall c.toNat (toNat_mem_spaceCodes h)
  rwa [Char.ofNat_toNat] at hc

theorem isWordChar_of_isAlpha {c : Char} (h : c.isAlpha = true) : isWordChar c = true := by
  have hlt : c.toNat < 0x80 := by
    have hletter : (decide (c.val ≥ 'A'.val ∧ c.val ≤ 'Z'.val) ||
        (decide (c.val ≥ 'a'.val) && decide (c.val ≤ 'z'.val))) = true := h
    simp only [Bool.or_eq_true, Bool.and_eq_true, decide_eq_true_eq, ge_iff_le,
      UInt32.le_iff_toNat_le] at hletter
    have hval : c.toNat = c.val.toNat := rfl
    have hZ : 'Z'.val.toNat = 90 := rfl
    have hz : 'z'.val.toNat = 122 := rfl
    omega
  simp [isWordChar, hlt, Char.isAlphanum, h]

end Text

theorem isSwitchName_mem {s : List Char} (h : isSwitchName s = true) {c : Char} (hc : c ∈ s) :
    isWordChar c = true ∨ c = '-' := by
  cases s with
  | nil => cases hc
  | cons d s =>
    simp only [isSwitchName, Bool.and_eq_true, List.all_eq_true, Bool.or_eq_true, beq_iff_eq] at h
    rcases List.mem_cons.mp hc with rfl | hc
    · exact Or.inl (isWordChar_of_isAlpha h.1)
    · exact h.2 c hc

/-- No character of a name means anything to the splitting of tokens. -/
theorem plain_of_isSwitchName {s : List Char} (h : isSwitchName s = true) {c : Char} (hc : c ∈ s) :
    isSpace c = false ∧ c ≠ '\\' ∧ c ≠ '"' := by
  rcases isSwitchName_mem h hc with hw | rfl
  · refine ⟨?_, ?_, ?_⟩
    · cases hs : isSpace c with
      | false => rfl
      | true => rw [isWordChar_of_isSpace hs] at hw; cases hw
    · rintro rfl
      exact absurd hw (by decide)
    · rintro rfl
      exact absurd hw (by decide)
  · decide

namespace Token

variable {t : Token} {name : String}

theorem switchName?_eq_some_iff : t.switchName? = some name ↔ t.quoted = false ∧
    isSwitchName name.toList = true ∧
    (t.value = '-' :: name.toList ∨ t.value = '-' :: '-' :: name.toList) := by
  have hdash : ∀ s, isSwitchName ('-' :: s) = false := fun s => rfl
  unfold switchName?
  constructor
  · intro h
    split at h
    · cases h
    · rename_i hq
      split at h
      · rename_i body hv
        split at h
        · rename_i hb
          cases h
          exact ⟨by simpa using hq, by simpa using hb, .inr (by simpa using hv)⟩
        · cases h
      · rename_i body hv
        split at h
        · rename_i hb
          cases h
          exact ⟨by simpa using hq, by simpa using hb, .inl (by simpa using hv)⟩
        · cases h
      · cases h
  · rintro ⟨hq, hname, hv | hv⟩
    · rw [hq, hv, if_neg Bool.false_ne_true]
      split
      · rename_i heq
        rw [(List.cons.inj heq).2, hdash] at hname
        cases hname
      · rename_i heq
        rw [← (List.cons.inj heq).2, if_pos hname, String.ofList_toList]
      · rename_i h
        exact absurd rfl (h _)
    · simp [hq, hv, hname]

theorem plain_of_switchName? (h : t.switchName? = some name) {c : Char} (hc : c ∈ t.value) :
    isSpace c = false ∧ c ≠ '\\' ∧ c ≠ '"' := by
  obtain ⟨-, hname, hvalue⟩ := switchName?_eq_some_iff.mp h
  have hmem : c = '-' ∨ c ∈ name.toList := by
    rcases hvalue with hvalue | hvalue
    · rw [hvalue] at hc
      simpa using hc
    · rw [hvalue] at hc
      simpa using hc
  rcases hmem with rfl | hmem
  · decide
  · exact plain_of_isSwitchName hname hmem

theorem switchName?_eq_none_of_mem {c : Char} (hc : c ∈ t.value)
    (h : isSpace c = true ∨ c = '\\' ∨ c = '"') : t.switchName? = none := by
  cases hn : t.switchName? with
  | none => rfl
  | some name =>
    obtain ⟨h₁, h₂, h₃⟩ := plain_of_switchName? hn hc
    rcases h with h | h | h
    · rw [h₁] at h
      cases h
    · exact absurd h h₂
    · exact absurd h h₃

/-- A switch is named by no token in quotes, and by none that starts with a quote. -/
theorem head?_ne_quote_of_switchName? {s : List Char} (h : (front true s).switchName? = some name) :
    s.head? ≠ some '"' := by
  intro hs
  obtain ⟨body, rfl⟩ := List.head?_eq_some_iff.mp hs
  cases hc : closeQuote? false body with
  | some p =>
    rw [front_quoted hc] at h
    cases h
  | none =>
    rw [front_open hc, switchName?_eq_none_of_mem (c := '"') _ (.inr (.inr rfl))] at h
    · cases h
    · exact mem_unescape List.mem_cons_self (by decide)

/-- A token that names a switch is also written with a hyphen in front. -/
theorem head?_of_switchName? {s : List Char} (h : (front true s).switchName? = some name) :
    s.head? = some '-' := by
  rw [front_bare (head?_ne_quote_of_switchName? h)] at h
  have hhead : (bare s false).value.head? = some '-' := by
    obtain ⟨-, -, hvalue | hvalue⟩ := switchName?_eq_some_iff.mp h
    · rw [hvalue, List.head?_cons]
    · rw [hvalue, List.head?_cons]
  have hraw : (splitSpace false s).1.head? = some '-' :=
    head?_of_head?_unescape hhead (by decide) (by decide)
  rw [← splitSpace_append_snd false s, List.head?_append, hraw]
  rfl

variable {s g : List Char}

/-- The names that the tokens of a text have as switches. -/
def switchNames (s : List Char) : List String :=
  (all true s).filterMap switchName?

theorem switchNames_eq (s : List Char) : switchNames s = (lexemes s).filterMap switchName? := by
  rw [switchNames, lexemes, List.filterMap_map]
  rfl

theorem switchNames_trimStart (s : List Char) : switchNames (trimStart s) = switchNames s := by
  rw [switchNames_eq, lexemes_trimStart, switchNames_eq]

theorem switchNames_append_of_blank (hg : isBlank g = true) :
    switchNames (s ++ g) = switchNames s := by
  rw [switchNames_eq, switchNames_eq]
  obtain heq | ⟨ts, kept, drawn, c, u, hkept, hc, hs, happend⟩ := lexemes_append_blank hg s
  · rw [heq]
  · have hnone : switchName? ⟨kept, [], false, u⟩ = none :=
      switchName?_eq_none_of_mem hkept (.inr (.inl rfl))
    have hnone' : switchName? ⟨drawn ++ [c], [], false, u⟩ = none :=
      switchName?_eq_none_of_mem (c := c) (by simp) (.inl hc)
    simp [hs, happend, hnone, hnone']

theorem switchNames_trimEnd (s : List Char) : switchNames (trimEnd s) = switchNames s := by
  obtain ⟨g, hg, hs⟩ := exists_blank_trimEnd s
  have h := switchNames_append_of_blank (s := trimEnd s) hg
  rw [← hs] at h
  exact h.symm

theorem switchNames_trim (s : List Char) : switchNames (trim s) = switchNames s := by
  rw [trim, switchNames_trimEnd, switchNames_trimStart]

end Token

end ChatCommands
