import Mathlib.Data.List.TakeWhile
import ChatCommands.Mention
import ChatCommands.Proofs.Number.Decimal
import ChatCommands.Proofs.Text.Utf8

/-! # How users are mentioned

A mention is read exactly where one is written: up to 20 ASCII digits, leading zeros included, that
denote the user's id. Nothing of the text is lost behind it.
-/

namespace ChatCommands.Mention

open Number Text

/-- Up to 20 ASCII digits that denote the user's id. -/
structure Denotes (digits : List Char) (user : UInt64) : Prop where
  length : 1 ≤ digits.length ∧ digits.length ≤ 20
  ascii : ∀ c ∈ digits, c.isDigit = true
  value : Nat.ofDigitChars 10 digits 0 = user.toNat

/-- The text mentions the user, and is nothing more than this mention. -/
def Mentions (user : UInt64) (s : List Char) : Prop :=
  ∃ digits, Denotes digits user ∧
    (s = ['<', '@'] ++ digits ++ ['>'] ∨ s = ['<', '@', '!'] ++ digits ++ ['>'])

variable {user : UInt64} {mention : Mention} {opening body digits text written rest : List Char}

theorem Denotes.isDecimalDigit (h : Denotes digits user) :
    ∀ c ∈ digits, isDecimalDigit c = true :=
  fun c hc => isDecimalDigit_of_isDigit (h.ascii c hc)

/-- The text from the digits on starts with a digit. -/
theorem Denotes.head_ne (h : Denotes digits user) {c : Char} (hc : c.isDigit = false) :
    ∀ tail, digits ++ rest ≠ c :: tail := by
  intro tail heq
  obtain ⟨d, ds, rfl⟩ := List.exists_cons_of_length_pos h.length.1
  obtain rfl : d = c := (List.cons.inj heq).1
  exact Bool.false_ne_true (hc.symm.trans (h.ascii d List.mem_cons_self))

theorem readDecimal_eq_ok_iff_denotes (hlength : 1 ≤ digits.length ∧ digits.length ≤ 20) :
    readDecimal maxWord digits = .ok user.toNat ↔ Denotes digits user := by
  have hne : digits ≠ [] := List.length_pos_iff.mp hlength.1
  have hle : user.toNat ≤ maxWord := le_maxWord_iff.mpr user.toNat_lt_size
  rw [readDecimal_eq_ok_iff]
  constructor
  · rintro ⟨-, hascii, hvalue, -⟩
    exact ⟨hlength, hascii, hvalue⟩
  · exact fun h => ⟨hne, h.ascii, h.value, hle⟩

theorem toNat_ofNat_of_readDecimal {n : Nat} (h : readDecimal maxWord digits = .ok n) :
    (UInt64.ofNat n).toNat = n :=
  UInt64.toNat_ofNat_of_lt' (le_maxWord_iff.mp (readDecimal_eq_ok_iff.mp h).2.2.2)

theorem close?_eq_some_iff : close? opening body = some mention ↔
    ∃ digits, Denotes digits mention.user ∧ body = digits ++ '>' :: mention.rest ∧
      mention.written = opening ++ digits ++ ['>'] := by
  constructor
  · intro h
    rw [close?] at h
    split at h
    · rename_i rest hdrop
      split at h
      · rename_i hlength
        cases hread : readDecimal maxWord (body.takeWhile Text.isDecimalDigit) with
        | error reason => simp [hread, Except.toOption] at h
        | ok n =>
          simp only [hread, Except.toOption, Option.bind_eq_bind, Option.bind_some,
            Option.some.injEq] at h
          subst h
          have hvalue := toNat_ofNat_of_readDecimal hread
          refine ⟨body.takeWhile Text.isDecimalDigit, ?_, ?_, rfl⟩
          · rw [← readDecimal_eq_ok_iff_denotes (by simpa using hlength), hvalue]
            exact hread
          · rw [← hdrop, List.takeWhile_append_dropWhile]
      · cases h
    · cases h
  · obtain ⟨user, written, rest⟩ := mention
    rintro ⟨digits, hdenotes, rfl, rfl⟩
    have hdrop : (digits ++ '>' :: rest).dropWhile Text.isDecimalDigit = '>' :: rest := by
      rw [List.dropWhile_append_of_pos hdenotes.isDecimalDigit,
        List.dropWhile_cons_of_neg (by decide)]
    have htake : (digits ++ '>' :: rest).takeWhile Text.isDecimalDigit = digits := by
      rw [List.takeWhile_append_of_pos hdenotes.isDecimalDigit,
        List.takeWhile_cons_of_neg (by decide), List.append_nil]
    have hread := (readDecimal_eq_ok_iff_denotes hdenotes.length).mpr hdenotes
    simp [close?, hdrop, htake, hread, hdenotes.length, Except.toOption]

/-- A body that opens otherwise is not taken for that of the other form. -/
theorem leading?_plain (h : ∀ tail, body ≠ '!' :: tail) :
    leading? ('<' :: '@' :: body) = close? ['<', '@'] body :=
  leading?.eq_2 body h

theorem leading?_of_mentions (h : Mentions user written) (rest : List Char) :
    leading? (written ++ rest) = some ⟨user, written, rest⟩ := by
  obtain ⟨digits, hdenotes, rfl | rfl⟩ := h
  · have htext : ['<', '@'] ++ digits ++ ['>'] ++ rest =
        '<' :: '@' :: (digits ++ '>' :: rest) := by simp
    rw [htext, leading?_plain (hdenotes.head_ne rfl), close?_eq_some_iff]
    exact ⟨digits, hdenotes, rfl, rfl⟩
  · have htext : ['<', '@', '!'] ++ digits ++ ['>'] ++ rest =
        '<' :: '@' :: '!' :: (digits ++ '>' :: rest) := by simp
    rw [htext, leading?, close?_eq_some_iff]
    exact ⟨digits, hdenotes, rfl, rfl⟩

theorem leading?_eq_some_iff : leading? text = some mention ↔
    Mentions mention.user mention.written ∧ mention.written ++ mention.rest = text := by
  constructor
  · intro h
    unfold leading? at h
    split at h
    · obtain ⟨digits, hdenotes, rfl, hwritten⟩ := close?_eq_some_iff.mp h
      exact ⟨⟨digits, hdenotes, Or.inr hwritten⟩, by simp [hwritten]⟩
    · obtain ⟨digits, hdenotes, rfl, hwritten⟩ := close?_eq_some_iff.mp h
      exact ⟨⟨digits, hdenotes, Or.inl hwritten⟩, by simp [hwritten]⟩
    · cases h
  · rintro ⟨hmentions, rfl⟩
    exact leading?_of_mentions hmentions mention.rest

theorem toDigits_denotes (user : UInt64) : Denotes (Nat.toDigits 10 user.toNat) user where
  length := by
    refine ⟨Nat.length_toDigits_pos, ?_⟩
    rw [Nat.length_toDigits_le_iff (by decide) (by decide)]
    exact user.toNat_lt_size.trans (by decide)
  ascii := isDigit_of_mem_toDigits
  value := Nat.ofDigitChars_ten_toDigits

/-- The mention of a user in canonical digits, behind one of the two openings. -/
def form (opening : String) (user : UInt64) : List Char :=
  (opening ++ toString user ++ ">").toList

theorem form_eq (opening : String) (user : UInt64) :
    form opening user = opening.toList ++ Nat.toDigits 10 user.toNat ++ ['>'] := by
  have huser : (toString user).toList = Nat.toDigits 10 user.toNat := by
    rw [← String.toList_ofList (l := Nat.toDigits 10 user.toNat), ← Nat.toString_eq_ofList_toDigits]
    rfl
  rw [form, String.toList_append, String.toList_append, huser]
  rfl

theorem mentions_form {opening : String} (h : opening ∈ ["<@", "<@!"]) (user : UInt64) :
    Mentions user (form opening user) := by
  simp only [List.mem_cons, List.not_mem_nil, or_false] at h
  refine ⟨_, toDigits_denotes user, ?_⟩
  rw [form_eq]
  rcases h with rfl | rfl
  · exact Or.inl rfl
  · exact Or.inr rfl

theorem utf8Size_of_isDigit {c : Char} (h : c.isDigit = true) : c.utf8Size = 1 := by
  have hle : c.toNat ≤ 57 := (Char.isDigit_iff_toNat.mp h).2
  rw [Char.utf8Size_eq_one_iff, UInt32.le_iff_toNat_le]
  exact Nat.le_trans hle (by decide)

theorem byteLength_of_isDigit (h : ∀ c ∈ digits, c.isDigit = true) :
    byteLength digits = digits.length := by
  induction digits with
  | nil => rfl
  | cons c cs ih =>
    obtain ⟨hc, hcs⟩ := List.forall_mem_cons.mp h
    rw [byteLength_cons, utf8Size_of_isDigit hc, ih hcs, List.length_cons, Nat.add_comm]

theorem byteLength_form (opening : String) (user : UInt64) : byteLength (form opening user) =
    opening.utf8ByteSize + (Nat.toDigits 10 user.toNat).length + 1 := by
  rw [form_eq, byteLength_append, byteLength_append, byteLength_toList,
    byteLength_of_isDigit isDigit_of_mem_toDigits]
  rfl

end ChatCommands.Mention
