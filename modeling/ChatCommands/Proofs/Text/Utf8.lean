import ChatCommands.Text.Utf8

/-! # Where characters end

A text can be cut after so many bytes exactly if this is a position between two characters of its
UTF-8 encoding. There is one way to cut it there, and the two parts make up the text.
-/

namespace ChatCommands.Text

variable {s front back : List Char} {n : Nat}

/-- The offset lies between two characters, or at one of the ends. -/
def IsBoundary (s : List Char) (n : Nat) : Prop :=
  String.Pos.Raw.IsValid (String.ofList s) ⟨n⟩

theorem byteLength_cons (c : Char) (s : List Char) :
    byteLength (c :: s) = c.utf8Size + byteLength s := rfl

theorem byteLength_append (s t : List Char) :
    byteLength (s ++ t) = byteLength s + byteLength t := by
  induction s with
  | nil => exact (Nat.zero_add _).symm
  | cons c s ih => rw [List.cons_append, byteLength_cons, byteLength_cons, ih, Nat.add_assoc]

theorem utf8ByteSize_ofList (s : List Char) : (String.ofList s).utf8ByteSize = byteLength s := by
  induction s with
  | nil => rfl
  | cons c s ih =>
    have hcons : String.ofList (c :: s) = String.singleton c ++ String.ofList s := by
      rw [String.singleton_eq_ofList, ← String.ofList_append, List.singleton_append]
    rw [hcons, String.utf8ByteSize_append, String.utf8ByteSize_singleton, ih, byteLength_cons]

theorem byteLength_toList (s : String) : byteLength s.toList = s.utf8ByteSize := by
  rw [← utf8ByteSize_ofList, String.ofList_toList]

theorem isBoundary_iff :
    IsBoundary s n ↔ ∃ front back, front ++ back = s ∧ byteLength front = n := by
  rw [IsBoundary, String.Pos.Raw.isValid_iff_exists_append]
  constructor
  · rintro ⟨front, back, hs, hn⟩
    refine ⟨front.toList, back.toList, ?_, ?_⟩
    · rw [← String.toList_append, ← hs, String.toList_ofList]
    · rw [byteLength_toList, ← String.byteIdx_rawEndPos, ← hn]
  · rintro ⟨front, back, rfl, rfl⟩
    refine ⟨String.ofList front, String.ofList back, String.ofList_append, ?_⟩
    rw [String.Pos.Raw.ext_iff, String.byteIdx_rawEndPos, utf8ByteSize_ofList]

theorem isBoundary_append (s t : List Char) : IsBoundary (s ++ t) (byteLength s) :=
  isBoundary_iff.mpr ⟨s, t, rfl, rfl⟩

theorem cutAtByte?_append (front back : List Char) :
    cutAtByte? (front ++ back) (byteLength front) = some (front, back) := by
  induction front with
  | nil => cases back <;> rfl
  | cons c front ih =>
    have hpos := c.utf8Size_pos
    obtain ⟨k, hk⟩ : ∃ k, byteLength (c :: front) = k + 1 :=
      ⟨c.utf8Size + byteLength front - 1, by rw [byteLength_cons]; omega⟩
    have hrest : k + 1 - c.utf8Size = byteLength front := by
      rw [← hk, byteLength_cons]
      omega
    rw [List.cons_append, hk, cutAtByte?, if_pos (by rw [← hk, byteLength_cons]; omega), hrest, ih]
    rfl

theorem cutAtByte?_eq_some_iff :
    cutAtByte? s n = some (front, back) ↔ front ++ back = s ∧ byteLength front = n := by
  constructor
  · intro h
    fun_induction cutAtByte? s n generalizing front with
    | case1 s =>
      cases h
      exact ⟨rfl, rfl⟩
    | case2 n => cases h
    | case3 c cs n hle ih =>
      cases hcut : cutAtByte? cs (n + 1 - c.utf8Size) with
      | none =>
        rw [hcut] at h
        cases h
      | some cut =>
        rw [hcut] at h
        cases h
        obtain ⟨hcs, hlength⟩ := ih hcut
        refine ⟨by rw [List.cons_append, hcs], ?_⟩
        rw [byteLength_cons, hlength]
        omega
    | case4 c cs n hgt => cases h
  · rintro ⟨rfl, rfl⟩
    exact cutAtByte?_append front back

/-- Two ways to cut a text after the same number of bytes are the same. -/
theorem append_inj_of_byteLength {front' back' : List Char}
    (h : front ++ back = front' ++ back') (hlength : byteLength front = byteLength front') :
    front = front' ∧ back = back' := by
  have hcut := cutAtByte?_append front' back'
  rw [← h, ← hlength, cutAtByte?_append] at hcut
  exact Prod.mk.inj (Option.some.inj hcut)

theorem cutAtByte?_eq_none_iff : cutAtByte? s n = none ↔ ¬IsBoundary s n := by
  rw [isBoundary_iff, Option.eq_none_iff_forall_ne_some]
  simp only [Prod.forall, ne_eq, cutAtByte?_eq_some_iff, not_exists]

/-- The second byte of a character is no place to cut, nor is one behind the end. -/
example : cutAtByte? ['é', 'a'] 1 = none ∧ cutAtByte? ['é', 'a'] 2 = some (['é'], ['a']) ∧
    cutAtByte? ['é', 'a'] 4 = none := by decide

end ChatCommands.Text
