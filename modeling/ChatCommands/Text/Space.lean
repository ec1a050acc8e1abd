/-! # White space

The Unicode property White_Space decides where words end everywhere in this library. Texts that
are being taken apart are lists of characters.
-/

namespace ChatCommands.Text

def isSpace (c : Char) : Bool :=
  c == ' ' || (0x09 ≤ c.toNat && c.toNat ≤ 0x0D) || c.toNat == 0x85 || c.toNat == 0xA0 ||
    c.toNat == 0x1680 || (0x2000 ≤ c.toNat && c.toNat ≤ 0x200A) || c.toNat == 0x2028 ||
    c.toNat == 0x2029 || c.toNat == 0x202F || c.toNat == 0x205F || c.toNat == 0x3000

def isBlank (s : List Char) : Bool :=
  s.all isSpace

def trimStart (s : List Char) : List Char :=
  s.dropWhile isSpace

def trimEnd (s : List Char) : List Char :=
  (s.reverse.dropWhile isSpace).reverse

def trim (s : List Char) : List Char :=
  trimEnd (trimStart s)

theorem length_dropWhile_le {α : Type} (p : α → Bool) (s : List α) :
    (s.dropWhile p).length ≤ s.length :=
  (List.dropWhile_sublist p).length_le

theorem length_trimStart_le (s : List Char) : (trimStart s).length ≤ s.length :=
  length_dropWhile_le isSpace s

/-- The maximal runs of characters without white space. -/
def words (s : List Char) : List (List Char) :=
  match _h : trimStart s with
  | [] => []
  | c :: cs => (c :: cs.takeWhile (!isSpace ·)) :: words (cs.dropWhile (!isSpace ·))
termination_by s.length
decreasing_by
  have h₁ := length_trimStart_le s
  have h₂ := length_dropWhile_le (!isSpace ·) cs
  simp only [_h, List.length_cons] at h₁
  omega

end ChatCommands.Text
