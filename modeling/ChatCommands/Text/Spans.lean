/-! # Spans of code points

Character properties are given as lists of closed intervals of code points.
-/

namespace ChatCommands.Text

def inSpans (spans : List (Nat × Nat)) (c : Char) : Bool :=
  spans.any fun span => span.1 ≤ c.toNat && c.toNat ≤ span.2

end ChatCommands.Text
