namespace MessageBus.Text

/-- Whether a character lies in one of the inclusive code point ranges, which ascend. -/
def inRanges (ranges : List (Nat × Nat)) (c : Char) : Bool :=
  match ranges with
  | [] => false
  | (lo, hi) :: rest =>
    if c.toNat < lo then false else c.toNat ≤ hi || inRanges rest c

end MessageBus.Text
