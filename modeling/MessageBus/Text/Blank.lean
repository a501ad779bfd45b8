namespace MessageBus.Text

/-- The white space of Unicode. -/
def isBlank (c : Char) : Bool :=
  let n := c.toNat
  (9 ≤ n && n ≤ 13) || n == 0x20 || n == 0x85 || n == 0xa0 || n == 0x1680 ||
    (0x2000 ≤ n && n ≤ 0x200a) || n == 0x2028 || n == 0x2029 || n == 0x202f ||
    n == 0x205f || n == 0x3000

def trimChars (cs : List Char) : List Char :=
  ((cs.dropWhile isBlank).reverse.dropWhile isBlank).reverse

def trim (s : String) : String :=
  String.ofList (trimChars s.toList)

/-- A text is blank when nothing is left after trimming. -/
def isBlankText (s : String) : Bool :=
  (trimChars s.toList).isEmpty

theorem trim_eq_empty_of_isBlankText {s : String} (h : isBlankText s = true) : trim s = "" := by
  simp only [isBlankText, List.isEmpty_iff] at h
  simp [trim, h]

end MessageBus.Text
