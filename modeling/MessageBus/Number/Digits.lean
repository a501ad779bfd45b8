namespace MessageBus

def digitValue? (c : Char) : Option Nat :=
  let n := c.toNat
  if 48 ≤ n && n ≤ 57 then some (n - 48)
  else if 97 ≤ n && n ≤ 102 then some (n - 87)
  else if 65 ≤ n && n ≤ 70 then some (n - 55)
  else none

/-- The value of digits in a base, the most significant first. -/
def digitsValue (base : Nat) (digits : List Char) : Nat :=
  digits.foldl (fun n c => base * n + (digitValue? c).getD 0) 0

/-- The same, except that `top` stands for all that is greater. However many digits there are, no
great number is computed. -/
def digitsValueUpTo (top base : Nat) (digits : List Char) : Nat :=
  digits.foldl (fun n c => min top (base * n + (digitValue? c).getD 0)) 0

end MessageBus
