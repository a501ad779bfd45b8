import MessageBus.Number.Binary64

namespace MessageBus.Binary64

/-- The magnitude `num / den * 2 ^ q` rounded to the format. -/
def ofScaledRatio (num den : Nat) (q : Int) : Binary64 :=
  if 0 ≤ q then ofRatio false (num * Nat.pow 2 q.toNat) den
  else ofRatio false num (den * Nat.pow 2 (-q).toNat)

/-- The product of two finite magnitudes, rounded. -/
def mul (x y : Binary64) : Binary64 :=
  let (m, p) := x.magnitude
  let (n, q) := y.magnitude
  ofScaledRatio (m * n) 1 (p + q)

/-- The quotient of two finite magnitudes, rounded; the second is not zero. -/
def div (x y : Binary64) : Binary64 :=
  let (m, p) := x.magnitude
  let (n, q) := y.magnitude
  ofScaledRatio m n (p - q)

def topPower : Nat := 308

/-- A magnitude scaled by a power of ten, each step being rounded by itself; nothing when it gets
too large. Powers that are too small for the format are applied in several steps. -/
def scaled (x : Binary64) (e : Int) : Option Binary64 :=
  if 0 ≤ e then
    if e ≤ topPower then
      let y := x.mul (ofDecimal false 1 e)
      if y.isInfinite then none else some y
    else if x.bits = 0 then some x
    else none
  else if -topPower ≤ e then some (x.div (ofDecimal false 1 (-e)))
  else if x.bits = 0 then some x
  else scaled (x.div (ofDecimal false 1 topPower)) (e + topPower)
termination_by (-e).toNat
decreasing_by simp only [topPower] at *; omega

/-- The decimal `m * 10 ^ e` as it comes out when `m` is rounded first and scaled then; this may be
a neighbour of the number nearest to the decimal. -/
def ofScaled (negative : Bool) (m : Nat) (e : Int) : Option Binary64 :=
  (scaled (ofRatio false m 1) e).map fun x =>
    pack negative x.exponentField x.fractionField

end MessageBus.Binary64
