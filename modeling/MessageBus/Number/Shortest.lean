import MessageBus.Number.Binary64

namespace MessageBus.Binary64

/-- A decimal number `digits * 10 ^ exponent`. -/
structure Decimal where
  digits : Nat
  exponent : Int
  deriving DecidableEq, Inhabited, Repr

/-- The decimal neighbours of `num / den` on the grid of multiples of ten to the `e`. -/
def gridNeighbours (num den : Nat) (e : Int) : Nat × Nat :=
  let q := if 0 ≤ e then num / (den * Nat.pow 10 e.toNat) else num * Nat.pow 10 (-e).toNat / den
  (q, q + 1)

/-- Whether twice the distance of `d * 10 ^ e` from `num / den` is less than, or for `closed` at
most, `gap / den`. -/
def within (num den gap : Nat) (closed : Bool) (d : Nat) (e : Int) : Bool :=
  let (a, b) : Nat × Nat :=
    if 0 ≤ e then (d * Nat.pow 10 e.toNat * den, num) else (d * den, num * Nat.pow 10 (-e).toNat)
  let scale := if 0 ≤ e then 1 else Nat.pow 10 (-e).toNat
  let distance := (a - b) + (b - a)
  if closed then 2 * distance ≤ gap * scale else 2 * distance < gap * scale

/-- The nearer of the decimals on a grid that still read back as the number: the grid point below
may lie as far as `gapBelow`, the one above as far as `gapAbove`. -/
def onGrid (num den gapBelow gapAbove : Nat) (closed : Bool) (e : Int) : Option Decimal :=
  let (lo, hi) := gridNeighbours num den e
  let low := within num den gapBelow closed lo e && lo != 0
  let high := within num den gapAbove closed hi e
  let twice := if 0 ≤ e then 2 * num else 2 * num * Nat.pow 10 (-e).toNat
  let middle := if 0 ≤ e then (lo + hi) * Nat.pow 10 e.toNat * den else (lo + hi) * den
  match low, high with
  | true, true =>
    if twice < middle || (twice == middle && lo % 2 == 0) then some ⟨lo, e⟩ else some ⟨hi, e⟩
  | true, false => some ⟨lo, e⟩
  | false, true => some ⟨hi, e⟩
  | false, false => none

/-- The first decimal found from a grid on towards finer ones. -/
def findOnGrids (num den gapBelow gapAbove : Nat) (closed : Bool) : Nat → Int → Decimal
  | 0, e => ⟨0, e⟩
  | n + 1, e =>
    match onGrid num den gapBelow gapAbove closed e with
    | some d => d
    | none => findOnGrids num den gapBelow gapAbove closed n (e - 1)

/-- The shortest decimal that reads back as the magnitude of a finite number, and of those the
nearest. -/
def shortest (x : Binary64) : Decimal :=
  let (m, q) := x.magnitude
  if m = 0 then ⟨0, 0⟩
  else
    -- The magnitude is `num / den`, and the next numbers lie `gap / den` away.
    let (num, den, gap) : Nat × Nat × Nat :=
      if 0 ≤ q then (4 * m * Nat.pow 2 q.toNat, 4, 4 * Nat.pow 2 q.toNat)
      else (4 * m, 4 * Nat.pow 2 (-q).toNat, 4)
    let narrow := x.fractionField = 0 && 1 < x.exponentField
    let gapBelow := if narrow then gap / 2 else gap
    -- Two to the `size + 1` is greater than the magnitude, and ten to the `start` is greater still.
    let size : Int := (bitLength num : Int) - (bitLength den : Int)
    let start : Int := (size + 1) * 30103 / 100000 + 2
    findOnGrids num den gapBelow gap (m % 2 = 0) 400 start

def Decimal.positional (d : Decimal) : String :=
  let ds := Nat.toDigits 10 d.digits
  if 0 ≤ d.exponent then
    String.ofList (ds ++ List.replicate (if d.digits = 0 then 0 else d.exponent.toNat) '0') ++ ".0"
  else
    let places := (-d.exponent).toNat
    let padded := List.replicate (places + 1 - ds.length) '0' ++ ds
    let whole := padded.take (padded.length - places)
    String.ofList (whole ++ '.' :: padded.drop (padded.length - places))

/-- A decimal without an exponent as long as that takes few zeros, and else with one. -/
def Decimal.brief (d : Decimal) : String :=
  let ds := Nat.toDigits 10 d.digits
  let point : Int := ds.length + d.exponent
  if d.digits = 0 || (-5 < point && point ≤ 16) then d.positional
  else
    let fraction := if ds.length = 1 then [] else '.' :: ds.drop 1
    String.ofList (ds.take 1 ++ fraction) ++ (if 0 < point then "e+" else "e") ++
      toString (point - 1)

/-- The text of a number whose finite magnitudes are written by `write`. -/
def textBy (write : Decimal → String) (x : Binary64) : String :=
  if x.isNaN then "NaN"
  else
    let sign := if x.isNegative then "-" else ""
    if x.isInfinite then sign ++ "inf" else sign ++ write x.shortest

/-- The shortest digits that read back, without an exponent. -/
def text : Binary64 → String := textBy Decimal.positional

/-- The shortest digits that read back, with an exponent where it is short. -/
def briefText : Binary64 → String := textBy Decimal.brief

end MessageBus.Binary64
