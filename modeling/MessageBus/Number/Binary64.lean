import MessageBus.Number.Digits

namespace MessageBus

/-- A number in the 64-bit binary format, by its bits: the sign, eleven bits of exponent and 52 of
fraction. -/
structure Binary64 where
  bits : UInt64
  deriving DecidableEq, Inhabited, Repr

namespace Binary64

/-- The largest exponent field stands for infinities and for what is no number. -/
def maxExponent : Nat := 2047

def pack (negative : Bool) (exponent fraction : Nat) : Binary64 :=
  ⟨UInt64.ofNat ((if negative then Nat.pow 2 63 else 0) + exponent * Nat.pow 2 52 + fraction)⟩

def infinity (negative : Bool) : Binary64 := pack negative maxExponent 0

def nan (negative : Bool) : Binary64 := pack negative maxExponent (Nat.pow 2 51)

def isNegative (x : Binary64) : Bool := Nat.pow 2 63 ≤ x.bits.toNat

def exponentField (x : Binary64) : Nat := x.bits.toNat / Nat.pow 2 52 % Nat.pow 2 11

def fractionField (x : Binary64) : Nat := x.bits.toNat % Nat.pow 2 52

def isNaN (x : Binary64) : Bool := x.exponentField == maxExponent && x.fractionField != 0

def isInfinite (x : Binary64) : Bool := x.exponentField == maxExponent && x.fractionField == 0

/-- A quotient rounded to the nearest whole number, a half to the even one. -/
def roundDiv (num den : Nat) : Nat :=
  let q := num / den
  let r := num % den
  if 2 * r < den then q
  else if den < 2 * r then q + 1
  else if q % 2 = 0 then q else q + 1

def bitLength (n : Nat) : Nat := if n = 0 then 0 else n.log2 + 1

/-- The magnitude `num / den` rounded to the format, with a sign. The quotient is scaled by a power
of two so that it has 53 binary digits, or as many as the least exponent leaves. -/
def ofRatio (negative : Bool) (num den : Nat) : Binary64 :=
  if num = 0 then pack negative 0 0
  else
    -- The quotient lies between two to the `size - 1` and two to the `size + 1`.
    let size : Int := (bitLength num : Int) - (bitLength den : Int)
    let guess : Int := size - 53
    let atLeast (e : Int) : Bool :=
      -- Whether the quotient scaled by two to the `-e` is at least two to the 52.
      if 0 ≤ e then Nat.pow 2 52 * den * Nat.pow 2 e.toNat ≤ num
      else Nat.pow 2 52 * den ≤ num * Nat.pow 2 (-e).toNat
    let e : Int :=
      if atLeast (guess + 1) then guess + 1 else if atLeast guess then guess else guess - 1
    let e : Int := max e (-1074)
    let m :=
      if 0 ≤ e then roundDiv num (den * Nat.pow 2 e.toNat)
      else roundDiv (num * Nat.pow 2 (-e).toNat) den
    let (m, e) : Nat × Int := if Nat.pow 2 53 ≤ m then (m / 2, e + 1) else (m, e)
    if m < Nat.pow 2 52 then pack negative 0 m
    else
      let field := e + 1075
      if (maxExponent : Int) ≤ field then infinity negative
      else pack negative field.toNat (m - Nat.pow 2 52)

def decimalLength (n : Nat) : Nat := (Nat.toDigits 10 n).length

/-- The decimal number `m * 10 ^ e` rounded to the format, with a sign. -/
def ofDecimal (negative : Bool) (m : Nat) (e : Int) : Binary64 :=
  if m = 0 then pack negative 0 0
  else
    let top : Int := decimalLength m + e
    if 400 < top then infinity negative
    else if top < -400 then pack negative 0 0
    else if 0 ≤ e then ofRatio negative (m * Nat.pow 10 e.toNat) 1
    else ofRatio negative m (Nat.pow 10 (-e).toNat)

/-- So many digits settle to which number of the format a decimal is nearest: what lies half way
between two neighbours has fewer. -/
def settlingDigits : Nat := 800

/-- The whole number with some decimal digits, times a power of ten, rounded to the format. Of the
digits after those that settle it, it only counts whether all of them are zero. -/
def ofDigits (negative : Bool) (digits : List Char) (e : Int) : Binary64 :=
  match (digits.dropWhile (· == '0')).splitAt settlingDigits with
  | (kept, []) => ofDecimal negative (digitsValue 10 kept) e
  | (kept, rest) =>
    let last := if rest.all (· == '0') then 0 else 1
    ofDecimal negative (10 * digitsValue 10 kept + last) (e + rest.length - 1)

/-- The magnitude of a finite number as `m * 2 ^ q`. -/
def magnitude (x : Binary64) : Nat × Int :=
  if x.exponentField = 0 then (x.fractionField, -1074)
  else (x.fractionField + Nat.pow 2 52, (x.exponentField : Int) - 1075)

def hex (x : Binary64) : String :=
  let digits := Nat.toDigits 16 x.bits.toNat
  String.ofList (List.replicate (16 - digits.length) '0' ++ digits)

end Binary64

end MessageBus
