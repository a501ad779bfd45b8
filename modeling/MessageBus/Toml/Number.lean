import MessageBus.Toml.Scan
import MessageBus.Toml.Value

namespace MessageBus.Toml

/-- The digits of a text up to the first other character, single underscores between them being
left out, and the text after them. There is at least one. -/
def readDigits (isDigit : Char → Bool) : List Char → Option (List Char × List Char)
  | [] => none
  | c :: cs => if isDigit c then some (go [c] cs) else none
where
  go (acc : List Char) : List Char → List Char × List Char
    | '_' :: c :: cs => if isDigit c then go (c :: acc) cs else (acc.reverse, '_' :: c :: cs)
    | c :: cs => if isDigit c then go (c :: acc) cs else (acc.reverse, c :: cs)
    | [] => (acc.reverse, [])

/-- The digits of a whole decimal number; one that begins with a zero is zero. -/
def readWhole : List Char → Option (List Char × List Char)
  | '0' :: rest => some (['0'], rest)
  | cs => readDigits Char.isDigit cs

/-- Whether a minus sign stands in front, and the text after the sign if there is one. -/
def readSign : List Char → Bool × List Char
  | '-' :: rest => (true, rest)
  | '+' :: rest => (false, rest)
  | cs => (false, cs)

def signed (negative : Bool) (n : Nat) : Int := if negative then -n else n

/-- Integers have 64 bits. -/
def inRange (n : Int) : Bool := -Int.pow 2 63 ≤ n && n < Int.pow 2 63

/-- A number without a sign in a base other than ten, after the mark of the base. -/
def readBased (base : Nat) (cs : List Char) : Option (Value × List Char) :=
  let isDigit (c : Char) : Bool := (digitValue? c).any (· < base)
  (readDigits isDigit cs).bind fun (digits, rest) =>
    let n : Int := digitsValueUpTo (Nat.pow 2 64) base digits
    if inRange n then some (.integer n, rest) else none

def readInteger : List Char → Option (Value × List Char)
  | '0' :: 'x' :: rest => readBased 16 rest
  | '0' :: 'o' :: rest => readBased 8 rest
  | '0' :: 'b' :: rest => readBased 2 rest
  | cs =>
    let (negative, cs) := readSign cs
    (readWhole cs).bind fun (digits, rest) =>
      let n := signed negative (digitsValueUpTo (Nat.pow 2 64) 10 digits)
      if inRange n then some (.integer n, rest) else none

/-- The exponent of a number, if there is one; nothing at all when its mark has no digits. -/
def readExponent : List Char → Option (Option Int × List Char)
  | c :: cs =>
    if c == 'e' || c == 'E' then
      let (negative, cs) := readSign cs
      (readDigits Char.isDigit cs).map fun (digits, rest) =>
        (some (signed negative (digitsValueUpTo (Nat.pow 2 64) 10 digits)), rest)
    else some (none, c :: cs)
  | [] => some (none, [])

def readFraction : List Char → Option (Option (List Char) × List Char)
  | '.' :: rest => (readDigits Char.isDigit rest).map fun (digits, rest) => (some digits, rest)
  | cs => some (none, cs)

/-- A number with a point or an exponent. One that is too great is refused unless it is
negative. -/
def readFloat (cs : List Char) : Option (Value × List Char) :=
  let (negative, cs) := readSign cs
  match cs with
  | 'i' :: 'n' :: 'f' :: rest => some (.float (.infinity negative), rest)
  | 'n' :: 'a' :: 'n' :: rest => some (.float (.nan negative), rest)
  | cs =>
    (readWhole cs).bind fun (whole, rest) =>
      (readFraction rest).bind fun (fraction, rest) =>
        (readExponent rest).bind fun (exponent, rest) =>
          if fraction.isNone && exponent.isNone then none
          else
            let places := fraction.getD []
            let x := Binary64.ofDigits negative (whole ++ places)
              (exponent.getD 0 - places.length)
            if x = .infinity false then none else some (.float x, rest)

/-- A number of exactly so many digits between two bounds. -/
def readField (width low high : Nat) (cs : List Char) : Option (Nat × List Char) :=
  let digits := cs.take width
  let n := digitsValue 10 digits
  if digits.length = width && digits.all Char.isDigit && low ≤ n && n ≤ high then
    some (n, cs.drop width)
  else none

def readDate (cs : List Char) : Option (Date × List Char) := do
  let (year, cs) ← readField 4 0 9999 cs
  let cs ← after '-' cs
  let (month, cs) ← readField 2 1 12 cs
  let cs ← after '-' cs
  let (day, cs) ← readField 2 1 (daysIn year month) cs
  some ({ year, month, day }, cs)
where
  after (mark : Char) : List Char → Option (List Char)
    | c :: cs => if c == mark then some cs else none
    | [] => none

/-- The billionths of a second that decimal places stand for; what is finer is cut off. -/
def nanoseconds (places : List Char) : Nat :=
  let places := places.take 9
  digitsValue 10 places * Nat.pow 10 (9 - places.length)

/-- A time whose hour is at most `lastHour`. -/
def readTimeUpTo (lastHour : Nat) (cs : List Char) : Option (Time × List Char) := do
  let (hour, cs) ← readField 2 0 lastHour cs
  let cs ← readDate.after ':' cs
  let (minute, cs) ← readField 2 0 59 cs
  let cs ← readDate.after ':' cs
  let (second, cs) ← readField 2 0 60 cs
  match cs with
  | '.' :: rest =>
    let places := rest.takeWhile Char.isDigit
    if places.isEmpty then some ({ hour, minute, second }, cs)
    else
      some ({ hour, minute, second, nanosecond := nanoseconds places }, rest.drop places.length)
  | cs => some ({ hour, minute, second }, cs)

def readTime : List Char → Option (Time × List Char) := readTimeUpTo 23

def readOffset (cs : List Char) : Option Offset × List Char :=
  let clock (negative : Bool) (rest : List Char) : Option (Offset × List Char) := do
    let (hour, rest) ← readField 2 0 23 rest
    let rest ← readDate.after ':' rest
    let (minute, rest) ← readField 2 0 59 rest
    some (.minutes (signed negative (60 * hour + minute)), rest)
  let found := match cs with
    | 'Z' :: rest => some (.universal, rest)
    | 'z' :: rest => some (.universal, rest)
    | '+' :: rest => clock false rest
    | '-' :: rest => clock true rest
    | _ => none
  match found with
  | some (offset, rest) => (some offset, rest)
  | none => (none, cs)

/-- A date, a time, or a date and a time with a mark between them. -/
def readDatetime (cs : List Char) : Option (Value × List Char) :=
  match readDate cs with
  | none => (readTime cs).map fun (t, rest) => (.datetime (.time t), rest)
  | some (d, rest) =>
    let timed := match rest with
      | c :: rest => if c == 'T' || c == 't' || c == ' ' then readTime rest else none
      | [] => none
    match timed with
    | none => some (.datetime (.date d), rest)
    | some (t, rest) =>
      let (offset, rest) := readOffset rest
      some (.datetime (.both d t offset), rest)

/-- The offset that makes up the end of a string, which may be empty: at most one day. -/
def Offset.ofEnd? : List Char → Option (Option Offset)
  | [] => some none
  | ['Z'] => some (some .universal)
  | ['z'] => some (some .universal)
  | sign :: rest =>
    if sign == '+' || sign == '-' then do
      let (hour, rest) ← readField 2 0 99 rest
      let rest ← readDate.after ':' rest
      let (minute, rest) ← readField 2 0 99 rest
      if rest.isEmpty && 60 * hour + minute ≤ 24 * 60 then
        some (some (.minutes (signed (sign == '-') (60 * hour + minute))))
      else none
    else none

/-- The date or time that a string spells. Its hour may be the end of the day, and its offset as
much as a day. -/
def Datetime.ofText? (s : String) : Option Datetime :=
  match s.toList with
  | a :: b :: ':' :: rest =>
    match readTimeUpTo 24 (a :: b :: ':' :: rest) with
    | some (t, []) => some (.time t)
    | _ => none
  | cs =>
    match readDate cs with
    | some (d, []) => some (.date d)
    | some (d, c :: rest) =>
      if c == 'T' || c == 't' || c == ' ' then
        match readTimeUpTo 24 rest with
        | some (t, rest) => (Offset.ofEnd? rest).map (.both d t)
        | none => none
      else none
    | none => none

/-- A number or a date, whichever fits first. -/
def readNumber (cs : List Char) : Option (Value × List Char) :=
  ((readDatetime cs).orElse fun _ => readFloat cs).orElse fun _ => readInteger cs

end MessageBus.Toml
