import MessageBus.Json.Value
import MessageBus.Number.Scaled

namespace MessageBus.Json

def skipBlanks (cs : List Char) : List Char :=
  cs.dropWhile fun c => c == ' ' || c == '\t' || c == '\n' || c == '\r'

def readUnit : List Char → Option (Nat × List Char)
  | a :: b :: c :: d :: rest =>
    match digitValue? a, digitValue? b, digitValue? c, digitValue? d with
    | some a, some b, some c, some d => some (4096 * a + 256 * b + 16 * c + d, rest)
    | _, _, _, _ => none
  | _ => none

/-- The character of an escape by number, which may take two units, and the text after it. -/
def readEscaped (cs : List Char) : Option (Char × List Char) :=
  match readUnit cs with
  | none => none
  | some (high, rest) =>
    if 0xd800 ≤ high && high < 0xdc00 then
      match rest with
      | '\\' :: 'u' :: rest =>
        match readUnit rest with
        | none => none
        | some (low, rest) =>
          if 0xdc00 ≤ low && low < 0xe000 then
            some (Char.ofNat (0x10000 + 1024 * (high - 0xd800) + (low - 0xdc00)), rest)
          else none
      | _ => none
    else if 0xdc00 ≤ high && high < 0xe000 then none
    else some (Char.ofNat high, rest)

def simpleEscape? (c : Char) : Option Char :=
  if c == '"' || c == '\\' || c == '/' then some c
  else if c == 'n' then some '\n'
  else if c == 'r' then some '\r'
  else if c == 't' then some '\t'
  else if c == 'b' then some (Char.ofNat 8)
  else if c == 'f' then some (Char.ofNat 12)
  else none

/-- The rest of a string after its opening quote; `acc` holds what was read, the last first. -/
def readString (fuel : Nat) (acc : List Char) (cs : List Char) : Option (String × List Char) :=
  match fuel, cs with
  | 0, _ => none
  | _, [] => none
  | fuel + 1, c :: rest =>
    if c == '"' then some (String.ofList acc.reverse, rest)
    else if c == '\\' then
      match rest with
      | [] => none
      | 'u' :: rest =>
        match readEscaped rest with
        | none => none
        | some (c, rest) => readString fuel (c :: acc) rest
      | e :: rest =>
        match simpleEscape? e with
        | none => none
        | some c => readString fuel (c :: acc) rest
    else if c.toNat < 0x20 then none
    else readString fuel (c :: acc) rest

/-- Takes digits into a number as long as it fits 64 bits, and answers the digits left over. -/
def gather : Nat → List Char → Nat × List Char
  | n, [] => (n, [])
  | n, c :: cs =>
    let next := 10 * n + (c.toNat - 48)
    if next < Nat.pow 2 64 then gather next cs else (n, c :: cs)

/-- The number with some digits before and after its point and an exponent. Only as many digits
count as fit 64 bits, those after the point starting anew where those before it ended. -/
def scaledNumber (negative : Bool) (whole fraction : List Char) (e : Int) : Option Binary64 :=
  let (m, left) := gather 0 whole
  let (m, ignored) := gather m fraction
  Binary64.ofScaled negative m (e + left.length + ignored.length - fraction.length)

/-- A number. Without point and exponent it is a whole number as long as it fits 64 bits. -/
def readNumber (cs : List Char) : Option (Value × List Char) :=
  let (negative, cs) : Bool × List Char := match cs with
    | '-' :: rest => (true, rest)
    | cs => (false, cs)
  let whole := cs.takeWhile Char.isDigit
  let cs := cs.dropWhile Char.isDigit
  if whole.isEmpty || (1 < whole.length && whole.head? == some '0') then none
  else
    let (point, fraction, cs) : Bool × List Char × List Char := match cs with
      | '.' :: rest => (true, rest.takeWhile Char.isDigit, rest.dropWhile Char.isDigit)
      | cs => (false, [], cs)
    let (marked, expNegative, exponent, cs) : Bool × Bool × List Char × List Char :=
      match cs with
      | e :: rest =>
        if e == 'e' || e == 'E' then
          let (neg, rest) : Bool × List Char := match rest with
            | '-' :: rest => (true, rest)
            | '+' :: rest => (false, rest)
            | rest => (false, rest)
          (true, neg, rest.takeWhile Char.isDigit, rest.dropWhile Char.isDigit)
        else (false, false, [], cs)
      | [] => (false, false, [], [])
    if (point && fraction.isEmpty) || (marked && exponent.isEmpty) then none
    else
      let n := digitsValueUpTo (Nat.pow 2 64) 10 whole
      let fits := if negative then 0 < n && n ≤ Nat.pow 2 63 else n < Nat.pow 2 64
      if !point && !marked && fits then
        some (.int (if negative then -(n : Int) else n), cs)
      else
        let e : Int := digitsValueUpTo (Nat.pow 2 64) 10 exponent
        (scaledNumber negative whole fraction (if expNegative then -e else e)).map fun x =>
          (.float x, cs)

/-- A word that has to stand next, and the text after it. -/
def expectWord (word : String) (cs : List Char) : Option (List Char) :=
  if word.toList.isPrefixOf cs then some (cs.drop word.length) else none

mutual

/-- The value at the beginning of a text, which is no longer than `text`. -/
def readValue (text : Nat) : Nat → List Char → Option (Value × List Char)
  | 0, _ => none
  | fuel + 1, cs =>
    match skipBlanks cs with
    | [] => none
    | '"' :: rest => (readString text [] rest).map fun (s, rest) => (.string s, rest)
    | '[' :: rest =>
      match skipBlanks rest with
      | ']' :: rest => some (.array [], rest)
      | rest => readItems text fuel [] rest
    | '\x7b' :: rest =>
      match skipBlanks rest with
      | '\x7d' :: rest => some (.object [], rest)
      | rest => readMembers text fuel [] rest
    | 'n' :: rest => (expectWord "ull" rest).map fun rest => (.null, rest)
    | 't' :: rest => (expectWord "rue" rest).map fun rest => (.bool true, rest)
    | 'f' :: rest => (expectWord "alse" rest).map fun rest => (.bool false, rest)
    | cs => readNumber cs

/-- The rest of an array, from an item on; `acc` holds the items before it, the last first. -/
def readItems (text : Nat) : Nat → List Value → List Char → Option (Value × List Char)
  | 0, _, _ => none
  | fuel + 1, acc, cs =>
    match readValue text fuel cs with
    | none => none
    | some (v, rest) =>
      match skipBlanks rest with
      | ',' :: rest => readItems text fuel (v :: acc) rest
      | ']' :: rest => some (.array (v :: acc).reverse, rest)
      | _ => none

/-- The rest of an object, from a member on. -/
def readMembers (text : Nat) : Nat → List (String × Value) → List Char → Option (Value × List Char)
  | 0, _, _ => none
  | fuel + 1, acc, cs =>
    match skipBlanks cs with
    | '"' :: rest =>
      match readString text [] rest with
      | none => none
      | some (name, rest) =>
        match skipBlanks rest with
        | ':' :: rest =>
          match readValue text fuel rest with
          | none => none
          | some (v, rest) =>
            match skipBlanks rest with
            | ',' :: rest => readMembers text fuel ((name, v) :: acc) rest
            | '\x7d' :: rest => some (.ofMembers ((name, v) :: acc).reverse, rest)
            | _ => none
        | _ => none
    | _ => none

end

def parse (s : String) : Option Value :=
  let cs := s.toList
  let fuel := cs.length + 1
  match readValue fuel fuel cs with
  | some (v, rest) => if (skipBlanks rest).isEmpty then some v else none
  | none => none

end MessageBus.Json
