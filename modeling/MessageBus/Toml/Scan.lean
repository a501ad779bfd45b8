import MessageBus.Json.Reader

namespace MessageBus.Toml

/-- A character of a comment or of a literal string: a tab, or no control character. -/
def isPlain (c : Char) : Bool := c == '\t' || (0x20 ≤ c.toNat && c.toNat ≠ 0x7f)

def isSpace (c : Char) : Bool := c == ' ' || c == '\t'

def skipSpaces (cs : List Char) : List Char := cs.dropWhile isSpace

def newline? : List Char → Option (List Char)
  | '\n' :: rest => some rest
  | '\r' :: '\n' :: rest => some rest
  | _ => none

/-- The text after spaces and comments up to the end of the line, which they must reach. -/
def endLine (cs : List Char) : Option (List Char) :=
  let cs := match skipSpaces cs with
    | '#' :: rest => rest.dropWhile isPlain
    | cs => cs
  match cs with
  | [] => some []
  | cs => newline? cs

/-- The text after spaces, line endings and comments that reach one. -/
def skipLines : Nat → List Char → Option (List Char)
  | 0, _ => none
  | fuel + 1, cs =>
    match skipSpaces cs with
    | '#' :: rest => (newline? (rest.dropWhile isPlain)).bind (skipLines fuel)
    | '\n' :: rest => skipLines fuel rest
    | '\r' :: rest => (newline? ('\r' :: rest)).bind (skipLines fuel)
    | cs => some cs

def readCode (width : Nat) (cs : List Char) : Option (Char × List Char) :=
  let digits := cs.take width
  if digits.length = width && digits.all fun c => (digitValue? c).isSome then
    let n := digitsValue 16 digits
    if n.isValidChar then some (Char.ofNat n, cs.drop width) else none
  else none

def readEscape : List Char → Option (Char × List Char)
  | 'b' :: rest => some (Char.ofNat 8, rest)
  | 'f' :: rest => some (Char.ofNat 12, rest)
  | 'n' :: rest => some ('\n', rest)
  | 'r' :: rest => some ('\r', rest)
  | 't' :: rest => some ('\t', rest)
  | 'u' :: rest => readCode 4 rest
  | 'U' :: rest => readCode 8 rest
  | '\\' :: rest => some ('\\', rest)
  | '"' :: rest => some ('"', rest)
  | _ => none

/-- The rest of a basic string after its opening quote; `acc` holds what was read, the last
first. -/
def readBasic : Nat → List Char → List Char → Option (String × List Char)
  | 0, _, _ => none
  | fuel + 1, acc, cs =>
    match cs with
    | [] => none
    | '"' :: rest => some (String.ofList acc.reverse, rest)
    | '\\' :: rest => (readEscape rest).bind fun (c, rest) => readBasic fuel (c :: acc) rest
    | c :: rest => if isPlain c then readBasic fuel (c :: acc) rest else none

def readLiteral (cs : List Char) : Option (String × List Char) :=
  let body := cs.takeWhile fun c => isPlain c && c ≠ '\''
  match cs.drop body.length with
  | '\'' :: rest => some (String.ofList body, rest)
  | _ => none

/-- How a run of quotes goes on in a string that three quotes end: the number of quotes that still
belong to it, and the text after the end if the run ends it. -/
def readQuotes (quote : Char) (cs : List Char) : Nat × Option (List Char) :=
  let run := (cs.takeWhile (· == quote)).length
  if run < 3 then (run, none)
  else
    let own := min (run - 3) 2
    (own, some (cs.drop (own + 3)))

/-- The rest of a basic string of several lines. A backslash at the end of a line takes away the
line ending and all white space after it. -/
def readLongBasic : Nat → List Char → List Char → Option (String × List Char)
  | 0, _, _ => none
  | fuel + 1, acc, cs =>
    match cs with
    | [] => none
    | '"' :: _ =>
      match readQuotes '"' cs with
      | (own, some rest) => some (String.ofList (List.replicate own '"' ++ acc).reverse, rest)
      | (own, none) => readLongBasic fuel (List.replicate own '"' ++ acc) (cs.drop own)
    | '\\' :: rest =>
      match newline? (skipSpaces rest) with
      | some rest => readLongBasic fuel acc (dropBlank (rest.length + 1) rest)
      | none => (readEscape rest).bind fun (c, rest) => readLongBasic fuel (c :: acc) rest
    | c :: rest =>
      match newline? (c :: rest) with
      | some rest => readLongBasic fuel ('\n' :: acc) rest
      | none => if isPlain c then readLongBasic fuel (c :: acc) rest else none
where
  /-- The text after spaces and line endings. -/
  dropBlank : Nat → List Char → List Char
    | 0, cs => cs
    | fuel + 1, cs =>
      match newline? (skipSpaces cs) with
      | some rest => dropBlank fuel rest
      | none => skipSpaces cs

def readLongLiteral : Nat → List Char → List Char → Option (String × List Char)
  | 0, _, _ => none
  | fuel + 1, acc, cs =>
    match cs with
    | [] => none
    | '\'' :: _ =>
      match readQuotes '\'' cs with
      | (own, some rest) => some (String.ofList (List.replicate own '\'' ++ acc).reverse, rest)
      | (own, none) => readLongLiteral fuel (List.replicate own '\'' ++ acc) (cs.drop own)
    | c :: rest =>
      match newline? (c :: rest) with
      | some rest => readLongLiteral fuel ('\n' :: acc) rest
      | none => if isPlain c then readLongLiteral fuel (c :: acc) rest else none

/-- A line ending right after the opening quotes does not belong to the string. -/
def dropFirstNewline (cs : List Char) : List Char := (newline? cs).getD cs

/-- A string of any of the four kinds. As everywhere in this module, the fuel has to exceed the
length of the text. -/
def readString (fuel : Nat) (cs : List Char) : Option (String × List Char) :=
  match cs with
  | '"' :: '"' :: '"' :: rest => readLongBasic fuel [] (dropFirstNewline rest)
  | '"' :: rest => readBasic fuel [] rest
  | '\'' :: '\'' :: '\'' :: rest => readLongLiteral fuel [] (dropFirstNewline rest)
  | '\'' :: rest => readLiteral rest
  | _ => none

def isBareKeyChar (c : Char) : Bool := c.isAlphanum || c == '_' || c == '-'

/-- One key: bare, or a string of one line. -/
def readSimpleKey (fuel : Nat) (cs : List Char) : Option (String × List Char) :=
  match cs with
  | '"' :: rest => readBasic fuel [] rest
  | '\'' :: rest => readLiteral rest
  | cs =>
    let name := cs.takeWhile isBareKeyChar
    if name.isEmpty then none else some (String.ofList name, cs.drop name.length)

/-- At most `parts` keys divided by dots, with spaces around them; `acc` holds those read so far,
the last first. -/
def readKeys (fuel : Nat) : Nat → List String → List Char → Option (List String × List Char)
  | 0, _, _ => none
  | parts + 1, acc, cs =>
    match readSimpleKey fuel (skipSpaces cs) with
    | none => none
    | some (key, rest) =>
      match skipSpaces rest with
      | '.' :: rest => readKeys fuel parts (key :: acc) rest
      | rest => some ((key :: acc).reverse, rest)

def nestingLimit : Nat := 80

/-- A dotted key, which has fewer parts than values may nest. -/
def readKey (fuel : Nat) (cs : List Char) : Option (List String × List Char) :=
  readKeys fuel (nestingLimit - 1) [] cs

end MessageBus.Toml
