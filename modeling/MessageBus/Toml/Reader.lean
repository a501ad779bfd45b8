import MessageBus.Toml.Tree

namespace MessageBus.Toml

abbrev ValueReader := List Char → Option (Node × List Char)

/-- The items of an array after its opening bracket. Line endings and comments may stand between
them, and a comma may follow the last; `acc` holds the items read so far, the last first. -/
def readItems (read : ValueReader) (text : Nat) :
    Nat → List Node → List Char → Option (Node × List Char)
  | 0, _, _ => none
  | fuel + 1, acc, cs =>
    match skipLines text cs with
    | none => none
    | some (']' :: rest) => some (.array acc.reverse, rest)
    | some cs =>
      match read cs with
      | none => none
      | some (n, rest) =>
        match skipLines text rest with
        | some (',' :: rest) => readItems read text fuel (n :: acc) rest
        | some (']' :: rest) => some (.array (n :: acc).reverse, rest)
        | _ => none

/-- An entry of a table: a dotted key, an equals sign and a value, with spaces around them. -/
def readEntry (read : ValueReader) (text : Nat) (cs : List Char) :
    Option ((List String × Node) × List Char) :=
  match readKey text cs with
  | some (keys, '=' :: rest) =>
    (read (skipSpaces rest)).map fun (n, rest) => ((keys, n), skipSpaces rest)
  | _ => none

/-- The entries of a table in braces after the opening one. They stand on one line, and no comma
follows the last. -/
def readEntries (read : ValueReader) (text : Nat) :
    Nat → Draft → List Char → Option (Node × List Char)
  | 0, _, _ => none
  | fuel + 1, d, cs =>
    match readEntry read text cs with
    | none => none
    | some ((keys, n), rest) =>
      match d.enter [] keys n, rest with
      | some d, ',' :: rest => readEntries read text fuel d rest
      | some d, '\x7d' :: rest => some (.table .braced d, rest)
      | _, _ => none

/-- A text that begins with a word, and what follows the word. -/
def dropWord (word : String) (cs : List Char) : Option (List Char) :=
  if word.toList.isPrefixOf cs then some (cs.drop word.length) else none

def readText (text : Nat) : ValueReader := fun cs =>
  (readString text cs).map fun (s, rest) => (.value (.string s), rest)

/-- A value in which others nest only so deep. -/
def readValue (text : Nat) : Nat → ValueReader
  | _, '"' :: rest => readText text ('"' :: rest)
  | _, '\'' :: rest => readText text ('\'' :: rest)
  | 0, '[' :: _ => none
  | 0, '\x7b' :: _ => none
  | depth + 1, '[' :: rest => readItems (readValue text depth) text text [] rest
  | depth + 1, '\x7b' :: rest =>
    match skipSpaces rest with
    | '\x7d' :: rest => some (.table .braced [], rest)
    | rest => readEntries (readValue text depth) text text [] rest
  | _, cs =>
    match dropWord "true" cs, dropWord "false" cs with
    | some rest, _ => some (.value (.boolean true), rest)
    | _, some rest => some (.value (.boolean false), rest)
    | none, none => (readNumber cs).map fun (v, rest) => (.value v, rest)

/-- The keys of a header before its closing mark, and what follows the mark. -/
def readHeader (text : Nat) (closing : String) (cs : List Char) :
    Option (List String × List Char) :=
  (readKey text cs).bind fun (keys, rest) => (dropWord closing rest).map fun rest => (keys, rest)

/-- Reads a document line by line; `table` is the path of the last header. -/
def readDocument (text : Nat) : Nat → Draft → List String → List Char → Option Draft
  | 0, _, _, _ => none
  | fuel + 1, d, table, cs =>
    match skipSpaces cs with
    | [] => some d
    | '#' :: rest => (endLine ('#' :: rest)).bind (readDocument text fuel d table)
    | '\n' :: rest => readDocument text fuel d table rest
    | '\r' :: '\n' :: rest => readDocument text fuel d table rest
    | '[' :: '[' :: rest =>
      match readHeader text "]]" rest with
      | none => none
      | some (keys, rest) =>
        match endLine rest, d.declareItem keys with
        | some rest, some d => readDocument text fuel d keys rest
        | _, _ => none
    | '[' :: rest =>
      match readHeader text "]" rest with
      | none => none
      | some (keys, rest) =>
        match endLine rest, d.declareTable keys with
        | some rest, some d => readDocument text fuel d keys rest
        | _, _ => none
    | cs =>
      match readEntry (readValue text (nestingLimit - 1)) text cs with
      | none => none
      | some ((keys, n), rest) =>
        match endLine rest, d.enter table keys n with
        | some rest, some d => readDocument text fuel d table rest
        | _, _ => none

def dropByteOrderMark : List Char → List Char
  | c :: cs => if c.toNat == 0xfeff then cs else c :: cs
  | [] => []

/-- The value that a TOML document describes, mostly a table. -/
def parse (s : String) : Option Value :=
  let cs := dropByteOrderMark s.toList
  let fuel := cs.length + 2
  (readDocument fuel fuel [] [] cs).bind Draft.toValue?

end MessageBus.Toml
