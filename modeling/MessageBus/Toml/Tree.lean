import MessageBus.Toml.Number

namespace MessageBus.Toml

/-- How a table came to be: by a header of its own, by braces, by a longer header that passes
through it, or by a dotted key. -/
inductive Origin
  | declared
  | braced
  | passed
  | dotted
  deriving DecidableEq, Inhabited

/-- A part of a document that is still being read. The entries of a table stand in the order in
which they were made; where tables are listed the last comes first. -/
inductive Node
  | value (v : Value)
  | array (items : List Node)
  | table (origin : Origin) (entries : List (String × Node))
  | tables (items : List (List (String × Node)))
  deriving Inhabited

/-- The key that stands for the date under it: a table of which it is the first is that date. -/
def dateKey : String := "$__toml_private_datetime"

namespace Node

/-- What stands in place of a table by the key of dates. -/
def dated? : List (String × Node) → Option Node
  | (key, n) :: _ => if key = dateKey then some n else none
  | [] => none

/-- The date that a string in a document spells. -/
def date? : Node → Option Value
  | value (.string s) => (Datetime.ofText? s).map .datetime
  | _ => none

/-- The value of a table, given the values of its entries. -/
def tableOf? (entries : List (String × Node)) (values : Option (List (String × Value))) :
    Option Value :=
  match dated? entries with
  | some n => n.date?
  | none => values.map fun vs => .table (vs.mergeSort fun a b => a.1 ≤ b.1)

mutual

/-- The value of a finished part, unless a date in it cannot be read. -/
def toValue? : Node → Option Value
  | value v => some v
  | array items => (valuesOf? items).map .array
  | table _ entries => tableOf? entries (entriesOf? entries)
  | tables items => (tablesOf? items).map fun vs => .array vs.reverse

def valuesOf? : List Node → Option (List Value)
  | [] => some []
  | n :: rest => n.toValue?.bind fun v => (valuesOf? rest).map (v :: ·)

def tablesOf? : List (List (String × Node)) → Option (List Value)
  | [] => some []
  | entries :: rest =>
    (tableOf? entries (entriesOf? entries)).bind fun v => (tablesOf? rest).map (v :: ·)

def entriesOf? : List (String × Node) → Option (List (String × Value))
  | [] => some []
  | (key, n) :: rest => n.toValue?.bind fun v => (entriesOf? rest).map ((key, v) :: ·)

end

/-- A change of a table, by its origin and entries; it may be refused. -/
abbrev Change := Origin → List (String × Node) → Option (Origin × List (String × Node))

/-- Puts an entry in place of the one with its key, or else at the end. -/
def putEntry (key : String) (n : Node) : List (String × Node) → List (String × Node)
  | [] => [(key, n)]
  | (k, old) :: rest => if k = key then (key, n) :: rest else (k, old) :: putEntry key n rest

/-- Changes the table at the end of a path. Tables that are missing on the way are made; a list of
tables is entered at its last one. A table in braces is complete, and a dotted path enters no table
that was declared. -/
def alter (dotted : Bool) (change : Change) : List String → Change
  | [], origin, entries => change origin entries
  | key :: path, origin, entries =>
    match entries.lookup key with
    | none =>
      (alter dotted change path (if dotted then .dotted else .passed) []).map fun (o, es) =>
        (origin, putEntry key (.table o es) entries)
    | some (.table o es) =>
      if o == .braced || (dotted && o == .declared) then none
      else (alter dotted change path o es).map fun (o, es) =>
        (origin, putEntry key (.table o es) entries)
    | some (.tables (last :: earlier)) =>
      (alter dotted change path .declared last).map fun (_, es) =>
        (origin, putEntry key (.tables (es :: earlier)) entries)
    | some _ => none

/-- Enters a value under a key that is still free. Of the keys of a dotted table all are dotted, and
dotted keys lead to dotted tables only. -/
def enter (direct : Bool) (key : String) (n : Node) : Change := fun origin entries =>
  if (origin == .dotted) == direct || (entries.lookup key).isSome then none
  else some (origin, putEntry key n entries)

/-- Declares a table. One that was only passed through so far keeps its entries and moves to the
end. -/
def declareTable (key : String) : Change := fun origin entries =>
  match entries.lookup key with
  | none => some (origin, putEntry key (.table .declared []) entries)
  | some (.table .passed es) =>
    some (origin, putEntry key (.table .declared es) (entries.filter (·.1 ≠ key)))
  | some _ => none

/-- Declares one more table of a list of tables. -/
def declareItem (key : String) : Change := fun origin entries =>
  match entries.lookup key with
  | none => some (origin, putEntry key (.tables [[]]) entries)
  | some (.tables items) => some (origin, putEntry key (.tables ([] :: items)) entries)
  | some _ => none

end Node

/-- The entries of a document as far as it was read. -/
abbrev Draft := List (String × Node)

namespace Draft

def alter (d : Draft) (dotted : Bool) (path : List String) (change : Node.Change) : Option Draft :=
  (Node.alter dotted change path .declared d).map (·.2)

/-- The last of some keys, and those before it. -/
def splitKey (keys : List String) : List String × String := (keys.dropLast, keys.getLast?.getD "")

/-- Enters a value under a dotted key in the table at a path. -/
def enter (d : Draft) (table keys : List String) (n : Node) : Option Draft :=
  let (path, key) := splitKey keys
  d.alter false table (Node.alter true (Node.enter path.isEmpty key n) path)

def declareTable (d : Draft) (keys : List String) : Option Draft :=
  let (path, key) := splitKey keys
  d.alter false path (Node.declareTable key)

def declareItem (d : Draft) (keys : List String) : Option Draft :=
  let (path, key) := splitKey keys
  d.alter false path (Node.declareItem key)

def toValue? (d : Draft) : Option Value := (Node.table .declared d).toValue?

end Draft

end MessageBus.Toml
