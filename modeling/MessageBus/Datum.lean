import MessageBus.Json.Value
import MessageBus.Number.Shortest
import MessageBus.Toml.Value

namespace MessageBus

/-- Data as somebody wrote it down, whatever the notation. A `float` may be shown in its `brief`
form; the entries of a record stand in ascending order. -/
inductive Datum
  | null
  | bool (b : Bool)
  | int (n : Int)
  | float (x : Binary64) (brief : Bool)
  | text (s : String)
  | list (items : List Datum)
  | record (entries : List (String × Datum))
  deriving Inhabited

/-- Why data do not fit what was expected, and the keys that lead to the misfit. -/
structure Misfit where
  message : String
  path : List String := []
  deriving DecidableEq, Inhabited

namespace Datum

mutual

def ofJson : Json.Value → Datum
  | .null => null
  | .bool b => bool b
  | .int n => int n
  | .float x => float x true
  | .string s => text s
  | .array items => list (ofJsonItems items)
  | .object members => record (ofJsonMembers members)

def ofJsonItems : List Json.Value → List Datum
  | [] => []
  | v :: rest => ofJson v :: ofJsonItems rest

def ofJsonMembers : List (String × Json.Value) → List (String × Datum)
  | [] => []
  | (name, v) :: rest => (name, ofJson v) :: ofJsonMembers rest

end

mutual

/-- The data of a TOML value; dates are data only by their text. -/
def ofToml : Toml.Value → Datum
  | .string s => text s
  | .integer n => int n
  | .float x => float x false
  | .boolean b => bool b
  | .datetime d => text d.text
  | .array items => list (ofTomlItems items)
  | .table entries => record (ofTomlEntries entries)

def ofTomlItems : List Toml.Value → List Datum
  | [] => []
  | v :: rest => ofToml v :: ofTomlItems rest

def ofTomlEntries : List (String × Toml.Value) → List (String × Datum)
  | [] => []
  | (key, v) :: rest => (key, ofToml v) :: ofTomlEntries rest

end

def describe : Datum → String
  | null => "null"
  | bool b => "boolean `" ++ toString b ++ "`"
  | int n => "integer `" ++ toString n ++ "`"
  | float x brief => "floating point `" ++ (if brief then x.briefText else x.text) ++ "`"
  | text s => "string " ++ Text.quote s
  | list _ => "sequence"
  | record _ => "map"

def unexpected (found expected : String) : Misfit :=
  { message := "invalid type: " ++ found ++ ", expected " ++ expected }

def asText (expected : String) : Datum → Except Misfit String
  | text s => .ok s
  | d => .error (unexpected d.describe expected)

def asString : Datum → Except Misfit String := asText "a string"

def asBool : Datum → Except Misfit Bool
  | bool b => .ok b
  | d => .error (unexpected d.describe "a boolean")

def asStrings : Datum → Except Misfit (List String)
  | list items => items.mapM asString
  | d => .error (unexpected d.describe "a sequence")

structure Field (α : Type) where
  name : String
  set : Datum → α → Except Misfit α

/-- The field with a name whose value is read and then put. -/
def field {α β : Type} (name : String) (read : Datum → Except Misfit β) (put : β → α → α) :
    Field α where
  name := name
  set d a := (read d).map fun b => put b a

/-- Sets the fields that some entries name; other entries are passed over. -/
def setNamed {α : Type} (fields : List (Field α)) (a : α) :
    List (String × Datum) → Except Misfit α
  | [] => .ok a
  | (name, d) :: rest =>
    match fields.find? (·.name == name) with
    | none => setNamed fields a rest
    | some f =>
      match f.set d a with
      | .ok a => setNamed fields a rest
      | .error e => .error { e with path := name :: e.path }

/-- Sets fields in order from items, as far as there are items. -/
def setInOrder {α : Type} : List (Field α) → List Datum → α → Except Misfit α
  | f :: fields, d :: items, a => (f.set d a).bind (setInOrder fields items)
  | _, _, a => .ok a

/-- A structure from its named fields, or from a list of its fields in order; what is missing stays
as it is by default. -/
def asStructure {α : Type} (name : String) (fields : List (Field α)) (default : α) :
    Datum → Except Misfit α
  | record entries => setNamed fields default entries
  | list items =>
    match setInOrder fields items default with
    | .error e => .error e
    | .ok a =>
      if items.length ≤ fields.length then .ok a
      else
        .error { message := "invalid length " ++ toString items.length ++
          ", expected fewer elements in array" }
  | d => .error (unexpected d.describe ("struct " ++ name))

/-- One alternative of several, which may carry data. -/
structure Variant (α : Type) where
  name : String
  read : Option Datum → Except Misfit α

def bare {α : Type} (name : String) (a : α) : Variant α where
  name := name
  read
    | none => .ok a
    | some null => .ok a
    | some d => .error (unexpected d.describe "unit")

def carrying {α β : Type} (name : String) (read : Datum → Except Misfit β) (wrap : β → α) :
    Variant α where
  name := name
  read
    | none => .error (unexpected "unit variant" "newtype variant")
    | some d => (read d).map wrap

/-- One of several alternatives: its name, or a record of its name and the data it carries. -/
def asVariant {α : Type} (variants : List (Variant α)) : Datum → Except Misfit α
  | text name => choose name none
  | record [(name, d)] => choose name (some d)
  | record _ => .error { message := "invalid value: map, expected map with a single key" }
  | d => .error (unexpected d.describe "string or map")
where
  choose (name : String) (d : Option Datum) : Except Misfit α :=
    match variants.find? (·.name == name) with
    | some v => v.read d
    | none =>
      .error { message := "unknown variant `" ++ name ++ "`, expected one of " ++
        ", ".intercalate (variants.map fun v => "`" ++ v.name ++ "`") }

end Datum

end MessageBus
