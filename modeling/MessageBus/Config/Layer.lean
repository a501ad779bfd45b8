import MessageBus.Text.Lines
import MessageBus.Toml.Value

namespace MessageBus.Toml.Value

mutual

/-- Lays one value over another. Tables are laid over each other entry by entry; anything else
takes the place of what is below it. -/
def merge : Value → Value → Value
  | table base, table overlay => table (mergeEntries base overlay)
  | _, overlay => overlay

def mergeEntries (base : Shelf Value) : List (String × Value) → Shelf Value
  | [] => base
  | (key, v) :: rest =>
    let merged := match base.get? key with
      | some below => merge below v
      | none => v
    mergeEntries (base.put key merged) rest

end

/-- The value that some keys lead to, one table after the other. -/
def lookup : Value → List String → Option Value
  | v, [] => some v
  | v, key :: path => (v.get? key).bind fun next => lookup next path

def keysOf (path : String) : List String := Text.parts '.' path

def hasPath (v : Value) (path : String) : Bool := (v.lookup (keysOf path)).isSome

/-- Puts a value where some keys lead to, making the tables that are missing on the way. Nothing
changes when something other than a table is in the way. -/
def putAt (v : Value) : List String → Value → Value
  | [], root => root
  | [key], table entries => table (Shelf.put entries key v)
  | key :: path, table entries =>
    table (Shelf.put entries key (putAt v path ((Shelf.get? entries key).getD (table []))))
  | _, root => root

/-- The keys that a dotted path names when its last part is taken off first. -/
def fieldKeys (path : String) : List String :=
  match Text.lastPart? '.' path with
  | none => [path]
  | some (parents, leaf) => keysOf parents ++ [leaf]

def setField (root : Value) (path : String) (v : Value) : Value := putAt v (fieldKeys path) root

end MessageBus.Toml.Value
