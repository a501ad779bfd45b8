import MessageBus.Number.Binary64
import MessageBus.Shelf
import MessageBus.Toml.Datetime

namespace MessageBus.Toml

/-- A TOML value. The entries of a table stand in ascending order of their keys. -/
inductive Value
  | string (s : String)
  | integer (n : Int)
  | float (x : Binary64)
  | boolean (b : Bool)
  | datetime (d : Datetime)
  | array (items : List Value)
  | table (entries : List (String × Value))
  deriving Inhabited

namespace Value

def entries? : Value → Option (Shelf Value)
  | table entries => some entries
  | _ => none

/-- The value under a key of a table; what is no table has none. -/
def get? (v : Value) (key : String) : Option Value :=
  v.entries?.bind fun entries => Shelf.get? entries key

end Value

end MessageBus.Toml
