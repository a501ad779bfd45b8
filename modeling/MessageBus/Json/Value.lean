import MessageBus.Number.Binary64
import MessageBus.Shelf
import MessageBus.Text.Quoted

namespace MessageBus.Json

/-- A JSON value. The members of an object stand in the order of their names. -/
inductive Value
  | null
  | bool (b : Bool)
  | int (n : Int)
  | float (x : Binary64)
  | string (s : String)
  | array (items : List Value)
  | object (members : List (String × Value))
  deriving Inhabited

namespace Value

/-- The member of an object under a name; what is no object has none. -/
def member? (v : Value) (name : String) : Option Value :=
  match v with
  | object members => Shelf.get? members name
  | _ => none

/-- An object made of members in any order, the later one of two with the same name being kept. -/
def ofMembers (members : List (String × Value)) : Value :=
  object (members.foldl (fun shelf (name, v) => Shelf.put shelf name v) [])

def ofNat (n : Nat) : Value := int n

end Value

end MessageBus.Json
