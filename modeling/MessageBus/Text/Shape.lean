import MessageBus.Text.Quoted

namespace MessageBus.Text

/-- The outline of a value as it is shown to a reader: names, fields and plain words. A record that
is not `whole` has fields it does not show. -/
inductive Shape
  | word (text : String)
  | quoted (text : String)
  | record (name : String) (fields : List (String × Shape)) (whole : Bool)
  | tuple (name : String) (items : List Shape)
  | list (items : List Shape)
  deriving Inhabited

namespace Shape

def nat (n : Nat) : Shape := .word (toString n)

def bool (b : Bool) : Shape := .word (toString b)

def option : Option Shape → Shape
  | none => .word "None"
  | some s => .tuple "Some" [s]

mutual

def inline : Shape → String
  | .word t => t
  | .quoted t => quote t
  | .record name [] true => name
  | .record name [] false => name ++ " \x7b .. \x7d"
  | .record name (f :: fs) whole =>
      name ++ " \x7b " ++ inlineFields (f :: fs) ++ (if whole then " \x7d" else ", .. \x7d")
  | .tuple name [] => name
  | .tuple name (s :: ss) => name ++ "(" ++ inlineItems (s :: ss) ++ ")"
  | .list items => "[" ++ inlineItems items ++ "]"

def inlineFields : List (String × Shape) → String
  | [] => ""
  | [(name, s)] => name ++ ": " ++ s.inline
  | (name, s) :: rest => name ++ ": " ++ s.inline ++ ", " ++ inlineFields rest

def inlineItems : List Shape → String
  | [] => ""
  | [s] => s.inline
  | s :: rest => s.inline ++ ", " ++ inlineItems rest

end

def margin (depth : Nat) : String := String.ofList (List.replicate (4 * depth) ' ')

mutual

/-- The shape over several lines, one part a line, from a depth of nesting on. -/
def block (depth : Nat) : Shape → String
  | .word t => t
  | .quoted t => quote t
  | .record name [] true => name
  | .record name [] false => name ++ " \x7b .. \x7d"
  | .record name (f :: fs) whole =>
      name ++ " \x7b\n" ++ blockFields depth (f :: fs) ++
        (if whole then "" else margin (depth + 1) ++ "..\n") ++ margin depth ++ "\x7d"
  | .tuple name [] => name
  | .tuple name (s :: ss) => name ++ "(\n" ++ blockItems depth (s :: ss) ++ margin depth ++ ")"
  | .list [] => "[]"
  | .list (s :: ss) => "[\n" ++ blockItems depth (s :: ss) ++ margin depth ++ "]"

def blockFields (depth : Nat) : List (String × Shape) → String
  | [] => ""
  | (name, s) :: rest =>
      margin (depth + 1) ++ name ++ ": " ++ s.block (depth + 1) ++ ",\n" ++ blockFields depth rest

def blockItems (depth : Nat) : List Shape → String
  | [] => ""
  | s :: rest => margin (depth + 1) ++ s.block (depth + 1) ++ ",\n" ++ blockItems depth rest

end

/-- The text of a shape, over several lines when `tall`. -/
def render (tall : Bool) (s : Shape) : String :=
  if tall then s.block 0 else s.inline

def field? (name : String) : Shape → Option Shape
  | .record _ fields _ => (fields.find? (·.1 == name)).map (·.2)
  | _ => none

end Shape

end MessageBus.Text
