namespace MessageBus.Text

/-- The pieces of a text between the marks; there is one piece more than there are marks. -/
def splitOn (mark : Char) : List Char → List (List Char)
  | [] => [[]]
  | c :: cs =>
    if c == mark then [] :: splitOn mark cs
    else
      match splitOn mark cs with
      | [] => [[c]]
      | piece :: rest => (c :: piece) :: rest

/-- The parts of a text between the marks. -/
def parts (mark : Char) (s : String) : List String :=
  (splitOn mark s.toList).map String.ofList

/-- What stands before the last mark, and what stands after it. -/
def cutLast? (mark : Char) : List Char → Option (List Char × List Char)
  | [] => none
  | c :: cs =>
    match cutLast? mark cs with
    | some (front, back) => some (c :: front, back)
    | none => if c == mark then some ([], cs) else none

/-- The text before the last mark, and the part after it. -/
def lastPart? (mark : Char) (s : String) : Option (String × String) :=
  (cutLast? mark s.toList).map fun (front, back) => (String.ofList front, String.ofList back)

/-- A line without the carriage return at its end. -/
def dropReturn (cs : List Char) : List Char :=
  if cs.getLast? == some '\r' then cs.dropLast else cs

/-- The lines of a text. A line feed ends a line, so that one at the end starts no other; a
carriage return before it belongs to it. -/
def lines (s : String) : List String :=
  let pieces := splitOn '\n' s.toList
  let ended := pieces.dropLast.map fun cs => String.ofList (dropReturn cs)
  match pieces.getLast? with
  | some (c :: cs) => ended ++ [String.ofList (c :: cs)]
  | _ => ended

end MessageBus.Text
