import MessageBus.Json.Value
import MessageBus.Number.Shortest

namespace MessageBus.Json

/-- How one character stands inside a JSON string. -/
def escapeChar (c : Char) : List Char :=
  if c == '"' then ['\\', '"']
  else if c == '\\' then ['\\', '\\']
  else if c == '\n' then ['\\', 'n']
  else if c == '\r' then ['\\', 'r']
  else if c == '\t' then ['\\', 't']
  else if c.toNat == 8 then ['\\', 'b']
  else if c.toNat == 12 then ['\\', 'f']
  else if c.toNat < 0x10 then ['\\', 'u', '0', '0', '0'] ++ Text.hexDigits c.toNat
  else if c.toNat < 0x20 then ['\\', 'u', '0', '0'] ++ Text.hexDigits c.toNat
  else [c]

def quote (s : String) : String :=
  String.ofList ('"' :: (s.toList.flatMap escapeChar ++ ['"']))

mutual

def Value.append (out : String) : Value → String
  | .null => out ++ "null"
  | .bool b => out ++ toString b
  | .int n => out ++ toString n
  | .float x => out ++ x.text
  | .string s => out ++ quote s
  | .array items => appendItems (out ++ "[") true items ++ "]"
  | .object members => appendMembers (out ++ "\x7b") true members ++ "\x7d"

def appendItems (out : String) (first : Bool) : List Value → String
  | [] => out
  | v :: rest => appendItems (v.append (if first then out else out ++ ",")) false rest

def appendMembers (out : String) (first : Bool) : List (String × Value) → String
  | [] => out
  | (name, v) :: rest =>
    appendMembers (v.append ((if first then out else out ++ ",") ++ quote name ++ ":")) false rest

end

def Value.text (v : Value) : String := v.append ""

end MessageBus.Json
