import MessageBus.Datum

namespace MessageBus

inductive ConfigError
  | unreadable (path reason : String)
  | tooLarge (path : String) (size limit : Nat)
  | badSyntax (origin text : String)
  | wrongType (origin : String) (misfit : Misfit)
  | invalidField (field detail : String)
  | blankVariable (name : String)
  deriving DecidableEq, Inhabited

/-- A misfit with the dotted path of the keys that lead to it on a line of its own. -/
def Misfit.report (m : Misfit) : String :=
  m.message ++ "\n" ++
    (if m.path.isEmpty then "" else "in `" ++ ".".intercalate m.path ++ "`\n")

namespace ConfigError

/-- What the error says. What is wrong with the syntax of a text is not said here, only which text
it is. -/
def message? : ConfigError → Option String
  | unreadable path reason => some ("cannot read " ++ path ++ ": " ++ reason)
  | tooLarge path size limit =>
    some (path ++ " is " ++ toString size ++ " bytes, over the " ++ toString limit ++
      " byte limit")
  | badSyntax _ _ => none
  | wrongType origin misfit => some ("invalid TOML in " ++ origin ++ ": " ++ misfit.report)
  | invalidField field detail => some ("invalid value for '" ++ field ++ "': " ++ detail)
  | blankVariable name => some ("environment variable " ++ name ++ " is set but empty")

end ConfigError

end MessageBus
