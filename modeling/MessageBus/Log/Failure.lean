namespace MessageBus.Log

/-- Why logging could not be set up. A crash is a fault of the program, not of what it was given. -/
inductive Failure
  | undecodable (text : String)
  | config (text : String)
  | init (text : String)
  | directory (path : String) (text : String)
  | crash (text : String)
  deriving DecidableEq, Inhabited

def Failure.message : Failure → String
  | undecodable t => t
  | config t => "invalid logging configuration: " ++ t
  | init t => "failed to initialise logging: " ++ t
  | directory path t => "log directory " ++ path ++ ": " ++ t
  | crash t => t

end MessageBus.Log
