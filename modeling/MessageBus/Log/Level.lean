import MessageBus.Number.Digits

namespace MessageBus.Log

inductive Level
  | error | warn | info | debug | trace
  deriving DecidableEq, Inhabited, Repr

namespace Level

def all : List Level := [error, warn, info, debug, trace]

/-- How far into detail a level goes, from errors at one to traces at five. -/
def rank : Level → Nat
  | error => 1 | warn => 2 | info => 3 | debug => 4 | trace => 5

def upper : Level → String
  | error => "ERROR" | warn => "WARN" | info => "INFO" | debug => "DEBUG" | trace => "TRACE"

def lower : Level → String
  | error => "error" | warn => "warn" | info => "info" | debug => "debug" | trace => "trace"

def title : Level → String
  | error => "Error" | warn => "Warn" | info => "Info" | debug => "Debug" | trace => "Trace"

def ofRank? (n : Nat) : Option Level := all.find? (·.rank == n)

end Level

/-- Two texts that differ at most in the case of their ASCII letters. -/
def sameLetters (a b : String) : Bool :=
  a.toList.map Char.toLower == b.toList.map Char.toLower

/-- The number that a text writes in decimal digits, with an optional plus sign before them; no
number is as great as two to the 64th. -/
def readCount (s : String) : Option Nat :=
  let digits := match s.toList with
    | '+' :: rest => rest
    | cs => cs
  if digits.isEmpty || !digits.all Char.isDigit then none
  else
    let n := digitsValueUpTo (Nat.pow 2 64) 10 digits
    if n < Nat.pow 2 64 then some n else none

def Level.ofText? (s : String) : Option Level :=
  match (readCount s).bind Level.ofRank? with
  | some l => some l
  | none => Level.all.find? fun l => sameLetters l.lower s

/-- How much a filter lets through: nothing, or everything up to a level of detail. -/
inductive Verbosity
  | off
  | upTo (level : Level)
  deriving DecidableEq, Inhabited, Repr

namespace Verbosity

def rank : Verbosity → Nat
  | off => 0
  | upTo l => l.rank

def allows (v : Verbosity) (l : Level) : Bool := l.rank ≤ v.rank

/-- The verbosity that a text names: a number up to five, or a name in any case. -/
def ofText? (s : String) : Option Verbosity :=
  if readCount s == some 0 || sameLetters "off" s then some off
  else if s == "" then some (upTo .error)
  else (Level.ofText? s).map upTo

end Verbosity

end MessageBus.Log
