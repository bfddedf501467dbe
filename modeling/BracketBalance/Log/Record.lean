/-
  BracketBalance.Log.Record — what is said about a check while it runs.

  Each record has a level, the part of the program it comes from (its target), and
  a message. Only a progress record depends on the time: it tells how long the
  check has been running.
-/

import BracketBalance.Grammar
import BracketBalance.Progress
import BracketBalance.Violation

namespace BracketBalance.Log

/-- How much is said: each level includes those before it. -/
inductive Level where
  | off
  | error
  | warn
  | info
  | debug
  | trace
  deriving DecidableEq, Repr

namespace Level

def rank : Level → Nat
  | off => 0
  | error => 1
  | warn => 2
  | info => 3
  | debug => 4
  | trace => 5

def name : Level → String
  | off => "OFF"
  | error => "ERROR"
  | warn => "WARN"
  | info => "INFO"
  | debug => "DEBUG"
  | trace => "TRACE"

def all : List Level := [off, error, warn, info, debug, trace]

end Level

inductive Record where
  | scanning (lines : Nat) (grammar : Grammar)
  | progress (progress : Progress)
  | halted (violation : Violation)
  /-- A scan ends with nothing open, on the given line. -/
  | balanced (line : Nat)
  deriving DecidableEq, Repr

namespace Record

def level : Record → Level
  | progress _ => .info
  | _ => .debug

def target : Record → String
  | scanning _ _ => "balance_check"
  | _ => "balance_check::scanner"

def message (elapsed : Duration) : Record → String
  | scanning lines grammar =>
    "scanning " ++ toString lines ++ " line(s) with the " ++ grammar.name ++ " grammar"
  | progress p => p.message elapsed
  | halted violation => "scan halted at " ++ violation.position.text ++ ": " ++ violation.message
  | balanced line => "balanced after " ++ toString line ++ " line(s)"

end Record

end BracketBalance.Log
