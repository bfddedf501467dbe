/-
  BracketBalance.Bracket — the three pairs of brackets, and a bracket left open.
-/

import BracketBalance.Text.Position

namespace BracketBalance

def isOpener (c : Char) : Bool := c = '(' || c = '[' || c = '{'

def isCloser (c : Char) : Bool := c = ')' || c = ']' || c = '}'

def closerOf (opener : Char) : Char :=
  if opener = '(' then ')' else if opener = '[' then ']' else '}'

/-- An open bracket that waits for its closer. -/
structure Frame where
  opener : Char
  position : Position
  deriving DecidableEq, Repr

end BracketBalance
