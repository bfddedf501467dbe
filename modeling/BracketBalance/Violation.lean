/-
  BracketBalance.Violation — what can be wrong with a text, and how it is said.

  A scan reports the first violation and stops there. `position` is where the
  diagnostic points: at the closer of a wrong pair, at the opener or the literal
  that was never closed.
-/

import BracketBalance.Literal
import BracketBalance.Text.Position

namespace BracketBalance

inductive Violation where
  | unmatchedCloser (closer : Char) (position : Position)
  /-- A closer of another pair than the innermost open bracket. -/
  | mismatched (opener : Char) (opened : Position) (closer : Char) (closed : Position)
  | unterminatedLiteral (kind : LiteralKind) (start : Position)
  | unterminatedBracket (opener : Char) (position : Position)
  deriving DecidableEq, Repr

namespace Violation

def position : Violation → Position
  | unmatchedCloser _ position => position
  | mismatched _ _ _ closed => closed
  | unterminatedLiteral _ start => start
  | unterminatedBracket _ position => position

def message : Violation → String
  | unmatchedCloser closer position =>
    "Unmatched closing " ++ closer.toString ++ " at " ++ position.text
  | mismatched opener opened closer closed =>
    "Mismatched " ++ opener.toString ++ " opened at " ++ opened.text ++ " closed by "
      ++ closer.toString ++ " at " ++ closed.text
  | unterminatedLiteral kind start =>
    "Unclosed " ++ kind.name ++ " starts at line " ++ toString start.line ++ " (type "
      ++ kind.delimiter ++ ")"
  | unterminatedBracket opener position =>
    "Unclosed opener " ++ opener.toString ++ " at " ++ position.text

end Violation

end BracketBalance
