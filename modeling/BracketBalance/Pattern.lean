/-
  BracketBalance.Pattern — patterns that a text is searched for.

  A pattern is read, given a meaning, and refused if its automaton would be too
  large or if it asks for the edges of words in all scripts, of which nothing is
  known here. Of several reasons the first of these decides.
-/

import BracketBalance.Pattern.Meaning
import BracketBalance.Pattern.Reading

namespace BracketBalance

structure Pattern where
  expr : Pattern.Expr
  deriving DecidableEq, Repr

namespace Pattern

inductive Refusal where
  | faulty (pattern : List Char) (fault : Fault)
  | tooLarge
  | anyScript
  deriving DecidableEq, Repr

def Refusal.message : Refusal → String
  | faulty pattern fault => fault.text pattern
  | tooLarge => "Compiled regex exceeds size limit of " ++ toString Expr.sizeLimit ++ " bytes."
  | anyScript => "error building NFA"

def ofText (text : List Char) : Except Refusal Pattern :=
  match Tree.ofText text >>= Tree.expr .standard with
  | .error fault => .error (.faulty text fault)
  | .ok (e, _) =>
    if e.tooLarge then .error .tooLarge
    else if e.asksAnyScript then .error .anyScript
    else .ok ⟨e⟩

/-- Whether the pattern occurs somewhere in a text. -/
def occursIn (p : Pattern) (text : List Char) : Bool := p.expr.occursIn text

end Pattern

end BracketBalance
