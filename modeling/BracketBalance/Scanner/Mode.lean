/-
  BracketBalance.Scanner.Mode — what a scan is in the middle of.

  In code, two things are remembered from the character just read: a backslash that
  hides the next one (`hidden`), and a slash taken for a division (`slash`), which
  the next character may still turn into the start of a comment. A slash taken for
  the start of a regex is `regexOpen` until its body has a character, for the same
  reason: no regex is empty, and none begins with a star.

  `inside` is one character of a literal or a comment; it depends on nothing but
  the mode. `unfinished` says which literal or comment is open and where it began.
-/

import BracketBalance.Literal
import BracketBalance.Text.Position

namespace BracketBalance

inductive Mode where
  | code
  | hidden
  | slash (position : Position)
  | literal (delimiter : Delimiter) (start : Position) (escaped : Bool)
  | regexOpen (start : Position)
  | lineComment (start : Position)
  | blockComment (start : Position) (star : Bool)
  deriving DecidableEq, Repr

namespace Mode

/-- The mode after `c` in a literal, at whose start no backslash is pending. -/
def inLiteral (d : Delimiter) (start : Position) (c : Char) : Mode :=
  if c = '\\' then literal d start true
  else if c = d.char then code
  else literal d start false

def inside : Mode → Char → Mode
  | literal d start true, _ => literal d start false
  | literal d start false, c => inLiteral d start c
  | regexOpen start, c =>
    if c = '/' then lineComment start
    else if c = '*' then blockComment start false
    else inLiteral .slash start c
  | lineComment start, c => if c = '\n' then code else lineComment start
  | blockComment start star, c => if star && c = '/' then code else blockComment start (c = '*')
  | m, _ => m

/-- The literal or comment that is open, and where it began. -/
def unfinished : Mode → Option (LiteralKind × Position)
  | code | hidden | slash _ => none
  | literal d start _ => some (d.kind, start)
  | regexOpen start => some (.regex, start)
  | lineComment start => some (.lineComment, start)
  | blockComment start _ => some (.blockComment, start)

def inCode (m : Mode) : Bool := m.unfinished.isNone

end Mode

end BracketBalance
