/-
  BracketBalance.Grammar — which constructs of a script a scan knows.

  `full` knows brackets, strings, templates, regexes and comments. `strings` takes
  a slash for an ordinary character, so it knows no regexes and no comments.
  `templates` knows quotes and backticks only: its brackets are inert, a string
  may stay open, and a backslash in code hides the character after it.
-/

namespace BracketBalance

inductive Grammar where
  | full
  | strings
  | templates
  deriving DecidableEq, Repr

namespace Grammar

def knowsBrackets : Grammar → Bool
  | templates => false
  | _ => true

/-- Whether a slash may open a regex or a comment. -/
def knowsSlashes : Grammar → Bool
  | full => true
  | _ => false

/-- Whether a backslash in code hides the character after it. -/
def escapesCode : Grammar → Bool
  | templates => true
  | _ => false

def name : Grammar → String
  | full => "Full"
  | strings => "Strings"
  | templates => "Templates"

end Grammar

end BracketBalance
