/-
  BracketBalance.Literal — the constructs whose text is not code.

  A string, a template and a regex end at their delimiter, and a backslash in them
  hides the character after it. A line comment ends with its line, a block comment
  at the first star and slash. `LiteralKind` is what a diagnostic calls them;
  `Delimiter` is the character that opens and closes the first three.
-/

namespace BracketBalance

inductive LiteralKind where
  | string (quote : Char)
  | template
  | regex
  | lineComment
  | blockComment
  deriving DecidableEq, Repr

namespace LiteralKind

def name : LiteralKind → String
  | string _ => "string"
  | template => "template"
  | regex => "regex"
  | lineComment => "line comment"
  | blockComment => "block comment"

/-- The text that opens the literal. Every string but one in apostrophes is shown with a double quote. -/
def delimiter : LiteralKind → String
  | string quote => if quote = '\'' then "'" else "\""
  | template => "\x60"
  | regex => "/"
  | lineComment => "//"
  | blockComment => "/*"

end LiteralKind

inductive Delimiter where
  | doubleQuote
  | apostrophe
  | backtick
  | slash
  deriving DecidableEq, Repr

namespace Delimiter

def char : Delimiter → Char
  | doubleQuote => '"'
  | apostrophe => '\''
  | backtick => '\x60'
  | slash => '/'

def kind : Delimiter → LiteralKind
  | doubleQuote => .string '"'
  | apostrophe => .string '\''
  | backtick => .template
  | slash => .regex

/-- The delimiter that `c` opens anywhere in code. A slash needs the code before it to decide. -/
def ofChar? (c : Char) : Option Delimiter :=
  if c = '"' then some doubleQuote
  else if c = '\'' then some apostrophe
  else if c = '\x60' then some backtick
  else none

end Delimiter

end BracketBalance
