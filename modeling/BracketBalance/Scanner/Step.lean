/-
  BracketBalance.Scanner.Step — reading a text one character at a time.

  A `Scanner` holds all that the rest of a scan depends on, so a text may come in
  pieces of any size. `read` takes one character, `feed` a text, and `verdict` says
  what is wrong if the text ends here. `scan` is a whole text from the start.

  The first violation halts a scan: `fault` holds it, and nothing read afterwards
  changes anything. A scan halts only at a closing bracket.

  A slash in code opens a regex where no value has been read for it to divide: at
  the start, and after an operator, an opener, a comma, a semicolon or a colon.
  Strings, templates, regexes and comments are not seen by that rule: `before` is
  the last significant character of the code around them.
-/

import BracketBalance.Bracket
import BracketBalance.Grammar
import BracketBalance.Scanner.Mode
import BracketBalance.Text.Line
import BracketBalance.Violation

namespace BracketBalance

/-- The characters of code after which a slash divides nothing. -/
def beforeRegex : List Char :=
  ['(', '[', '{', '=', ':', ',', ';', '+', '-', '*', '/', '%', '&', '|', '^', '!', '~', '?']

structure Scanner where
  mode : Mode
  before : Option Char
  /-- The open brackets, innermost first. -/
  stack : List Frame
  cursor : Cursor
  /-- Nothing has been read. -/
  fresh : Bool
  fault : Option Violation
  deriving DecidableEq, Repr

namespace Scanner

def start : Scanner := ⟨.code, none, [], .start, true, none⟩

/-- Whether a slash here starts a regex or a comment and not a division. -/
def opensRegex (s : Scanner) : Bool :=
  match s.before with
  | none => true
  | some c => beforeRegex.contains c || isBlank c

/-- The closer `c` at `p`. The innermost open bracket goes, whether it pairs with `c` or not. -/
def close (s : Scanner) (p : Position) (c : Char) : Scanner :=
  match s.stack with
  | [] => { s with mode := .code, fault := some (.unmatchedCloser c p) }
  | f :: rest =>
    if closerOf f.opener = c then { s with mode := .code, stack := rest, before := some c }
    else { s with mode := .code, stack := rest, fault := some (.mismatched f.opener f.position c p) }

def plain (g : Grammar) (s : Scanner) (p : Position) (c : Char) : Scanner :=
  match Delimiter.ofChar? c with
  | some d => { s with mode := .literal d p false }
  | none =>
    if g.knowsBrackets && isOpener c then
      { s with mode := .code, stack := ⟨c, p⟩ :: s.stack, before := some c }
    else if g.knowsBrackets && isCloser c then s.close p c
    else { s with mode := .code, before := if isBlank c then s.before else some c }

def code (g : Grammar) (s : Scanner) (slash : Option Position) (p : Position) (c : Char) : Scanner :=
  if g.escapesCode && c = '\\' then { s with mode := .hidden }
  else if c = '/' && g.knowsSlashes then
    match slash with
    | some q => { s with mode := .lineComment q }
    | none =>
      if s.opensRegex then { s with mode := .regexOpen p }
      else { s with mode := .slash p, before := some '/' }
  else
    match slash with
    | some q => if c = '*' then { s with mode := .blockComment q false } else s.plain g p c
    | none => s.plain g p c

/-- One character, when the scan is not halted and the character is not a byte-order mark. -/
def take (g : Grammar) (s : Scanner) (c : Char) : Scanner :=
  let p := s.cursor.next
  let s := { s with cursor := s.cursor.advance c, fresh := false }
  match s.mode with
  | .code => s.code g none p c
  | .slash q => s.code g (some q) p c
  | .hidden => { s with mode := .code }
  | m => { s with mode := m.inside c }

/-- One character. A byte-order mark that opens the text takes no position. -/
def read (g : Grammar) (s : Scanner) (c : Char) : Scanner :=
  if s.fault.isSome then s
  else if s.fresh && c = byteOrderMark then { s with fresh := false }
  else s.take g c

def feed (g : Grammar) (s : Scanner) (t : List Char) : Scanner := t.foldl (read g) s

def unclosed (s : Scanner) : List Frame := s.stack.reverse

def innermost (s : Scanner) : Option Violation :=
  s.stack.head?.map fun f => .unterminatedBracket f.opener f.position

/-- What is wrong if the text ends here; nothing if it balances. -/
def verdict (g : Grammar) (s : Scanner) : Option Violation :=
  match s.fault with
  | some v => some v
  | none =>
    match s.mode.unfinished with
    | some (.string quote, start) =>
      if g = .templates then s.innermost else some (.unterminatedLiteral (.string quote) start)
    | some (kind, start) => some (.unterminatedLiteral kind start)
    | none => s.innermost

end Scanner

def scan (g : Grammar) (t : List Char) : Option Violation := (Scanner.start.feed g t).verdict g

end BracketBalance
