/-
  BracketBalance.Scanner.Fields — a scan that keeps all it knows side by side.

  A `Scanner` has a mode for everything that can be going on, and what belongs to one
  mode only is part of it. Here the same is kept in fields of their own: the state, a
  pending backslash, the place of a division slash just read, whether a regex has a body
  yet, the last character of a block comment, and where the last literal or comment
  began. The type lets any of them have any value in any state; that they fit together
  is up to `step`.

  A step may find a violation, and what it has changed until then stays. `feed` takes a
  text in chunks and halts at the first violation.

  `view` is the scanner that the fields describe.
-/

import BracketBalance.Scanner.Step

namespace BracketBalance

inductive ScanState where
  | code
  | string (delimiter : Char)
  | template
  | regex
  | lineComment
  | blockComment
  deriving DecidableEq, Repr

structure Fields where
  state : ScanState
  escape : Bool
  /-- The open brackets, outermost first. -/
  stack : List Frame
  cursor : Cursor
  literalStart : Position
  /-- The last significant character of code. -/
  before : Option Char
  division : Option Position
  regexBodyEmpty : Bool
  /-- The last character read in a block comment. -/
  commentBefore : Option Char
  consumed : Nat
  fault : Option Violation
  deriving DecidableEq, Repr

namespace Fields

def start : Fields := ⟨.code, false, [], .start, ⟨1, 1⟩, none, none, false, none, 0, none⟩

def opensRegex (s : Fields) : Bool :=
  match s.before with
  | none => true
  | some c => beforeRegex.contains c || isBlank c

def literalChar (s : Fields) (c close : Char) : Fields :=
  if s.escape then { s with escape := false }
  else if c = '\\' then { s with escape := true }
  else if c = close then { s with state := .code }
  else s

def enterLiteral (s : Fields) (state : ScanState) (p : Position) : Fields :=
  { s with state := state, escape := false, literalStart := p }

def enterBlockComment (s : Fields) : Fields := { s with state := .blockComment, commentBefore := none }

def closeBracket (s : Fields) (c : Char) (p : Position) : Fields × Option Violation :=
  match s.stack.getLast? with
  | none => (s, some (.unmatchedCloser c p))
  | some f =>
    let s := { s with stack := s.stack.dropLast }
    if closerOf f.opener = c then (s, none) else (s, some (.mismatched f.opener f.position c p))

/-- A character of code that no backslash has to do with; `division` is where a slash stands just before it. -/
def plainChar (g : Grammar) (s : Fields) (division : Option Position) (c : Char) (p : Position) :
    Fields × Option Violation :=
  if c = '/' && g.knowsSlashes then
    match division with
    | some q => ({ s with literalStart := q, state := .lineComment }, none)
    | none =>
      if s.opensRegex then ({ s.enterLiteral .regex p with regexBodyEmpty := true }, none)
      else ({ s with division := some p, before := some '/' }, none)
  else if c = '"' || c = '\'' then (s.enterLiteral (.string c) p, none)
  else if c = '\x60' then (s.enterLiteral .template p, none)
  else if g.knowsBrackets && isOpener c then ({ s with stack := s.stack ++ [⟨c, p⟩], before := some c }, none)
  else if g.knowsBrackets && isCloser c then
    match s.closeBracket c p with
    | (s, some v) => (s, some v)
    | (s, none) => ({ s with before := some c }, none)
  else (if isBlank c then s else { s with before := some c }, none)

def codeChar (g : Grammar) (s : Fields) (c : Char) (p : Position) : Fields × Option Violation :=
  if g.escapesCode && s.escape then ({ s with escape := false }, none)
  else if g.escapesCode && c = '\\' then ({ s with escape := true }, none)
  else
    let division := s.division
    let s := { s with division := none }
    match division with
    | some q =>
      if c = '*' then ({ s with literalStart := q }.enterBlockComment, none) else s.plainChar g (some q) c p
    | none => s.plainChar g none c p

def step (g : Grammar) (s : Fields) (c : Char) : Fields × Option Violation :=
  let p := s.cursor.next
  let s := { s with cursor := s.cursor.advance c }
  match s.state with
  | .lineComment => (if c = '\n' then { s with state := .code } else s, none)
  | .blockComment =>
    (if s.commentBefore == some '*' && c = '/' then { s with state := .code }
      else { s with commentBefore := some c }, none)
  | .string d => (s.literalChar c d, none)
  | .template => (s.literalChar c '\x60', none)
  | .regex =>
    if s.regexBodyEmpty then
      let s := { s with regexBodyEmpty := false }
      if c = '/' then ({ s with state := .lineComment }, none)
      else if c = '*' then (s.enterBlockComment, none)
      else (s.literalChar c '/', none)
    else (s.literalChar c '/', none)
  | .code => s.codeChar g c p

/-- A chunk, fed to a scan that has not halted. -/
def feedChars (g : Grammar) : Fields → List Char → Fields × Option Violation
  | s, [] => (s, none)
  | s, c :: t =>
    if s.consumed = 0 && c = byteOrderMark then feedChars g { s with consumed := s.consumed + 1 } t
    else
      match { s with consumed := s.consumed + 1 }.step g c with
      | (s, some v) => ({ s with fault := some v }, some v)
      | (s, none) => feedChars g s t

def feed (g : Grammar) (s : Fields) (chunk : List Char) : Fields × Option Violation :=
  match s.fault with
  | some v => (s, some v)
  | none => s.feedChars g chunk

def feedAll (g : Grammar) (s : Fields) (chunks : List (List Char)) : Fields :=
  chunks.foldl (fun s chunk => (s.feed g chunk).1) s

/-! ## As a scanner -/

def mode (s : Fields) : Mode :=
  match s.state with
  | .code =>
    if s.escape then .hidden
    else match s.division with
      | some q => .slash q
      | none => .code
  | .string d => .literal (if d = '\'' then .apostrophe else .doubleQuote) s.literalStart s.escape
  | .template => .literal .backtick s.literalStart s.escape
  | .regex => if s.regexBodyEmpty then .regexOpen s.literalStart else .literal .slash s.literalStart s.escape
  | .lineComment => .lineComment s.literalStart
  | .blockComment => .blockComment s.literalStart (s.commentBefore == some '*')

def view (s : Fields) : Scanner := ⟨s.mode, s.before, s.stack.reverse, s.cursor, s.consumed == 0, s.fault⟩

end Fields

end BracketBalance
