/-
  BracketBalance.Pattern.Source — a pattern that is being read.

  A `Reader` reads a part of a pattern and may find a fault. In verbose patterns
  blanks are left out, and so is what follows a number sign up to the end of its
  line; `next` takes one character as it stands, `nextSkip` takes one and leaves
  out what follows it.
-/

import BracketBalance.Pattern.Tree

namespace BracketBalance.Pattern

structure Source where
  rest : List Char
  cursor : Cursor
  verbose : Bool
  /-- The names that groups have so far. -/
  names : List (List Char × Span)

namespace Source

def start (pattern : List Char) : Source := ⟨pattern, .start, false, []⟩

def next (s : Source) : Source :=
  match s.rest with
  | [] => s
  | c :: t => { s with rest := t, cursor := s.cursor.advance c }

def drop : Nat → Source → Source
  | 0, s => s
  | n + 1, s => drop n s.next

/-- How many characters of blanks and comments come first; `comment` says whether a comment is open. -/
def blanks (comment : Bool) : List Char → Nat
  | [] => 0
  | c :: t =>
    if comment then 1 + blanks (c ≠ '\n') t
    else if isBlank c then 1 + blanks false t
    else if c = '#' then 1 + blanks true t
    else 0

def skip (s : Source) : Source := if s.verbose then s.drop (blanks false s.rest) else s

/-- The first character that is neither blank nor a number sign; after a number sign any is taken that is not blank. -/
def significant (comment : Bool) : List Char → Option Char
  | [] => none
  | c :: t =>
    if isBlank c then significant comment t
    else if !comment && c = '#' then significant true t
    else some c

/-- The character after the one about to be read. -/
def second? (s : Source) : Option Char := s.rest[1]?

/-- The same, with blanks left out in a verbose pattern, unless nothing else follows. -/
def secondSkip? (s : Source) : Option Char :=
  if s.verbose then (significant false s.rest.tail).or s.second? else s.second?

/-- The characters that come first and satisfy `p`, at most `n`, with what is left out after each. -/
def collect (p : Char → Bool) : Nat → Source → List Char × Source
  | 0, s => ([], s)
  | n + 1, s =>
    match s.rest with
    | [] => ([], s)
    | c :: _ =>
      if p c then
        let (cs, s) := collect p n s.next.skip
        (c :: cs, s)
      else ([], s)

def span (s : Source) : Span := ⟨s.cursor.next, s.next.cursor.next⟩

end Source

abbrev Reader := StateT Source (Except Fault)

namespace Reader

def fault {α : Type} (span : Span) (cause : Cause) : Reader α := throw ⟨span, cause⟩

def here : Reader Position := return (← get).cursor.next

def faultHere {α : Type} (cause : Cause) : Reader α := do fault (.between (← here)) cause

def faultAtNext {α : Type} (cause : Cause) : Reader α := do fault (← get).span cause

def next? : Reader (Option Char) := return (← get).rest.head?

def atEnd : Reader Bool := return (← get).rest.isEmpty

def next : Reader Unit := modify Source.next

def skip : Reader Unit := modify Source.skip

def nextSkip : Reader Unit := modify fun s => s.next.skip

def collect (p : Char → Bool) : Reader (List Char) := modifyGet fun s => s.collect p s.rest.length

/-- Takes the text `w` if it comes first. -/
def takes (w : String) : Reader Bool := do
  if w.toList.isPrefixOf (← get).rest then
    modify (Source.drop w.length)
    return true
  else return false

def setVerbose (verbose : Bool) : Reader Unit := modify fun s => { s with verbose := verbose }

end Reader

end BracketBalance.Pattern
