/-
  BracketBalance.Pattern.Tree — a pattern as it is written.

  A tree keeps the spans of its parts, for the faults that are found only when the
  whole pattern has been read. `ClassTree` is what stands in brackets, `Tree` all
  else.

  Brackets, repetitions, groups, alternatives and sequences nest; `tooDeep?` is the
  first of them, in the order of the pattern, that lies too deep.
-/

import BracketBalance.Pattern.CharSet
import BracketBalance.Pattern.Fault

namespace BracketBalance.Pattern

inductive Flag where
  | caseless
  | multiLine
  | dotAll
  | swapGreed
  | unicode
  | crlf
  | verbose
  deriving DecidableEq, Repr

namespace Flag

def ofLetter? (c : Char) : Option Flag :=
  match c with
  | 'i' => some caseless
  | 'm' => some multiLine
  | 's' => some dotAll
  | 'U' => some swapGreed
  | 'u' => some unicode
  | 'R' => some crlf
  | 'x' => some verbose
  | _ => none

end Flag

abbrev Settings := List (Flag × Bool)

def Settings.verbose? (s : Settings) : Option Bool := (s.find? (·.1 = .verbose)).map (·.2)

/-- A place between a character of a word and one that is none, or the lack of one on one side. -/
inductive WordEdge where
  | edge
  | noEdge
  | start
  | stop
  /-- No character of a word comes before. -/
  | startHalf
  /-- No character of a word follows. -/
  | stopHalf
  deriving DecidableEq, Repr

inductive Anchor where
  | lineStart
  | lineEnd
  | textStart
  | textEnd
  | word (kind : WordEdge)
  deriving DecidableEq, Repr

/-- A character that stands for itself. -/
structure Letter where
  span : Span
  char : Char
  /-- Written as a byte, with two digits. -/
  byte : Bool
  deriving DecidableEq, Repr

inductive ClassName where
  | digit
  | space
  | word
  deriving DecidableEq, Repr

def ClassName.ascii : ClassName → AsciiClass
  | digit => .digit
  | space => .space
  | word => .word

/-- A class written with a backslash. -/
structure NamedClass where
  span : Span
  negated : Bool
  name : ClassName
  deriving DecidableEq, Repr

structure Property where
  span : Span
  name : List Char
  value : Option (List Char)
  deriving DecidableEq, Repr

inductive SetOperation where
  | intersection
  | difference
  | symmetricDifference
  deriving DecidableEq, Repr

inductive ClassTree where
  | nothing (span : Span)
  | letter (letter : Letter)
  | range (first last : Letter)
  | ascii (span : Span) (negated : Bool) (name : AsciiClass)
  | named (name : NamedClass)
  | property (property : Property)
  | brackets (span : Span) (negated : Bool) (body : ClassTree)
  | union (span : Span) (items : List ClassTree)
  | combined (operation : SetOperation) (left right : ClassTree)
  deriving Repr

namespace ClassTree

def span : ClassTree → Span
  | nothing span => span
  | letter l => l.span
  | range first last => ⟨first.span.start, last.span.stop⟩
  | ascii span _ _ => span
  | named n => n.span
  | property p => p.span
  | brackets span _ _ => span
  | union span _ => span
  | combined _ left right => ⟨left.span.start, right.span.stop⟩

end ClassTree

inductive Tree where
  | nothing
  | flags (span : Span) (settings : Settings)
  | letter (letter : Letter)
  | dot (span : Span)
  | anchor (span : Span) (anchor : Anchor)
  | named (name : NamedClass)
  | property (property : Property)
  | brackets (span : Span) (negated : Bool) (body : ClassTree)
  | repeated (span : Span) (least : Nat) (most : Option Nat) (body : Tree)
  | group (span : Span) (captures : Bool) (settings : Settings) (body : Tree)
  | alternatives (span : Span) (branches : List Tree)
  | sequence (span : Span) (items : List Tree)
  deriving Repr

/-! ## Nesting -/

/-- A construct that spans `span` and lies in `depth` others, or what is too deep inside it. -/
def tooDeepAt (depth : Nat) (span : Span) (inside : Option Span) : Option Span :=
  if depthLimit ≤ depth then some span else inside

mutual
def ClassTree.tooDeep? (depth : Nat) : ClassTree → Option Span
  | .brackets span _ body => tooDeepAt depth span (body.tooDeep? (depth + 1))
  | .union span items => tooDeepAt depth span (ClassTree.anyTooDeep? (depth + 1) items)
  | .combined operation left right =>
    tooDeepAt depth (ClassTree.combined operation left right).span
      ((left.tooDeep? (depth + 1)).or (right.tooDeep? (depth + 1)))
  | _ => none

def ClassTree.anyTooDeep? (depth : Nat) : List ClassTree → Option Span
  | [] => none
  | t :: ts => (t.tooDeep? depth).or (ClassTree.anyTooDeep? depth ts)
end

mutual
def Tree.tooDeep? (depth : Nat) : Tree → Option Span
  | .brackets span _ body => tooDeepAt depth span (body.tooDeep? (depth + 1))
  | .repeated span _ _ body => tooDeepAt depth span (body.tooDeep? (depth + 1))
  | .group span _ _ body => tooDeepAt depth span (body.tooDeep? (depth + 1))
  | .alternatives span branches => tooDeepAt depth span (Tree.anyTooDeep? (depth + 1) branches)
  | .sequence span items => tooDeepAt depth span (Tree.anyTooDeep? (depth + 1) items)
  | _ => none

def Tree.anyTooDeep? (depth : Nat) : List Tree → Option Span
  | [] => none
  | t :: ts => (t.tooDeep? depth).or (Tree.anyTooDeep? depth ts)
end

end BracketBalance.Pattern
