/-
  BracketBalance.Pattern.Fault — what can be wrong with a pattern, and how it is said.

  A fault has a cause and the span of the pattern that it is about; a thing given
  twice also has the span where it came first. The text of a fault shows the pattern
  with carets under its spans. A pattern of several lines is shown between rules,
  with line numbers; a span over several lines gets no carets but a note.
-/

import BracketBalance.Text.Line
import BracketBalance.Text.Position

namespace BracketBalance.Pattern

/-- From `start` up to, and without, `stop`. -/
structure Span where
  start : Position
  stop : Position
  deriving DecidableEq, Repr

namespace Span

def between (p : Position) : Span := ⟨p, p⟩

def inOneLine (s : Span) : Bool := s.start.line = s.stop.line

/-- Whether `s` begins before `t`, or with it and ends no later. -/
def precedes (s t : Span) : Bool := s.start < t.start || (s.start = t.start && s.stop ≤ t.stop)

end Span

/-- How deeply the constructs of a pattern may be nested. -/
def depthLimit : Nat := 250

inductive Cause where
  /-- An escape in brackets that stands for no character. -/
  | bracketEscape
  | rangeOrder
  | rangeBoundary
  | bracketOpen
  | countTooLarge
  | countMissing
  | countOpen
  | countOrder
  | nothingToRepeat
  | hexEmpty
  | hexDigit
  | hexNoCharacter
  | escapeEnd
  | escapeUnknown
  | backreference
  | propertyName
  | flagUnknown
  | flagEnd
  | flagTwice (first : Span)
  | negationTwice (first : Span)
  | negationLast
  | nameEmpty
  | nameCharacter
  | nameEnd
  | nameTwice (first : Span)
  | groupOpen
  | groupNotOpen
  | lookAround
  | edgeOpen
  | edgeUnknown
  | edgeEnd
  | tooDeep
  | unicodeOnly
  | notText
  | propertyUnknown
  | propertyValueUnknown
  | classUnknown
  | casesUnknown
  deriving DecidableEq, Repr

namespace Cause

def message : Cause → String
  | bracketEscape => "invalid escape sequence found in character class"
  | rangeOrder => "invalid character class range, the start must be <= the end"
  | rangeBoundary => "invalid range boundary, must be a literal"
  | bracketOpen => "unclosed character class"
  | countTooLarge => "decimal literal invalid"
  | countMissing => "repetition quantifier expects a valid decimal"
  | countOpen => "unclosed counted repetition"
  | countOrder => "invalid repetition count range, the start must be <= the end"
  | nothingToRepeat => "repetition operator missing expression"
  | hexEmpty => "hexadecimal literal empty"
  | hexDigit => "invalid hexadecimal digit"
  | hexNoCharacter => "hexadecimal literal is not a Unicode scalar value"
  | escapeEnd => "incomplete escape sequence, reached end of pattern prematurely"
  | escapeUnknown => "unrecognized escape sequence"
  | backreference => "backreferences are not supported"
  | propertyName => "invalid Unicode character class"
  | flagUnknown => "unrecognized flag"
  | flagEnd => "expected flag but got end of regex"
  | flagTwice _ => "duplicate flag"
  | negationTwice _ => "flag negation operator repeated"
  | negationLast => "dangling flag negation operator"
  | nameEmpty => "empty capture group name"
  | nameCharacter => "invalid capture group character"
  | nameEnd => "unclosed capture group name"
  | nameTwice _ => "duplicate capture group name"
  | groupOpen => "unclosed group"
  | groupNotOpen => "unopened group"
  | lookAround => "look-around, including look-ahead and look-behind, is not supported"
  | edgeOpen =>
    "special word boundary assertion is either unclosed or contains an invalid character"
  | edgeUnknown =>
    "unrecognized special word boundary assertion, valid choices are: start, end, start-half or end-half"
  | edgeEnd =>
    "found either the beginning of a special word boundary or a bounded repetition on a \\b with "
      ++ "an opening brace, but no closing brace"
  | tooDeep =>
    "exceed the maximum number of nested parentheses/brackets (" ++ toString depthLimit ++ ")"
  | unicodeOnly => "Unicode not allowed here"
  | notText => "pattern can match invalid UTF-8"
  | propertyUnknown => "Unicode property not found"
  | propertyValueUnknown => "Unicode property value not found"
  | classUnknown =>
    "Unicode-aware Perl class not found (make sure the unicode-perl feature is enabled)"
  | casesUnknown =>
    "Unicode-aware case insensitivity matching is not available (make sure the unicode-case feature "
      ++ "is enabled)"

def first? : Cause → Option Span
  | flagTwice first | negationTwice first | nameTwice first => some first
  | _ => none

end Cause

structure Fault where
  span : Span
  cause : Cause
  deriving DecidableEq, Repr

namespace Fault

def copies (n : Nat) (c : Char) : String := String.ofList (List.replicate n c)

/-- What a fault points at, in the order of the pattern. -/
def spans (f : Fault) : List Span :=
  match f.cause.first? with
  | none => [f.span]
  | some first => if first.precedes f.span then [first, f.span] else [f.span, first]

/-- Carets under spans of one line, the line being shown after `margin` characters. -/
def carets (margin : Nat) (spans : List Span) : String :=
  (spans.foldl
    (fun (out, column) s =>
      let gap := s.start.column - 1 - column
      let width := max 1 (s.stop.column - s.start.column)
      (out ++ copies gap ' ' ++ copies width '^', column + gap + width))
    (copies margin ' ', 0)).1

/-- A line of the pattern, and carets under the spans in it. `digits` is the width of a line number, 0 for none. -/
def shownLine (spans : List Span) (digits number : Nat) (line : List Char) : List String :=
  let label :=
    if digits = 0 then copies 4 ' '
    else copies (digits - (toString number).length) ' ' ++ toString number ++ ": "
  let here := spans.filter fun s => s.inOneLine && s.start.line = number
  let margin := if digits = 0 then 4 else digits + 2
  (label ++ String.ofList line) :: (if here.isEmpty then [] else [carets margin here])

def note (s : Span) : String :=
  "on line " ++ toString s.start.line ++ " (column " ++ toString s.start.column ++ ") through line "
    ++ toString s.stop.line ++ " (column " ++ toString (s.stop.column - 1) ++ ")"

def shown (pattern : List Char) (f : Fault) : List String :=
  let severalLines := pattern.contains '\n'
  let count := (lines pattern).length + (if pattern.getLast? = some '\n' then 1 else 0)
  let digits := if count ≤ 1 then 0 else (toString count).length
  let body := ((lines pattern).zipIdx 1).flatMap fun l => shownLine f.spans digits l.2 l.1
  let rule := if severalLines then [copies 79 '~'] else []
  let notes := if severalLines then (f.spans.filter (!·.inOneLine)).map note else []
  ["regex parse error:"] ++ rule ++ body ++ rule ++ notes ++ ["error: " ++ f.cause.message]

def text (pattern : List Char) (f : Fault) : String := "\n".intercalate (f.shown pattern)

end Fault

end BracketBalance.Pattern
