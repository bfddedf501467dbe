/-
  BracketBalance.Pattern.Expr — what a pattern means, and where it occurs.

  A text has a place before every character and one at its end. `marks` says of
  each place whether it has been reached; `Expr.run` gives the places that an
  expression reaches from those marked. An expression occurs in a text if it
  reaches some place when all of them are marked.

  A body that is repeated leads from a place to the same or to a later one. So
  after more rounds than there are places another round changes nothing, and
  `rounds` stops as soon as that is so.

  `size` is the memory that an automaton for the expression takes, in bytes.
-/

import BracketBalance.Pattern.Tree

namespace BracketBalance.Pattern

inductive Edge where
  | textStart
  | textEnd
  | lineStart
  | lineEnd
  /-- Where a line feed, a carriage return or both in this order end a line. -/
  | crlfStart
  | crlfEnd
  /-- `anyScript` says whether the characters of words are those of all scripts, or those of ASCII. -/
  | word (kind : WordEdge) (anyScript : Bool)
  deriving DecidableEq, Repr

def isWordChar (c : Char) : Bool := c.isAlphanum || c = '_'

namespace WordEdge

/-- Whether the edge lies between `before` and `after`, which say if there is a character of a word. -/
def holds (before after : Bool) : WordEdge → Bool
  | edge => before != after
  | noEdge => before == after
  | start => !before && after
  | stop => before && !after
  | startHalf => !before
  | stopHalf => !after

end WordEdge

/-- A place of a text: the characters before and after it, if any. -/
abbrev Place := Option Char × Option Char

/-- The places of a text, given the character before it. -/
def places (before : Option Char) : List Char → List Place
  | [] => [(before, none)]
  | c :: t => (before, some c) :: places (some c) t

def Edge.holds (p : Place) : Edge → Bool
  | textStart => p.1.isNone
  | textEnd => p.2.isNone
  | lineStart => p.1.isNone || p.1 = some '\n'
  | lineEnd => p.2.isNone || p.2 = some '\n'
  | crlfStart => p.1.isNone || p.1 = some '\n' || (p.1 = some '\r' && p.2 ≠ some '\n')
  | crlfEnd => p.2.isNone || p.2 = some '\r' || (p.2 = some '\n' && p.1 ≠ some '\r')
  | word kind _ => kind.holds (p.1.any isWordChar) (p.2.any isWordChar)

inductive Expr where
  | nothing
  | chars (chars : CharSet)
  | edge (condition : Edge)
  | group (body : Expr)
  | repeated (least : Nat) (most : Option Nat) (body : Expr)
  | both (first second : Expr)
  | either (first second : Expr)
  deriving DecidableEq, Repr

def rounds (f : List Bool → List Bool) : Nat → List Bool → List Bool
  | 0, marks => marks
  | n + 1, marks => if f marks = marks then marks else rounds f n (f marks)

def join (a b : List Bool) : List Bool := List.zipWith (· || ·) a b

namespace Expr

/-- The places that the expression reaches from those marked. -/
def run (text : List Char) : Expr → List Bool → List Bool
  | nothing, marks => marks
  | chars s, marks => false :: List.zipWith (fun mark c => mark && s.contains c) marks text
  | edge e, marks => List.zipWith (fun mark p => mark && e.holds p) marks (places none text)
  | group body, marks => body.run text marks
  | repeated least most body, marks =>
    let limit := text.length + 1
    let required := rounds (body.run text) (min least limit) marks
    rounds (fun marks => join marks (body.run text marks))
      (min ((most.map (· - least)).getD limit) limit) required
  | both a b, marks => b.run text (a.run text marks)
  | either a b, marks => join (a.run text marks) (b.run text marks)

def occursIn (e : Expr) (text : List Char) : Bool :=
  (e.run text (List.replicate (text.length + 1) true)).any id

def isEmptyOnly : Expr → Bool
  | nothing => true
  | chars _ => false
  | edge _ => true
  | group body => body.isEmptyOnly
  | repeated _ most body => body.isEmptyOnly || most = some 0
  | both a b => a.isEmptyOnly && b.isEmptyOnly
  | either a b => a.isEmptyOnly && b.isEmptyOnly

def canBeEmpty : Expr → Bool
  | nothing => true
  | chars _ => false
  | edge _ => true
  | group body => body.canBeEmpty
  | repeated least _ body => least = 0 || body.canBeEmpty
  | both a b => a.canBeEmpty && b.canBeEmpty
  | either a b => a.canBeEmpty || b.canBeEmpty

/-- A body repeated, or something simpler that means the same. -/
def ofRepeated (least : Nat) (most : Option Nat) (body : Expr) : Expr :=
  let (least, most) :=
    if body.isEmptyOnly then (min least 1, some ((most.map (min · 1)).getD 1)) else (least, most)
  if least = 0 && most = some 0 then nothing
  else if least = 1 && most = some 1 then body
  else repeated least most body

def sequence (es : List Expr) : Expr :=
  match es.filter (· ≠ nothing) with
  | [] => nothing
  | e :: es => es.foldl both e

def alternatives : List Expr → Expr
  | [] => nothing
  | e :: es => es.foldl either e

def asksAnyScript : Expr → Bool
  | edge (.word _ anyScript) => anyScript
  | group body => body.asksAnyScript
  | repeated _ _ body => body.asksAnyScript
  | both a b => a.asksAnyScript || b.asksAnyScript
  | either a b => a.asksAnyScript || b.asksAnyScript
  | _ => false

/-! ## Size -/

def stateSize : Nat := 32

/-- The bytes of a range of a state that has several. -/
def rangeSize : Nat := 8

/-- The bytes of a way out of a state that has several. -/
def wayOutSize : Nat := 4

def forkSize : Nat := stateSize + 2 * wayOutSize

/-- The states of the longest encodings of characters. -/
def encodedStates : Nat := 9

def setSize (s : CharSet) : Nat :=
  match s.ranges with
  | [] => stateSize
  | [(first, last)] =>
    if first = last then stateSize * (Char.ofNat first).utf8Size
    else if last ≤ 0x7F then 2 * stateSize + rangeSize
    else encodedStates * (stateSize + 2 * rangeSize)
  | rs =>
    if s.isAscii then 2 * stateSize + rangeSize * rs.length
    else encodedStates * (stateSize + 2 * rangeSize) + 2 * rangeSize * rs.length

def size : Expr → Nat
  | nothing => stateSize
  | chars s => setSize s
  | edge _ => stateSize
  | group body => 2 * stateSize + body.size
  | repeated least none body =>
    if least = 0 then (if body.canBeEmpty then 2 else 1) * forkSize + body.size
    else least * body.size + forkSize
  | repeated least (some most) body =>
    if most = least then least * body.size
    else
      (if least = 0 then stateSize else least * body.size)
        + (most - least) * (forkSize + body.size) + stateSize
  | both a b => a.size + b.size
  | either a b => 2 * forkSize + a.size + b.size

def sizeLimit : Nat := 10 * Nat.pow 2 20

/-- The states around the automaton of a whole pattern. -/
def frameSize : Nat := 5 * stateSize + forkSize + rangeSize

def tooLarge (e : Expr) : Bool := sizeLimit < frameSize + e.size

end Expr

end BracketBalance.Pattern
