/-
  BracketBalance.Pattern.CharSet — sets of characters.

  A set is a list of ranges of code points, both ends included, in any order and
  overlapping or not. The operations keep every range non-empty, so a set is empty
  just when it has no range.
-/

namespace BracketBalance.Pattern

structure CharSet where
  ranges : List (Nat × Nat)
  deriving DecidableEq, Repr

namespace CharSet

def contains (s : CharSet) (c : Char) : Bool := s.ranges.any fun r => r.1 ≤ c.toNat && c.toNat ≤ r.2

def empty : CharSet := ⟨[]⟩

def range (first last : Char) : CharSet := ⟨[(first.toNat, last.toNat)]⟩

def single (c : Char) : CharSet := range c c

def isEmpty (s : CharSet) : Bool := s.ranges.isEmpty

def union (a b : CharSet) : CharSet := ⟨a.ranges ++ b.ranges⟩

/-- What two ranges share. -/
def overlap (r q : Nat × Nat) : List (Nat × Nat) :=
  let first := max r.1 q.1
  let last := min r.2 q.2
  if first ≤ last then [(first, last)] else []

def inter (a b : CharSet) : CharSet := ⟨a.ranges.flatMap fun r => b.ranges.flatMap (overlap r)⟩

/-- What is left of the range `r` without `q`. -/
def without (q r : Nat × Nat) : List (Nat × Nat) :=
  if q.2 < r.1 || r.2 < q.1 then [r]
  else
    (if r.1 < q.1 then [(r.1, q.1 - 1)] else []) ++ (if q.2 < r.2 then [(q.2 + 1, r.2)] else [])

def diff (a b : CharSet) : CharSet := ⟨b.ranges.foldl (fun rs q => rs.flatMap (without q)) a.ranges⟩

/-- What is in one of two sets and not in both. -/
def symmDiff (a b : CharSet) : CharSet := (a.union b).diff (a.inter b)

/-- All code points up to `last` that are not in the set. -/
def complement (last : Nat) (s : CharSet) : CharSet := (CharSet.mk [(0, last)]).diff s

def isAscii (s : CharSet) : Bool := s.ranges.all (·.2 ≤ 0x7F)

/-- The set with both cases of its ASCII letters. -/
def bothCases (s : CharSet) : CharSet :=
  let lower := (s.inter (range 'a' 'z')).ranges.map fun r => (r.1 - 0x20, r.2 - 0x20)
  let upper := (s.inter (range 'A' 'Z')).ranges.map fun r => (r.1 + 0x20, r.2 + 0x20)
  ⟨s.ranges ++ lower ++ upper⟩

example : (range 'a' 'z').diff (range 'f' 'h') = ⟨[('a'.toNat, 'e'.toNat), ('i'.toNat, 'z'.toNat)]⟩ := by decide

example : ((range 'b' 'y').bothCases.contains 'Y', (range 'b' 'y').bothCases.contains 'Z') = (true, false) := by
  decide

end CharSet

/-- The classes of ASCII characters that have a name in brackets. -/
inductive AsciiClass where
  | alnum
  | alpha
  | ascii
  | blank
  | cntrl
  | digit
  | graph
  | lower
  | print
  | punct
  | space
  | upper
  | word
  | xdigit
  deriving DecidableEq, Repr

namespace AsciiClass

def all : List AsciiClass :=
  [alnum, alpha, ascii, blank, cntrl, digit, graph, lower, print, punct, space, upper, word, xdigit]

def name : AsciiClass → String
  | alnum => "alnum"
  | alpha => "alpha"
  | ascii => "ascii"
  | blank => "blank"
  | cntrl => "cntrl"
  | digit => "digit"
  | graph => "graph"
  | lower => "lower"
  | print => "print"
  | punct => "punct"
  | space => "space"
  | upper => "upper"
  | word => "word"
  | xdigit => "xdigit"

def ofName? (name : List Char) : Option AsciiClass := all.find? (·.name.toList = name)

def chars : AsciiClass → CharSet
  | alnum => ⟨[(0x30, 0x39), (0x41, 0x5A), (0x61, 0x7A)]⟩
  | alpha => ⟨[(0x41, 0x5A), (0x61, 0x7A)]⟩
  | ascii => ⟨[(0x00, 0x7F)]⟩
  | blank => ⟨[(0x09, 0x09), (0x20, 0x20)]⟩
  | cntrl => ⟨[(0x00, 0x1F), (0x7F, 0x7F)]⟩
  | digit => ⟨[(0x30, 0x39)]⟩
  | graph => ⟨[(0x21, 0x7E)]⟩
  | lower => ⟨[(0x61, 0x7A)]⟩
  | print => ⟨[(0x20, 0x7E)]⟩
  | punct => ⟨[(0x21, 0x2F), (0x3A, 0x40), (0x5B, 0x60), (0x7B, 0x7E)]⟩
  | space => ⟨[(0x09, 0x0D), (0x20, 0x20)]⟩
  | upper => ⟨[(0x41, 0x5A)]⟩
  | word => ⟨[(0x30, 0x39), (0x41, 0x5A), (0x5F, 0x5F), (0x61, 0x7A)]⟩
  | xdigit => ⟨[(0x30, 0x39), (0x41, 0x46), (0x61, 0x66)]⟩

end AsciiClass

end BracketBalance.Pattern
