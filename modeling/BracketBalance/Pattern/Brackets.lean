/-
  BracketBalance.Pattern.Brackets — a class of characters in brackets.

  The items of a class are characters, ranges, classes with a name and classes in
  brackets of their own. Two ampersands, two hyphens or two tildes combine what
  stands before them with what follows; all three bind alike, from left to right.

  A hyphen stands for itself at the beginning of a class and at its end, and a
  closing bracket does at the beginning. Brackets that are never closed are a fault
  of the innermost class.
-/

import BracketBalance.Pattern.Escape

namespace BracketBalance.Pattern

open Reader

/-- The items of a class so far, the last first. -/
structure Items where
  span : Span
  items : List ClassTree

namespace Items

def none (p : Position) : Items := ⟨.between p, []⟩

def add (i : Items) (t : ClassTree) : Items :=
  ⟨⟨if i.items.isEmpty then t.span.start else i.span.start, t.span.stop⟩, t :: i.items⟩

def tree (i : Items) : ClassTree :=
  match i.items with
  | [] => .nothing i.span
  | [t] => t
  | ts => .union i.span ts.reverse

end Items

structure OpenClass where
  /-- The items of the class around it. -/
  outer : Items
  start : Position
  /-- The brackets, the negation and the characters that stand for themselves at the beginning. -/
  opening : Span
  negated : Bool
  /-- What the items being read are combined with. -/
  left : Option (SetOperation × ClassTree)

def OpenClass.combine (c : OpenClass) (items : Items) : ClassTree :=
  match c.left with
  | none => items.tree
  | some (operation, left) => .combined operation left items.tree

def openClassFault {α : Type} (classes : List OpenClass) : Reader α := do
  match classes with
  | [] => faultHere .bracketOpen
  | c :: _ => fault c.opening .bracketOpen

/-- The hyphens at the beginning of a class. -/
def hyphens (start : Position) : Nat → Items → Reader Items
  | 0, items => return items
  | fuel + 1, items => do
    if (← next?) = some '-' then
      let span := (← get).span
      nextSkip
      if ← atEnd then fault (.between start) .bracketOpen
      hyphens start fuel (items.add (.letter ⟨span, '-', false⟩))
    else return items

/-- An opening bracket and the characters after it that stand for themselves. -/
def openBracket (outer : Items) : Reader (OpenClass × Items) := do
  let start ← here
  nextSkip
  if ← atEnd then fault ⟨start, ← here⟩ .bracketOpen
  let negated := (← next?) = some '^'
  if negated then
    nextSkip
    if ← atEnd then fault ⟨start, ← here⟩ .bracketOpen
  let items ← hyphens start (← get).rest.length (.none (← here))
  if items.items.isEmpty && (← next?) = some ']' then
    let items := items.add (.letter ⟨(← get).span, ']', false⟩)
    nextSkip
    if ← atEnd then fault ⟨start, ← here⟩ .bracketOpen
    return (⟨outer, start, ⟨start, ← here⟩, negated, none⟩, items)
  return (⟨outer, start, ⟨start, ← here⟩, negated, none⟩, items)

def asciiClass? : Reader (Option ClassTree) := do
  let before ← get
  let start ← here
  if !(← takes "[:") then return none
  let negated ← takes "^"
  let name := (← get).rest.takeWhile (· ≠ ':')
  modify (Source.drop name.length)
  match AsciiClass.ofName? name, ← takes ":]" with
  | some name, true => return some (.ascii ⟨start, ← here⟩ negated name)
  | _, _ =>
    set before
    return none

def classItem : Reader Tree := do
  match ← next? with
  | some '\\' => escape
  | some c =>
    let span := (← get).span
    next
    return .letter ⟨span, c, false⟩
  | none => faultHere .bracketOpen

def Tree.itemSpan : Tree → Span
  | .letter l => l.span
  | .named n => n.span
  | .property p => p.span
  | .anchor span _ => span
  | _ => .between ⟨1, 1⟩

def Tree.asMember : Tree → Reader ClassTree
  | .letter l => return .letter l
  | .named n => return .named n
  | .property p => return .property p
  | t => fault t.itemSpan .bracketEscape

def Tree.asEnd : Tree → Reader Letter
  | .letter l => return l
  | t => fault t.itemSpan .rangeBoundary

def member (classes : List OpenClass) : Reader ClassTree := do
  let first ← classItem
  skip
  if ← atEnd then openClassFault classes
  let after := (← get).secondSkip?
  if (← next?) ≠ some '-' || after = some ']' || after = some '-' then first.asMember
  else
    nextSkip
    if ← atEnd then openClassFault classes
    let last ← classItem
    let span : Span := ⟨first.itemSpan.start, last.itemSpan.stop⟩
    let low ← first.asEnd
    let high ← last.asEnd
    if high.char < low.char then fault span .rangeOrder
    return .range low high

def operation? (next second : Option Char) : Option SetOperation :=
  match next, second with
  | some '&', some '&' => some .intersection
  | some '-', some '-' => some .difference
  | some '~', some '~' => some .symmetricDifference
  | _, _ => none

/-- The rest of a class, given the classes that are open, innermost first, and the items of the innermost. -/
def brackets : Nat → List OpenClass → Items → Reader Tree
  | 0, classes, _ => openClassFault classes
  | fuel + 1, classes, items => do
    skip
    match classes, ← next? with
    | _, none => openClassFault classes
    | [], some _ =>
      let (c, inner) ← openBracket items
      brackets fuel [c] inner
    | _ :: _, some '[' =>
      match ← asciiClass? with
      | some t => brackets fuel classes (items.add t)
      | none =>
        let (c, inner) ← openBracket items
        brackets fuel (c :: classes) inner
    | c :: outer, some ']' =>
      next
      let span : Span := ⟨c.start, ← here⟩
      let body := c.combine items
      match outer with
      | [] => return .brackets span c.negated body
      | _ :: _ => brackets fuel outer (c.outer.add (.brackets span c.negated body))
    | c :: outer, some _ =>
      match operation? (← next?) (← get).second? with
      | some operation =>
        next
        next
        brackets fuel ({ c with left := some (operation, c.combine items) } :: outer) (.none (← here))
      | none => brackets fuel classes (items.add (← member classes))

end BracketBalance.Pattern
