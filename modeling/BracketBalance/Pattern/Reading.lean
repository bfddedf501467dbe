/-
  BracketBalance.Pattern.Reading — a pattern from its text.

  A pattern is alternatives, separated by bars; an alternative is a sequence of
  items. An item is a character, a dot, an anchor, an escape, a class in brackets
  or a group, and a repetition applies to the item before it. A group may be named,
  or set flags for itself, or only set flags for what follows in the group around
  it.

  `Tree.ofText` reads a pattern or finds its first fault. Only when all of it can
  be read does it matter how deeply the constructs nest.
-/

import BracketBalance.Pattern.Brackets
import BracketBalance.Text.Letter

namespace BracketBalance.Pattern

open Reader

/-! ## Groups -/

/-- The flags of a group as they are written; a hyphen, which is none of them, turns off those after it. -/
def flagItems : Nat → List (Span × Option Flag) → Reader (List (Span × Option Flag))
  | 0, items => return items
  | fuel + 1, items => do
    match ← next? with
    | none | some ':' | some ')' => return items
    | some c =>
      let span := (← get).span
      let flag ← if c = '-' then pure none else
        match Flag.ofLetter? c with
        | none => fault span .flagUnknown
        | some flag => pure (some flag)
      if let some (first, _) := items.find? (·.2 = flag) then
        fault span (if flag.isNone then .negationTwice first else .flagTwice first)
      next
      if ← atEnd then faultHere .flagEnd
      flagItems fuel (items ++ [(span, flag)])

def settings : Reader Settings := do
  let items ← flagItems (← get).rest.length []
  if let some (span, none) := items.getLast? then fault span .negationLast
  let on := items.takeWhile (·.2.isSome)
  let off := items.dropWhile (·.2.isSome)
  return on.filterMap (fun i => i.2.map (·, true)) ++ off.filterMap (fun i => i.2.map (·, false))

/-- Whether a name may have the character `c`, or begin with it. -/
def isNameChar (first : Bool) (c : Char) : Bool :=
  c = '_' || isLetter c || (!first && (c = '.' || c = '[' || c = ']' || isNumeral c))

/-- The characters of a name, up to the angle bracket that closes it. -/
def nameChars : Nat → List Char → Reader (List Char)
  | 0, name => return name
  | fuel + 1, name => do
    match ← next? with
    | none | some '>' => return name
    | some c =>
      if !isNameChar name.isEmpty c then faultAtNext .nameCharacter
      next
      nameChars fuel (name ++ [c])

def groupName : Reader Unit := do
  let start ← here
  let name ← nameChars (← get).rest.length []
  let stop ← here
  if ← atEnd then faultHere .nameEnd
  next
  if name.isEmpty then fault (.between start) .nameEmpty
  if let some (_, first) := (← get).names.find? (·.1 = name) then fault ⟨start, stop⟩ (.nameTwice first)
  modify fun s => { s with names := (name, ⟨start, stop⟩) :: s.names }

inductive Opening where
  /-- A group: its parenthesis, whether it captures, and its flags. -/
  | group (span : Span) (captures : Bool) (settings : Settings)
  | flags (span : Span) (settings : Settings)

def opening : Reader Opening := do
  let span := (← get).span
  nextSkip
  let inside ← here
  for look in ["?=", "?!", "?<=", "?<!"] do
    if ← takes look then fault ⟨span.start, ← here⟩ .lookAround
  if (← takes "?P<") || (← takes "?<") then
    groupName
    return .group span true []
  else if ← takes "?" then
    if ← atEnd then fault span .groupOpen
    let settings ← settings
    let closed := (← next?) = some ')'
    next
    if !closed then return .group span false settings
    if settings.isEmpty then fault (.between inside) .nothingToRepeat
    return .flags ⟨span.start, ← here⟩ settings
  else return .group span true []

/-! ## Repetitions -/

/-- A decimal number, perhaps among blanks. None if there are no digits. -/
def decimal : Reader (Span × Option Nat) := do
  modify fun s => s.drop (s.rest.takeWhile isBlank).length
  let start ← here
  let digits ← collect Char.isDigit
  let span : Span := ⟨start, ← here⟩
  modify fun s => (s.collect isBlank s.rest.length).2
  if digits.isEmpty then return (span, none)
  return (span, some (digits.foldl (fun n c => 10 * n + (c.toNat - '0'.toNat)) 0))

def count : Span × Option Nat → Reader Nat
  | (span, none) => fault span .countMissing
  | (span, some n) => if n < Nat.pow 2 32 then return n else fault span .countTooLarge

/-- A question mark, after which as few as possible are taken. It does not change what a pattern finds. -/
def lazily : Reader Unit := do
  if (← next?) = some '?' then next

def counted : Reader (Nat × Option Nat) := do
  let start ← here
  let unclosed : Reader Unit := do fault ⟨start, ← here⟩ .countOpen
  nextSkip
  if ← atEnd then unclosed
  let first ← decimal
  if ← atEnd then unclosed
  let (least, most) ← do
    if (← next?) = some ',' then
      nextSkip
      if ← atEnd then unclosed
      if (← next?) = some '}' then pure (← count first, none)
      else
        let least ← count first
        pure (least, some (← count (← decimal)))
    else
      let n ← count first
      pure (n, some n)
  if (← next?) ≠ some '}' then unclosed
  nextSkip
  lazily
  if let some most := most then
    if most < least then fault ⟨start, ← here⟩ .countOrder
  return (least, most)

def repetition (c : Char) : Reader (Nat × Option Nat) := do
  if c = '{' then counted
  else
    next
    lazily
    return (if c = '+' then 1 else 0, if c = '?' then some 1 else none)

/-! ## Sequences and alternatives -/

def Tree.span? : Tree → Option Span
  | .nothing => none
  | .flags _ _ => none
  | .letter l => some l.span
  | .dot span => some span
  | .anchor span _ => some span
  | .named n => some n.span
  | .property p => some p.span
  | .brackets span _ _ => some span
  | .repeated span _ _ _ => some span
  | .group span _ _ _ => some span
  | .alternatives span _ => some span
  | .sequence span _ => some span

structure Level where
  start : Position
  /-- The alternatives that are complete, the last first. -/
  branches : List Tree
  branchStart : Position
  items : List Tree

namespace Level

def none (p : Position) : Level := ⟨p, [], p, []⟩

def add (l : Level) (t : Tree) : Level := { l with items := t :: l.items }

def branch (l : Level) (stop : Position) : Tree :=
  match l.items with
  | [] => .nothing
  | [t] => t
  | ts => .sequence ⟨l.branchStart, stop⟩ ts.reverse

/-- A bar at `stop`, and the next alternative begins at `p`. -/
def bar (l : Level) (stop p : Position) : Level := ⟨l.start, l.branch stop :: l.branches, p, []⟩

def tree (l : Level) (stop : Position) : Tree :=
  match l.branches with
  | [] => l.branch stop
  | bs => .alternatives ⟨l.start, stop⟩ (l.branch stop :: bs).reverse

end Level

/-- A group that is not closed yet. -/
structure OpenGroup where
  outer : Level
  span : Span
  captures : Bool
  settings : Settings
  verbose : Bool

def item (c : Char) : Reader Tree := do
  if c = '\\' then escape
  else
    let span := (← get).span
    next
    if c = '.' then return .dot span
    else if c = '^' then return .anchor span .lineStart
    else if c = '$' then return .anchor span .lineEnd
    else return .letter ⟨span, c, false⟩

/-- The rest of a pattern, given the groups that are open, innermost first, and the level of the innermost. -/
def rest : Nat → List OpenGroup → Level → Reader Tree
  | 0, _, level => return level.tree (← here)
  | fuel + 1, groups, level => do
    skip
    match groups, ← next? with
    | [], none => return level.tree (← here)
    | g :: _, none => fault g.span .groupOpen
    | _, some '(' =>
      match ← opening with
      | .flags span settings =>
        if let some verbose := settings.verbose? then setVerbose verbose
        rest fuel groups (level.add (.flags span settings))
      | .group span captures settings =>
        let verbose := (← get).verbose
        setVerbose (settings.verbose?.getD verbose)
        rest fuel (⟨level, span, captures, settings, verbose⟩ :: groups) (.none (← here))
    | [], some ')' => faultAtNext .groupNotOpen
    | g :: groups, some ')' =>
      setVerbose g.verbose
      let body := level.tree (← here)
      next
      rest fuel groups (g.outer.add (.group ⟨g.span.start, ← here⟩ g.captures g.settings body))
    | _, some '|' =>
      let stop ← here
      next
      rest fuel groups (level.bar stop (← here))
    | _, some '[' => rest fuel groups (level.add (← brackets (← get).rest.length [] (.none (← here))))
    | _, some c =>
      if c = '?' || c = '*' || c = '+' || c = '{' then
        match level.items with
        | [] => faultHere .nothingToRepeat
        | body :: items =>
          match body.span? with
          | none => faultHere .nothingToRepeat
          | some span =>
            let (least, most) ← repetition c
            rest fuel groups
              { level with items := .repeated ⟨span.start, ← here⟩ least most body :: items }
      else rest fuel groups (level.add (← item c))

def Tree.ofText (pattern : List Char) : Except Fault Tree := do
  let (tree, _) ← (rest (pattern.length + 1) [] (.none ⟨1, 1⟩)).run (.start pattern)
  match tree.tooDeep? 0 with
  | some span => .error ⟨span, .tooDeep⟩
  | none => .ok tree

end BracketBalance.Pattern
