/-
  BracketBalance.Pattern.Escape — what a backslash begins.

  A backslash takes away the meaning of a punctuation mark. Before a letter it
  gives one: a control character, a character by its number, a class, a property
  or an anchor. A digit after it would refer back to a group, which patterns
  cannot do.
-/

import BracketBalance.Pattern.Source

namespace BracketBalance.Pattern

open Reader

def isHex (c : Char) : Bool := c.isDigit || ('a' ≤ c && c ≤ 'f') || ('A' ≤ c && c ≤ 'F')

def hexValue (c : Char) : Nat :=
  if c.isDigit then c.toNat - '0'.toNat
  else if 'a' ≤ c then c.toNat - 'a'.toNat + 10
  else c.toNat - 'A'.toNat + 10

def hexChar? (digits : List Char) : Option Char :=
  let n := digits.foldl (fun n c => 16 * n + hexValue c) 0
  if n < 0xD800 || (0xDFFF < n && n ≤ 0x10FFFF) then some (Char.ofNat n) else none

/-- Whether a backslash before `c` leaves `c` alone: it may stand before every ASCII character but letters, digits and angle brackets. -/
def isEscapable (c : Char) : Bool := c.toNat ≤ 0x7F && !c.isAlphanum && c ≠ '<' && c ≠ '>'

def controlChar? (c : Char) : Option Char :=
  match c with
  | 'a' => some '\x07'
  | 'f' => some '\x0C'
  | 't' => some '\t'
  | 'n' => some '\n'
  | 'r' => some '\r'
  | 'v' => some '\x0B'
  | _ => none

def className? (c : Char) : Option (Bool × ClassName) :=
  match c with
  | 'd' => some (false, .digit)
  | 'D' => some (true, .digit)
  | 's' => some (false, .space)
  | 'S' => some (true, .space)
  | 'w' => some (false, .word)
  | 'W' => some (true, .word)
  | _ => none

/-- How many digits a number takes without braces. -/
def hexCount? (c : Char) : Option Nat :=
  match c with
  | 'x' => some 2
  | 'u' => some 4
  | 'U' => some 8
  | _ => none

def hexDigits : Nat → Reader (List Char)
  | 0 => return []
  | n + 1 => do
    match ← next? with
    | none => faultHere .escapeEnd
    | some c =>
      if isHex c then
        nextSkip
        return c :: (← hexDigits n)
      else faultAtNext .hexDigit

/-- The character that the digits from `first` up to `stop` write, in an escape that begins at `start`. -/
def hexLetter (start first stop : Position) (digits : List Char) (byte : Bool) : Reader Letter := do
  match hexChar? digits with
  | none => fault ⟨first, stop⟩ .hexNoCharacter
  | some c => return ⟨⟨start, ← here⟩, c, byte⟩

def hexInBraces (start : Position) : Reader Letter := do
  let brace ← here
  let first := (← get).span.stop
  nextSkip
  let digits ← collect isHex
  match ← next? with
  | none => fault ⟨brace, ← here⟩ .escapeEnd
  | some '}' =>
    let stop ← here
    nextSkip
    if digits.isEmpty then fault ⟨brace, ← here⟩ .hexEmpty
    hexLetter start first stop digits false
  | some _ => faultAtNext .hexDigit

/-- A character by its number, with `count` digits or with braces. -/
def hex (start : Position) (count : Nat) : Reader Letter := do
  nextSkip
  match ← next? with
  | none => faultHere .escapeEnd
  | some '{' => hexInBraces start
  | some _ =>
    let first ← here
    let digits ← hexDigits count
    hexLetter start first (← here) digits (count = 2)

/-- The property that a text in braces names: a name alone, or a name and a value. -/
def Property.ofText (span : Span) (text : List Char) : Property :=
  let colon := text.span (· ≠ ':')
  let equals := text.span (· ≠ '=')
  let unequal := (List.range text.length).find? fun i => ['!', '='].isPrefixOf (text.drop i)
  match unequal, colon, equals with
  | some i, _, _ => ⟨span, text.take i, some (text.drop (i + 2))⟩
  | none, (name, _ :: value), _ => ⟨span, name, some value⟩
  | none, _, (name, _ :: value) => ⟨span, name, some value⟩
  | none, _, _ => ⟨span, text, none⟩

def property (start : Position) : Reader Property := do
  nextSkip
  match ← next? with
  | none => faultHere .escapeEnd
  | some '{' =>
    nextSkip
    let text ← collect (· ≠ '}')
    if ← atEnd then faultHere .escapeEnd
    next
    return .ofText ⟨start, ← here⟩ text
  | some '\\' => faultAtNext .propertyName
  | some c =>
    nextSkip
    return ⟨⟨start, ← here⟩, [c], none⟩

def WordEdge.ofName? (name : List Char) : Option WordEdge :=
  if name = "start".toList then some .start
  else if name = "end".toList then some .stop
  else if name = "start-half".toList then some .startHalf
  else if name = "end-half".toList then some .stopHalf
  else none

/-- The edge named in braces, if what is in them does not begin like a count. -/
def namedEdge? (start : Position) : Reader (Option WordEdge) := do
  let before ← get
  let brace ← here
  let inName := fun (c : Char) => c.isAlpha || c = '-'
  nextSkip
  match ← next? with
  | none => fault ⟨start, ← here⟩ .edgeEnd
  | some c =>
    if !inName c then
      set before
      return none
    let first ← here
    let name ← collect inName
    if (← next?) ≠ some '}' then fault ⟨brace, ← here⟩ .edgeOpen
    let stop ← here
    next
    match WordEdge.ofName? name with
    | none => fault ⟨first, stop⟩ .edgeUnknown
    | some kind => return some kind

def anchor? (start : Position) (c : Char) : Reader (Option Anchor) := do
  match c with
  | 'A' => return some .textStart
  | 'z' => return some .textEnd
  | 'B' => return some (.word .noEdge)
  | '<' => return some (.word .start)
  | '>' => return some (.word .stop)
  | 'b' =>
    let named ← if (← next?) = some '{' then namedEdge? start else pure none
    return some (.word (named.getD .edge))
  | _ => return none

def escape : Reader Tree := do
  let start ← here
  next
  match ← next? with
  | none => fault ⟨start, ← here⟩ .escapeEnd
  | some c =>
    if c.isDigit then fault ⟨start, (← get).span.stop⟩ .backreference
    else if let some count := hexCount? c then return .letter (← hex start count)
    else if c = 'p' || c = 'P' then return .property (← property start)
    else
      next
      let span : Span := ⟨start, ← here⟩
      if let some (negated, name) := className? c then return .named ⟨span, negated, name⟩
      if isEscapable c then return .letter ⟨span, c, false⟩
      if let some control := controlChar? c then return .letter ⟨span, control, false⟩
      match ← anchor? start c with
      | some anchor => return .anchor ⟨start, ← here⟩ anchor
      | none => fault span .escapeUnknown

end BracketBalance.Pattern
