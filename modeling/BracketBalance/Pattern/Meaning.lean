/-
  BracketBalance.Pattern.Meaning — the expression that a pattern stands for.

  What a part of a pattern means depends on the flags set before it. Flags set in a
  group hold to its end, those set by a group of their own to the end of the group
  around it.

  Without the flag `unicode` a class holds bytes, and may hold none that is not a
  character of ASCII, because a text is never looked at below its characters. With
  it, there are no tables for what lies beyond ASCII: properties, classes written
  with a letter and the two cases of a letter are not known.
-/

import BracketBalance.Pattern.Expr

namespace BracketBalance.Pattern

/-- The flags that hold. -/
structure Modes where
  caseless : Bool
  multiLine : Bool
  dotAll : Bool
  crlf : Bool
  unicode : Bool
  deriving DecidableEq, Repr

namespace Modes

def standard : Modes := ⟨false, false, false, false, true⟩

def apply (m : Modes) (settings : Settings) : Modes :=
  settings.foldl
    (fun m s =>
      match s.1 with
      | .caseless => { m with caseless := s.2 }
      | .multiLine => { m with multiLine := s.2 }
      | .dotAll => { m with dotAll := s.2 }
      | .crlf => { m with crlf := s.2 }
      | .unicode => { m with unicode := s.2 }
      | .swapGreed | .verbose => m)
    m

/-- The last code point that a class may hold. -/
def last (m : Modes) : Nat := if m.unicode then 0x10FFFF else 0xFF

end Modes

abbrev Meant := Except Fault

/-! ## Classes -/

/-- The characters of a class, and whether any was named that may have another case. -/
structure Members where
  chars : CharSet
  cased : Bool

def foldCases (m : Modes) (span : Span) (s : Members) : Meant Members :=
  if !m.caseless then .ok s
  else if !m.unicode then .ok { s with chars := s.chars.bothCases }
  else if s.cased then .error ⟨span, .casesUnknown⟩
  else .ok s

def closeClass (m : Modes) (span : Span) (negated : Bool) (s : Members) : Meant Members := do
  let s ← foldCases m span s
  let s := if negated then { s with chars := s.chars.complement m.last } else s
  if !m.unicode && !s.chars.isAscii then .error ⟨span, .notText⟩
  else .ok s

/-- A character, when it may stand for a byte. -/
def Letter.checked (m : Modes) (l : Letter) : Meant Char :=
  if !m.unicode && l.byte && 0x7F < l.char.toNat then .error ⟨l.span, .notText⟩ else .ok l.char

def Letter.member (m : Modes) (l : Letter) : Meant Char := do
  let c ← l.checked m
  if !m.unicode && 0x7F < c.toNat then .error ⟨l.span, .unicodeOnly⟩ else .ok c

def NamedClass.chars (m : Modes) (n : NamedClass) : Meant CharSet :=
  if m.unicode then .error ⟨n.span, .classUnknown⟩
  else if n.negated then .error ⟨n.span, .notText⟩
  else .ok n.name.ascii.chars

/-- The name of a property as it is looked up: letter case, blanks, hyphens, underscores and a leading `is` do not count. -/
def Property.key (name : List Char) : List Char :=
  let plain := fun (cs : List Char) =>
    (cs.filter fun c => c.toNat ≤ 0x7F && c ≠ ' ' && c ≠ '_' && c ≠ '-').map Char.toLower
  match name with
  | i :: s :: rest =>
    if i.toLower = 'i' && s.toLower = 's' then
      if plain rest = ['c'] then ['i', 's', 'c'] else plain rest
    else plain name
  | _ => plain name

/-- Three names are values of a property and not properties. -/
def valueNames : List String := ["cf", "sc", "lc"]

/-- No property is known. -/
def Property.fault (m : Modes) (p : Property) : Fault :=
  if !m.unicode then ⟨p.span, .unicodeOnly⟩
  else if p.value.isNone && valueNames.any (·.toList = Property.key p.name) then
    ⟨p.span, .propertyValueUnknown⟩
  else ⟨p.span, .propertyUnknown⟩

def SetOperation.apply : SetOperation → CharSet → CharSet → CharSet
  | intersection => CharSet.inter
  | difference => CharSet.diff
  | symmetricDifference => CharSet.symmDiff

mutual
def ClassTree.members (m : Modes) : ClassTree → Meant Members
  | .nothing _ => .ok ⟨.empty, false⟩
  | .letter l => do return ⟨.single (← l.member m), true⟩
  | .range first last => do return ⟨.range (← first.member m) (← last.member m), true⟩
  | .ascii span negated name => closeClass m span negated ⟨name.chars, true⟩
  | .named n => do return ⟨← n.chars m, false⟩
  | .property p => .error (p.fault m)
  | .brackets span negated body => do closeClass m span negated (← body.members m)
  | .union _ items => ClassTree.allMembers m items
  | .combined operation left right => do
    let a ← left.members m
    let b ← right.members m
    let b ← foldCases m right.span b
    let a ← foldCases m left.span a
    return ⟨operation.apply a.chars b.chars, a.cased || b.cased⟩

def ClassTree.allMembers (m : Modes) : List ClassTree → Meant Members
  | [] => .ok ⟨.empty, false⟩
  | t :: ts => do
    let a ← t.members m
    let b ← ClassTree.allMembers m ts
    return ⟨a.chars.union b.chars, a.cased || b.cased⟩
end

/-! ## Patterns -/

def Letter.expr (m : Modes) (l : Letter) : Meant Expr := do
  let c ← l.checked m
  if !m.caseless then return .chars (.single c)
  if m.unicode then .error ⟨l.span, .casesUnknown⟩
  return .chars (CharSet.single c).bothCases

def dotExpr (m : Modes) (span : Span) : Meant Expr :=
  if !m.unicode then .error ⟨span, .notText⟩
  else
    let all := CharSet.complement m.last .empty
    if m.dotAll then .ok (.chars all)
    else if m.crlf then .ok (.chars (all.diff ((CharSet.single '\n').union (.single '\r'))))
    else .ok (.chars (all.diff (.single '\n')))

def Anchor.edge (m : Modes) : Anchor → Edge
  | lineStart => if m.multiLine then (if m.crlf then .crlfStart else .lineStart) else .textStart
  | lineEnd => if m.multiLine then (if m.crlf then .crlfEnd else .lineEnd) else .textEnd
  | textStart => .textStart
  | textEnd => .textEnd
  | word e => .word e m.unicode

mutual
/-- The expression of a tree, and the flags that hold after it. -/
def Tree.expr (m : Modes) : Tree → Meant (Expr × Modes)
  | .nothing => .ok (.nothing, m)
  | .flags _ settings => .ok (.nothing, m.apply settings)
  | .letter l => do return (← l.expr m, m)
  | .dot span => do return (← dotExpr m span, m)
  | .anchor _ a => .ok (.edge (a.edge m), m)
  | .named n => do return (.chars (← n.chars m), m)
  | .property p => .error (p.fault m)
  | .brackets span negated body => do
    let s ← closeClass m span negated (← body.members m)
    return (.chars s.chars, m)
  | .repeated _ least most body => do
    let (e, m) ← body.expr m
    return (.ofRepeated least most e, m)
  | .group _ captures settings body => do
    let (e, _) ← body.expr (m.apply settings)
    return (if captures then .group e else e, m)
  | .alternatives _ branches => do
    let (es, m) ← Tree.exprs m branches
    return (.alternatives es, m)
  | .sequence _ items => do
    let (es, m) ← Tree.exprs m items
    return (.sequence es, m)

def Tree.exprs (m : Modes) : List Tree → Meant (List Expr × Modes)
  | [] => .ok ([], m)
  | t :: ts => do
    let (e, m) ← t.expr m
    let (es, m) ← Tree.exprs m ts
    return (e :: es, m)
end

end BracketBalance.Pattern
