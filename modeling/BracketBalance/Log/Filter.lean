/-
  BracketBalance.Log.Filter — which records are printed.

  A filter is written as directives with commas between them: a level for all
  records, or a target, an equals sign and a level. A target without a level lets
  everything through. A target stands for every target that begins with it, and of
  the directives that apply to a record the longest target decides, so the order
  does not matter; a target named twice keeps the last level given to it. A record
  to which no directive applies is not printed, and a filter with no directive at
  all prints errors only.

  After a slash may follow a pattern that has to occur in a printed message. What
  cannot be read is passed over with a warning.
-/

import BracketBalance.Log.Backend
import BracketBalance.Pattern
import BracketBalance.Text.Pieces

namespace BracketBalance.Log

/-- The level of a name, in upper or lower case. -/
def Level.ofName? (name : List Char) : Option Level :=
  Level.all.find? fun l => name.map Char.toUpper = l.name.toList

structure Directive where
  /-- The beginning of the targets it applies to; every target if there is none. -/
  target : Option (List Char)
  level : Level
  deriving DecidableEq, Repr

inductive Warning where
  | notDirective (text : List Char)
  | slashes (text : List Char)
  | pattern (refusal : Pattern.Refusal)
  deriving DecidableEq, Repr

namespace Warning

def message : Warning → String
  | notDirective text => "warning: invalid logging spec '" ++ String.ofList text ++ "', ignoring it"
  | slashes text =>
    "warning: invalid logging spec '" ++ String.ofList text ++ "', ignoring it (too many '/'s)"
  | pattern refusal => "warning: invalid regex filter - " ++ refusal.message

end Warning

namespace Directive

def ofText (text : List Char) : Except Warning Directive :=
  match pieces '=' text with
  | [name] =>
    match Level.ofName? name with
    | some level => .ok ⟨none, level⟩
    | none => .ok ⟨some name, .trace⟩
  | [name, level] =>
    if trim level = [] then .ok ⟨some name, .trace⟩
    else match Level.ofName? (trim level) with
      | some level => .ok ⟨some name, level⟩
      | none => .error (.notDirective (trim level))
  | _ => .error (.notDirective text)

def appliesTo (d : Directive) (target : String) : Bool :=
  match d.target with
  | none => true
  | some start => start.isPrefixOf target.toList

def length (d : Directive) : Nat := (d.target.getD []).length

end Directive

structure Filter where
  directives : List Directive
  /-- What has to occur in a printed message. -/
  wanted : Option Pattern
  deriving DecidableEq, Repr

namespace Filter

def ofLevel (level : Level) : Filter := ⟨[⟨none, level⟩], none⟩

/-- One more directive. A target that is already there takes the new level. -/
def insert (ds : List Directive) (d : Directive) : List Directive :=
  if ds.any (·.target = d.target) then ds.map fun e => if e.target = d.target then d else e
  else ds ++ [d]

/-- The directives of a text with commas between them, and what could not be read. -/
def readDirectives (text : List Char) : List Directive × List Warning :=
  let parts := ((pieces ',' text).map trim).filter (!·.isEmpty)
  parts.foldl
    (fun (ds, ws) part =>
      match Directive.ofText part with
      | .ok d => (insert ds d, ws)
      | .error w => (ds, ws ++ [w]))
    ([], [])

def ofDirectives (ds : List Directive) (wanted : Option Pattern) : Filter :=
  if ds.isEmpty then ⟨[⟨none, .error⟩], wanted⟩ else ⟨ds, wanted⟩

def ofText (text : List Char) : Filter × List Warning :=
  match pieces '/' text with
  | [directives] => let (ds, ws) := readDirectives directives; (ofDirectives ds none, ws)
  | [directives, wanted] =>
    let (ds, ws) := readDirectives directives
    match Pattern.ofText wanted with
    | .ok pattern => (ofDirectives ds (some pattern), ws)
    | .error refusal => (ofDirectives ds none, ws ++ [.pattern refusal])
  | _ => (ofDirectives [] none, [.slashes text])

/-- The directive that decides about a target: the longest that applies, of two equally long the later. -/
def deciding (f : Filter) (target : String) : Option Directive :=
  (f.directives.filter (·.appliesTo target)).foldl
    (fun best d =>
      match best with
      | none => some d
      | some b => if b.length ≤ d.length then some d else some b)
    none

def allows (f : Filter) (e : Event) : Bool :=
  match f.deciding e.target with
  | none => false
  | some d => e.level.rank ≤ d.level.rank && f.wanted.all fun pattern => pattern.occursIn e.text.toList

end Filter

end BracketBalance.Log
