/-
  BracketBalance.Report — a verdict as text.

  A report is one line that says whether the text balances and, if not, what is
  wrong and where. A violation may be followed by the lines around the one it
  points at, between two markers. Reports of the `strings` grammar never have that
  block. Every line of a report ends with a line feed.
-/

import BracketBalance.Grammar
import BracketBalance.Text.Line
import BracketBalance.Violation

namespace BracketBalance

/-- How many lines to show before and after the one in question. -/
structure Window where
  before : Nat
  after : Nat
  deriving DecidableEq, Repr

namespace Window

def standard : Window := ⟨2, 1⟩

/-- The lines around `line`, as far as the text has them, with their numbers. -/
def around (w : Window) (t : List Char) (line : Nat) : List (Nat × List Char) :=
  let numbered := (lines (dropMark t)).zipIdx 1 |>.map Prod.swap
  (numbered.drop (max (line - w.before) 1 - 1)).takeWhile (·.1 ≤ line + w.after)

end Window

structure Report.Style where
  grammar : Grammar
  context : Option Window
  deriving DecidableEq, Repr

namespace Report

def balanced : Grammar → String
  | .full => "OK: balanced"
  | .strings => "OK: Brackets and strings balanced"
  | .templates => "OK (all template literals closed)"

/-- The line that names a violation. An open template is all that `templates` looks for, and it says so. -/
def headline (g : Grammar) (v : Violation) : String :=
  match g, v with
  | .templates, .unterminatedLiteral .template start =>
    "UNTERMINATED backtick starting at line " ++ toString start.line ++ ", col " ++ toString start.column
  | _, _ => v.message

/-- The window a report shows: the one asked for, but none for `strings`. -/
def window (style : Style) : Option Window :=
  match style.grammar with
  | .strings => none
  | _ => style.context

def context (w : Window) (t : List Char) (line : Nat) : List String :=
  ["--- context ---"] ++ (w.around t line).map (fun l => String.ofList l.2) ++ ["---------------"]

def reportLines (style : Style) (verdict : Option Violation) (t : List Char) : List String :=
  match verdict with
  | none => [balanced style.grammar]
  | some v =>
    headline style.grammar v ::
      match window style with
      | none => []
      | some w => context w t v.position.line

def render (style : Style) (verdict : Option Violation) (t : List Char) : String :=
  String.join ((reportLines style verdict t).map (· ++ "\n"))

end Report

end BracketBalance
