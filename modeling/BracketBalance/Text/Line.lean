/-
  BracketBalance.Text.Line — the lines of a text, as a report shows them.

  A line feed ends a line and is no part of it, and neither is a carriage return
  just before it. A carriage return anywhere else stays. What follows the last
  line feed is a line of its own unless it is empty, and keeps a carriage return
  at its end: no line feed follows there.

  A byte-order mark that opens a document says how it is encoded and is no part
  of its text. `dropMark` removes one; a second one stays.
-/

import BracketBalance.Text.Pieces

namespace BracketBalance

/-- U+FEFF, which may open a document. -/
def byteOrderMark : Char := '\uFEFF'

def dropMark : List Char → List Char
  | [] => []
  | c :: t => if c = byteOrderMark then t else c :: t

/-- A line without the carriage return before its line feed. -/
def dropReturn (l : List Char) : List Char := if l.getLast? = some '\r' then l.dropLast else l

/-- The lines of a text, without what ends them. -/
def lines (t : List Char) : List (List Char) :=
  let ps := pieces '\n' t
  ps.dropLast.map dropReturn ++ ps.getLast?.toList.filter (!·.isEmpty)

example : lines "a\r\nb\n\r\n\r".toList = [['a'], ['b'], [], ['\r']] := by decide

example : lines [] = [] := by decide

end BracketBalance
