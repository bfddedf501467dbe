/-
  BracketBalance.Check — one text, checked and reported.

  `check` scans a text with a progress reporter that knows its number of lines, and
  renders the verdict. Beside the outcome it gives the records written on the way.
-/

import BracketBalance.Report
import BracketBalance.Scanner.Session

namespace BracketBalance

structure Config where
  grammar : Grammar
  /-- The lines to show around a violation, if any. -/
  context : Option Window
  /-- The lines between two progress records; 0 for none. -/
  progressEvery : Nat
  deriving DecidableEq, Repr

namespace Config

def standard : Config := ⟨.full, some .standard, 1000⟩

def style (c : Config) : Report.Style := ⟨c.grammar, c.context⟩

end Config

structure Outcome where
  verdict : Option Violation
  report : String
  deriving DecidableEq, Repr

namespace Outcome

def isBalanced (o : Outcome) : Bool := o.verdict.isNone

end Outcome

def Config.session (config : Config) (t : List Char) : Session :=
  let total := (lines t).length
  let s := (Session.start (some (.start config.progressEvery (some total)))).write
    (.scanning total config.grammar)
  (s.feed config.grammar t).finish config.grammar

def check (config : Config) (t : List Char) : Outcome × List Log.Record :=
  let s := config.session t
  let verdict := s.verdict config.grammar
  (⟨verdict, Report.render config.style verdict t⟩, s.records)

end BracketBalance
