/-
  BracketBalance.Scanner.Session — a scan that tells how it goes.

  A session reads with a `Scanner`, shows every new line to a `Reporter` if it has
  one, and keeps the records it has written, newest first. The reporter and the log
  see the scan; the scan does not see them.

  A newline is read, and then reported: the report shows the line, and no newline
  halts the scan. A halt is logged once, by the character that causes it; a halted
  session reads and writes nothing more.
-/

import BracketBalance.Log.Record
import BracketBalance.Scanner.Step

namespace BracketBalance

structure Session where
  scanner : Scanner
  reporter : Option Reporter
  /-- The records written so far, newest first. -/
  log : List Log.Record
  deriving DecidableEq, Repr

namespace Session

def start (reporter : Option Reporter) : Session := ⟨.start, reporter, []⟩

def write (s : Session) (r : Log.Record) : Session := { s with log := r :: s.log }

/-- The scan has moved onto a new line. -/
def report (s : Session) : Session :=
  match s.reporter with
  | none => s
  | some r =>
    match r.reach s.scanner.cursor.line with
    | (r, none) => { s with reporter := some r }
    | (r, some p) => { s with reporter := some r }.write (.progress p)

def read (g : Grammar) (s : Session) (c : Char) : Session :=
  if s.scanner.fault.isSome then s
  else
    let s := { s with scanner := s.scanner.read g c }
    let s := if c = '\n' then s.report else s
    match s.scanner.fault with
    | none => s
    | some v => s.write (.halted v)

def feed (g : Grammar) (s : Session) (t : List Char) : Session := t.foldl (read g) s

def verdict (g : Grammar) (s : Session) : Option Violation := s.scanner.verdict g

/-- The text ends here. -/
def finish (g : Grammar) (s : Session) : Session :=
  match s.verdict g with
  | none => s.write (.balanced s.scanner.cursor.line)
  | some _ => s

def emitted (s : Session) : Option Nat := s.reporter.map (·.emitted)

/-- The records written so far, oldest first. -/
def records (s : Session) : List Log.Record := s.log.reverse

end Session

end BracketBalance
