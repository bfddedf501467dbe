/-
  BracketBalance.CommandLine.Command — a command line from its arguments to its exit status.

  Every file of the line is read and checked in turn, whatever became of those
  before it. The report of a file that can be read goes to the standard output,
  under the file's name if the line names more than one; a file that cannot be read
  only leaves a notice on the standard error.

  The exit status is 2 if some file could not be read, else 1 if some file does not
  balance, else 0.

  What the command does not do itself it finds in its `Host`: arguments are read there,
  files have their names and their contents there, and the log is printed there.
-/

import BracketBalance.CommandLine.Options
import BracketBalance.Document
import BracketBalance.Log.Backend

namespace BracketBalance.CommandLine

inductive Notice where
  | unreadable (unreadable : Unreadable)
  /-- What the host says. -/
  | line (text : String)
  deriving DecidableEq, Repr

def Notice.text : Notice → String
  | unreadable u => u.message
  | line text => text

structure Host (Argument Path State : Type) where
  /-- Reads a command line. One that asks for no check ends the process. -/
  parse : List Argument → Effect String (Options Path)
  name : Path → String
  read : Path → Document
  log : Log.Backend State

/-- A run between two files. -/
structure Run (State : Type) where
  config : Config
  /-- More than one file is checked, so each report has a heading. -/
  headed : Bool
  log : State
  failed : Bool
  violated : Bool

namespace Run

variable {Path State : Type}

def start (o : Options Path) (log : State) : Run State := ⟨o.config, o.files.length > 1, log, false, false⟩

def heading (r : Run State) (name : String) : String := if r.headed then name ++ ":\n" else ""

/-- One file, checked. `elapsed` is how long its check has been running when its records are printed. -/
def file (log : Log.Backend State) (elapsed : Duration) (r : Run State) (name : String) :
    Except Unreadable (Outcome × List Log.Record) → Effect Notice (Run State)
  | .error u => ⟨⟨"", [.unreadable u]⟩, .ok { r with failed := true }⟩
  | .ok (outcome, records) =>
    ((log.printAll r.log (records.map (·.event elapsed))).relabel .line).andThen fun s =>
      ⟨⟨r.heading name ++ outcome.report, []⟩,
        .ok { r with log := s, violated := r.violated || !outcome.isBalanced }⟩

def exitStatus (r : Run State) : Nat := if r.failed then 2 else if r.violated then 1 else 0

end Run

namespace Host

variable {Argument Path State : Type} (w : Host Argument Path State)

def file (elapsed : Duration) (r : Run State) (path : Path) : Effect Notice (Run State) :=
  r.file w.log elapsed (w.name path) ((w.read path).check r.config (w.name path))

def files (elapsed : Duration) : Run State → List Path → Effect Notice (Run State)
  | r, [] => .done r
  | r, path :: paths => (w.file elapsed r path).andThen fun r => files elapsed r paths

def checks (elapsed : Duration) (filter : Option String) (o : Options Path) : Effect Notice (Run State) :=
  ((w.log.setUp filter o.level).relabel .line).andThen fun log => w.files elapsed (.start o log) o.files

def ended (e : Effect Notice (Run State)) : Nat × Output Notice :=
  match e.result with
  | .error status => (status, e.output)
  | .ok r => (r.exitStatus, e.output)

def check (elapsed : Duration) (filter : Option String) (o : Options Path) : Nat × Output Notice :=
  ended (w.checks elapsed filter o)

def run (elapsed : Duration) (filter : Option String) (arguments : List Argument) : Nat × Output Notice :=
  ended (((w.parse arguments).relabel .line).andThen (w.checks elapsed filter))

end Host

end BracketBalance.CommandLine
