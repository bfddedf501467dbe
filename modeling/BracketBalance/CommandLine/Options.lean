/-
  BracketBalance.CommandLine.Options — what a command line asks for.

  A file is whatever the system names a file by (`Path`).
-/

import BracketBalance.Check

namespace BracketBalance.CommandLine

structure Options (Path : Type) where
  files : List Path
  grammar : Grammar
  contextBefore : Nat
  contextAfter : Nat
  noContext : Bool
  progressEvery : Nat
  quiet : Bool
  verbose : Bool
  deriving DecidableEq, Repr

namespace Options

variable {Path : Type} (o : Options Path)

def context : Option Window := if o.noContext then none else some ⟨o.contextBefore, o.contextAfter⟩

def config : Config := ⟨o.grammar, o.context, o.progressEvery⟩

def level : Log.Level := if o.quiet then .warn else if o.verbose then .debug else .info

end Options

end BracketBalance.CommandLine
