/-
  BracketBalance.CommandLine.Run — the command over a file system.
-/

import BracketBalance.CommandLine.Arguments
import BracketBalance.CommandLine.Command
import BracketBalance.Log.Printer

namespace BracketBalance.CommandLine

def host (read : String → Document) : Host String String Log.Printer := ⟨parse, id, read, Log.Printer.backend⟩

def run (read : String → Document) (elapsed : Duration) (filter : Option String) (arguments : List String) :
    Nat × Output Notice :=
  (host read).run elapsed filter arguments

end BracketBalance.CommandLine
