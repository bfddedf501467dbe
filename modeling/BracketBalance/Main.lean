/-
  BracketBalance.Main — the command, with its files, its environment and its clock.

  Everything the command decides is decided in `CommandLine`; here the files are
  read and the answers printed, one file after the other. The environment variable
  RUST_LOG holds the filter for the log, if it is set at all.
-/

import BracketBalance.CommandLine.Run

namespace BracketBalance.Main

open BracketBalance.CommandLine

/-- What the system said, with its number for it. -/
def faultOf : IO.Error → ReadFault
  | .alreadyExists _ code text | .invalidArgument _ code text | .permissionDenied _ code text
  | .resourceExhausted _ code text | .inappropriateType _ code text | .noSuchThing _ code text
  | .interrupted _ code text | .noFileOrDirectory _ code text | .otherError code text
  | .resourceBusy code text | .resourceVanished code text | .unsupportedOperation code text
  | .hardwareFault code text | .unsatisfiedConstraints code text | .illegalOperation code text
  | .protocolError code text | .timeExpired code text => .system text code.toNat
  | .unexpectedEof => .system "Unexpected end of file" 0
  | .userError text => .system text 0

def readDocument (path : String) : IO Document := do
  let bytes ← (do (← IO.FS.Handle.mk path .read).readBinToEnd : IO ByteArray).toBaseIO
  return match bytes with
    | .ok bytes => .ofBytes bytes
    | .error e => .error (faultOf e)

def print (output : Output Notice) : IO Unit := do
  IO.print output.stdout
  (← IO.getStdout).flush
  for notice in output.stderr do IO.eprintln notice.text

def perform {Value : Type} (e : Effect Notice Value) : IO (Except Nat Value) := do
  print e.output
  return e.result

def checkFiles (log : Log.Backend Log.Printer) (r : Run Log.Printer) : List String → IO Nat
  | [] => return r.exitStatus
  | path :: paths => do
    let document ← readDocument path
    let began ← IO.monoNanosNow
    let checked := document.check r.config path
    let records := match checked with
      | .ok (_, records) => records.length
      | .error _ => 0
    let ended ← if records = 0 then pure began else IO.monoNanosNow
    match ← perform (r.file log (.ofNanoseconds (ended - began)) path checked) with
    | .error status => return status
    | .ok r => checkFiles log r paths

/-- Carries out a command line, and gives its exit status. -/
def carryOut (arguments : List String) : IO Nat := do
  match ← perform ((parse arguments).relabel .line) with
  | .error status => return status
  | .ok o =>
    let filter ← IO.getEnv "RUST_LOG"
    match ← perform ((Log.Printer.backend.setUp filter o.level).relabel .line) with
    | .error status => return status
    | .ok log => checkFiles Log.Printer.backend (.start o log) o.files

end BracketBalance.Main

def main (arguments : List String) : IO UInt32 := do
  return (← BracketBalance.Main.carryOut arguments).toUInt32
