/-
  BracketBalance.Progress — how far a long scan has come.

  A `Reporter` sees line numbers and nothing else. It reports a line when it is at
  least `every` lines past the last one reported, and never when `every` is 0; a
  line number that goes back is not reported.

  Line numbers and totals are 64-bit counts, and a count past the limit stays at
  the limit: that is where the percentage of an enormous line stops growing.
-/

import BracketBalance.Decimal.Fixed

namespace BracketBalance

def countLimit : Nat := Nat.pow 2 64 - 1

/-- A span of time. -/
structure Duration where
  seconds : Nat
  nanoseconds : Nat
  deriving DecidableEq, Repr

namespace Duration

def zero : Duration := ⟨0, 0⟩

def ofNanoseconds (n : Nat) : Duration := ⟨n / Nat.pow 10 9, n % Nat.pow 10 9⟩

def toFloat (d : Duration) : Float := d.seconds.toUInt64.toFloat + d.nanoseconds.toUInt64.toFloat / 1e9

def text (d : Duration) : String := (Dyadic.ofFloat d.toFloat).fixed 2 ++ "s"

end Duration

structure Progress where
  /-- The line the scan has reached. -/
  line : Nat
  total : Option Nat
  deriving DecidableEq, Repr

namespace Progress

/-- The share of the lines that is done, in whole percent and at most 100. -/
def percent (p : Progress) : Option Nat :=
  p.total.map fun total => min (nearestQuotient (min (p.line * 100) countLimit) (max total 1)) 100

def message (p : Progress) (elapsed : Duration) : String :=
  let done := match p.total, p.percent with
    | some total, some percent =>
      toString p.line ++ "/" ++ toString total ++ " lines (" ++ toString percent ++ "%)"
    | _, _ => toString p.line ++ " lines"
  "[balance] processed ~" ++ done ++ ", elapsed " ++ elapsed.text

end Progress

structure Reporter where
  every : Nat
  total : Option Nat
  /-- The last line reported; 0 before the first. -/
  last : Nat
  emitted : Nat
  deriving DecidableEq, Repr

namespace Reporter

def start (every : Nat) (total : Option Nat) : Reporter := ⟨every, total, 0, 0⟩

/-- The scan moves onto `line`. -/
def reach (r : Reporter) (line : Nat) : Reporter × Option Progress :=
  if r.every = 0 || line - r.last < r.every then (r, none)
  else ({ r with last := line, emitted := r.emitted + 1 }, some ⟨line, r.total⟩)

end Reporter

end BracketBalance
