/-
  BracketBalance.Log.Printer — the log on the standard error.

  A line has the level, the target and the message. The targets are padded to the
  widest one printed so far, so the messages line up from the second width on.
-/

import BracketBalance.Log.Filter

namespace BracketBalance.Log

def pad (width : Nat) (s : String) : String := s ++ String.ofList (List.replicate (width - s.length) ' ')

def Event.line (e : Event) (width : Nat) : String :=
  " " ++ pad 5 e.level.name ++ " " ++ pad width e.target ++ " > " ++ e.text

structure Printer where
  filter : Filter
  /-- The widest target printed so far. -/
  widest : Nat
  deriving DecidableEq, Repr

namespace Printer

def print (p : Printer) (e : Event) : Effect String Printer :=
  if p.filter.allows e then
    let width := max p.widest e.target.length
    ⟨⟨"", [e.line width]⟩, .ok { p with widest := width }⟩
  else .done p

/-- What cannot be read of a filter is told of. -/
def backend : Backend Printer where
  ofLevel level := .done ⟨.ofLevel level, 0⟩
  ofFilter text :=
    let (filter, warnings) := Filter.ofText text.toList
    ⟨⟨"", warnings.map (·.message)⟩, .ok ⟨filter, 0⟩⟩
  print := print

theorem aside : backend.Aside where
  ofLevel level := Effect.aside_done _
  ofFilter text := ⟨rfl, _, rfl⟩
  print p e := by
    show (print p e).Aside
    unfold print
    split
    · exact ⟨rfl, _, rfl⟩
    · exact Effect.aside_done p

end Printer

end BracketBalance.Log
