/-
  BracketBalance.Log.Backend — what prints the log.

  The program only makes records. Which of them are printed, and how, is up to a back
  end. It is set up once, by the text of a filter or by a level, and is then given the
  records one by one; what it keeps from one to the next is its state. It may print
  anything, and it may end the process.

  What the program relies on is `Backend.Aside`: a back end leaves the standard output
  alone and never ends the process.
-/

import BracketBalance.Effect
import BracketBalance.Log.Record

namespace BracketBalance.Log

/-- A record as a back end gets it. -/
structure Event where
  level : Level
  target : String
  text : String
  deriving DecidableEq, Repr

def Record.event (elapsed : Duration) (r : Record) : Event := ⟨r.level, r.target, r.message elapsed⟩

structure Backend (State : Type) where
  ofLevel : Level → Effect String State
  ofFilter : String → Effect String State
  print : State → Event → Effect String State

namespace Backend

variable {State : Type} (b : Backend State)

/-- The back end of a run. A filter, if there is one, takes the place of the level. -/
def setUp (filter : Option String) (level : Level) : Effect String State :=
  match filter with
  | some text => b.ofFilter text
  | none => b.ofLevel level

def printAll : State → List Event → Effect String State
  | s, [] => .done s
  | s, e :: es => (b.print s e).andThen fun s => printAll s es

structure Aside : Prop where
  ofLevel : ∀ level, (b.ofLevel level).Aside
  ofFilter : ∀ text, (b.ofFilter text).Aside
  print : ∀ s e, (b.print s e).Aside

variable {b}

theorem Aside.setUp (h : b.Aside) (filter : Option String) (level : Level) : (b.setUp filter level).Aside := by
  cases filter with
  | none => exact h.ofLevel level
  | some text => exact h.ofFilter text

theorem Aside.printAll (h : b.Aside) (s : State) (es : List Event) : (b.printAll s es).Aside := by
  induction es generalizing s with
  | nil => exact Effect.aside_done s
  | cons e es ih => exact (h.print s e).andThen ih

end Backend

end BracketBalance.Log
