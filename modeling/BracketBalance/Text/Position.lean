/-
  BracketBalance.Text.Position — where a character stands in a text.

  Lines and columns count from 1, columns in characters. A line feed stands right
  after the last character of the line it ends. Positions are ordered as text is
  read: by line, then by column.

  A `Cursor` walks over a text and says where each character stands: `next` is the
  position of the character about to be read, `position` that of the last one read
  (column 0 where a line has just begun).
-/

namespace BracketBalance

structure Position where
  line : Nat
  column : Nat
  deriving DecidableEq, Repr

namespace Position

instance : LT Position := ⟨fun p q => p.line < q.line ∨ (p.line = q.line ∧ p.column < q.column)⟩

instance : LE Position := ⟨fun p q => p < q ∨ p = q⟩

theorem lt_def {p q : Position} : p < q ↔ p.line < q.line ∨ (p.line = q.line ∧ p.column < q.column) := Iff.rfl

theorem le_def {p q : Position} : p ≤ q ↔ p < q ∨ p = q := Iff.rfl

instance (p q : Position) : Decidable (p < q) := decidable_of_iff _ lt_def.symm

instance (p q : Position) : Decidable (p ≤ q) := decidable_of_iff _ le_def.symm

/-- The order of two positions in a text. -/
def order (p q : Position) : Ordering := if p < q then .lt else if p = q then .eq else .gt

def text (p : Position) : String := toString p.line ++ ":" ++ toString p.column

end Position

structure Cursor where
  line : Nat
  column : Nat
  deriving DecidableEq, Repr

namespace Cursor

/-- Before the first character of a text. -/
def start : Cursor := ⟨1, 0⟩

/-- Where the character about to be read stands. -/
def next (k : Cursor) : Position := ⟨k.line, k.column + 1⟩

/-- Where the last character read stands; column 0 at the start of a line. -/
def position (k : Cursor) : Position := ⟨k.line, k.column⟩

def advance (k : Cursor) (c : Char) : Cursor :=
  if c = '\n' then ⟨k.line + 1, 0⟩ else ⟨k.line, k.column + 1⟩

end Cursor

end BracketBalance
