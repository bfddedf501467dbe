/-
  BracketBalance.Proofs.Position — positions in the order they are read.

  `<` on positions is a strict order, and a cursor only moves forward: every
  position up to the cursor is before the character about to be read, and that
  character is not after the cursor once it is read.
-/

import BracketBalance.Text.Position

namespace BracketBalance

namespace Position

variable {p q r : Position}

theorem lt_trans (h : p < q) (k : q < r) : p < r := by
  rw [lt_def] at *
  omega

theorem lt_irrefl (p : Position) : ¬ p < p := by
  rw [lt_def]
  omega

theorem le_refl (p : Position) : p ≤ p := Or.inr rfl

theorem le_of_lt (h : p < q) : p ≤ q := Or.inl h

theorem lt_of_le_of_lt (h : p ≤ q) (k : q < r) : p < r := by
  rcases h with h | rfl
  · exact lt_trans h k
  · exact k

theorem le_trans (h : p ≤ q) (k : q ≤ r) : p ≤ r := by
  rcases k with k | rfl
  · exact le_of_lt (lt_of_le_of_lt h k)
  · exact h

end Position

namespace Cursor

theorem position_lt_next (k : Cursor) : k.position < k.next :=
  Or.inr ⟨rfl, Nat.lt_succ_self k.column⟩

/-- A character other than a line feed is where the cursor then stands. -/
theorem position_advance {c : Char} (h : c ≠ '\n') (k : Cursor) : (k.advance c).position = k.next := by
  simp [advance, h, position, next]

theorem next_le_position_advance (k : Cursor) (c : Char) : k.next ≤ (k.advance c).position := by
  by_cases h : c = '\n'
  · left
    simp [advance, h, position, next, Position.lt_def]
  · rw [position_advance h]
    exact Position.le_refl _

theorem position_le_advance (k : Cursor) (c : Char) : k.position ≤ (k.advance c).position :=
  Position.le_trans (Position.le_of_lt k.position_lt_next) (k.next_le_position_advance c)

end Cursor

end BracketBalance
