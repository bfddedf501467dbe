/-
  BracketBalance.Proofs.Counts — what fits into a count.

  Lines are natural numbers here, and counts of 64 bits where a text is checked. An
  operation on counts has the exact result if that is a count, and else it fails
  (`count?`) or stops at the nearest one (`nearestCount`). A calculation written with
  these two has a result only if it never leaves the range of counts.
-/

import BracketBalance.Progress

namespace BracketBalance

/-- The count `n`, if it is one. -/
def count? (n : Int) : Option Nat := if 0 ≤ n ∧ n ≤ countLimit then some n.toNat else none

/-- The count nearest to `n`. -/
def nearestCount (n : Int) : Nat := min n.toNat countLimit

theorem count?_of_le {n : Nat} (h : n ≤ countLimit) : count? n = some n := by
  rw [count?, if_pos (by omega), Int.toNat_natCast]

theorem count?_add_one {n : Nat} (h : n < countLimit) : count? (n + 1) = some (n + 1) :=
  count?_of_le (n := n + 1) h

theorem count?_pred {n : Nat} (hn : 1 ≤ n) (h : n ≤ countLimit) : count? (n - 1) = some (n - 1) := by
  rw [count?, if_pos (by omega)]
  congr 1
  omega

theorem nearestCount_natCast (n : Nat) : nearestCount n = min n countLimit := by
  rw [nearestCount, Int.toNat_natCast]

theorem nearestCount_add (m n : Nat) : nearestCount (m + n) = min (m + n) countLimit := nearestCount_natCast (m + n)

theorem nearestCount_mul (m n : Nat) : nearestCount (m * n) = min (m * n) countLimit := nearestCount_natCast (m * n)

/-- Below zero the nearest count is zero, as it is for natural numbers. -/
theorem nearestCount_sub {m : Nat} (h : m ≤ countLimit) (n : Nat) : nearestCount (m - n) = m - n := by
  rw [nearestCount, Int.toNat_sub]
  omega

end BracketBalance
