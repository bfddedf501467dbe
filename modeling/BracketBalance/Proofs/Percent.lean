/-
  BracketBalance.Proofs.Percent — the percentage of a progress record.

  The whole number nearest to a rational is the even one of two that are equally near
  (`NearestEven`): it is at most a half away, and a larger rational has no smaller one
  (`NearestEven.mono`). The rounded quotient of two counts is the nearest whole number
  to their exact quotient (`nearestEven_quotient`), so it grows with the one and falls
  with the other (`nearestQuotient_mono`).

  `counted` is the percentage calculated in counts of 64 bits. Proved (`percent_exact`):
  up to a total of 2^63 it never leaves their range and is the nearest whole number, at
  most a hundred, and it goes back neither as lines are done nor as the total falls.
-/

import BracketBalance.Proofs.Counts
import Mathlib.Algebra.Order.Field.Basic
import Mathlib.Tactic.Linarith
import Mathlib.Tactic.Ring

namespace BracketBalance

/-- The whole number nearest to `x`, the even one if there are two. -/
structure NearestEven (x : ℚ) (r : ℤ) : Prop where
  nearest : ∀ m : ℤ, |x - r| ≤ |x - m|
  even : ∀ m : ℤ, m ≠ r → |x - m| = |x - r| → r % 2 = 0

namespace NearestEven

variable {x y : ℚ} {r q : ℤ}

theorem bounds (h : NearestEven x r) : r - 1 / 2 ≤ x ∧ x ≤ r + 1 / 2 := by
  have hup := sq_le_sq.mpr (h.nearest (r + 1))
  have hdown := sq_le_sq.mpr (h.nearest (r - 1))
  push_cast at hup hdown
  constructor <;> linarith

theorem even_of_half (h : NearestEven x r) (hx : x = r - 1 / 2 ∨ x = r + 1 / 2) : r % 2 = 0 := by
  rcases hx with hx | hx
  · refine h.even (r - 1) (by omega) ?_
    push_cast
    rw [hx, show (r : ℚ) - 1 / 2 - (r - 1) = 1 / 2 by ring, show (r : ℚ) - 1 / 2 - r = -(1 / 2) by ring, abs_neg]
  · refine h.even (r + 1) (by omega) ?_
    push_cast
    rw [hx, show (r : ℚ) + 1 / 2 - (r + 1) = -(1 / 2) by ring, show (r : ℚ) + 1 / 2 - r = 1 / 2 by ring, abs_neg]

/-- Whatever is at most a half away, and even if it is a half, is nearest. -/
theorem of_bounds (h : r - 1 / 2 ≤ x ∧ x ≤ r + 1 / 2) (he : x = r - 1 / 2 ∨ x = r + 1 / 2 → r % 2 = 0) :
    NearestEven x r := by
  have habs : |x - r| ≤ 1 / 2 := abs_le.mpr ⟨by linarith [h.1], by linarith [h.2]⟩
  have hfar : ∀ m : ℤ, m ≠ r → 1 - |x - r| ≤ |x - m| := by
    intro m hm
    have hone : (1 : ℚ) ≤ |(r : ℚ) - m| := by exact_mod_cast Int.one_le_abs (sub_ne_zero.mpr hm.symm)
    have htri := abs_sub_le (r : ℚ) x m
    rw [abs_sub_comm (r : ℚ) x] at htri
    linarith
  constructor
  · intro m
    by_cases hm : m = r
    · rw [hm]
    · linarith [hfar m hm]
  · intro m hm hsame
    have hhalf : |x - r| = 1 / 2 := le_antisymm habs (by linarith [hfar m hm])
    refine he ?_
    rcases abs_eq (by norm_num : (0 : ℚ) ≤ 1 / 2) |>.mp hhalf with hx | hx
    · exact .inr (by linarith)
    · exact .inl (by linarith)

theorem mono (h : NearestEven x r) (k : NearestEven y q) (hxy : x ≤ y) : r ≤ q := by
  by_contra hlt
  have hle : (q : ℚ) + 1 ≤ r := by exact_mod_cast (show q + 1 ≤ r by omega)
  have hx := h.bounds.1
  have hy := k.bounds.2
  -- both are halfway between the same two whole numbers, and these are not both even
  have hr : r = q + 1 := by
    have : (r : ℚ) = q + 1 := le_antisymm (by linarith) hle
    exact_mod_cast this
  have hr2 := h.even_of_half (.inl (by linarith))
  have hq2 := k.even_of_half (.inr (by linarith))
  omega

end NearestEven

/-! ## The rounded quotient -/

/-- A rounded quotient a half away from the quotient comes from a remainder of half the divisor. -/
theorem remainder_of_half {n d : Nat} (hd : 0 < d)
    (h : 2 * n + d = 2 * (d * nearestQuotient n d) ∨ 2 * n = 2 * (d * nearestQuotient n d) + d) :
    2 * (n % d) = d := by
  have hn := Nat.div_add_mod n d
  have hr := Nat.mod_lt n hd
  have hq : nearestQuotient n d = n / d ∨ nearestQuotient n d = n / d + 1 := by
    simp only [nearestQuotient]
    split
    · exact .inr rfl
    · exact .inl rfl
  rcases hq with hq | hq
  · rw [hq] at h
    omega
  · rw [hq, Nat.mul_add, Nat.mul_one] at h
    omega

theorem nearestEven_quotient (n : Nat) {d : Nat} (hd : 0 < d) :
    NearestEven ((n : ℚ) / d) (nearestQuotient n d : ℤ) := by
  obtain ⟨hup, hdown⟩ := nearestQuotient_near n hd
  have hd' : (0 : ℚ) < d := by exact_mod_cast hd
  have hup' : 2 * (n : ℚ) ≤ 2 * (d * nearestQuotient n d) + d := by exact_mod_cast hup
  have hdown' : 2 * ((d : ℚ) * nearestQuotient n d) ≤ 2 * n + d := by exact_mod_cast hdown
  refine .of_bounds ?_ ?_
  · rw [le_div_iff₀ hd', div_le_iff₀ hd']
    push_cast
    constructor <;> linarith
  · intro h
    have htie : 2 * n + d = 2 * (d * nearestQuotient n d) ∨ 2 * n = 2 * (d * nearestQuotient n d) + d := by
      rw [div_eq_iff hd'.ne', div_eq_iff hd'.ne'] at h
      push_cast at h
      rcases h with h | h
      · left
        have hcast : 2 * (n : ℚ) + d = 2 * (d * nearestQuotient n d) := by linarith
        exact_mod_cast hcast
      · right
        have hcast : 2 * (n : ℚ) = 2 * (d * nearestQuotient n d) + d := by linarith
        exact_mod_cast hcast
    have heven := nearestQuotient_even n d (remainder_of_half hd htie)
    omega

theorem nearestQuotient_mono {n n' d d' : Nat} (hd : 0 < d) (hd' : 0 < d') (h : n * d' ≤ n' * d) :
    nearestQuotient n d ≤ nearestQuotient n' d' := by
  have hle : (n : ℚ) / d ≤ n' / d' := by
    rw [div_le_div_iff₀ (by exact_mod_cast hd) (by exact_mod_cast hd')]
    exact_mod_cast h
  have hr := (nearestEven_quotient n hd).mono (nearestEven_quotient n' hd') hle
  exact_mod_cast hr

/-! ## The percentage -/

/-- The rounded quotient, with counts of 64 bits. -/
def countedQuotient (n d : Nat) : Option Nat :=
  if d = 0 then none
  else do
    let twice ← count? ((n % d : Nat) * 2)
    if d < twice || (twice = d && n / d % 2 = 1) then count? ((n / d : Nat) + 1) else some (n / d)

/-- The percentage of a known total, with counts of 64 bits: the product stops at what can be counted, and no other
    number may. -/
def Progress.counted (line total : Nat) : Option Nat :=
  (countedQuotient (nearestCount (line * (100 : Nat))) (max total 1)).map (min · 100)

/-- A divisor of at most half the range keeps every number of the calculation in it. -/
theorem countedQuotient_eq {n d : Nat} (hn : n ≤ countLimit) (hd : 0 < d) (hd' : d ≤ 2 ^ 63) :
    countedQuotient n d = some (nearestQuotient n d) := by
  have hlimit : countLimit = 2 ^ 64 - 1 := rfl
  have hr := Nat.mod_lt n hd
  have hq := Nat.div_le_self n d
  have htwice : count? ((n % d : Nat) * 2) = some (n % d * 2) := count?_of_le (n := n % d * 2) (by omega)
  rw [countedQuotient, if_neg (by omega), htwice]
  simp only [nearestQuotient, Nat.mul_comm 2]
  show (if _ then _ else _) = _
  split
  · rename_i hup
    -- a remainder is left, so the divisor is not 1 and the quotient is not the greatest count
    have hpos : 0 < n % d := by
      rcases Nat.eq_zero_or_pos (n % d) with h0 | h0
      · simp [h0] at hup
        omega
      · exact h0
    have hle := Nat.mod_le n d
    have hlt : n / d < n := Nat.div_lt_self (by omega) (by omega)
    exact count?_add_one (by omega)
  · rfl

theorem percent_eq (line total : Nat) : (⟨line, some total⟩ : Progress).percent =
    some (min (nearestQuotient (min (line * 100) countLimit) (max total 1)) 100) := rfl

theorem percent_counted (line : Nat) {total : Nat} (ht : total ≤ 2 ^ 63) :
    Progress.counted line total = (⟨line, some total⟩ : Progress).percent := by
  have hd : max total 1 ≤ 2 ^ 63 := Nat.max_le.mpr ⟨ht, by decide⟩
  rw [Progress.counted, nearestCount_mul, countedQuotient_eq (Nat.min_le_right _ _) (Nat.le_max_right _ _) hd,
    percent_eq]
  rfl

theorem percent_mono {line line' total total' : Nat} (hl : line ≤ line') (ht : total' ≤ total) :
    min (nearestQuotient (min (line * 100) countLimit) (max total 1)) 100
      ≤ min (nearestQuotient (min (line' * 100) countLimit) (max total' 1)) 100 := by
  have hn : min (line * 100) countLimit ≤ min (line' * 100) countLimit :=
    min_le_min_right _ (Nat.mul_le_mul_right 100 hl)
  have hd : max total' 1 ≤ max total 1 := max_le_max_right 1 ht
  exact min_le_min_right 100
    (nearestQuotient_mono (Nat.le_max_right _ _) (Nat.le_max_right _ _) (Nat.mul_le_mul hn hd))

/-- The percentage of a known total is a count, and no number on the way to it is out of range. It is the nearest whole
    number to the exact share unless that is past a hundred; it never falls when the line grows, and never rises when
    the total does. -/
theorem percent_exact (line : Nat) {total : Nat} (ht : total ≤ 2 ^ 63) :
    ∃ k, (⟨line, some total⟩ : Progress).percent = some k ∧ Progress.counted line total = some k ∧
      (100 * line < 2 ^ 64 → ∃ r : ℤ, NearestEven ((100 * line : Nat) / (max total 1 : Nat)) r ∧ (k : ℤ) = min 100 r) ∧
      (∀ line' k', line ≤ line' → (⟨line', some total⟩ : Progress).percent = some k' → k ≤ k') ∧
      ∀ total' k', total ≤ total' → total' ≤ 2 ^ 63 → (⟨line, some total'⟩ : Progress).percent = some k' → k' ≤ k := by
  refine ⟨_, percent_eq line total, (percent_counted line ht).trans (percent_eq line total), fun hn => ?_, ?_, ?_⟩
  · have hlimit : min (line * 100) countLimit = 100 * line := by
      have : countLimit = 2 ^ 64 - 1 := rfl
      omega
    refine ⟨_, nearestEven_quotient _ (Nat.le_max_right total 1), ?_⟩
    rw [hlimit, Nat.cast_min, min_comm]
    rfl
  · intro line' k' hle hk
    rw [percent_eq] at hk
    cases hk
    exact percent_mono hle (Nat.le_refl total)
  · intro total' k' hle _ hk
    rw [percent_eq] at hk
    cases hk
    exact percent_mono (Nat.le_refl line) hle

/-- Three of eight lines are 37.5 percent, and 38 is even. -/
theorem percent_exact_half : 8 ≤ 2 ^ 63 ∧ Progress.counted 3 8 = some 38 ∧
    ∃ r : ℤ, NearestEven ((100 * 3 : Nat) / (max 8 1 : Nat)) r ∧ ((38 : Nat) : ℤ) = min 100 r := by
  have hpercent : (⟨3, some 8⟩ : Progress).percent = some 38 := by decide
  obtain ⟨k, hk, hcounted, hnearest, -⟩ := percent_exact 3 (show 8 ≤ 2 ^ 63 by decide)
  obtain rfl : k = 38 := by
    rw [hpercent] at hk
    exact (Option.some.inj hk).symm
  exact ⟨by decide, hcounted, hnearest (by decide)⟩

end BracketBalance
