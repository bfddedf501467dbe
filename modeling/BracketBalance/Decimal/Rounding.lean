/-
  BracketBalance.Decimal.Rounding — a quotient as the nearest whole number.

  `nearestQuotient n d` is the whole number nearest to n / d, and of two equally near ones
  the even one. `nearestQuotient_near` says it is within half of n / d, `nearestQuotient_even`
  that at exactly a half it is even; the two leave one number only.
-/

namespace BracketBalance

def nearestQuotient (n d : Nat) : Nat :=
  let q := n / d
  let r := n % d
  if d < 2 * r || (2 * r = d && q % 2 = 1) then q + 1 else q

theorem nearestQuotient_near (n : Nat) {d : Nat} (h : 0 < d) :
    2 * n ≤ 2 * (d * nearestQuotient n d) + d ∧ 2 * (d * nearestQuotient n d) ≤ 2 * n + d := by
  have hq := Nat.div_add_mod n d
  have hr := Nat.mod_lt n h
  simp only [nearestQuotient]
  split
  · rename_i hc
    simp only [Bool.or_eq_true, decide_eq_true_eq, Bool.and_eq_true] at hc
    rw [Nat.mul_add]
    omega
  · rename_i hc
    simp only [Bool.or_eq_true, decide_eq_true_eq, Bool.and_eq_true, not_or] at hc
    omega

theorem nearestQuotient_even (n d : Nat) (half : 2 * (n % d) = d) : nearestQuotient n d % 2 = 0 := by
  simp only [nearestQuotient, half]
  split
  · rename_i hc
    simp only [Nat.lt_irrefl, decide_false, Bool.false_or, decide_true, Bool.true_and,
      decide_eq_true_eq] at hc
    omega
  · rename_i hc
    simp only [Nat.lt_irrefl, decide_false, Bool.false_or, decide_true, Bool.true_and,
      decide_eq_true_eq] at hc
    omega

end BracketBalance
