/-
  BracketBalance.Decimal.Fixed — a binary fraction with a fixed number of decimals.

  Every finite double is a whole number times a power of two, so its decimals can be
  rounded from its exact value: to the nearest, and at exactly a half to the even
  digit. The text is never in exponent form, however large the number.
-/

import BracketBalance.Decimal.Rounding

namespace BracketBalance

/-- The number `mantissa` · 2^`exponent`. -/
structure Dyadic where
  mantissa : Nat
  exponent : Int
  deriving DecidableEq, Repr

namespace Dyadic

def ofFloat (x : Float) : Dyadic :=
  let bits := x.toBits.toNat
  let fraction := bits % Nat.pow 2 52
  let biased := bits / Nat.pow 2 52 % Nat.pow 2 11
  if biased = 0 then ⟨fraction, -1074⟩ else ⟨Nat.pow 2 52 + fraction, Int.ofNat biased - 1075⟩

/-- The number times 10^`places`, as the nearest whole number. -/
def scaled (places : Nat) (x : Dyadic) : Nat :=
  match x.exponent with
  | .ofNat e => x.mantissa * Nat.pow 2 e * Nat.pow 10 places
  | .negSucc e => nearestQuotient (x.mantissa * Nat.pow 10 places) (Nat.pow 2 (e + 1))

def fixed (places : Nat) (x : Dyadic) : String :=
  let n := x.scaled places
  let decimals := toString (n % Nat.pow 10 places)
  toString (n / Nat.pow 10 places) ++ "." ++ String.ofList (List.replicate (places - decimals.length) '0') ++ decimals

end Dyadic

end BracketBalance
