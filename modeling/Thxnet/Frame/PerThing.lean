import Mathlib.Tactic.Ring
import Thxnet.Lib.Rounding

/-!
# Parts-per-thing arithmetic

`sp_arithmetic::per_things`: a fraction in `[0, 1]` stored as a number of parts
per `accuracy`.  The two operations modelled are the conversion of a ratio
`p / q`, which always rounds down, and the multiplication of a balance, which
rounds to the nearest unit with ties down.

`PerThing.fromRational_eq` and `PerThing.mul_eq` give both in closed form for a
type whose accuracy fits its inner integer: the intermediate truncations of the
source (a remainder saturated into the inner integer, a quotient saturated
again) never bite.
-/

namespace Thxnet.Frame

open Thxnet.Lib

/-- The rounding method for unsigned quantities. -/
inductive Rounding where
  | up
  | down
  | nearestPrefUp
  | nearestPrefDown
  deriving DecidableEq, Repr

/-- Whether a division by `c` that left `remainder` is rounded up. -/
def Rounding.roundsUp (r : Rounding) (remainder c : Nat) : Bool :=
  match r with
  | .up => decide (0 < remainder)
  | .down => false
  | .nearestPrefUp => decide (c / 2 + c % 2 ≤ remainder)
  | .nearestPrefDown => decide (c / 2 < remainder)

/-- `a * b / c` on `u128` with a double-width product. -/
def multiplyByRationalWithRounding (a b c : Nat) (r : Rounding) : Option Nat :=
  if c = 0 then none
  else if maxValue 128 < a * b / c then none
  else if r.roundsUp (a * b % c) c then
    if a * b / c + 1 ≤ maxValue 128 then some (a * b / c + 1) else none
  else some (a * b / c)

/-- One instance of `implement_per_thing!`: the accuracy, the width of the inner
integer and of the integer its products are computed in. -/
structure PerThing where
  accuracy : Nat
  innerBits : Nat
  upperBits : Nat
  accuracy_pos : 0 < accuracy
  accuracy_le : accuracy ≤ maxValue innerBits
  upper_fits : accuracy * accuracy ≤ maxValue upperBits

/-- `Permill`: parts per million in a `u32`, multiplied in a `u64`. -/
def permill : PerThing where
  accuracy := 1000000
  innerBits := 32
  upperBits := 64
  accuracy_pos := by decide
  accuracy_le := by decide
  upper_fits := by decide

namespace PerThing

variable (P : PerThing)

/-- `from_rational_with_rounding` for `u128` arguments. -/
def fromRationalWithRounding (p q : Nat) (r : Rounding) : Option Nat :=
  if q = 0 then none
  else if q < p then none
  else (multiplyByRationalWithRounding P.accuracy p q r).bind fun x =>
    if x ≤ maxValue P.innerBits then some x else none

/-- `from_rational`: rounds down, and is one when the ratio has no value. -/
def fromRational (p q : Nat) : Nat :=
  (P.fromRationalWithRounding p q .down).getD P.accuracy

/-- The error of `x / denom * numer` against `x * numer / denom`. -/
def rationalMulCorrection (x numer denom : Nat) (r : Rounding) : Nat :=
  let remInner := min (x % denom) (maxValue P.innerBits)
  let remMulUpper := remInner * numer
  let remMulDivInner := min (remMulUpper / denom) (maxValue P.innerBits)
  if r.roundsUp (remMulUpper % denom) denom then remMulDivInner + 1
  else remMulDivInner

/-- `overflow_prune_mul`: `x * part / accuracy` without an intermediate product
larger than `x`. -/
def overflowPruneMul (x part : Nat) (r : Rounding) : Nat :=
  x / P.accuracy * part + P.rationalMulCorrection x part P.accuracy r

/-- `ops::Mul` with a balance. -/
def mul (part b : Nat) : Nat := P.overflowPruneMul b part .nearestPrefDown

/-! ## Closed forms -/

/-- A ratio of `u128`s at most one is floored to the accuracy. -/
theorem fromRational_eq {p q : Nat} (hq : 0 < q) (hpq : p ≤ q)
    (hwidth : P.innerBits ≤ 128) :
    P.fromRational p q = P.accuracy * p / q := by
  have hle : P.accuracy * p / q ≤ P.accuracy := by
    apply Nat.div_le_of_le_mul
    rw [Nat.mul_comm q]
    exact Nat.mul_le_mul_left _ hpq
  have hinner : P.accuracy * p / q ≤ maxValue P.innerBits :=
    Nat.le_trans hle P.accuracy_le
  have h128 : maxValue P.innerBits ≤ maxValue 128 :=
    Nat.sub_le_sub_right (Nat.pow_le_pow_right (by decide) hwidth) 1
  have hmul : multiplyByRationalWithRounding P.accuracy p q .down =
      some (P.accuracy * p / q) := by
    simp [multiplyByRationalWithRounding, Rounding.roundsUp,
      Nat.ne_of_gt hq, Nat.not_lt.mpr (Nat.le_trans hinner h128)]
  simp [fromRational, fromRationalWithRounding, hmul, hinner,
    Nat.ne_of_gt hq, Nat.not_lt.mpr hpq]

/-- The ratio of equal amounts is one, also when both are zero. -/
theorem fromRational_self (q : Nat) (hwidth : P.innerBits ≤ 128) :
    P.fromRational q q = P.accuracy := by
  rcases Nat.eq_zero_or_pos q with rfl | hq
  · rfl
  · rw [P.fromRational_eq hq (Nat.le_refl q) hwidth]
    exact Nat.mul_div_cancel _ hq

/-- Multiplying a balance rounds the exact product to the nearest unit. -/
theorem mul_eq {part : Nat} (hpart : part ≤ P.accuracy) (b : Nat) :
    P.mul part b = roundNearest P.accuracy (part * b) := by
  have hrem : b % P.accuracy < P.accuracy := Nat.mod_lt _ P.accuracy_pos
  have hfits := P.accuracy_le
  have hquot : b % P.accuracy * part / P.accuracy ≤ maxValue P.innerBits := by
    have hle : b % P.accuracy * part / P.accuracy ≤ part := by
      apply Nat.div_le_of_le_mul
      exact Nat.mul_le_mul_right _ (Nat.le_of_lt hrem)
    omega
  -- Splitting off the whole multiples of the accuracy leaves the remainder's
  -- product, which decides the rounding.
  have hsplit : part * b =
      b % P.accuracy * part + P.accuracy * (b / P.accuracy * part) := by
    conv_lhs => rw [← Nat.mod_add_div b P.accuracy]
    ring
  have hdiv : part * b / P.accuracy =
      b % P.accuracy * part / P.accuracy + b / P.accuracy * part := by
    rw [hsplit, Nat.add_mul_div_left _ _ P.accuracy_pos]
  have hmod : part * b % P.accuracy =
      b % P.accuracy * part % P.accuracy := by
    rw [hsplit, Nat.add_mul_mod_self_left]
  unfold mul overflowPruneMul rationalMulCorrection roundNearest
  rw [hdiv, hmod]
  simp only [Rounding.roundsUp, decide_eq_true_eq,
    Nat.min_eq_left (Nat.le_trans (Nat.le_of_lt hrem) hfits),
    Nat.min_eq_left hquot]
  split <;> omega

end PerThing

end Thxnet.Frame
