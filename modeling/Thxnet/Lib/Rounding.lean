import Mathlib.Algebra.Order.Floor.Div
import Mathlib.Algebra.BigOperators.Group.List.Basic
import Mathlib.GroupTheory.GroupAction.Ring

/-!
# Saturating arithmetic and rounded shares

Machine integers that saturate or wrap, and the ways a share `x / d` is rounded
to a whole number of units: up (`⌈/⌉`), to the nearest unit with ties down
(`roundNearest`), and down, for the mean of some values.

A mean that is rounded down stays between the least and the greatest value
(`mul_le_mean`, `mean_le_mul`), and it does not fall when a value that is not
below it is added (`mean_le_add`) or one that is not above it taken away
(`mean_le_sub`).

For the upward rounding the fact of interest is that splitting never helps:
the rounded whole is at most the sum of the rounded pieces
(`ceilDiv_sum_le`), also under a common cap (`min_sum_map_le`).

For the nearest rounding the exact ledger is `sum_roundNearest`: counted in
`d`-ths of a unit, the rounded shares exceed the true ones by what the upward
roundings gained (`roundGain`) and fall short by what the downward ones lost
(`roundLoss`).  `sum_roundNearest_le_iff` reads off when the rounded shares of
a whole stay within it.
-/

namespace Thxnet.Lib

/-! ## Operations on `w`-bit unsigned integers -/

/-- The largest `w`-bit unsigned integer. -/
def maxValue (w : Nat) : Nat := 2 ^ w - 1

/-- `w`-bit saturating addition. -/
def saturatingAdd (w a b : Nat) : Nat := min (a + b) (maxValue w)

/-- `w`-bit saturating multiplication. -/
def saturatingMul (w a b : Nat) : Nat := min (a * b) (maxValue w)

/-- `w`-bit addition that wraps around. -/
def wrappingAdd (w a b : Nat) : Nat := (a + b) % 2 ^ w

/-- `w`-bit multiplication that wraps around. -/
def wrappingMul (w a b : Nat) : Nat := a * b % 2 ^ w

/-- `w`-bit subtraction that wraps around. -/
def wrappingSub (w a b : Nat) : Nat := (a + 2 ^ w - b) % 2 ^ w

theorem wrappingSub_one_lt {w n : Nat} (h : 0 < n) : wrappingSub w n 1 < n := by
  unfold wrappingSub
  rw [Nat.sub_add_comm h, Nat.add_mod_right]
  exact Nat.lt_of_le_of_lt (Nat.mod_le _ _) (by omega)

theorem saturatingAdd_eq {w a b : Nat} (h : a + b < 2 ^ w) :
    saturatingAdd w a b = a + b :=
  Nat.min_eq_left (Nat.le_sub_one_of_lt h)

theorem saturatingAdd_le (w a b : Nat) : saturatingAdd w a b ≤ a + b :=
  Nat.min_le_left _ _

theorem saturatingAdd_mono {w a a' b b' : Nat} (ha : a ≤ a') (hb : b ≤ b') :
    saturatingAdd w a b ≤ saturatingAdd w a' b' := by
  unfold saturatingAdd
  omega

/-! ## Means rounded down

`x` is the weighted sum of some values, `d` the sum of their weights, and `c`
the scale of the mean.
-/

theorem mul_le_mean {c lo x d : Nat} (hd : 0 < d) (h : lo * d ≤ x) :
    c * lo ≤ c * x / d := by
  rw [Nat.le_div_iff_mul_le hd, Nat.mul_assoc]
  exact Nat.mul_le_mul_left c h

theorem mean_le_mul {c hi x d : Nat} (h : x ≤ hi * d) : c * x / d ≤ c * hi := by
  refine Nat.div_le_of_le_mul ?_
  calc
    c * x ≤ c * (hi * d) := Nat.mul_le_mul_left c h
    _ = d * (c * hi) := by rw [← Nat.mul_assoc, Nat.mul_comm]

/-- A value that is not below the mean does not lower it. -/
theorem mean_le_add {c x d v w : Nat} (h : c * x / d ≤ c * v) (hw : 0 < w) :
    c * x / d ≤ c * (x + v * w) / (d + w) := by
  rw [Nat.le_div_iff_mul_le (by omega), Nat.mul_add, Nat.mul_add]
  have hold : c * x / d * d ≤ c * x := Nat.div_mul_le_self _ _
  have hnew : c * x / d * w ≤ c * (v * w) := by
    rw [← Nat.mul_assoc]
    exact Nat.mul_le_mul_right w h
  exact Nat.add_le_add hold hnew

/-- Without a value that is not above the mean, the mean is not lower. -/
theorem mean_le_sub {c x d v w : Nat}
    (h : c * v ≤ c * (x + v * w) / (d + w)) (hd : 0 < d) :
    c * (x + v * w) / (d + w) ≤ c * x / d := by
  rw [Nat.le_div_iff_mul_le hd]
  have hall : c * (x + v * w) / (d + w) * (d + w) ≤ c * (x + v * w) :=
    Nat.div_mul_le_self _ _
  have hold : c * v * w ≤ c * (x + v * w) / (d + w) * w :=
    Nat.mul_le_mul_right w h
  rw [Nat.mul_add, Nat.mul_add, ← Nat.mul_assoc c v w] at hall
  rw [Nat.mul_add, ← Nat.mul_assoc c v w] at hold ⊢
  omega

/-! ## Rounding up -/

/-- Rounding up the sum of two shares never exceeds rounding up each. -/
theorem add_ceilDiv_le {d : Nat} (hd : 0 < d) (x y : Nat) :
    (x + y) ⌈/⌉ d ≤ x ⌈/⌉ d + y ⌈/⌉ d := by
  rw [ceilDiv_le_iff_le_mul hd, Nat.mul_add]
  exact Nat.add_le_add (le_smul_ceilDiv hd) (le_smul_ceilDiv hd)

/-- Splitting an amount into pieces never lowers the sum of its upward
rounded shares. -/
theorem ceilDiv_sum_le {d : Nat} (hd : 0 < d) (l : List Nat) :
    l.sum ⌈/⌉ d ≤ (l.map (· ⌈/⌉ d)).sum := by
  induction l with
  | nil => simp
  | cons x l ih =>
      rw [List.sum_cons, List.map_cons, List.sum_cons]
      exact Nat.le_trans (add_ceilDiv_le hd x l.sum) (Nat.add_le_add_left ih _)

/-- A cap on every piece caps the sum at least as loosely as one cap on the
whole. -/
theorem min_sum_map_le {α : Type} (c : Nat) (f : α → Nat) (l : List α) :
    min (l.map f).sum c ≤ (l.map fun x => min (f x) c).sum := by
  induction l with
  | nil => simp
  | cons =>
      simp only [List.map_cons, List.sum_cons]
      omega

/-! ## Rounding to the nearest unit, ties down -/

/-- `x / d` rounded to the nearest whole number, ties down. -/
def roundNearest (d x : Nat) : Nat := x / d + if d / 2 < x % d then 1 else 0

/-- What rounding `x / d` up adds, in `d`-ths of a unit. -/
def roundGain (d x : Nat) : Nat := if d / 2 < x % d then d - x % d else 0

/-- What rounding `x / d` down drops, in `d`-ths of a unit. -/
def roundLoss (d x : Nat) : Nat := if d / 2 < x % d then 0 else x % d

theorem roundLoss_le (d x : Nat) : roundLoss d x ≤ d / 2 := by
  unfold roundLoss
  split <;> omega

/-- The rounded share against the true one, in `d`-ths of a unit. -/
theorem mul_roundNearest {d : Nat} (hd : 0 < d) (x : Nat) :
    d * roundNearest d x + roundLoss d x = x + roundGain d x := by
  have hdm := Nat.div_add_mod x d
  have hlt := Nat.mod_lt x hd
  unfold roundNearest roundLoss roundGain
  split
  · rw [Nat.mul_add, Nat.mul_one]
    omega
  · omega

/-- The rounded shares against the true ones over a whole list. -/
theorem sum_roundNearest {d : Nat} (hd : 0 < d) (l : List Nat) :
    d * (l.map (roundNearest d)).sum + (l.map (roundLoss d)).sum =
      l.sum + (l.map (roundGain d)).sum := by
  induction l with
  | nil => simp
  | cons x =>
      have hx := mul_roundNearest hd x
      simp only [List.map_cons, List.sum_cons, Nat.mul_add]
      omega

/-- Where the shares of all but one part of a whole are rounded, they stay
within the whole exactly when what is gained is covered by what is lost and the
remaining part. -/
theorem sum_roundNearest_le_iff {d : Nat} (hd : 0 < d) {l : List Nat}
    {whole part : Nat} (hsum : l.sum + part = d * whole) :
    (l.map (roundNearest d)).sum ≤ whole ↔
      (l.map (roundGain d)).sum ≤ (l.map (roundLoss d)).sum + part := by
  have h := sum_roundNearest hd l
  constructor
  · intro hle
    have hmul := Nat.mul_le_mul_left d hle
    omega
  · intro hle
    refine Nat.le_of_mul_le_mul_left ?_ hd
    omega

end Thxnet.Lib
