import Thxnet.Crowdfunding.State

/-!
# Basis points

`bps_of` computes a share of an amount on saturating `u128`s.  Saturation only
ever cuts the result off at a constant (`bpsOf_eq`), so the two properties the
pallet relies on hold for every amount: a share is never more than the amount,
and splitting an amount never makes the shares of its pieces add up to less.
-/

namespace Thxnet.Crowdfunding

open Thxnet.Lib

/-- `bps_of` is the share rounded up, cut off at a constant. -/
theorem bpsOf_eq (amount bps : Nat) :
    bpsOf amount bps =
      min ((amount * min bps 10000) ⌈/⌉ 10000) (maxValue 128 / 10000) := by
  unfold bpsOf saturatingAdd saturatingMul
  rw [Nat.ceilDiv_eq_add_pred_div]
  by_cases hzero : min bps 10000 = 0
  · simp [hzero]
  · rw [if_neg hzero]
    generalize amount * min bps 10000 = x
    have hmax : 10000 ≤ maxValue 128 := by decide
    generalize maxValue 128 = m at hmax ⊢
    omega

theorem bpsOf_le (amount bps : Nat) : bpsOf amount bps ≤ amount := by
  rw [bpsOf_eq]
  refine Nat.le_trans (Nat.min_le_left _ _) ?_
  rw [ceilDiv_le_iff_le_mul (by decide), Nat.mul_comm]
  exact Nat.mul_le_mul_right amount (Nat.min_le_right _ _)

theorem bpsOf_eq_zero_iff {amount bps : Nat} (hpos : amount ≠ 0) :
    bpsOf amount bps = 0 ↔ bps = 0 := by
  constructor
  · intro hzero
    by_contra hbps
    have hmul : 1 ≤ amount * min bps 10000 :=
      Nat.mul_pos (Nat.pos_of_ne_zero hpos) (by omega)
    have hcut : 1 ≤ maxValue 128 / 10000 := by decide
    rw [bpsOf_eq, Nat.ceilDiv_eq_add_pred_div] at hzero
    generalize maxValue 128 / 10000 = cut at hcut hzero
    omega
  · rintro rfl
    rfl

/-- The shares of the pieces of an amount add up to at least its own share. -/
theorem bpsOf_sum_le (pieces : List Nat) (bps : Nat) :
    bpsOf pieces.sum bps ≤ (pieces.map (bpsOf · bps)).sum := by
  have hpieces : (pieces.map (bpsOf · bps)).sum =
      (pieces.map fun a =>
        min ((a * min bps 10000) ⌈/⌉ 10000) (maxValue 128 / 10000)).sum := by
    congr 1
    exact List.map_congr_left fun a _ => bpsOf_eq a bps
  have hsplit := ceilDiv_sum_le (by decide : 0 < 10000)
    (pieces.map (· * min bps 10000))
  rw [List.sum_map_mul_right, List.map_map] at hsplit
  rw [hpieces, bpsOf_eq]
  calc
    min ((pieces.sum * min bps 10000) ⌈/⌉ 10000) (maxValue 128 / 10000)
        ≤ min ((pieces.map fun a => (a * min bps 10000) ⌈/⌉ 10000).sum)
            (maxValue 128 / 10000) := by
          refine Nat.le_min.mpr ⟨?_, Nat.min_le_right _ _⟩
          refine Nat.le_trans (Nat.min_le_left _ _) ?_
          simpa [Function.comp_def] using hsplit
    _ ≤ _ := min_sum_map_le _ _ pieces

end Thxnet.Crowdfunding
