import Mathlib.Algebra.Order.Ring.Nat
import Thxnet.Frame.Repatriation

/-!
# What a transfer moves

A transfer gives the destination at most what it takes from the source and
leaves all other accounts alone.  So what a set of accounts holds together does
not grow unless the destination is in it and the source is not.

`Supply` says what is needed of a currency for this; `supply` that the balances
pallet has it.
-/

namespace Thxnet.Frame

open Thxnet.Lib

/-- Two distributions of balances that differ by one transfer. -/
structure Moved {A : Type} (source dest : A) (f g : A → Nat) : Prop where
  others : ∀ x, x ≠ source → x ≠ dest → g x = f x
  taken : g source ≤ f source
  given : source ≠ dest → g source + g dest ≤ f source + f dest

/-- What a set of accounts holds does not grow, unless by what comes from
outside. -/
theorem Moved.sum_le {A : Type} [DecidableEq A] {source dest : A}
    {f g : A → Nat} (h : Moved source dest f g) {F : Finset A}
    (hF : dest ∈ F → source ∈ F) : ∑ x ∈ F, g x ≤ ∑ x ∈ F, f x := by
  by_cases hinner : dest ∈ F ∧ source ≠ dest
  · obtain ⟨hdest, hne⟩ := hinner
    have hsource := hF hdest
    have hdest' : dest ∈ F.erase source :=
      Finset.mem_erase.mpr ⟨Ne.symm hne, hdest⟩
    have hrest : ∑ x ∈ (F.erase source).erase dest, g x =
        ∑ x ∈ (F.erase source).erase dest, f x := by
      refine Finset.sum_congr rfl fun x hx => ?_
      obtain ⟨hxd, hxs⟩ := Finset.mem_erase.mp hx
      exact h.others x (Finset.mem_erase.mp hxs).1 hxd
    have hgiven := h.given hne
    rw [← Finset.add_sum_erase F g hsource, ← Finset.add_sum_erase F f hsource,
      ← Finset.add_sum_erase _ g hdest', ← Finset.add_sum_erase _ f hdest',
      hrest]
    omega
  · refine Finset.sum_le_sum fun x hx => ?_
    by_cases hxs : x = source
    · rw [hxs]
      exact h.taken
    · have hxd : x ≠ dest := by
        intro hxd
        subst hxd
        exact hinner ⟨hx, Ne.symm hxs⟩
      exact (h.others x hxs hxd).le

/-- A currency with transfers, for what accounts hold in all. -/
structure Supply {A W : Type} (totalBalance : W → A → Nat) where
  /-- `total_issuance`. -/
  issuance : W → Nat
  transfer : W → A → A → Nat → ExistenceRequirement → Except DispatchError W
  InOrder : W → Prop
  backed : ∀ {w : W}, InOrder w → ∀ F : Finset A,
    ∑ x ∈ F, totalBalance w x ≤ issuance w
  transfer_inOrder : ∀ {w w' : W} {source dest : A} {amount : Nat}
    {req : ExistenceRequirement}, InOrder w →
    transfer w source dest amount req = .ok w' → InOrder w'
  transfer_moved : ∀ {w w' : W} {source dest : A} {amount : Nat}
    {req : ExistenceRequirement}, InOrder w →
    transfer w source dest amount req = .ok w' →
    Moved source dest (totalBalance w) (totalBalance w')

/-! ## The balances pallet -/

namespace Balances

variable {A : Type} [DecidableEq A] {C : BalancesConfig}

theorem Anchored.moved_transfer {w w' : Balances A} {source dest : A}
    {value : Nat} {req : ExistenceRequirement} (h : w.Anchored)
    (hok : w.transfer C source dest value req = .ok w') :
    Moved source dest (fun x => (w.info x).total)
      (fun x => (w'.info x).total) := by
  obtain rfl | ⟨hne, w₁, w₂, d₁, d₂, hchange, htaken, hchange₂, hgiven, rfl⟩ :=
    h.transferred hok
  · exact ⟨fun _ _ _ => rfl, Nat.le_refl _, fun _ => Nat.le_refl _⟩
  · have hsource : (w₂.info source).total = (w₁.info source).total := by
      rw [hchange₂.info hne]
      rfl
    have hdest : (w₁.info dest).total = (w.info dest).total := by
      rw [hchange.info (Ne.symm hne)]
    refine ⟨fun x hxs hxd => ?_, ?_, fun _ => ?_⟩
    · show (w₂.info x).total = (w.info x).total
      rw [hchange₂.info hxd, ← hchange.info hxs]
      rfl
    · show (w₂.info source).total ≤ (w.info source).total
      omega
    · show (w₂.info source).total + (w₂.info dest).total ≤
        (w.info source).total + (w.info dest).total
      omega

/-- Any accounts hold together at most what all of them do. -/
theorem sum_total_le_held (w : Balances A) (F : Finset A) :
    ∑ x ∈ F, (w.info x).total ≤ w.held := by
  have hzero : ∀ x ∈ F, x ∉ w.account.keys → (w.info x).total = 0 := by
    intro x _ hx
    rw [info_of_notMem hx]
    rfl
  calc
    ∑ x ∈ F, (w.info x).total
        = ∑ x ∈ F ∩ w.account.keys, (w.info x).total := by
      refine (Finset.sum_subset Finset.inter_subset_left ?_).symm
      intro x hx hnot
      exact hzero x hx fun hkey => hnot (Finset.mem_inter.mpr ⟨hx, hkey⟩)
    _ ≤ ∑ x ∈ w.account.keys, (w.info x).total :=
      Finset.sum_le_sum_of_subset Finset.inter_subset_right
    _ = w.held := Finset.sum_congr rfl fun x _ => (getD_total w x).symm

/-- The transfers of the balances pallet. -/
def supply (C : BalancesConfig) :
    Supply fun (w : Balances A) x => (w.info x).total where
  issuance := Balances.totalIssuance
  transfer := fun w source dest amount req => w.transfer C source dest amount req
  InOrder := fun w => w.Anchored ∧ w.held ≤ w.totalIssuance
  backed := fun hw F => (sum_total_le_held _ F).trans hw.2
  transfer_inOrder := fun hw hok =>
    ⟨(hw.1.transfer hok).anchored, (hw.1.held_transfer hok).2 hw.2⟩
  transfer_moved := fun hw hok => hw.1.moved_transfer hok

end Balances

end Thxnet.Frame
