import Thxnet.Frame.Preserving
import Thxnet.Frame.Reserves

/-!
# Reserves that change hands

`Repatriations C` is the contract of a currency whose reserves move from one
account to another: what is moved is at most what was asked for, and all that
there is of it where nothing is frozen.  No operation freezes anything, and
nothing as large as the greatest `u128` is ever reserved.

The balances pallet keeps the contract as long as all accounts together hold
less than that.  `w.held` is what they hold; none of the operations adds to it.
-/

namespace Thxnet.Frame

open Thxnet.Lib

/-! ## The contract -/

/-- What is set aside, what is frozen, and how reserves move. -/
structure Repatriations {A W : Type} [DecidableEq A]
    (C : RepatriatingCurrency A W) extends Reserves C.toReservableCurrency
    where
  frozen : W → A → Nat
  reserve_lt : ∀ {w w' who amount}, InOrder w →
    C.reserve w who amount = .ok w' → amount < maxValue 128
  repatriate : ∀ {w w' slashed beneficiary amount status}, InOrder w →
    C.repatriateReserved w slashed beneficiary amount status = .ok w' →
    InOrder w' ∧ ∃ moved, moved ≤ amount ∧
      (frozen w slashed = 0 → moved = min amount (reserved w slashed)) ∧
      ∀ x, reserved w' x + (if x = slashed then moved else 0) =
        reserved w x +
          (if x = beneficiary ∧ status = .reserved then moved else 0)
  frozen_reserve : ∀ {w w' who amount}, InOrder w →
    C.reserve w who amount = .ok w' → ∀ x, frozen w' x ≤ frozen w x
  frozen_unreserve : ∀ {w} who amount, InOrder w →
    ∀ x, frozen (C.unreserve w who amount) x ≤ frozen w x
  frozen_transfer : ∀ {w w' source dest amount req}, InOrder w →
    C.transfer w source dest amount req = .ok w' →
    ∀ x, frozen w' x ≤ frozen w x
  frozen_repatriate : ∀ {w w' slashed beneficiary amount status}, InOrder w →
    C.repatriateReserved w slashed beneficiary amount status = .ok w' →
    ∀ x, frozen w' x ≤ frozen w x

/-! ## What all accounts hold -/

namespace Balances

variable {A : Type} [DecidableEq A] {C : BalancesConfig}

/-- What all accounts hold together. -/
def held (w : Balances A) : Nat := w.account.sum AccountInfo.total

theorem total_le_held (w : Balances A) (who : A) :
    (w.info who).total ≤ w.held := by
  have hsum := (changesOnly_remove w who).sum_total
  rw [info_remove_self] at hsum
  have hzero : (default : AccountInfo).total = 0 := rfl
  unfold held
  omega

variable {dest source who : A} {w w' : Balances A} {amount value : Nat}

variable {f : AccountData → Except DispatchError AccountData}

/-- An account that is written to holds at most what was written, less what is
dropped as dust. -/
theorem total_tryMutateAccount_le {data : AccountData} {dust : Option Nat}
    (hmut : w.tryMutateAccount C who f = .ok (w', dust))
    (hf : f (w.info who).data = .ok data) :
    (w'.info who).total + dust.getD 0 ≤ data.free + data.reserved := by
  have hstore : ∀ (w₁ : Balances A) (d : AccountData),
      ((w₁.store who d).info who).total ≤ d.free + d.reserved := by
    intro w₁ d
    unfold store
    split
    · rw [info_mutate_self]
      exact Nat.le_refl _
    · rw [info_remove_self]
      exact Nat.zero_le _
  simp only [Balances.tryMutateAccount, hf, do_eq_ok, Except.ok.injEq,
    exists_eq_left'] at hmut
  obtain ⟨w₁, _, heq⟩ := hmut
  split at heq
  · cases heq
    have hzero : ((w₁.store who default).info who).total ≤ 0 :=
      hstore w₁ default
    split
    · show _ + 0 ≤ _
      omega
    · show _ + data.free ≤ _
      omega
  · cases heq
    exact hstore w₁ data

theorem Anchored.held_tryMutateAccount {data : AccountData} {dust : Option Nat}
    (h : w.Anchored) (hmut : w.tryMutateAccount C who f = .ok (w', dust))
    (hf : f (w.info who).data = .ok data) :
    w'.held + (w.info who).total ≤ w.held + (data.free + data.reserved) := by
  have hsum := (h.changesOnly hmut).sum_total
  have hle := total_tryMutateAccount_le hmut hf
  unfold held
  omega

theorem Anchored.held_reserve (h : w.Anchored)
    (hok : w.reserve C who value = .ok w') :
    w'.held ≤ w.held ∧ value ≤ (w.info who).data.free := by
  rcases reserve_writes hok with ⟨hzero, rfl⟩ |
    ⟨hcovered, w₁, dust, rfl, f, hmut, hf⟩
  · exact ⟨Nat.le_refl _, by omega⟩
  · have hheld := h.held_tryMutateAccount hmut hf
    dsimp only [AccountInfo.total] at hheld
    exact ⟨show w₁.held ≤ w.held by omega, hcovered⟩

theorem Anchored.held_unreserve (h : w.Anchored) (who : A) (value : Nat) :
    (w.unreserve C who value).held ≤ w.held := by
  unfold Balances.unreserve
  split
  · exact Nat.le_refl _
  · cases hmut : w.tryMutateAccount C who (fun a => .ok
      { a with
        reserved := a.reserved - min a.reserved value
        free := saturatingAdd 128 a.free (min a.reserved value) }) with
    | error e => exact Nat.le_refl _
    | ok p =>
        obtain ⟨w₁, dust⟩ := p
        have hheld := h.held_tryMutateAccount hmut rfl
        dsimp only [AccountInfo.total] at hheld
        have hsat := saturatingAdd_le 128 (w.info who).data.free
          (min (w.info who).data.reserved value)
        show w₁.held ≤ w.held
        omega

theorem Anchored.decreased {preservation : Preservation}
    {fortitude : Fortitude} (h : w.Anchored)
    (hle : amount ≤ w.reducibleBalance C who preservation fortitude)
    (hok : w.decreaseBalance C who amount preservation fortitude = .ok w') :
    ∃ w₁ dust, w' = w₁.dropImbalance dust ∧ ChangesOnly who w w₁ ∧
      (w₁.info who).total + dust + amount ≤ (w.info who).total := by
  have hwrites := decreaseBalance_writes hok
  rw [Nat.min_eq_left hle] at hwrites
  obtain ⟨hfree, w₁, dust, rfl, f, hmut, hf⟩ := hwrites
  have htotal := total_tryMutateAccount_le hmut hf
  refine ⟨w₁, _, rfl, h.changesOnly hmut, ?_⟩
  dsimp only [AccountInfo.total] at htotal ⊢
  omega

theorem Anchored.increased (h : w.Anchored)
    (hok : w.increaseBalance C who amount = .ok w') :
    ∃ w₁ dust, w' = w₁.dropImbalance dust ∧ ChangesOnly who w w₁ ∧
      (w₁.info who).total + dust ≤ (w.info who).total + amount := by
  rcases increaseBalance_writes hok with rfl | ⟨w₁, dust, rfl, f, hmut, hf⟩
  · exact ⟨w', 0, rfl, .refl _ _, Nat.le_add_right _ _⟩
  · have htotal := total_tryMutateAccount_le hmut hf
    have hsat := saturatingAdd_le 128 (w.info who).data.free amount
    refine ⟨w₁, _, rfl, h.changesOnly hmut, ?_⟩
    dsimp only [AccountInfo.total] at htotal ⊢
    omega

private theorem fungibleTransfer_eq_ok {preservation : Preservation}
    (hne : source ≠ dest)
    (hle : ∀ rest, (w.canWithdraw C source amount).intoResult (preservation ≠
      .expendable) = .ok rest → amount ≤ w.reducibleBalance C source
      preservation .polite)
    (hok : w.fungibleTransfer C source dest amount preservation = .ok w') :
    amount ≤ w.reducibleBalance C source preservation .polite ∧
    ∃ w₁, w.decreaseBalance C source amount preservation .polite = .ok w₁ ∧
      (w' = w₁ ∨ w₁.increaseBalance C dest amount = .ok w') := by
  simp only [fungibleTransfer, bind_eq_ok, if_neg hne] at hok
  obtain ⟨rest, hwithdraw, _, _, w₁, hdec, heq⟩ := hok
  refine ⟨hle rest hwithdraw, w₁, hdec, ?_⟩
  cases heq
  cases hinc : w₁.increaseBalance C dest amount with
  | error => exact .inl rfl
  | ok => exact .inr rfl

/-- A transfer changes the source, by at least the value, and then the
destination, by at most the value. -/
theorem Anchored.transferred {req : ExistenceRequirement} (h : w.Anchored)
    (hok : w.transfer C source dest value req = .ok w') :
    w' = w ∨ source ≠ dest ∧ ∃ w₁ w₂ d₁ d₂,
      ChangesOnly source w w₁ ∧
      (w₁.info source).total + d₁ + value ≤ (w.info source).total ∧
      ChangesOnly dest (w₁.dropImbalance d₁) w₂ ∧
      (w₂.info dest).total + d₂ ≤ (w₁.info dest).total + value ∧
      w' = w₂.dropImbalance d₂ := by
  unfold Balances.transfer at hok
  by_cases hnone : value = 0 ∨ source = dest
  · rw [if_pos hnone] at hok
    cases hok
    exact .inl rfl
  rw [if_neg hnone] at hok
  obtain ⟨hpos, hne⟩ := not_or.mp hnone
  obtain ⟨preservation, hle, w₁, hdec, hinc⟩ : ∃ preservation,
      value ≤ w.reducibleBalance C source preservation .polite ∧
      ∃ w₁, w.decreaseBalance C source value preservation .polite = .ok w₁ ∧
        (w' = w₁ ∨ w₁.increaseBalance C dest value = .ok w') := by
    cases req with
    | keepAlive =>
        exact ⟨_, fungibleTransfer_eq_ok hne (fun _ hwithdraw =>
          (le_reducibleBalance_preserve hpos).mpr
            (spares_of_canWithdraw hpos hwithdraw)) hok⟩
    | allowDeath =>
        exact ⟨_, fungibleTransfer_eq_ok hne (fun _ hwithdraw =>
          (canWithdraw_eq_ok hpos hwithdraw).2.1) hok⟩
  have hanchored := (h.decreaseBalance hdec).anchored
  obtain ⟨w₁, d₁, rfl, hchange, htaken⟩ := h.decreased hle hdec
  refine .inr ⟨hne, w₁, ?_⟩
  obtain rfl | hinc := hinc
  · exact ⟨w₁.dropImbalance d₁, d₁, 0, hchange, htaken, .refl _ _,
      Nat.le_add_right _ _, rfl⟩
  · obtain ⟨w₂, d₂, rfl, hchange₂, hgiven⟩ := hanchored.increased hinc
    exact ⟨w₂, d₁, d₂, hchange, htaken, hchange₂, hgiven, rfl⟩

/-- Dust leaves the issuance together with the accounts. -/
theorem Anchored.held_transfer {req : ExistenceRequirement} (h : w.Anchored)
    (hok : w.transfer C source dest value req = .ok w') :
    w'.held ≤ w.held ∧
      (w.held ≤ w.totalIssuance → w'.held ≤ w'.totalIssuance) := by
  obtain rfl | ⟨_, w₁, w₂, d₁, d₂, hchange, htaken, hchange₂, hgiven, rfl⟩ :=
    h.transferred hok
  · exact ⟨Nat.le_refl _, fun hissued => hissued⟩
  · have hsum : w₁.held + (w.info source).total =
        w.held + (w₁.info source).total := hchange.sum_total
    have hsum₂ : w₂.held + (w₁.info dest).total =
        w₁.held + (w₂.info dest).total := hchange₂.sum_total
    have hissuance := hchange.issuance
    have hissuance₂ : w₂.totalIssuance = w₁.totalIssuance - d₁ :=
      hchange₂.issuance
    show w₂.held ≤ w.held ∧ (_ → w₂.held ≤ w₂.totalIssuance - d₂)
    omega

theorem Anchored.held_withdraw {reasons : WithdrawReasons}
    {liveness : ExistenceRequirement} (h : w.Anchored)
    (hok : w.withdraw C who value reasons liveness = .ok w') :
    w'.held ≤ w.held := by
  rcases withdraw_writes hok with rfl | ⟨w₁, dust, rfl, f, hmut, hf⟩
  · exact Nat.le_refl _
  · have hheld := h.held_tryMutateAccount hmut hf
    dsimp only [AccountInfo.total] at hheld
    show w₁.held ≤ w.held
    omega

theorem Anchored.held_repatriateReserved {slashed beneficiary : A}
    {status : BalanceStatus} (h : w.Anchored)
    (hok : w.repatriateReserved C slashed beneficiary value status = .ok w') :
    w'.held ≤ w.held := by
  unfold Balances.repatriateReserved at hok
  by_cases hzero : value = 0
  · rw [if_pos hzero] at hok
    cases hok
    exact Nat.le_refl _
  rw [if_neg hzero] at hok
  have hactual : min value (w.reducibleTotalBalanceOnHold slashed) ≤
      (w.info slashed).data.reserved :=
    (Nat.min_le_right _ _).trans (Nat.sub_le _ _)
  generalize min value (w.reducibleTotalBalanceOnHold slashed) = actual
    at hok hactual
  dsimp only at hok
  by_cases hself : slashed = beneficiary
  · rw [if_pos hself] at hok
    cases status with
    | free =>
        cases hok
        exact h.held_unreserve slashed actual
    | reserved =>
        cases hok
        exact Nat.le_refl _
  · rw [if_neg hself] at hok
    simp only [do_eq_ok] at hok
    obtain ⟨_, credited, hcredit, ⟨w₁, dust₁⟩, hmut₁, ⟨w₂, dust₂⟩, hmut₂,
      heq⟩ := hok
    cases heq
    have hleaves₁ := h.tryMutateAccount hmut₁ rfl (h.fits slashed)
      (Nat.le_refl _)
    have hother : w₁.info beneficiary = w.info beneficiary :=
      (h.changesOnly hmut₁).info (Ne.symm hself)
    have hcredited := (creditReserved_eq_ok hcredit (h.fits beneficiary)).2.2.2
    have hheld₁ := h.held_tryMutateAccount hmut₁ rfl
    have hheld₂ := hleaves₁.anchored.held_tryMutateAccount hmut₂ rfl
    dsimp only [AccountInfo.total] at hheld₁ hheld₂
    rw [hother] at hheld₂
    show w₂.held ≤ w.held
    omega

end Balances

/-! ## The pallet keeps the contract -/

section Backed

variable {A W : Type} [DecidableEq A]

/-- The currency is the balances pallet, also where reserves move. -/
structure RepatriationBacked (C : RepatriatingCurrency A W) extends
    BalancesBacked C.toReservableCurrency where
  repatriate : ∀ w slashed beneficiary amount status,
    C.repatriateReserved w slashed beneficiary amount status =
      ((get w).repatriateReserved rules slashed beneficiary amount status).map
        (put w)

variable {C : RepatriatingCurrency A W} (B : RepatriationBacked C)

/-- The storages in which the balances pallet keeps the contract. -/
def RepatriationBacked.InOrder (w : W) : Prop :=
  (B.get w).Anchored ∧ (B.get w).held < maxValue 128

/-- The balances pallet moves reserves as it should. -/
def RepatriationBacked.repatriations : Repatriations C where
  reserved := fun w => (B.get w).reservedBalance
  InOrder := B.InOrder
  frozen := fun w x => ((B.get w).info x).data.frozen
  reserve := by
    rintro w w' who amount ⟨hw, hheld⟩ hok
    rw [B.reserve] at hok
    have hb := ok_of_map_put B.get_put hok
    exact ⟨⟨(hw.reserve hb).anchored,
      (hw.held_reserve hb).1.trans_lt hheld⟩, (hw.reserve hb).reserved⟩
  unreserve := by
    rintro w who amount ⟨hw, hheld⟩
    unfold RepatriationBacked.InOrder
    rw [B.unreserve, B.get_put]
    exact ⟨⟨(hw.unreserve who amount).anchored,
      (hw.held_unreserve who amount).trans_lt hheld⟩,
      (hw.unreserve who amount).reserved⟩
  transfer := by
    rintro w w' source dest amount req ⟨hw, hheld⟩ hok
    rw [B.transfer] at hok
    have hb := ok_of_map_put B.get_put hok
    exact ⟨⟨(hw.transfer hb).anchored, (hw.held_transfer hb).1.trans_lt hheld⟩,
      (hw.transfer hb).reserved⟩
  withdraw := by
    rintro w w' who amount reasons req ⟨hw, hheld⟩ hok
    rw [B.withdraw] at hok
    have hb := ok_of_map_put B.get_put hok
    exact ⟨⟨(hw.withdraw hb).anchored, (hw.held_withdraw hb).trans_lt hheld⟩,
      (hw.withdraw hb).reserved⟩
  reserve_lt := by
    rintro w w' who amount ⟨hw, hheld⟩ hok
    rw [B.reserve] at hok
    have hb := ok_of_map_put B.get_put hok
    have hfree := (hw.held_reserve hb).2
    have htotal := (B.get w).total_le_held who
    dsimp only [AccountInfo.total] at htotal
    omega
  repatriate := by
    rintro w w' slashed beneficiary amount status ⟨hw, hheld⟩ hok
    rw [B.repatriate] at hok
    have hb := ok_of_map_put B.get_put hok
    have hleaves := hw.repatriateReserved hb
    refine ⟨⟨hleaves.anchored,
      (hw.held_repatriateReserved hb).trans_lt hheld⟩,
      min amount ((B.get w).reducibleTotalBalanceOnHold slashed),
      Nat.min_le_left _ _, fun hfrozen => ?_, fun x => ?_⟩
    · rw [Balances.reducibleTotalBalanceOnHold, hfrozen, Nat.zero_sub]
      rfl
    · have hle : (B.get w).reducibleTotalBalanceOnHold slashed ≤
          (B.get w).reservedBalance slashed := Nat.sub_le _ _
      have hx := hleaves.reserved x
      show ((B.get w').info x).data.reserved + _ = _
      by_cases hs : x = slashed
      · subst hs
        rw [if_pos rfl] at hx ⊢
        omega
      · rw [if_neg hs] at hx ⊢
        omega
  frozen_reserve := by
    rintro w w' who amount ⟨hw, _⟩ hok
    rw [B.reserve] at hok
    have hb := ok_of_map_put B.get_put hok
    exact (hw.reserve hb).frozen_le
  frozen_unreserve := by
    rintro w who amount ⟨hw, _⟩
    rw [B.unreserve, B.get_put]
    exact (hw.unreserve who amount).frozen_le
  frozen_transfer := by
    rintro w w' source dest amount req ⟨hw, _⟩ hok
    rw [B.transfer] at hok
    have hb := ok_of_map_put B.get_put hok
    exact (hw.transfer hb).frozen_le
  frozen_repatriate := by
    rintro w w' slashed beneficiary amount status ⟨hw, _⟩ hok
    rw [B.repatriate] at hok
    have hb := ok_of_map_put B.get_put hok
    exact (hw.repatriateReserved hb).frozen_le

end Backed

end Thxnet.Frame
