import Thxnet.Frame.Assets
import Thxnet.Frame.Transfers

/-!
# Transfers that keep their source alive

`KeepAlive` in `pallet_balances` and `Preserve` in `pallet_assets`: the source
may give what it has beyond its minimum balance, and no more.  A payment arrives
in full exactly when the source can spare it and the account it goes to can take
it (`Balances.transfer_keepAlive_iff`, `Ledger.transfer_preserve_iff`).
-/

namespace Thxnet.Frame

open Thxnet.Lib

theorem DepositConsequence.intoResult_eq_ok {c : DepositConsequence} :
    c.intoResult = .ok () ↔ c = .success := by
  cases c <;> simp [DepositConsequence.intoResult]

/-! ## The native token -/

namespace Balances

variable {A : Type} [DecidableEq A] {C : BalancesConfig}

variable {who : A} {w : Balances A} {amount : Nat}

/-- Where two more consumers fit, one can be taken on and one more still
fits. -/
theorem incConsumers_ok (h : w.canAccrueConsumers C who 2 = true) :
    ∃ w', w.incConsumers C who = .ok w' ∧
      w'.canAccrueConsumers C who 1 = true := by
  simp only [canAccrueConsumers, Bool.and_eq_true, decide_eq_true_eq] at h
  obtain ⟨hprov, hcons⟩ := h
  refine ⟨_, bind_eq_ok.mpr ⟨(), ensure_eq_ok.mpr hprov, bind_eq_ok.mpr
    ⟨(), ensure_eq_ok.mpr (by omega), rfl⟩⟩, ?_⟩
  simp only [canAccrueConsumers, info_mutate_self, saturatingAdd,
    Bool.and_eq_true, decide_eq_true_eq]
  exact ⟨hprov, by omega⟩

omit [DecidableEq A] in
theorem spares_of_canWithdraw {rest : Nat} (hpos : amount ≠ 0)
    (h : (w.canWithdraw C who amount).intoResult true = .ok rest) :
    w.Spares C who amount := by
  obtain ⟨hfree, hliquid, hdust⟩ := canWithdraw_eq_ok hpos h
  have hed : ¬ (w.info who).data.free - amount < C.existentialDeposit := by
    intro hlt
    cases (hdust hlt).2
  have hfrozen : amount + ((w.info who).data.frozen -
      (w.info who).data.reserved) ≤ (w.info who).data.free := by
    unfold reducibleBalance at hliquid
    dsimp only at hliquid
    split at hliquid <;> omega
  exact ⟨by omega, hfrozen⟩

theorem transfer_self (w : Balances A) (who : A) (amount : Nat)
    (req : ExistenceRequirement) :
    w.transfer C who who amount req = .ok w :=
  if_pos (.inr rfl)

/-- A payment that keeps its source alive arrives in full exactly when the
source can spare it and the receiver ends up with the existential deposit. -/
theorem transfer_keepAlive_iff (hs : w.Sound C) {source dest : A}
    (hne : source ≠ dest) (hpos : amount ≠ 0) :
    (∃ w', w.transfer C source dest amount .keepAlive = .ok w' ∧
      (w'.info dest).data.free = (w.info dest).data.free + amount) ↔
    w.Spares C source amount ∧
      C.existentialDeposit ≤ (w.info dest).data.free + amount := by
  constructor
  · rintro ⟨w', h, -⟩
    unfold transfer fungibleTransfer at h
    rw [if_neg (by simp [hpos, hne])] at h
    obtain ⟨rest, hwithdraw, h⟩ := bind_eq_ok.mp h
    obtain ⟨_, hdeposit, -⟩ := bind_eq_ok.mp h
    refine ⟨spares_of_canWithdraw hpos hwithdraw, ?_⟩
    unfold canDeposit at hdeposit
    dsimp only at hdeposit
    rw [if_neg hpos] at hdeposit
    split at hdeposit
    · cases hdeposit
    split at hdeposit
    · cases hdeposit
    · omega
  · rintro ⟨hspares, hed⟩
    obtain ⟨w', h, -, hfree, -⟩ := transfer_covered hs hne hpos
      hspares.le_spendable hed .keepAlive fun _ => hspares
    exact ⟨w', h, hfree⟩

end Balances

/-! ## Other tokens -/

namespace Ledger

variable {A I : Type} {C : LedgerConfig}

/-- An unfrozen account of a live asset has `amount` beyond the minimum
balance. -/
structure Spares (w : Ledger A I) (id : I) (who : A) (amount : Nat)
    (d : Assets.Details) (a : Assets.Account A) : Prop where
  details : w.asset.get id = some d
  live : d.status = .live
  account : (w.account id).get who = some a
  liquid : a.status.isFrozen = false
  rest : amount + d.minBalance ≤ a.balance
  supply : amount ≤ d.supply

/-- An account can take `amount` more, and if it has to be created, one more
account fits the counter. -/
def CanTake (w : Ledger A I) (C : LedgerConfig) (id : I) (who : A)
    (amount : Nat) : Prop :=
  w.canIncrease C id who amount true = .success ∧
    ((w.account id).get who = none →
      ∀ d, w.asset.get id = some d → d.accounts + 1 ≤ maxValue 32)

section Debit

variable {w : Ledger A I} {id : I} {who : A} {amount : Nat}
  {d : Assets.Details} {a : Assets.Account A}

theorem reducibleBalance_eq_ok {keepAlive : Bool} {n : Nat} :
    w.reducibleBalance C id who keepAlive = .ok n ↔
      ∃ d a, w.asset.get id = some d ∧ d.status = .live ∧
        (w.account id).get who = some a ∧ a.status.isFrozen = false ∧
        min (if keepAlive then a.balance - d.minBalance else a.balance)
          d.supply = n := by
  simp only [reducibleBalance, do_eq_ok]
  constructor
  · rintro ⟨d, hd, hlive, a, ha, hliquid, hn⟩
    exact ⟨d, a, hd, hlive, ha, hliquid, hn⟩
  · rintro ⟨d, a, hd, hlive, ha, hliquid, hn⟩
    exact ⟨d, hd, hlive, a, ha, hliquid, hn⟩

theorem Spares.canDecrease (h : w.Spares id who amount d a)
    (keepAlive : Bool) : w.canDecrease id who amount keepAlive = .success := by
  have hrest := h.rest
  have hsupply := h.supply
  unfold Ledger.canDecrease
  simp only [h.details, h.account]
  rw [if_neg (by omega), if_neg (by rw [h.live]; nofun)]
  split
  · rfl
  · rw [if_neg (by simp [h.liquid]), if_neg (by omega), if_neg (by omega)]

theorem spares_of_canDecrease {rest : Nat} (hpos : amount ≠ 0)
    (hd : w.asset.get id = some d) (hlive : d.status = .live)
    (h : (w.canDecrease id who amount false).intoResult true = .ok rest) :
    ∃ a, w.Spares id who amount d a := by
  unfold Ledger.canDecrease at h
  simp only [hd] at h
  split at h
  · cases h
  next hsupply =>
    rw [if_neg (by rw [hlive]; nofun)] at h
    split at h
    · cases h
    next a ha =>
      split at h
      · cases h
      next hliquid =>
        split at h
        · cases h
        split at h
        · cases h
        · exact ⟨a, hd, hlive, ha, by simpa using hliquid, by omega, by omega⟩

variable [DecidableEq A] [DecidableEq I]

theorem Spares.decreaseBalance (hpos : amount ≠ 0)
    (h : w.Spares id who amount d a) (hfits : amount ≤ maxValue 128) :
    w.decreaseBalance C id who amount true =
      .ok ({ w with
        account := w.account.insert id who
          { a with balance := a.balance - amount } }, amount) := by
  have hrest := h.rest
  have hred : w.reducibleBalance C id who true =
      .ok (min (a.balance - d.minBalance) d.supply) :=
    reducibleBalance_eq_ok.mpr ⟨d, a, h.details, h.live, h.account, h.liquid,
      rfl⟩
  have hmin : min (min (a.balance - d.minBalance) d.supply) amount = amount :=
    Nat.min_eq_right (Nat.le_min.mpr ⟨by omega, h.supply⟩)
  have hprep : w.prepDebit C id who amount true = .ok amount := by
    unfold prepDebit
    refine bind_eq_ok.mpr ⟨_, hred, bind_eq_ok.mpr ⟨0, ?_, ?_⟩⟩
    · rw [hmin, h.canDecrease]
      rfl
    · rw [hmin, saturatingAdd, Nat.add_zero, Nat.min_eq_left (by omega)]
      rfl
  unfold Ledger.decreaseBalance
  rw [if_neg hpos]
  refine bind_eq_ok.mpr ⟨d, okOr_eq_ok.mpr h.details, bind_eq_ok.mpr ⟨(),
    ensure_eq_ok.mpr h.live, bind_eq_ok.mpr ⟨amount, hprep, bind_eq_ok.mpr
      ⟨a, okOr_eq_ok.mpr h.account, ?_⟩⟩⟩⟩
  dsimp only
  rw [if_neg (show ¬ a.balance - amount < d.minBalance by omega)]
  rfl

end Debit

section Credit

variable [DecidableEq A] [DecidableEq I] {w : Ledger A I} {id : I} {who : A}
  {amount : Nat} {d : Assets.Details}

omit [DecidableEq A] [DecidableEq I] in
theorem canIncrease_of_increaseSupply
    (h : w.canIncrease C id who amount true = .success) :
    w.canIncrease C id who amount false = .success := by
  unfold canIncrease at h ⊢
  cases hd : w.asset.get id with
  | none => simp [hd] at h
  | some =>
      simp only [hd] at h ⊢
      split at h
      · cases h
      · rwa [if_neg (by simp)]

omit [DecidableEq I] in
/-- The references a new account needs are the ones `can_increase` looks
for. -/
private theorem newAccount_ok (hd : w.asset.get id = some d)
    (hnone : (w.account id).get who = none)
    (hinc : w.canIncrease C id who amount true = .success)
    (hroom : d.accounts + 1 ≤ maxValue 32) :
    ∃ r, newAccount C w.balances who d = .ok r := by
  unfold canIncrease at hinc
  simp only [hd, hnone] at hinc
  split at hinc
  · cases hinc
  split at hinc
  · cases hinc
  split at hinc
  · cases hinc
  next hconsumers =>
    unfold newAccount
    simp only [do_eq_ok]
    cases hsuf : d.isSufficient with
    | true => exact ⟨_, hroom, rfl⟩
    | false =>
        have haccrue : w.balances.canAccrueConsumers C.toBalancesConfig who 2
            = true := by
          simpa [hsuf] using hconsumers
        obtain ⟨b, hb, hmore⟩ := Balances.incConsumers_ok haccrue
        simp only [hb, hmore]
        exact ⟨_, hroom, rfl⟩

/-- A credit to an account that can take it arrives in full. -/
theorem CanTake.increaseBalance (hpos : amount ≠ 0)
    (hd : w.asset.get id = some d) (hlive : d.status = .live)
    (h : w.CanTake C id who amount) :
    ∃ w', w.increaseBalance C id who amount = .ok w' ∧
      w'.balance id who = w.balance id who + amount := by
  obtain ⟨hinc, hroom⟩ := h
  unfold Ledger.increaseBalance
  rw [if_neg hpos]
  simp only [do_eq_ok]
  cases ha : (w.account id).get who with
  | some a =>
      refine ⟨_, ⟨(), DepositConsequence.intoResult_eq_ok.mpr hinc, d, hd,
        hlive, rfl⟩, ?_⟩
      have hle : a.balance + amount ≤ maxValue 128 := by
        unfold canIncrease at hinc
        simp only [hd, ha] at hinc
        grind
      simp [balance, ha, saturatingAdd, Nat.min_eq_left hle]
  | none =>
      obtain ⟨⟨b, d', reason⟩, hnew⟩ := newAccount_ok hd ha hinc (hroom ha d hd)
      have hmin : d.minBalance ≤ amount := by
        unfold canIncrease at hinc
        simp only [hd, ha] at hinc
        grind
      refine ⟨_, ⟨(), DepositConsequence.intoResult_eq_ok.mpr hinc, d, hd,
        hlive, bind_eq_ok.mpr ⟨(), ensure_eq_ok.mpr hmin, bind_eq_ok.mpr
          ⟨(b, d', reason), hnew, rfl⟩⟩⟩, ?_⟩
      simp [balance, ha]

theorem canTake_of_increaseBalance {w' : Ledger A I} (hpos : amount ≠ 0)
    (h : w.increaseBalance C id who amount = .ok w') :
    w.CanTake C id who amount := by
  unfold Ledger.increaseBalance at h
  rw [if_neg hpos] at h
  simp only [do_eq_ok] at h
  obtain ⟨_, hinc, d, hd, -, h⟩ := h
  refine ⟨DepositConsequence.intoResult_eq_ok.mp hinc, ?_⟩
  intro hnone d' hd'
  obtain rfl : d = d' := Option.some.inj (hd.symm.trans hd')
  simp only [hnone, do_eq_ok] at h
  obtain ⟨-, r, hr, -⟩ := h
  simp only [newAccount, do_eq_ok] at hr
  exact hr.1

private theorem Spares.debited {a : Assets.Account A} {source : A}
    (hpos : amount ≠ 0) (hfits : amount ≤ maxValue 128)
    (h : w.Spares id source amount d a) (hne : who ≠ source) :
    ∃ w₁, w.decreaseBalance C id source amount true = .ok (w₁, amount) ∧
      w₁.asset = w.asset ∧ w₁.balance id who = w.balance id who ∧
      (w₁.CanTake C id who amount ↔ w.CanTake C id who amount) := by
  refine ⟨_, h.decreaseBalance hpos hfits, rfl, ?_, ?_⟩
  · simp [balance, hne]
  · simp [CanTake, canIncrease, hne]

theorem live_of_decreaseBalance {keepAlive : Bool}
    {r : Ledger A I × Nat} (hpos : amount ≠ 0)
    (h : w.decreaseBalance C id who amount keepAlive = .ok r) :
    ∃ d, w.asset.get id = some d ∧ d.status = .live := by
  unfold Ledger.decreaseBalance at h
  rw [if_neg hpos] at h
  simp only [do_eq_ok] at h
  obtain ⟨d, hd, hlive, -⟩ := h
  exact ⟨d, hd, hlive⟩

end Credit

theorem transfer_self [DecidableEq A] [DecidableEq I] {w w' : Ledger A I}
    {id : I} {who : A} {amount : Nat} {preservation : Preservation}
    (h : w.transfer C id who who amount preservation = .ok w') : w' = w := by
  unfold Ledger.transfer at h
  simp only [if_true, do_eq_ok] at h
  obtain ⟨_, _, _, _, rfl⟩ := h
  rfl

/-- A payment that preserves its source arrives in full exactly when the source
can spare it and the receiver can take it. -/
theorem transfer_preserve_iff [DecidableEq A] [DecidableEq I]
    {w : Ledger A I} {id : I} {source dest : A} {amount : Nat}
    (hne : source ≠ dest) (hpos : amount ≠ 0)
    (hfits : amount ≤ maxValue 128) :
    (∃ w', w.transfer C id source dest amount .preserve = .ok w' ∧
      w'.balance id dest = w.balance id dest + amount) ↔
    (∃ d a, w.Spares id source amount d a) ∧ w.CanTake C id dest amount := by
  unfold Ledger.transfer
  simp only [if_neg hne, do_eq_ok]
  constructor
  · rintro ⟨w', ⟨rest, hdec, _, -, ⟨w₁, taken⟩, htake, rfl⟩, harrived⟩
    obtain ⟨d, hd, hlive⟩ := live_of_decreaseBalance hpos htake
    obtain ⟨a, hspares⟩ := spares_of_canDecrease hpos hd hlive hdec
    refine ⟨⟨d, a, hspares⟩, ?_⟩
    obtain ⟨w₂, hw₂, -, hsame, htake₂⟩ :=
      hspares.debited (C := C) hpos hfits hne.symm
    obtain ⟨rfl, -⟩ : w₂ = w₁ ∧ amount = taken :=
      Prod.mk.inj (Except.ok.inj (hw₂.symm.trans htake))
    rw [← htake₂]
    cases hinc : w₂.increaseBalance C id dest amount with
    | ok => exact canTake_of_increaseBalance hpos hinc
    | error =>
        -- the swallowed error leaves the receiver with what it had
        simp only [hinc] at harrived
        omega
  · rintro ⟨⟨d, a, hspares⟩, htake⟩
    obtain ⟨w₁, hw₁, hasset, hsame, htake₁⟩ :=
      hspares.debited (C := C) hpos hfits hne.symm
    obtain ⟨w₂, hinc, harrived⟩ := (htake₁.mpr htake).increaseBalance hpos
      (by rw [hasset]; exact hspares.details) hspares.live
    refine ⟨w₂, ⟨0, by rw [hspares.canDecrease]; rfl, (),
      DepositConsequence.intoResult_eq_ok.mpr
        (canIncrease_of_increaseSupply htake.1), (w₁, amount), hw₁, ?_⟩, ?_⟩
    · simp only [hinc]
    · rw [harrived, hsame]

end Ledger

end Thxnet.Frame
