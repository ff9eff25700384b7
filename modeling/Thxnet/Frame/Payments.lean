import Thxnet.Frame.Support

/-!
# Payments in the native token or in an asset

The pallets that take money take it in the native token or in a fungible asset,
whichever their configuration names.  `transferWith` and `burnWith` are what
their `do_transfer` and `do_burn` have in common.

`LedgerRule moved burned` is a contract of the two ledgers they pay through:
what a transfer or a burn that succeeds has to do.  Nothing is assumed about
when one succeeds.  `Transferred r` and `Burned r` are such rules about what
everybody holds: with `=`, exactly the amount moves; with `≤`, at least the
amount is debited and at most the amount is credited, so that something may be
lost on the way but nothing is gained.
-/

namespace Thxnet.Frame

open Thxnet.Lib

/-- Payment currency: native token or a specific fungible asset. -/
inductive PaymentCurrency (AssetId : Type) where
  | native
  | asset (id : AssetId)
  deriving DecidableEq

variable {A I W : Type}

/-! ## The payments -/

section Payments

variable (native : Currency A W) (assets : Fungibles A I W)
  (req : ExistenceRequirement) (w : W) (currency : PaymentCurrency I)

/-- Transfer an amount, if there is any. -/
def transferWith (preservation : Preservation) (source dest : A)
    (amount : Nat) : Except DispatchError W :=
  if amount = 0 then .ok w
  else
    match currency with
    | .native => native.transfer w source dest amount req
    | .asset id => assets.transfer w id source dest amount preservation

/-- Burn an amount, if there is any. -/
def burnWith (reasons : WithdrawReasons) (who : A) (amount : Nat) :
    Except DispatchError W :=
  if amount = 0 then .ok w
  else
    match currency with
    | .native => native.withdraw w who amount reasons req
    | .asset id => assets.burnFrom w id who amount .expendable .exact .polite

end Payments

/-! ## Rules for the ledgers -/

/-- What transfers and burns that succeed do, those of nothing included. -/
structure LedgerRule (native : Currency A W) (assets : Fungibles A I W)
    (moved : PaymentCurrency I → A → A → Nat → W → W → Prop)
    (burned : PaymentCurrency I → A → Nat → W → W → Prop) : Prop where
  moved_zero : ∀ c source dest w, moved c source dest 0 w w
  burned_zero : ∀ c who w, burned c who 0 w w
  native_transfer : ∀ {w w' source dest amount req},
    native.transfer w source dest amount req = .ok w' →
    moved .native source dest amount w w'
  native_withdraw : ∀ {w w' who amount reasons req},
    native.withdraw w who amount reasons req = .ok w' →
    burned .native who amount w w'
  asset_transfer : ∀ {w w' id source dest amount preservation},
    assets.transfer w id source dest amount preservation = .ok w' →
    moved (.asset id) source dest amount w w'
  asset_burn : ∀ {w w' id who amount preservation precision fortitude},
    assets.burnFrom w id who amount preservation precision fortitude = .ok w' →
    burned (.asset id) who amount w w'

namespace LedgerRule

variable {native : Currency A W} {assets : Fungibles A I W}
  {moved : PaymentCurrency I → A → A → Nat → W → W → Prop}
  {burned : PaymentCurrency I → A → Nat → W → W → Prop}
  {req : ExistenceRequirement} {w w' : W} {currency : PaymentCurrency I}
  {amount : Nat}

theorem transfer (L : LedgerRule native assets moved burned)
    {preservation : Preservation} {source dest : A}
    (h : transferWith native assets req w currency preservation source dest
      amount = .ok w') : moved currency source dest amount w w' := by
  unfold transferWith at h
  by_cases hzero : amount = 0
  · rw [if_pos hzero] at h
    cases h
    rw [hzero]
    exact L.moved_zero ..
  · rw [if_neg hzero] at h
    cases currency with
    | native => exact L.native_transfer h
    | asset => exact L.asset_transfer h

theorem burn (L : LedgerRule native assets moved burned)
    {reasons : WithdrawReasons} {who : A}
    (h : burnWith native assets req w currency reasons who amount = .ok w') :
    burned currency who amount w w' := by
  unfold burnWith at h
  by_cases hzero : amount = 0
  · rw [if_pos hzero] at h
    cases h
    rw [hzero]
    exact L.burned_zero ..
  · rw [if_neg hzero] at h
    cases currency with
    | native => exact L.native_withdraw h
    | asset => exact L.asset_burn h

end LedgerRule

/-! ## What everybody holds -/

section Holdings

variable [DecidableEq A] [DecidableEq I] (r : Nat → Nat → Prop)
  (holding : W → PaymentCurrency I → A → Nat)

/-- Up to `r`, `amount` went from `source` to `dest`, and nothing else
changed. -/
def Transferred (currency : PaymentCurrency I) (source dest : A) (amount : Nat)
    (w w' : W) : Prop :=
  ∀ cur who,
    r (holding w' cur who
        + (if cur = currency ∧ who = source then amount else 0))
      (holding w cur who
        + (if cur = currency ∧ who = dest then amount else 0))

/-- Up to `r`, `amount` of what `source` had is gone, and nothing else
changed. -/
def Burned (currency : PaymentCurrency I) (source : A) (amount : Nat)
    (w w' : W) : Prop :=
  ∀ cur who,
    r (holding w' cur who
        + (if cur = currency ∧ who = source then amount else 0))
      (holding w cur who)

/-- Transfers and burns that succeed do exactly what was asked. -/
abbrev ExactRule (native : Currency A W) (assets : Fungibles A I W) : Prop :=
  LedgerRule native assets (Transferred Eq holding) (Burned Eq holding)

/-- They debit at least and credit at most what was asked. -/
abbrev LossyRule (native : Currency A W) (assets : Fungibles A I W) : Prop :=
  LedgerRule native assets (Transferred LE.le holding) (Burned LE.le holding)

variable {holding} {w w' : W} {currency : PaymentCurrency I} {source dest : A}
  {amount : Nat}

/-- It is enough to look at the currency that is paid in. -/
theorem transferred_of_same (hother : ∀ c who, c ≠ currency →
      holding w' c who = holding w c who)
    (hself : ∀ who, holding w' currency who
        + (if who = source then amount else 0) =
      holding w currency who + (if who = dest then amount else 0)) :
    Transferred Eq holding currency source dest amount w w' := by
  intro cur who
  by_cases hcur : cur = currency
  · subst hcur
    simpa using hself who
  · simpa [hcur] using hother cur who hcur

theorem burned_of_same (hother : ∀ c who, c ≠ currency →
      holding w' c who = holding w c who)
    (hself : ∀ who, holding w' currency who
        + (if who = source then amount else 0) = holding w currency who) :
    Burned Eq holding currency source amount w w' := by
  intro cur who
  by_cases hcur : cur = currency
  · subst hcur
    simpa using hself who
  · simpa [hcur] using hother cur who hcur

theorem ExactRule.lossy {native : Currency A W} {assets : Fungibles A I W}
    (L : ExactRule holding native assets) :
    LossyRule holding native assets where
  moved_zero := fun _ _ _ _ _ _ => Nat.le_of_eq (L.moved_zero ..)
  burned_zero := fun _ _ _ _ _ => Nat.le_of_eq (L.burned_zero ..)
  native_transfer := fun h _ _ => Nat.le_of_eq (L.native_transfer h ..)
  native_withdraw := fun h _ _ => Nat.le_of_eq (L.native_withdraw h ..)
  asset_transfer := fun h _ _ => Nat.le_of_eq (L.asset_transfer h ..)
  asset_burn := fun h _ _ => Nat.le_of_eq (L.asset_burn h ..)

end Holdings

end Thxnet.Frame
