import Thxnet.Frame.Balances

/-!
# The assets pallet

`pallet_assets` beside `pallet_balances`, as far as the `transfer` and
`burn_from` of `fungibles::Mutate` reach: minimum balances, frozen and blocked
accounts, and the references by which an asset account keeps the system account
in existence.  The pallet is used with `Freezer = ()` and `Extra = ()`, so no
balance is frozen in part.  The team of an asset, its deposit and its approvals
are left out, and so are the events.
-/

namespace Thxnet.Frame

open Thxnet.Lib

namespace Assets

/-- `pallet_assets::AssetStatus`. -/
inductive Status where
  | live
  | frozen
  | destroying
  deriving DecidableEq, Repr

/-- `pallet_assets::AssetDetails`. -/
structure Details where
  supply : Nat
  minBalance : Nat
  isSufficient : Bool
  accounts : Nat
  sufficients : Nat
  status : Status
  deriving DecidableEq, Repr

/-- `pallet_assets::AccountStatus`. -/
inductive AccountStatus where
  | liquid
  | frozen
  | blocked
  deriving DecidableEq, Repr

/-- `pallet_assets::ExistenceReason`. -/
inductive ExistenceReason (A : Type) where
  | consumer
  | sufficient
  | depositHeld (deposit : Nat)
  | depositRefunded
  | depositFrom (depositor : A) (deposit : Nat)
  deriving DecidableEq, Repr

/-- `pallet_assets::AssetAccount`. -/
structure Account (A : Type) where
  balance : Nat
  status : AccountStatus
  reason : ExistenceReason A
  deriving DecidableEq, Repr

/-- `is_frozen`. -/
def AccountStatus.isFrozen (st : AccountStatus) : Bool :=
  st = .frozen || st = .blocked

/-- `is_blocked`. -/
def AccountStatus.isBlocked (st : AccountStatus) : Bool :=
  st = .blocked

/-- The pallet's errors, in the order of their codec indices. -/
inductive Error where
  | balanceLow
  | noAccount
  | noPermission
  | unknown
  | frozen
  | inUse
  | badWitness
  | minBalanceZero
  | unavailableConsumer
  | badMetadata
  | unapproved
  | wouldDie
  | alreadyExists
  | noDeposit
  | wouldBurn
  | liveAsset
  | assetNotLive
  | incorrectStatus
  | notFrozen
  | callbackFailed
  deriving DecidableEq, Repr

end Assets

/-- The constants of both pallets. -/
structure LedgerConfig extends BalancesConfig where
  assetsIndex : Nat

/-- The dispatch error an error of the assets pallet becomes. -/
def LedgerConfig.assetErr (C : LedgerConfig) (e : Assets.Error) :
    DispatchError :=
  .module ⟨C.assetsIndex, e.ctorIdx⟩

/-- The storage of both pallets. -/
structure Ledger (A I : Type) where
  balances : Balances A
  asset : StorageMap I Assets.Details
  account : StorageDoubleMap I A (Assets.Account A)

namespace Ledger

variable {A I : Type} [DecidableEq A] [DecidableEq I] (C : LedgerConfig)
  (w : Ledger A I) (id : I)

/-- `balance`. -/
def balance (who : A) : Nat :=
  (((w.account id).get who).map Assets.Account.balance).getD 0

/-! ## References -/

/-- `new_account` without a deposit: the system accounts, the details and the
reason for the new account. -/
def newAccount (b : Balances A) (who : A) (d : Assets.Details) :
    Except DispatchError
      (Balances A × Assets.Details × Assets.ExistenceReason A) := do
  ensure (d.accounts + 1 ≤ maxValue 32) (.arithmetic .overflow)
  if d.isSufficient then
    pure (b.incSufficients who,
      { d with
        accounts := d.accounts + 1
        sufficients := saturatingAdd 32 d.sufficients 1 },
      .sufficient)
  else
    match b.incConsumers C.toBalancesConfig who with
    | .error _ => .error (C.assetErr .unavailableConsumer)
    | .ok b' => do
        ensure (b'.canAccrueConsumers C.toBalancesConfig who 1 = true)
          (C.assetErr .unavailableConsumer)
        pure (b', { d with accounts := d.accounts + 1 }, .consumer)

/-- `dead_account` without force: nothing when the account is to be kept. -/
def deadAccount (b : Balances A) (who : A) (d : Assets.Details) :
    Assets.ExistenceReason A → Option (Balances A × Assets.Details)
  | .consumer =>
      some (b.decConsumers who, { d with accounts := d.accounts - 1 })
  | .sufficient =>
      some (b.decSufficients who,
        { d with accounts := d.accounts - 1, sufficients := d.sufficients - 1 })
  | .depositRefunded => some (b, { d with accounts := d.accounts - 1 })
  | .depositHeld _ => none
  | .depositFrom _ _ => none

/-! ## Consequences -/

/-- `can_increase`. -/
def canIncrease (who : A) (amount : Nat) (increaseSupply : Bool) :
    DepositConsequence :=
  match w.asset.get id with
  | none => .unknownAsset
  | some d =>
      if increaseSupply ∧ maxValue 128 < d.supply + amount then .overflow
      else
        match (w.account id).get who with
        | some a =>
            if a.status.isBlocked then .blocked
            else if maxValue 128 < a.balance + amount then .overflow
            else .success
        | none =>
            if amount < d.minBalance then .belowMinimum
            else if d.isSufficient = false ∧
                w.balances.canAccrueConsumers C.toBalancesConfig who 2 = false
              then .cannotCreate
            else if d.isSufficient ∧ maxValue 32 < d.sufficients + 1 then
              .overflow
            else .success

/-- `can_decrease`. -/
def canDecrease (who : A) (amount : Nat) (keepAlive : Bool) :
    WithdrawConsequence :=
  match w.asset.get id with
  | none => .unknownAsset
  | some d =>
      if d.supply < amount then .underflow
      else if d.status = .frozen then .frozen
      else if amount = 0 then .success
      else
        match (w.account id).get who with
        | none => .balanceLow
        | some a =>
            if a.status.isFrozen then .frozen
            else if a.balance < amount then .balanceLow
            else if a.balance - amount < d.minBalance then
              if keepAlive then .wouldDie
              else .reducedToZero (a.balance - amount)
            else .success

/-- `reducible_balance`. -/
def reducibleBalance (who : A) (keepAlive : Bool) :
    Except DispatchError Nat := do
  let d ← okOr (w.asset.get id) (C.assetErr .unknown)
  ensure (d.status = .live) (C.assetErr .assetNotLive)
  let a ← okOr ((w.account id).get who) (C.assetErr .noAccount)
  ensure (a.status.isFrozen = false) (C.assetErr .frozen)
  pure (min (if keepAlive then a.balance - d.minBalance else a.balance)
    d.supply)

/-- `reducible_balance` of the trait, where a failure counts as nothing. -/
def reducible (who : A) (preservation : Preservation) : Nat :=
  match w.reducibleBalance C id who (preservation ≠ .expendable) with
  | .ok n => n
  | .error _ => 0

/-! ## Debits and credits -/

/-- `prep_debit` with `best_effort`. -/
def prepDebit (target : A) (amount : Nat) (keepAlive : Bool) :
    Except DispatchError Nat := do
  let most ← w.reducibleBalance C id target keepAlive
  let actual := min most amount
  let dust ← (w.canDecrease id target actual keepAlive).intoResult keepAlive
  pure (saturatingAdd 128 actual dust)

/-- `decrease_balance` with `best_effort`: the new state and the amount
taken. -/
def decreaseBalance (target : A) (amount : Nat) (keepAlive : Bool) :
    Except DispatchError (Ledger A I × Nat) :=
  if amount = 0 then .ok (w, amount)
  else do
    let d ← okOr (w.asset.get id) (C.assetErr .unknown)
    ensure (d.status = .live) (C.assetErr .assetNotLive)
    let actual ← w.prepDebit C id target amount keepAlive
    let a ← okOr ((w.account id).get target) (C.assetErr .noAccount)
    let a' := { a with balance := a.balance - actual }
    pure <|
      match if a'.balance < d.minBalance then
          deadAccount w.balances target d a.reason
        else none with
      | some (b, d') =>
          (⟨b, w.asset.insert id d', w.account.remove id target⟩, actual)
      | none => ({ w with account := w.account.insert id target a' }, actual)

/-- `increase_balance`. -/
def increaseBalance (beneficiary : A) (amount : Nat) :
    Except DispatchError (Ledger A I) :=
  if amount = 0 then .ok w
  else do
    (w.canIncrease C id beneficiary amount true).intoResult
    let d ← okOr (w.asset.get id) (C.assetErr .unknown)
    ensure (d.status = .live) (C.assetErr .assetNotLive)
    match (w.account id).get beneficiary with
    | some a =>
        pure { w with
          account := w.account.insert id beneficiary
            { a with balance := saturatingAdd 128 a.balance amount } }
    | none => do
        ensure (d.minBalance ≤ amount) (.token .belowMinimum)
        let (b, d', reason) ← newAccount C w.balances beneficiary d
        pure ⟨b, w.asset.insert id d',
          w.account.insert id beneficiary ⟨amount, .liquid, reason⟩⟩

/-! ## `fungibles::Mutate` -/

/-- `fungibles::Mutate::transfer`.  The result of the increase is discarded by
the source, also when it is an error. -/
def transfer (source dest : A) (amount : Nat) (preservation : Preservation) :
    Except DispatchError (Ledger A I) := do
  let _ ← (w.canDecrease id source amount false).intoResult
    (preservation ≠ .expendable)
  (w.canIncrease C id dest amount false).intoResult
  if source = dest then pure w
  else do
    let (w', _) ← w.decreaseBalance C id source amount
      (preservation ≠ .expendable)
    pure <|
      match w'.increaseBalance C id dest amount with
      | .ok w'' => w''
      | .error _ => w'

/-- `set_total_issuance`. -/
def setTotalIssuance (amount : Nat) : Ledger A I :=
  { w with asset := w.asset.modify id fun d => { d with supply := amount } }

/-- `total_issuance`. -/
def totalIssuance : Nat :=
  ((w.asset.get id).map Assets.Details.supply).getD 0

/-- `fungibles::Mutate::burn_from`. -/
def burnFrom (who : A) (amount : Nat) (preservation : Preservation)
    (precision : Precision) : Except DispatchError (Ledger A I) := do
  let actual := min (w.reducible C id who preservation) amount
  ensure (actual = amount ∨ precision = .bestEffort) (.token .fundsUnavailable)
  ensure (actual ≤ w.totalIssuance id) (.arithmetic .overflow)
  let (w', taken) ← w.decreaseBalance C id who actual
    (preservation ≠ .expendable)
  pure (w'.setTotalIssuance id (w'.totalIssuance id - taken))

/-! ## The traits -/

/-- The balances pallet as a native currency. -/
def currency : Currency A (Ledger A I) where
  minimumBalance := C.existentialDeposit
  freeBalance := fun w who => (w.balances.info who).data.free
  transfer := fun w source dest amount req =>
    (w.balances.transfer C.toBalancesConfig source dest amount req).map
      fun x => { w with balances := x }
  withdraw := fun w who amount reasons req =>
    (w.balances.withdraw C.toBalancesConfig who amount reasons req).map
      fun x => { w with balances := x }

/-- The assets pallet for the other tokens. -/
def fungibles : Fungibles A I (Ledger A I) where
  balance := fun w id who => w.balance id who
  transfer := fun w id source dest amount preservation =>
    w.transfer C id source dest amount preservation
  burnFrom := fun w id who amount preservation precision _ =>
    w.burnFrom C id who amount preservation precision

end Ledger

end Thxnet.Frame
