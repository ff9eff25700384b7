import Thxnet.Frame.Support
import Thxnet.Lib.Rounding
import Thxnet.Lib.StorageMap

/-!
# The balances pallet

`pallet_balances` over `frame_system`'s account store, as far as the traits
`Currency` and `ReservableCurrency` reach in the pallets of this repository:
reference counts, the existential deposit, dust, freezes and holds.  The account
flags are not modelled: every account is taken to have been upgraded to the new
reference counting.  Nonces are left out, and so are the events.

Dust goes to `DustRemoval = ()` in the runtimes of this repository, which takes
it off the total issuance.
-/

namespace Thxnet.Frame

open Thxnet.Lib

/-! ## Accounts -/

/-- `pallet_balances::AccountData`. -/
structure AccountData where
  free : Nat
  reserved : Nat
  frozen : Nat
  deriving DecidableEq, Repr

instance : Inhabited AccountData := ⟨⟨0, 0, 0⟩⟩

/-- Whether an account needs a consumer reference. -/
def AccountData.consumes (d : AccountData) : Bool :=
  d.reserved ≠ 0 || d.frozen ≠ 0

/-- `frame_system::AccountInfo`. -/
structure AccountInfo where
  consumers : Nat
  providers : Nat
  sufficients : Nat
  data : AccountData
  deriving DecidableEq, Repr

instance : Inhabited AccountInfo := ⟨⟨0, 0, 0, default⟩⟩

/-- The constants of the pallet. -/
structure BalancesConfig where
  existentialDeposit : Nat
  maxConsumers : Nat
  palletIndex : Nat
  ed_pos : 0 < existentialDeposit
  maxConsumers_pos : 0 < maxConsumers

/-- The constants the pallet has in the tests of the pallets that use it. -/
def unitBalances : BalancesConfig where
  existentialDeposit := 1
  maxConsumers := 16
  palletIndex := 1
  ed_pos := Nat.one_pos
  maxConsumers_pos := Nat.succ_pos 15

/-- The pallet's errors, in the order of their codec indices. -/
inductive BalancesError where
  | vestingBalance
  | liquidityRestrictions
  | insufficientBalance
  | existentialDeposit
  | expendability
  | existingVestingSchedule
  | deadAccount
  | tooManyReserves
  | tooManyHolds
  | tooManyFreezes
  | issuanceDeactivated
  | deltaZero
  deriving DecidableEq, Repr

/-- The dispatch error a pallet error becomes. -/
def BalancesConfig.err (C : BalancesConfig) (e : BalancesError) :
    DispatchError :=
  .module ⟨C.palletIndex, e.ctorIdx⟩

/-- The accounts and the total issuance. -/
structure Balances (A : Type) where
  account : StorageMap A AccountInfo
  totalIssuance : Nat

/-- What withdrawing from an account would lead to. -/
inductive WithdrawConsequence where
  | balanceLow
  | wouldDie
  | unknownAsset
  | underflow
  | overflow
  | frozen
  | reducedToZero (rest : Nat)
  | success
  deriving DecidableEq, Repr

/-- `WithdrawConsequence::into_result`. -/
def WithdrawConsequence.intoResult (keepNonzero : Bool) :
    WithdrawConsequence → Except DispatchError Nat
  | .balanceLow => .error (.token .fundsUnavailable)
  | .wouldDie => .error (.token .onlyProvider)
  | .unknownAsset => .error (.token .unknownAsset)
  | .underflow => .error (.arithmetic .underflow)
  | .overflow => .error (.arithmetic .overflow)
  | .frozen => .error (.token .frozen)
  | .reducedToZero rest =>
      if keepNonzero then .error (.token .notExpendable) else .ok rest
  | .success => .ok 0

/-- What depositing into an account would lead to. -/
inductive DepositConsequence where
  | belowMinimum
  | cannotCreate
  | unknownAsset
  | overflow
  | success
  | blocked
  deriving DecidableEq, Repr

/-- `DepositConsequence::into_result`. -/
def DepositConsequence.intoResult :
    DepositConsequence → Except DispatchError Unit
  | .belowMinimum => .error (.token .belowMinimum)
  | .cannotCreate => .error (.token .cannotCreate)
  | .unknownAsset => .error (.token .unknownAsset)
  | .overflow => .error (.arithmetic .overflow)
  | .blocked => .error (.token .blocked)
  | .success => .ok ()

namespace Balances

variable {A : Type} [DecidableEq A] (C : BalancesConfig) (w : Balances A)
  (who : A)

/-! ## Reference counts -/

/-- The stored account, or the default. -/
def info : AccountInfo :=
  (w.account.get who).getD default

/-- `Account::mutate`. -/
def mutate (f : AccountInfo → AccountInfo) : Balances A :=
  { w with account := w.account.insert who (f (w.info who)) }

/-- `Account::remove`. -/
def remove : Balances A :=
  { w with account := w.account.remove who }

/-- `inc_providers`. -/
def incProviders : Balances A :=
  w.mutate who fun a =>
    if a.providers = 0 ∧ a.sufficients = 0 then { a with providers := 1 }
    else { a with providers := saturatingAdd 32 a.providers 1 }

/-- `dec_providers`. -/
def decProviders : Except DispatchError (Balances A) :=
  match w.account.get who with
  | none => .ok w
  | some a =>
      let providers := if a.providers = 0 then 1 else a.providers
      if providers = 1 ∧ a.consumers = 0 ∧ a.sufficients = 0 then
        .ok (w.remove who)
      else if providers = 1 ∧ 0 < a.consumers then .error .consumerRemaining
      else .ok (w.mutate who fun a => { a with providers := providers - 1 })

/-- `inc_consumers`. -/
def incConsumers : Except DispatchError (Balances A) := do
  ensure (0 < (w.info who).providers) .noProviders
  ensure ((w.info who).consumers < C.maxConsumers) .tooManyConsumers
  pure (w.mutate who fun a =>
    { a with consumers := saturatingAdd 32 a.consumers 1 })

/-- `dec_consumers`. -/
def decConsumers : Balances A :=
  w.mutate who fun a => { a with consumers := a.consumers - 1 }

/-- `can_dec_provider`. -/
def canDecProvider : Bool :=
  (w.info who).consumers = 0 || 1 < (w.info who).providers

/-- `can_accrue_consumers`. -/
def canAccrueConsumers (amount : Nat) : Bool :=
  0 < (w.info who).providers &&
    (w.info who).consumers + amount ≤ min C.maxConsumers (maxValue 32)

/-- `inc_sufficients`. -/
def incSufficients : Balances A :=
  w.mutate who fun a =>
    if a.providers = 0 ∧ a.sufficients = 0 then { a with sufficients := 1 }
    else { a with sufficients := saturatingAdd 32 a.sufficients 1 }

/-- `dec_sufficients`. -/
def decSufficients : Balances A :=
  match w.account.get who with
  | none => w
  | some a =>
      if a.sufficients ≤ 1 ∧ a.providers = 0 then w.remove who
      else w.mutate who fun a => { a with sufficients := a.sufficients - 1 }

/-! ## Writing an account -/

/-- The end of `StoredMap::try_mutate_exists`: the data is kept as long as
something provides for the account. -/
def store (data : AccountData) : Balances A :=
  if 0 < (w.info who).providers ∨ 0 < (w.info who).sufficients then
    w.mutate who fun a => { a with data := data }
  else w.remove who

/-- The references of an account are adjusted to its new data. -/
def adjustReferences (data data' : AccountData) :
    Except DispatchError (Balances A) := do
  let didProvide := decide (C.existentialDeposit ≤ data.free)
  let didConsume := decide (data ≠ default) && data.consumes
  let doesProvide := decide (C.existentialDeposit ≤ data'.free)
  let doesConsume := data'.consumes
  let w₁ := if !didProvide && doesProvide then w.incProviders who else w
  let w₂ := if didConsume && !doesConsume then w₁.decConsumers who else w₁
  let w₃ ← (if !didConsume && doesConsume then w₂.incConsumers C who
    else .ok w₂)
  let w₄ ← (if doesConsume && (w₃.info who).consumers = 0 then
      w₃.incConsumers C who
    else .ok w₃)
  (if didProvide && !doesProvide then w₄.decProviders who else .ok w₄)

/-- `try_mutate_account`: the new state and the dust to be dropped. -/
def tryMutateAccount (f : AccountData → Except DispatchError AccountData) :
    Except DispatchError (Balances A × Option Nat) := do
  let data' ← f (w.info who).data
  let w' ← w.adjustReferences C who (w.info who).data data'
  pure <|
    if data'.free < C.existentialDeposit ∧ data'.reserved = 0 then
      (w'.store who default, if data'.free = 0 then none else some data'.free)
    else (w'.store who data', none)

/-- Dropping an imbalance takes it off the total issuance. -/
def dropImbalance (w : Balances A) (amount : Nat) : Balances A :=
  { w with totalIssuance := w.totalIssuance - amount }

/-- `handle_dust`. -/
def handleDust (w : Balances A) (dust : Option Nat) : Balances A :=
  w.dropImbalance (dust.getD 0)

/-- `handle_raw_dust`. -/
def handleRawDust (w : Balances A) (dust : Option Nat) : Balances A :=
  w.dropImbalance ((dust.map (min (C.existentialDeposit - 1))).getD 0)

/-! ## `fungible::Inspect` -/

/-- `reducible_balance`. -/
def reducibleBalance (preservation : Preservation) (fortitude : Fortitude) :
    Nat :=
  let a := (w.info who).data
  let untouchable :=
    match fortitude with
    | .polite => a.frozen - a.reserved
    | .force => 0
  let needed : Bool :=
    match preservation with
    | .preserve => true
    | .protect => a.free ≠ 0 && (w.info who).providers = 1
    | .expendable => a.free ≠ 0 && !w.canDecProvider who
  a.free - (if needed then max untouchable C.existentialDeposit
    else untouchable)

/-- `can_deposit` with provenance `Extant`. -/
def canDeposit (amount : Nat) : DepositConsequence :=
  let a := (w.info who).data
  if amount = 0 then .success
  else if maxValue 128 < a.free + amount then .overflow
  else if a.free + amount < C.existentialDeposit then .belowMinimum
  else if maxValue 128 < a.reserved + (a.free + amount) then .overflow
  else .success

/-- `can_withdraw`. -/
def canWithdraw (amount : Nat) : WithdrawConsequence :=
  let a := (w.info who).data
  if amount = 0 then .success
  else if w.totalIssuance < amount then .underflow
  else if a.free < amount then .balanceLow
  else if w.reducibleBalance C who .expendable .polite < amount then .frozen
  else if a.free - amount < C.existentialDeposit ∧
      w.canDecProvider who = false then .wouldDie
  else if saturatingAdd 128 (a.free - amount) a.reserved < a.frozen then .frozen
  else if a.free - amount < C.existentialDeposit then
    .reducedToZero (a.free - amount)
  else .success

/-! ## `fungible::Unbalanced` and `fungible::Mutate` -/

/-- `write_balance`. -/
def writeBalance (amount : Nat) :
    Except DispatchError (Balances A × Option Nat) :=
  w.tryMutateAccount C who fun a => do
    ensure (a.free - amount ≤ w.reducibleBalance C who .expendable .force)
      (C.err .insufficientBalance)
    pure { a with free := amount }

/-- `decrease_balance` with precision `BestEffort`. -/
def decreaseBalance (amount : Nat) (preservation : Preservation)
    (fortitude : Fortitude) : Except DispatchError (Balances A) := do
  let old := (w.info who).data.free
  let amount := min amount (w.reducibleBalance C who preservation fortitude)
  ensure (amount ≤ old) (.token .fundsUnavailable)
  let (w', dust) ← w.writeBalance C who (old - amount)
  pure (w'.handleDust dust)

/-- `increase_balance` with precision `BestEffort`. -/
def increaseBalance (amount : Nat) : Except DispatchError (Balances A) :=
  let old := (w.info who).data.free
  let new := saturatingAdd 128 old amount
  if new < C.existentialDeposit then .ok w
  else if new = old then .ok w
  else do
    let (w', dust) ← w.writeBalance C who new
    pure (w'.handleDust dust)

/-- `fungible::Mutate::transfer`.  The result of the increase is discarded by
the source, also when it is an error. -/
def fungibleTransfer (w : Balances A) (source dest : A) (amount : Nat)
    (preservation : Preservation) : Except DispatchError (Balances A) := do
  let _ ← (w.canWithdraw C source amount).intoResult
    (preservation ≠ .expendable)
  (w.canDeposit C dest amount).intoResult
  if source = dest then pure w
  else do
    let w' ← w.decreaseBalance C source amount preservation .polite
    pure <|
      match w'.increaseBalance C dest amount with
      | .ok w'' => w''
      | .error _ => w'

/-! ## `Currency` -/

/-- `Currency::transfer`. -/
def transfer (w : Balances A) (source dest : A) (value : Nat)
    (req : ExistenceRequirement) : Except DispatchError (Balances A) :=
  if value = 0 ∨ source = dest then .ok w
  else
    w.fungibleTransfer C source dest value
      (match req with
        | .keepAlive => .preserve
        | .allowDeath => .expendable)

/-- `Currency::withdraw`, and the drop of the imbalance it returns. -/
def withdraw (value : Nat) (_reasons : WithdrawReasons)
    (liveness : ExistenceRequirement) : Except DispatchError (Balances A) :=
  if value = 0 then .ok w
  else do
    let (w', dust) ← w.tryMutateAccount C who fun a => do
      ensure (value ≤ a.free) (C.err .insufficientBalance)
      let newFree := a.free - value
      ensure (liveness = .allowDeath ∨
        ¬ (newFree < C.existentialDeposit ∧ C.existentialDeposit ≤ a.free))
        (C.err .expendability)
      ensure (a.frozen ≤ newFree) (C.err .liquidityRestrictions)
      pure { a with free := newFree }
    pure ((w'.handleRawDust C dust).dropImbalance value)

/-! ## `ReservableCurrency` -/

/-- `ReservableCurrency::reserve`. -/
def reserve (value : Nat) : Except DispatchError (Balances A) :=
  if value = 0 then .ok w
  else do
    let (w', dust) ← w.tryMutateAccount C who fun a => do
      ensure (value ≤ a.free) (C.err .insufficientBalance)
      ensure (a.reserved + value ≤ maxValue 128) (.arithmetic .overflow)
      ensure (a.frozen ≤ a.free - value) (C.err .liquidityRestrictions)
      pure { a with free := a.free - value, reserved := a.reserved + value }
    pure (w'.handleRawDust C dust)

/-- `ReservableCurrency::unreserve`.  What could not be released is not
returned. -/
def unreserve (value : Nat) : Balances A :=
  if value = 0 ∨ (w.info who).data.free + (w.info who).data.reserved = 0 then w
  else
    match w.tryMutateAccount C who fun a => .ok
      { a with
        reserved := a.reserved - min a.reserved value
        free := saturatingAdd 128 a.free (min a.reserved value) } with
    | .ok (w', dust) => w'.handleRawDust C dust
    | .error _ => w

/-- `reducible_total_balance_on_hold` with fortitude `Polite`. -/
def reducibleTotalBalanceOnHold : Nat :=
  let a := (w.info who).data
  a.reserved - (a.frozen - a.free)

/-- What `do_transfer_reserved` credits to the account of the beneficiary. -/
def creditReserved (a : AccountData) (amount : Nat) :
    BalanceStatus → Except DispatchError AccountData
  | .free => do
      ensure (a.free + amount ≤ maxValue 128) (.arithmetic .overflow)
      pure { a with free := a.free + amount }
  | .reserved => do
      ensure (a.reserved + amount ≤ maxValue 128) (.arithmetic .overflow)
      pure { a with reserved := a.reserved + amount }

/-- `ReservableCurrency::repatriate_reserved`, that is `do_transfer_reserved`
with precision `BestEffort` and fortitude `Polite`.  What could not be moved is
not returned. -/
def repatriateReserved (w : Balances A) (slashed beneficiary : A) (value : Nat)
    (status : BalanceStatus) : Except DispatchError (Balances A) :=
  if value = 0 then .ok w
  else
    let actual := min value (w.reducibleTotalBalanceOnHold slashed)
    if slashed = beneficiary then
      match status with
      | .free => .ok (w.unreserve C slashed actual)
      | .reserved => .ok w
    else do
      let toAccount := (w.info beneficiary).data
      ensure (toAccount ≠ default) (C.err .deadAccount)
      let toAccount ← creditReserved toAccount actual status
      let (w₁, dust₁) ← w.tryMutateAccount C slashed fun a => .ok
        { a with reserved := a.reserved - actual }
      let (w₂, dust₂) ← w₁.tryMutateAccount C beneficiary fun _ =>
        .ok toAccount
      pure ((w₂.handleRawDust C dust₁).handleRawDust C dust₂)

end Balances

end Thxnet.Frame
