import Thxnet.Lib.Fallible

/-!
# The framework vocabulary the pallets share

Origins, dispatch errors, and the token traits a pallet is generic over.  A
trait whose implementation lives in another pallet is a structure of functions
on a `World`: the part of the runtime storage the calling pallet does not own.
-/

namespace Thxnet.Frame

open Thxnet.Lib

/-- Data the modelled code does not look into, in encoded form. -/
abbrev Encoded : Type := List UInt8

/-! ## Origins -/

/-- Who a call comes from. -/
inductive Origin (AccountId : Type) where
  | root
  | signed (who : AccountId)
  | none
  deriving DecidableEq, Repr

/-! ## Errors -/

/-- `sp_runtime::TokenError`. -/
inductive TokenError where
  | fundsUnavailable
  | onlyProvider
  | belowMinimum
  | cannotCreate
  | unknownAsset
  | frozen
  | unsupported
  | cannotCreateHold
  | notExpendable
  | blocked
  deriving DecidableEq, Repr

/-- `sp_runtime::ArithmeticError`. -/
inductive ArithmeticError where
  | underflow
  | overflow
  | divisionByZero
  deriving DecidableEq, Repr

/-- An error of a pallet: its index in the runtime and the codec index of the
error variant. -/
structure ModuleError where
  index : Nat
  error : Nat
  deriving DecidableEq, Repr

/-- `sp_runtime::DispatchError`, the variants the modelled code returns. -/
inductive DispatchError where
  | other
  | badOrigin
  | module (e : ModuleError)
  | consumerRemaining
  | noProviders
  | tooManyConsumers
  | token (e : TokenError)
  | arithmetic (e : ArithmeticError)
  deriving DecidableEq, Repr

/-- The signer of a signed origin. -/
def ensureSigned {AccountId : Type} :
    Origin AccountId → Except DispatchError AccountId
  | .signed who => .ok who
  | .root => .error .badOrigin
  | .none => .error .badOrigin

theorem ensureSigned_eq_ok {AccountId : Type} {o : Origin AccountId}
    {who : AccountId} : ensureSigned o = .ok who ↔ o = .signed who := by
  cases o <;> simp [ensureSigned]

/-- The root origin. -/
def ensureRoot {AccountId : Type} : Origin AccountId → Except DispatchError Unit
  | .root => .ok ()
  | .signed _ => .error .badOrigin
  | .none => .error .badOrigin

/-- An `EnsureOrigin` check that discards the success value. -/
def ensureOrigin {AccountId : Type} (accepts : Origin AccountId → Bool)
    (o : Origin AccountId) : Except DispatchError Unit :=
  ensure (accepts o = true) .badOrigin

/-! ## Token traits -/

/-- Whether a transfer may kill its source account. -/
inductive ExistenceRequirement where
  | keepAlive
  | allowDeath
  deriving DecidableEq, Repr

/-- How far an operation must keep an account in existence. -/
inductive Preservation where
  | expendable
  | protect
  | preserve
  deriving DecidableEq, Repr

/-- Whether an operation may move less than requested. -/
inductive Precision where
  | exact
  | bestEffort
  deriving DecidableEq, Repr

/-- Whether freezes are respected. -/
inductive Fortitude where
  | polite
  | force
  deriving DecidableEq, Repr

/-- The purpose of a withdrawal. -/
inductive WithdrawReasons where
  | transactionPayment
  | transfer
  | reserve
  | fee
  | tip
  deriving DecidableEq, Repr

/-- Whether balance that changes hands arrives free or reserved. -/
inductive BalanceStatus where
  | free
  | reserved
  deriving DecidableEq, Repr

/-- `frame_support::traits::Currency`, as far as the pallets use it. -/
structure Currency (AccountId World : Type) where
  minimumBalance : Nat
  freeBalance : World → AccountId → Nat
  transfer : World → AccountId → AccountId → Nat → ExistenceRequirement →
    Except DispatchError World
  withdraw : World → AccountId → Nat → WithdrawReasons →
    ExistenceRequirement → Except DispatchError World

/-- `frame_support::traits::ReservableCurrency`, as far as the pallets use it.
What `unreserve` could not release is returned by the source and ignored by its
callers. -/
structure ReservableCurrency (AccountId World : Type) extends
    Currency AccountId World where
  reserve : World → AccountId → Nat → Except DispatchError World
  unreserve : World → AccountId → Nat → World

/-- `ReservableCurrency` with `repatriate_reserved`, for the pallets that move
what is reserved from one account to another.  What could not be moved is
returned by the source and ignored by its callers. -/
structure RepatriatingCurrency (AccountId World : Type) extends
    ReservableCurrency AccountId World where
  repatriateReserved : World → AccountId → AccountId → Nat → BalanceStatus →
    Except DispatchError World

/-- `fungibles::Inspect` and `fungibles::Mutate`, as far as the pallets use
them. -/
structure Fungibles (AccountId AssetId World : Type) where
  balance : World → AssetId → AccountId → Nat
  transfer : World → AssetId → AccountId → AccountId → Nat → Preservation →
    Except DispatchError World
  burnFrom : World → AssetId → AccountId → Nat → Preservation → Precision →
    Fortitude → Except DispatchError World

end Thxnet.Frame
