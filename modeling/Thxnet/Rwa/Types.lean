import Thxnet.Frame.Payments
import Thxnet.Lib.BoundedVec

/-!
# Data types of the RWA pallet

`types.rs` and the `Config` trait, error and event enumerations of `lib.rs`.
An asset is registered by its owner with a policy; a participation is a license
to use it, held by a group of accounts and paid for by one of them.

As for the crowdfunding pallet, `Config` is the runtime the pallet lives in,
with the token interfaces as functions on the storage `World` of the other
pallets.  The life-cycle guard is not part of it: it asks another pallet that
itself asks this one, so its answers come with each call (`LifecycleGuard`).
-/

namespace Thxnet.Rwa

open Thxnet.Lib Thxnet.Frame

/-- `AssetLifecycleGuard`: whether other pallets allow an asset to be retired
or a participation to be slashed. -/
structure LifecycleGuard where
  canRetireAsset : Nat → Except DispatchError Unit
  canSlashParticipation : Nat → Nat → Except DispatchError Unit

/-- The guard `()`: everything is allowed. -/
def LifecycleGuard.unguarded : LifecycleGuard where
  canRetireAsset := fun _ => .ok ()
  canSlashParticipation := fun _ _ => .ok ()

/-- The runtime the pallet is instantiated in. -/
structure Config where
  AccountId : Type
  AssetId : Type
  World : Type
  decAccountId : DecidableEq AccountId
  decAssetId : DecidableEq AssetId
  nativeCurrency : ReservableCurrency AccountId World
  fungibles : Fungibles AccountId AssetId World
  adminOrigin : Origin AccountId → Bool
  forceOrigin : Origin AccountId → Bool
  palletIndex : Nat
  palletAccount : AccountId
  assetRegistrationDeposit : Nat
  maxAssetsPerOwner : Nat
  maxMetadataLen : Nat
  maxSlashRecipients : Nat
  maxGroupSize : Nat
  maxPendingApprovals : Nat
  maxSunsettingPerBlock : Nat
  maxParticipationsPerHolder : Nat
  minParticipationDeposit : Nat
  participationFilter : World → Nat → AccountId → Except DispatchError Unit

instance (R : Config) : DecidableEq R.AccountId := R.decAccountId

instance (R : Config) : DecidableEq R.AssetId := R.decAssetId

instance (R : Config) : LawfulBEq R.AccountId := inferInstance

/-- Asset lifecycle status. -/
inductive AssetStatus where
  | active
  | inactive
  | sunsetting (expiryBlock : Nat)
  | retired
  | paused
  deriving DecidableEq, Repr

/-- Per-asset participation policy. -/
structure AssetPolicy (R : Config) where
  depositCurrency : PaymentCurrency R.AssetId
  entryFee : Nat
  deposit : Nat
  maxDuration : Option Nat
  maxParticipants : Option Nat
  requiresApproval : Bool

/-- Full RWA asset record. -/
structure AssetInfo (R : Config) where
  owner : R.AccountId
  beneficiary : R.AccountId
  status : AssetStatus
  policy : AssetPolicy R
  metadata : BoundedVec UInt8 R.maxMetadataLen
  participantCount : Nat
  registrationDeposit : Nat
  createdAt : Nat

/-- Participation lifecycle status. -/
inductive ParticipationStatus where
  | pendingApproval
  | active (startedAt : Nat) (expiresAt : Option Nat)
  | expired
  | exited
  | slashed
  | revoked
  deriving DecidableEq, Repr

/-- Whether the status is `Active { .. }`. -/
def ParticipationStatus.isActive : ParticipationStatus → Bool
  | .active _ _ => true
  | .pendingApproval => false
  | .expired => false
  | .exited => false
  | .slashed => false
  | .revoked => false

/-- A participation record: the account that paid, and those with usage
rights. -/
structure Participation (R : Config) where
  rwaAssetId : Nat
  payer : R.AccountId
  holders : BoundedVec R.AccountId R.maxGroupSize
  status : ParticipationStatus
  depositHeld : Nat
  entryFeePaid : Nat

/-- Kind of slash recipient. -/
inductive SlashRecipientKind (AccountId : Type) where
  | beneficiary
  | reporter
  | account (who : AccountId)
  | burn
  deriving DecidableEq

/-- One entry in a per-asset slash distribution; the share is a `Permill`. -/
structure SlashRecipient (R : Config) where
  kind : SlashRecipientKind R.AccountId
  share : Nat

/-- The pallet's errors, in the order of their codec indices. -/
inductive Error where
  | assetNotFound
  | notAssetOwner
  | invalidAssetStatus
  | assetAlreadyRetired
  | expiryBlockInPast
  | expiryNotReached
  | sunsettingSlotsFull
  | maxAssetsPerOwnerReached
  | metadataTooLong
  | participationNotFound
  | notPayer
  | notHolder
  | invalidParticipationStatus
  | participationExpiredError
  | maxParticipantsReached
  | holderAlreadyExists
  | holderNotFound
  | maxGroupSizeReached
  | alreadyParticipating
  | maxParticipationsPerHolderReached
  | slashSharesSumInvalid
  | assetNotActive
  | pendingApprovalsFull
  | policyFieldImmutable
  | maxParticipantsBelowCurrent
  | emptyHoldersList
  | slashAmountExceedsDeposit
  | transferToSelf
  | noPendingTransfer
  | notPendingOwner
  | participantNotEligible
  | assetIdOverflow
  | participationIdOverflow
  | depositBelowMinimum
  | blockedByLifecycleGuard
  deriving DecidableEq, Repr

/-- The dispatch error a pallet error becomes in the runtime `R`. -/
def Config.err (R : Config) (e : Error) : DispatchError :=
  .module ⟨R.palletIndex, e.ctorIdx⟩

/-- The pallet's events. -/
inductive Event (R : Config) where
  | assetRegistered (assetId : Nat) (owner beneficiary : R.AccountId)
  | assetPolicyUpdated (assetId : Nat)
  | assetDeactivated (assetId : Nat)
  | assetReactivated (assetId : Nat)
  | assetSunsetting (assetId expiryBlock : Nat)
  | assetRetired (assetId depositReturned : Nat)
  | participationRequested (assetId participationId : Nat)
      (payer : R.AccountId) (holders : List R.AccountId)
  | participationApproved (assetId participationId : Nat)
  | participationRejected
      (assetId participationId depositRefunded feeRefunded : Nat)
  | participationExited (assetId participationId depositRefunded : Nat)
  | participationExpired (assetId participationId depositRefunded : Nat)
  | participationRenewed (assetId participationId : Nat)
      (newExpiresAt : Option Nat)
  | participationSlashed (assetId participationId amount : Nat)
      (reporter : Option R.AccountId)
  | participationRevoked (assetId participationId depositRefunded : Nat)
  | holderAdded (assetId participationId : Nat) (holder : R.AccountId)
  | holderRemoved (assetId participationId : Nat) (holder : R.AccountId)
  | holderLeft (assetId participationId : Nat) (holder : R.AccountId)
  | slashDistributionSet (assetId recipientCount : Nat)
  | ownershipTransferProposed (assetId : Nat) (source dest : R.AccountId)
  | ownershipTransferred (assetId : Nat) (oldOwner newOwner : R.AccountId)
  | ownershipTransferCancelled (assetId : Nat)
  | beneficiaryUpdated (assetId : Nat)
      (oldBeneficiary newBeneficiary : R.AccountId)
  | metadataUpdated (assetId : Nat)
  | participationTransferred (assetId participationId : Nat)
      (oldPayer newPayer : R.AccountId)
  | assetPaused (assetId : Nat)
  | assetUnpaused (assetId : Nat)
  | batchPendingRejected (assetId count : Nat)

end Thxnet.Rwa
