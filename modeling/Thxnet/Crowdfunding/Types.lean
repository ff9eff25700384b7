import Thxnet.Frame.Payments
import Thxnet.Lib.BoundedVec

/-!
# Data types of the crowdfunding pallet

`types.rs` and the `Config` trait, error and event enumerations of `lib.rs`.
Balances, block numbers, ids and basis points are natural numbers; where the
source computes on them with a fixed width, the operation says so.  The two
opaque hashes (a milestone's description, a campaign's metadata) are not
carried: no function reads them.

The pallet is generic over its runtime.  `Config` is that runtime: the account
and asset types, the token and license interfaces of the other pallets as
functions on the storage `World` they share, and the constants.
-/

namespace Thxnet.Crowdfunding

open Thxnet.Lib Thxnet.Frame

/-- `LicenseVerifier`: the license interface, evaluated at a block number. -/
structure LicenseVerifier (AccountId World : Type) where
  ensureActiveLicense :
    World → Nat → Nat → Nat → AccountId → Except DispatchError Unit
  isLicenseActive : World → Nat → Nat → Nat → Bool
  licenseExpiry : World → Nat → Nat → Nat → Option Nat

/-- The runtime the pallet is instantiated in.  Milestones are addressed by a
`u8`; the runtimes of this repository allow five and ten of them. -/
structure Config where
  AccountId : Type
  AssetId : Type
  CollectionId : Type
  ItemId : Type
  World : Type
  decAccountId : DecidableEq AccountId
  decAssetId : DecidableEq AssetId
  nativeCurrency : Currency AccountId World
  fungibles : Fungibles AccountId AssetId World
  nftOwner : World → CollectionId → ItemId → Option AccountId
  adminOrigin : Origin AccountId → Bool
  forceOrigin : Origin AccountId → Bool
  milestoneApprover : Origin AccountId → Bool
  palletIndex : Nat
  campaignAccount : Nat → AccountId
  campaignCreationDeposit : Nat
  maxCampaignsPerCreator : Nat
  minCampaignDuration : Nat
  maxCampaignDuration : Nat
  earlyWithdrawalPenaltyBps : Nat
  maxMilestones : Nat
  maxEligibilityRules : Nat
  maxNftSets : Nat
  maxNftsPerSet : Nat
  maxInvestmentsPerInvestor : Nat
  protocolFeeBps : Nat
  protocolFeeRecipient : AccountId
  maxWhitelistSize : Nat
  licenseVerifier : LicenseVerifier AccountId World
  maxMilestones_le : maxMilestones ≤ 255

instance (T : Config) : DecidableEq T.AccountId := T.decAccountId

instance (T : Config) : DecidableEq T.AssetId := T.decAssetId

/-- A single milestone definition. -/
structure Milestone where
  releaseBps : Nat
  deriving DecidableEq, Repr

/-- Funding model for a campaign. -/
inductive FundingModel (maxMilestones : Nat) where
  | allOrNothing (goal : Nat)
  | keepWhatYouRaise (softCap : Option Nat)
  | milestoneBased (goal : Nat) (milestones : BoundedVec Milestone maxMilestones)

/-- The milestones of a funding model; empty for the other two models. -/
def FundingModel.milestones {n : Nat} : FundingModel n → List Milestone
  | .milestoneBased _ milestones => milestones.toList
  | .allOrNothing _ => []
  | .keepWhatYouRaise _ => []

/-- Per-campaign configuration. -/
structure CampaignConfig (T : Config) where
  fundingModel : FundingModel T.maxMilestones
  fundingCurrency : PaymentCurrency T.AssetId
  deadline : Nat
  hardCap : Option Nat
  minInvestment : Option Nat
  maxInvestmentPerInvestor : Option Nat
  earlyWithdrawalPenaltyBps : Option Nat

/-- Eligibility rule for investors. -/
inductive EligibilityRule (T : Config) where
  | nativeBalance (minBalance : Nat)
  | assetBalance (assetId : T.AssetId) (minBalance : Nat)
  | nftOwnership (requiredSets :
      BoundedVec (BoundedVec (T.CollectionId × T.ItemId) T.maxNftsPerSet)
        T.maxNftSets)
  | accountWhitelist

/-- Campaign lifecycle status. -/
inductive CampaignStatus where
  | funding
  | succeeded
  | failed
  | milestonePhase
  | completed
  | cancelled
  | paused
  deriving DecidableEq, Repr

/-- Status of a single milestone. -/
inductive MilestoneStatus where
  | pending
  | submitted
  | approved
  | rejected
  | claimed
  deriving DecidableEq, Repr

/-- Full campaign record. -/
structure Campaign (T : Config) where
  creator : T.AccountId
  status : CampaignStatus
  config : CampaignConfig T
  eligibilityRules : BoundedVec (EligibilityRule T) T.maxEligibilityRules
  totalRaised : Nat
  totalDisbursed : Nat
  investorCount : Nat
  creationDeposit : Nat
  createdAt : Nat
  pausedAt : Option Nat
  rwaAssetId : Option Nat
  participationId : Option Nat
  protocolFeeBps : Nat

/-- Individual investor's record for a campaign. -/
structure Investment where
  totalInvested : Nat
  totalWithdrawn : Nat
  deriving DecidableEq, Repr

instance : Inhabited Investment := ⟨⟨0, 0⟩⟩

/-- What an investor still has in the campaign. -/
def Investment.net (inv : Investment) : Nat :=
  inv.totalInvested - inv.totalWithdrawn

/-- The pallet's errors, in the order of their codec indices. -/
inductive Error where
  | campaignNotFound
  | notCampaignCreator
  | invalidCampaignStatus
  | campaignStillFunding
  | deadlinePassed
  | deadlineInPast
  | durationTooShort
  | durationTooLong
  | goalNotMet
  | hardCapExceeded
  | investmentBelowMinimum
  | investmentExceedsMaxPerInvestor
  | insufficientInvestment
  | noInvestmentFound
  | nothingToRefund
  | alreadyClaimed
  | eligibilityCheckFailed
  | invalidMilestoneIndex
  | invalidMilestoneStatus
  | milestoneBpsSumInvalid
  | maxCampaignsPerCreatorReached
  | maxInvestmentsPerInvestorReached
  | insufficientBalance
  | invalidFundingModel
  | nothingToClaim
  | campaignNotFunding
  | campaignNotPaused
  | notCampaignCreatorOrAdmin
  | campaignIdOverflow
  | invalidPenaltyBps
  | invalidFeeBps
  | licenseNotActive
  | campaignLicenseRevoked
  | noLinkedLicense
  | whitelistFull
  | campaignExceedsLicenseExpiry
  deriving DecidableEq, Repr

/-- The dispatch error a pallet error becomes in the runtime `T`. -/
def Config.err (T : Config) (e : Error) : DispatchError :=
  .module ⟨T.palletIndex, e.ctorIdx⟩

/-- The pallet's events. -/
inductive Event (T : Config) where
  | campaignCreated (campaignId : Nat) (creator : T.AccountId) (deadline : Nat)
  | campaignFinalized (campaignId : Nat) (status : CampaignStatus)
  | campaignCancelled (campaignId : Nat)
  | creationDepositClaimed (campaignId : Nat) (creator : T.AccountId)
      (depositReturned : Nat)
  | invested (campaignId : Nat) (investor : T.AccountId) (amount : Nat)
  | investmentWithdrawn (campaignId : Nat) (investor : T.AccountId)
      (amount penalty : Nat)
  | refundClaimed (campaignId : Nat) (investor : T.AccountId) (amount : Nat)
  | fundsClaimed (campaignId : Nat) (creator : T.AccountId) (amount : Nat)
  | milestoneSubmitted (campaignId index : Nat)
  | milestoneApproved (campaignId index : Nat)
  | milestoneRejected (campaignId index : Nat)
  | milestoneFundsClaimed (campaignId index amount : Nat)
  | defaultEligibilitySet
  | protocolFeeCollected (campaignId amount : Nat)
  | campaignPaused (campaignId : Nat)
  | campaignResumed (campaignId : Nat)
  | hardCapReached (campaignId : Nat)
  | protocolConfigUpdated (feeBps : Nat) (recipient : T.AccountId)
  | campaignLicenseReported (campaignId : Nat)
  | campaignForceFinalized (campaignId : Nat) (status : CampaignStatus)

end Thxnet.Crowdfunding
