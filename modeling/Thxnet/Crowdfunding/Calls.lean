import Thxnet.Crowdfunding.State
import Thxnet.Lib.Transition

/-!
# The dispatchables of the crowdfunding pallet

One definition per dispatchable, in the order of `lib.rs`, as a function from
the state before to the state after or the error returned.  The framework runs
every dispatchable in a storage transaction, so an error leaves the state
unchanged and the functions need not say what had been written before it.

`dispatch` selects the dispatchable of a `Call`.  A `step` of the chain, as
this pallet sees it, is a call, the passage to the next block, or a change of
the foreign storage made by another pallet.
-/

namespace Thxnet.Crowdfunding

open Thxnet.Lib Thxnet.Frame

-- every dispatchable runs in a state and has an origin
variable {T : Config} (s : State T) (origin : Origin T.AccountId)

/-! ## Creation -/

/-- A linked license must be active and must outlast the deadline. -/
def checkLicense (creator : T.AccountId) (deadline : Nat)
    (license : Option (Nat × Nat)) : Except DispatchError Unit :=
  whenSome license fun l => do
    ensure (T.licenseVerifier.ensureActiveLicense s.world s.now l.1 l.2 creator
      = .ok ()) (T.err .licenseNotActive)
    whenSome (T.licenseVerifier.licenseExpiry s.world s.now l.1 l.2)
      fun expiry =>
        ensure (deadline < expiry) (T.err .campaignExceedsLicenseExpiry)

/-- The goal must be non-zero and milestone shares must add up to 100%. -/
def checkFundingModel (config : CampaignConfig T) :
    Except DispatchError Unit :=
  match config.fundingModel with
  | .allOrNothing goal => ensure (goal ≠ 0) (T.err .invalidFundingModel)
  | .milestoneBased goal milestones => do
      ensure (goal ≠ 0) (T.err .invalidFundingModel)
      ensure ((milestones.toList.map Milestone.releaseBps).sum = 10000)
        (T.err .milestoneBpsSumInvalid)
  | .keepWhatYouRaise _ => .ok ()

/-- A hard cap must not be below the goal. -/
def checkHardCap (config : CampaignConfig T) : Except DispatchError Unit :=
  whenSome config.hardCap fun cap =>
    match config.fundingModel with
    | .allOrNothing goal => ensure (goal ≤ cap) (T.err .invalidFundingModel)
    | .milestoneBased goal _ =>
        ensure (goal ≤ cap) (T.err .invalidFundingModel)
    | .keepWhatYouRaise _ => .ok ()

/-- The least investment must not exceed the largest one. -/
def checkInvestmentRange (config : CampaignConfig T) :
    Except DispatchError Unit :=
  whenSome config.minInvestment fun least =>
    whenSome config.maxInvestmentPerInvestor fun most =>
      ensure (least ≤ most) (T.err .invalidFundingModel)

/-- `create_campaign`. -/
def createCampaign (config : CampaignConfig T)
    (customRules : Option
      (BoundedVec (EligibilityRule T) T.maxEligibilityRules))
    (license : Option (Nat × Nat)) : Except DispatchError (State T) := do
  let creator ← ensureSigned origin
  checkLicense s creator config.deadline license
  ensure (s.now < config.deadline) (T.err .deadlineInPast)
  let duration := config.deadline - s.now
  ensure (T.minCampaignDuration ≤ duration) (T.err .durationTooShort)
  ensure (duration ≤ T.maxCampaignDuration) (T.err .durationTooLong)
  whenSome config.earlyWithdrawalPenaltyBps fun penaltyBps =>
    ensure (penaltyBps ≤ 10000) (T.err .invalidPenaltyBps)
  checkFundingModel config
  checkHardCap config
  checkInvestmentRange config
  ensure ((s.creatorCampaigns creator).toList.length < T.maxCampaignsPerCreator)
    (T.err .maxCampaignsPerCreatorReached)
  let deposit := T.campaignCreationDeposit
  ensure (T.nativeCurrency.minimumBalance ≤ deposit)
    (T.err .insufficientBalance)
  let campaignId := s.nextCampaignId
  ensure (campaignId + 1 < 2 ^ 32) (T.err .campaignIdOverflow)
  let subAccount := T.campaignAccount campaignId
  let world ← T.nativeCurrency.transfer s.world creator subAccount deposit
    .keepAlive
  let campaign : Campaign T :=
    { creator := creator
      status := .funding
      config := config
      eligibilityRules := customRules.getD s.defaultEligibilityRules
      totalRaised := 0
      totalDisbursed := 0
      investorCount := 0
      creationDeposit := deposit
      createdAt := s.now
      pausedAt := none
      rwaAssetId := license.map Prod.fst
      participationId := license.map Prod.snd
      protocolFeeBps := effectiveProtocolFeeBps s }
  let ids ← okOr ((s.creatorCampaigns creator).tryPush campaignId)
    (T.err .maxCampaignsPerCreatorReached)
  pure <|
    { s with
      world := world
      nextCampaignId := campaignId + 1
      campaigns := s.campaigns.insert campaignId campaign
      creatorCampaigns := Function.update s.creatorCampaigns creator ids
      : State T }.depositEvent
        (.campaignCreated campaignId creator config.deadline)

/-! ## Cancellation -/

/-- The milestone statuses once those of a campaign have been removed. -/
def Books.withoutMilestones (b : Books T) (id : Nat) (c : Campaign T) :
    StorageDoubleMap Nat Nat MilestoneStatus :=
  match c.config.fundingModel with
  | .milestoneBased _ milestones =>
      clearMilestones b.milestoneStatuses id milestones.toList.length
  | .allOrNothing _ => b.milestoneStatuses
  | .keepWhatYouRaise _ => b.milestoneStatuses

/-- What `cancel_campaign` and `report_license_revoked` write: the status, and
the removal of the milestone statuses and the whitelist. -/
def markCancelled (campaignId : Nat) (c : Campaign T) : State T :=
  { s with
    campaigns := s.campaigns.insert campaignId { c with status := .cancelled }
    milestoneStatuses := s.withoutMilestones campaignId c
    campaignWhitelist := s.campaignWhitelist.clearPrefix campaignId
    campaignWhitelistCount :=
      Function.update s.campaignWhitelistCount campaignId 0 }

/-- `cancel_campaign`. -/
def cancelCampaign (campaignId : Nat) : Except DispatchError (State T) := do
  ensureOrigin T.forceOrigin origin
  let c ← okOr (s.campaigns.get campaignId) (T.err .campaignNotFound)
  ensure (¬ (c.status = .cancelled ∨ c.status = .completed ∨
    c.status = .succeeded)) (T.err .invalidCampaignStatus)
  pure <| (markCancelled s campaignId c).depositEvent
    (.campaignCancelled campaignId)

/-- `set_default_eligibility`. -/
def setDefaultEligibility
    (rules : BoundedVec (EligibilityRule T) T.maxEligibilityRules) :
    Except DispatchError (State T) := do
  ensureOrigin T.adminOrigin origin
  pure <| { s with defaultEligibilityRules := rules : State T }.depositEvent
    .defaultEligibilitySet

/-! ## Investing and withdrawing -/

/-- The record of an investor who adds `amount`. -/
def Investment.invested (inv : Investment) (amount : Nat) : Investment :=
  { inv with totalInvested := saturatingAdd 128 inv.totalInvested amount }

/-- The record of an investor who takes `amount` out. -/
def Investment.withdrawn (inv : Investment) (amount : Nat) : Investment :=
  { inv with totalWithdrawn := saturatingAdd 128 inv.totalWithdrawn amount }

/-- Whether everything invested has been withdrawn. -/
def Investment.fullyWithdrawn (inv : Investment) : Bool :=
  inv.totalInvested = inv.totalWithdrawn

/-- The campaign after an investment of `amount`. -/
def Campaign.invested (c : Campaign T) (amount : Nat) (isNew : Bool) :
    Campaign T :=
  { c with
    totalRaised := saturatingAdd 128 c.totalRaised amount
    investorCount :=
      if isNew then saturatingAdd 32 c.investorCount 1 else c.investorCount }

/-- The campaign after a withdrawal of `amount`. -/
def Campaign.withdrawn (c : Campaign T) (amount : Nat)
    (fullyWithdrawn : Bool) : Campaign T :=
  { c with
    totalRaised := c.totalRaised - amount
    investorCount :=
      if fullyWithdrawn then c.investorCount - 1 else c.investorCount }

/-- The record an investor adds to; the default when there is none. -/
def Books.investment (b : Books T) (id : Nat) (who : T.AccountId) :
    Investment :=
  ((b.investments id).get who).getD default

/-- Whether an investor is not yet listed in a campaign. -/
def Books.isNew (b : Books T) (id : Nat) (who : T.AccountId) : Bool :=
  !(b.investorCampaigns who).toList.contains id

/-- The investor's list of campaigns, with `id` added if it is new. -/
def Books.pushNew (b : Books T) (id : Nat) (who : T.AccountId) :
    Option (BoundedVec Nat T.maxInvestmentsPerInvestor) :=
  if b.isNew id who then (b.investorCampaigns who).tryPush id
  else some (b.investorCampaigns who)

/-- The index with `id` removed from the list of `who`. -/
def Books.dropCampaign (b : Books T) (id : Nat) (who : T.AccountId) :
    T.AccountId → BoundedVec Nat T.maxInvestmentsPerInvestor :=
  Function.update b.investorCampaigns who
    ((b.investorCampaigns who).removeFirst id)

/-- `invest`. -/
def invest (campaignId amount : Nat) : Except DispatchError (State T) := do
  let investor ← ensureSigned origin
  let campaign ← okOr (s.campaigns.get campaignId) (T.err .campaignNotFound)
  ensure (campaign.status = .funding) (T.err .invalidCampaignStatus)
  ensure (s.now ≤ campaign.config.deadline) (T.err .deadlinePassed)
  ensure (amount ≠ 0) (T.err .investmentBelowMinimum)
  checkEligibilityInner s investor campaignId campaign.eligibilityRules.toList
  whenSome campaign.config.minInvestment fun least =>
    ensure (least ≤ amount) (T.err .investmentBelowMinimum)
  whenSome campaign.config.hardCap fun cap =>
    ensure (saturatingAdd 128 campaign.totalRaised amount ≤ cap)
      (T.err .hardCapExceeded)
  let inv := s.investment campaignId investor
  whenSome campaign.config.maxInvestmentPerInvestor fun maxPer =>
    ensure (saturatingAdd 128 inv.net amount ≤ maxPer)
      (T.err .investmentExceedsMaxPerInvestor)
  let isNew := s.isNew campaignId investor
  ensure (isNew = true → (s.investorCampaigns investor).toList.length <
    T.maxInvestmentsPerInvestor) (T.err .maxInvestmentsPerInvestorReached)
  let world ← doTransfer s.world campaign.config.fundingCurrency investor
    (T.campaignAccount campaignId) amount .keepAlive
  let campaign' := campaign.invested amount isNew
  let ids ← okOr (s.pushNew campaignId investor)
    (T.err .maxInvestmentsPerInvestorReached)
  let reached : List (Event T) :=
    if campaign.config.hardCap = some campaign'.totalRaised then
      [.hardCapReached campaignId]
    else []
  pure
    { s with
      world := world
      investments :=
        s.investments.insert campaignId investor (inv.invested amount)
      campaigns := s.campaigns.insert campaignId campaign'
      investorCampaigns := Function.update s.investorCampaigns investor ids
      events := s.events ++ reached ++ [.invested campaignId investor amount] }

/-- `withdraw_investment`. -/
def withdrawInvestment (campaignId amount : Nat) :
    Except DispatchError (State T) := do
  let investor ← ensureSigned origin
  let campaign ← okOr (s.campaigns.get campaignId) (T.err .campaignNotFound)
  ensure (campaign.status = .funding ∨ campaign.status = .paused)
    (T.err .invalidCampaignStatus)
  ensure (amount ≠ 0) (T.err .insufficientInvestment)
  let inv ← okOr ((s.investments campaignId).get investor)
    (T.err .noInvestmentFound)
  ensure (amount ≤ inv.net) (T.err .insufficientInvestment)
  let penalty := bpsOf amount campaign.penaltyBps
  let net := campaign.withdrawalNet amount
  let subAccount := T.campaignAccount campaignId
  let paid ← doTransfer s.world campaign.config.fundingCurrency subAccount
    investor net .allowDeath
  let world ← (if penalty ≠ 0 then
      doBurn paid campaign.config.fundingCurrency subAccount penalty .allowDeath
    else .ok paid)
  let inv' := inv.withdrawn amount
  pure <|
    { s with
      world := world
      investments := s.investments.insert campaignId investor inv'
      investorCampaigns :=
        if inv'.fullyWithdrawn then s.dropCampaign campaignId investor
        else s.investorCampaigns
      campaigns := s.campaigns.insert campaignId
        (campaign.withdrawn amount inv'.fullyWithdrawn)
      : State T }.depositEvent
        (.investmentWithdrawn campaignId investor net penalty)

/-- `claim_refund`. -/
def claimRefund (campaignId : Nat) : Except DispatchError (State T) := do
  let investor ← ensureSigned origin
  let campaign ← okOr (s.campaigns.get campaignId) (T.err .campaignNotFound)
  ensure (campaign.status = .failed ∨ campaign.status = .cancelled)
    (T.err .invalidCampaignStatus)
  let inv ← okOr ((s.investments campaignId).get investor)
    (T.err .noInvestmentFound)
  ensure (inv.net ≠ 0) (T.err .nothingToRefund)
  let refund := campaign.refund inv
  ensure (refund ≠ 0) (T.err .nothingToRefund)
  let world ← doTransfer s.world campaign.config.fundingCurrency
    (T.campaignAccount campaignId) investor refund .allowDeath
  pure <|
    { s with
      world := world
      investments := s.investments.remove campaignId investor
      investorCampaigns := s.dropCampaign campaignId investor
      campaigns := s.campaigns.insert campaignId
        { campaign with investorCount := campaign.investorCount - 1 }
      : State T }.depositEvent (.refundClaimed campaignId investor refund)

/-! ## Finalisation -/

/-- What both finalising calls write, after their own checks. -/
def finalizeWith (campaignId : Nat) (c : Campaign T)
    (event : CampaignStatus → Event T) : State T :=
  let outcome := doFinalize s.milestoneStatuses campaignId c
  { s with
    milestoneStatuses := outcome.2
    campaigns := s.campaigns.insert campaignId { c with status := outcome.1 }
    : State T }.depositEvent (event outcome.1)

/-- `finalize_campaign`. -/
def finalizeCampaign (campaignId : Nat) : Except DispatchError (State T) := do
  let _ ← ensureSigned origin
  let c ← okOr (s.campaigns.get campaignId) (T.err .campaignNotFound)
  ensure (c.status = .funding) (T.err .invalidCampaignStatus)
  ensure (c.config.deadline < s.now) (T.err .campaignStillFunding)
  pure <| finalizeWith s campaignId c (.campaignFinalized campaignId)

/-! ## Paying out -/

/-- A non-zero fee leaves the sub-account for the fee recipient. -/
def collectFee (campaignId : Nat) (currency : PaymentCurrency T.AssetId)
    (fee : Nat) : Except DispatchError (State T) :=
  if fee = 0 then .ok s
  else do
    let world ← doTransfer s.world currency (T.campaignAccount campaignId)
      (effectiveProtocolFeeRecipient s) fee .allowDeath
    pure <| { s with world := world : State T }.depositEvent
      (.protocolFeeCollected campaignId fee)

/-- The fee leaves the sub-account, then the creator's share leaves it for the
creator. -/
def payOut (campaignId : Nat) (currency : PaymentCurrency T.AssetId)
    (who : T.AccountId) (fee creatorAmount : Nat) :
    Except DispatchError (State T) := do
  let s₁ ← collectFee s campaignId currency fee
  let world ← doTransfer s₁.world currency (T.campaignAccount campaignId) who
    creatorAmount .allowDeath
  pure { s₁ with world := world }

/-- `claim_funds`. -/
def claimFunds (campaignId : Nat) : Except DispatchError (State T) := do
  let who ← ensureSigned origin
  let campaign ← okOr (s.campaigns.get campaignId) (T.err .campaignNotFound)
  ensure (campaign.creator = who) (T.err .notCampaignCreator)
  ensure (campaign.status = .succeeded) (T.err .invalidCampaignStatus)
  let claimable := campaign.totalRaised - campaign.totalDisbursed
  ensure (claimable ≠ 0) (T.err .nothingToClaim)
  let fee := bpsOf claimable campaign.protocolFeeBps
  let creatorAmount := claimable - fee
  let s₁ ← payOut s campaignId campaign.config.fundingCurrency who fee
    creatorAmount
  let campaign' : Campaign T :=
    { campaign with
      totalDisbursed := campaign.totalRaised
      status := .completed }
  pure <|
    { s₁ with campaigns := s₁.campaigns.insert campaignId campaign'
      : State T }.depositEvent (.fundsClaimed campaignId who creatorAmount)

/-- Whether returning the deposit may kill the sub-account: not while an
asset-funded campaign still counts investors. -/
def depositRequirement (c : Campaign T) : ExistenceRequirement :=
  match c.config.fundingCurrency with
  | .asset _ => if 0 < c.investorCount then .keepAlive else .allowDeath
  | .native => .allowDeath

/-- `claim_creation_deposit`. -/
def claimCreationDeposit (campaignId : Nat) :
    Except DispatchError (State T) := do
  let who ← ensureSigned origin
  let campaign ← okOr (s.campaigns.get campaignId) (T.err .campaignNotFound)
  ensure (campaign.creator = who) (T.err .notCampaignCreator)
  ensure (campaign.status = .completed ∨ campaign.status = .failed ∨
    campaign.status = .cancelled) (T.err .invalidCampaignStatus)
  ensure (campaign.creationDeposit ≠ 0) (T.err .alreadyClaimed)
  let deposit := campaign.creationDeposit
  let world ← T.nativeCurrency.transfer s.world (T.campaignAccount campaignId)
    who deposit (depositRequirement campaign)
  let ids := s.creatorCampaigns who
  pure <|
    { s with
      world := world
      campaigns := s.campaigns.insert campaignId
        { campaign with creationDeposit := 0 }
      creatorCampaigns :=
        Function.update s.creatorCampaigns who (ids.removeFirst campaignId)
      campaignWhitelist := s.campaignWhitelist.clearPrefix campaignId
      campaignWhitelistCount :=
        Function.update s.campaignWhitelistCount campaignId 0
      : State T }.depositEvent
        (.creationDepositClaimed campaignId who deposit)

/-! ## Milestones -/

/-- Move the status of one milestone, if its present status is accepted. -/
def moveMilestone (campaignId index : Nat) (accepts : MilestoneStatus → Bool)
    (target : MilestoneStatus) : Except DispatchError (State T) := do
  let status ← okOr ((s.milestoneStatuses campaignId).get index)
    (T.err .invalidMilestoneIndex)
  ensure (accepts status = true) (T.err .invalidMilestoneStatus)
  pure { s with
    milestoneStatuses := s.milestoneStatuses.insert campaignId index target }

/-- `submit_milestone`. -/
def submitMilestone (campaignId index : Nat) :
    Except DispatchError (State T) := do
  let who ← ensureSigned origin
  let campaign ← okOr (s.campaigns.get campaignId) (T.err .campaignNotFound)
  ensure (campaign.creator = who) (T.err .notCampaignCreator)
  ensure (campaign.status = .milestonePhase) (T.err .invalidCampaignStatus)
  let s₁ ← moveMilestone s campaignId index
    (fun status => status = .pending ∨ status = .rejected) .submitted
  pure <| s₁.depositEvent (.milestoneSubmitted campaignId index)

/-- The approver's verdict on a submitted milestone. -/
def reviewMilestone (campaignId index : Nat) (verdict : MilestoneStatus)
    (event : Event T) : Except DispatchError (State T) := do
  ensureOrigin T.milestoneApprover origin
  let campaign ← okOr (s.campaigns.get campaignId) (T.err .campaignNotFound)
  ensure (campaign.status = .milestonePhase) (T.err .invalidCampaignStatus)
  let s₁ ← moveMilestone s campaignId index
    (fun status => status = .submitted) verdict
  pure <| s₁.depositEvent event

/-- `approve_milestone`. -/
def approveMilestone (campaignId index : Nat) :
    Except DispatchError (State T) :=
  reviewMilestone s origin campaignId index .approved
    (.milestoneApproved campaignId index)

/-- `reject_milestone`. -/
def rejectMilestone (campaignId index : Nat) : Except DispatchError (State T) :=
  reviewMilestone s origin campaignId index .rejected
    (.milestoneRejected campaignId index)

/-- The milestones of a milestone-based campaign, else an error. -/
def milestonesOf (c : Campaign T) : Except DispatchError (List Milestone) :=
  match c.config.fundingModel with
  | .milestoneBased _ milestones => .ok milestones.toList
  | .allOrNothing _ => .error (T.err .invalidFundingModel)
  | .keepWhatYouRaise _ => .error (T.err .invalidFundingModel)

/-- The campaign after `claim_milestone_funds` released `amount`. -/
def Campaign.released (c : Campaign T) (amount : Nat) (finished : Bool) :
    Campaign T :=
  { c with
    totalDisbursed := saturatingAdd 128 c.totalDisbursed amount
    status := if finished then .completed else c.status }

/-- `claim_milestone_funds`. -/
def claimMilestoneFunds (campaignId index : Nat) :
    Except DispatchError (State T) := do
  let who ← ensureSigned origin
  let campaign ← okOr (s.campaigns.get campaignId) (T.err .campaignNotFound)
  ensure (campaign.creator = who) (T.err .notCampaignCreator)
  ensure (campaign.status = .milestonePhase) (T.err .invalidCampaignStatus)
  let msStatus ← okOr ((s.milestoneStatuses campaignId).get index)
    (T.err .invalidMilestoneIndex)
  ensure (msStatus = .approved) (T.err .invalidMilestoneStatus)
  let milestones ← milestonesOf campaign
  let milestone ← okOr milestones[index]? (T.err .invalidMilestoneIndex)
  let releaseAmount := campaign.milestoneRelease milestone
  let fee := bpsOf releaseAmount campaign.protocolFeeBps
  let creatorAmount := releaseAmount - fee
  let s₁ ← payOut s campaignId campaign.config.fundingCurrency who fee
    creatorAmount
  let statuses := s₁.milestoneStatuses.insert campaignId index .claimed
  pure <|
    { s₁ with
      milestoneStatuses := statuses
      campaigns := s₁.campaigns.insert campaignId
        (campaign.released releaseAmount
          (allClaimed statuses campaignId milestones.length))
      : State T }.depositEvent
        (.milestoneFundsClaimed campaignId index creatorAmount)

/-! ## Pausing -/

/-- `pause_campaign`. -/
def pauseCampaign (campaignId : Nat) : Except DispatchError (State T) := do
  ensureOrigin T.adminOrigin origin
  let c ← okOr (s.campaigns.get campaignId) (T.err .campaignNotFound)
  ensure (c.status = .funding) (T.err .campaignNotFunding)
  pure <|
    { s with
      campaigns := s.campaigns.insert campaignId
        { c with pausedAt := some s.now, status := .paused }
      : State T }.depositEvent (.campaignPaused campaignId)

/-- The deadline of a resumed campaign: extended by the pause. -/
def extendedDeadline (c : Campaign T) (now : Nat) : Nat :=
  match c.pausedAt with
  | some pausedAt => saturatingAdd 32 c.config.deadline (now - pausedAt)
  | none => c.config.deadline

/-- The extended deadline must still fall before the license expires. -/
def checkLinkedExpiry (c : Campaign T) (deadline : Nat) :
    Except DispatchError Unit :=
  whenSome c.rwaAssetId fun assetId =>
    whenSome c.participationId fun partId =>
      whenSome (T.licenseVerifier.licenseExpiry s.world s.now assetId partId)
        fun expiry =>
          ensure (deadline < expiry) (T.err .campaignExceedsLicenseExpiry)

/-- `resume_campaign`. -/
def resumeCampaign (campaignId : Nat) : Except DispatchError (State T) := do
  ensureOrigin T.adminOrigin origin
  let c ← okOr (s.campaigns.get campaignId) (T.err .campaignNotFound)
  ensure (c.status = .paused) (T.err .campaignNotPaused)
  let deadline := extendedDeadline c s.now
  checkLinkedExpiry s c deadline
  pure <|
    { s with
      campaigns := s.campaigns.insert campaignId
        { c with
          config := { c.config with deadline := deadline }
          pausedAt := none
          status := .funding }
      : State T }.depositEvent (.campaignResumed campaignId)

/-! ## Whitelist -/

/-- `add_to_whitelist`. -/
def addToWhitelist (campaignId : Nat) (account : T.AccountId) :
    Except DispatchError (State T) := do
  let who ← ensureSigned origin
  let campaign ← okOr (s.campaigns.get campaignId) (T.err .campaignNotFound)
  ensure (campaign.creator = who) (T.err .notCampaignCreator)
  ensure (campaign.status = .funding ∨ campaign.status = .paused)
    (T.err .invalidCampaignStatus)
  let listed := ((s.campaignWhitelist campaignId).get account).getD false
  let count := s.campaignWhitelistCount campaignId
  ensure (listed = false → count < T.maxWhitelistSize) (T.err .whitelistFull)
  pure
    { s with
      campaignWhitelistCount :=
        if listed then s.campaignWhitelistCount
        else Function.update s.campaignWhitelistCount campaignId (count + 1)
      campaignWhitelist :=
        s.campaignWhitelist.insert campaignId account true }

/-- `remove_from_whitelist`. -/
def removeFromWhitelist (campaignId : Nat) (account : T.AccountId) :
    Except DispatchError (State T) := do
  let who ← ensureSigned origin
  let campaign ← okOr (s.campaigns.get campaignId) (T.err .campaignNotFound)
  ensure (campaign.creator = who) (T.err .notCampaignCreator)
  ensure (campaign.status = .funding ∨ campaign.status = .paused)
    (T.err .invalidCampaignStatus)
  let listed := ((s.campaignWhitelist campaignId).get account).getD false
  let count := s.campaignWhitelistCount campaignId
  pure
    { s with
      campaignWhitelistCount :=
        if listed then
          Function.update s.campaignWhitelistCount campaignId (count - 1)
        else s.campaignWhitelistCount
      campaignWhitelist := s.campaignWhitelist.remove campaignId account }

/-! ## Protocol configuration, license reports, forced finalisation -/

/-- `set_protocol_config`. -/
def setProtocolConfig (newFeeBps : Nat) (newRecipient : T.AccountId) :
    Except DispatchError (State T) := do
  ensureOrigin T.adminOrigin origin
  ensure (newFeeBps ≤ 10000) (T.err .invalidFeeBps)
  pure <|
    { s with
      protocolFeeBpsOverride := some newFeeBps
      protocolFeeRecipientOverride := some newRecipient
      : State T }.depositEvent (.protocolConfigUpdated newFeeBps newRecipient)

/-- The license a campaign is linked to. -/
def linkedLicense (c : Campaign T) : Option (Nat × Nat) :=
  match c.rwaAssetId, c.participationId with
  | some assetId, some partId => some (assetId, partId)
  | none, _ => none
  | some _, none => none

/-- `report_license_revoked`. -/
def reportLicenseRevoked (campaignId : Nat) :
    Except DispatchError (State T) := do
  let _ ← ensureSigned origin
  let c ← okOr (s.campaigns.get campaignId) (T.err .campaignNotFound)
  let license ← okOr (linkedLicense c) (T.err .noLinkedLicense)
  ensure (c.status = .funding ∨ c.status = .paused ∨
    c.status = .milestonePhase) (T.err .invalidCampaignStatus)
  ensure (T.licenseVerifier.isLicenseActive s.world s.now license.1 license.2
    = false) (T.err .licenseNotActive)
  pure <| ((markCancelled s campaignId c).depositEvent
    (.campaignLicenseReported campaignId)).depositEvent
      (.campaignCancelled campaignId)

/-- `force_finalize_campaign`. -/
def forceFinalizeCampaign (campaignId : Nat) :
    Except DispatchError (State T) := do
  ensureOrigin T.forceOrigin origin
  let c ← okOr (s.campaigns.get campaignId) (T.err .campaignNotFound)
  ensure (c.status = .funding) (T.err .invalidCampaignStatus)
  pure <| finalizeWith s campaignId c (.campaignForceFinalized campaignId)

/-! ## Calls and steps -/

/-- The pallet's calls, in the order of their call indices. -/
inductive Call (T : Config) where
  | createCampaign (config : CampaignConfig T)
      (customRules : Option
        (BoundedVec (EligibilityRule T) T.maxEligibilityRules))
      (license : Option (Nat × Nat))
  | cancelCampaign (campaignId : Nat)
  | setDefaultEligibility
      (rules : BoundedVec (EligibilityRule T) T.maxEligibilityRules)
  | invest (campaignId amount : Nat)
  | withdrawInvestment (campaignId amount : Nat)
  | claimRefund (campaignId : Nat)
  | finalizeCampaign (campaignId : Nat)
  | claimFunds (campaignId : Nat)
  | claimCreationDeposit (campaignId : Nat)
  | submitMilestone (campaignId index : Nat)
  | approveMilestone (campaignId index : Nat)
  | rejectMilestone (campaignId index : Nat)
  | claimMilestoneFunds (campaignId index : Nat)
  | pauseCampaign (campaignId : Nat)
  | resumeCampaign (campaignId : Nat)
  | addToWhitelist (campaignId : Nat) (account : T.AccountId)
  | removeFromWhitelist (campaignId : Nat) (account : T.AccountId)
  | setProtocolConfig (newFeeBps : Nat) (newRecipient : T.AccountId)
  | reportLicenseRevoked (campaignId : Nat)
  | forceFinalizeCampaign (campaignId : Nat)

/-- Run a call. -/
def dispatch : Call T → Except DispatchError (State T)
  | .createCampaign config rules license =>
      createCampaign s origin config rules license
  | .cancelCampaign id => cancelCampaign s origin id
  | .setDefaultEligibility rules => setDefaultEligibility s origin rules
  | .invest id amount => invest s origin id amount
  | .withdrawInvestment id amount => withdrawInvestment s origin id amount
  | .claimRefund id => claimRefund s origin id
  | .finalizeCampaign id => finalizeCampaign s origin id
  | .claimFunds id => claimFunds s origin id
  | .claimCreationDeposit id => claimCreationDeposit s origin id
  | .submitMilestone id index => submitMilestone s origin id index
  | .approveMilestone id index => approveMilestone s origin id index
  | .rejectMilestone id index => rejectMilestone s origin id index
  | .claimMilestoneFunds id index => claimMilestoneFunds s origin id index
  | .pauseCampaign id => pauseCampaign s origin id
  | .resumeCampaign id => resumeCampaign s origin id
  | .addToWhitelist id account => addToWhitelist s origin id account
  | .removeFromWhitelist id account => removeFromWhitelist s origin id account
  | .setProtocolConfig bps recipient => setProtocolConfig s origin bps recipient
  | .reportLicenseRevoked id => reportLicenseRevoked s origin id
  | .forceFinalizeCampaign id => forceFinalizeCampaign s origin id

/-- One step of the chain. -/
inductive Action (T : Config) where
  | call (origin : Origin T.AccountId) (call : Call T)
  | nextBlock
  | outside (world : T.World)

/-- The effect of a step: a call, a new block, or a change of the foreign
storage by another pallet. -/
def step (s : State T) : Action T → Except DispatchError (State T)
  | .call origin call => dispatch s origin call
  | .nextBlock => .ok { s with now := s.now + 1 }
  | .outside world => .ok { s with world := world }

/-- The states in which the pallet has not been used yet. -/
def Genesis (s : State T) : Prop :=
  ∃ world now, s = State.genesis T world now

/-- States reached from genesis by steps that satisfy `ok`. -/
abbrev Reachable (ok : State T → Action T → Prop) : State T → Prop :=
  Transition.Reach step Genesis ok

end Thxnet.Crowdfunding
