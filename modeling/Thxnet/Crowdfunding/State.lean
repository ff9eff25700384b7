import Thxnet.Crowdfunding.Types
import Thxnet.Frame.PerThing
import Thxnet.Lib.StorageMap

/-!
# Storage and helper functions of the crowdfunding pallet

The storage items are split in two.  `Books` holds the items the pallet's
accounting is about: the campaigns, the investments, the milestone statuses,
the per-investor index, and the foreign storage with the token balances.
`State` adds the rest.  Items with a default (`ValueQuery`) that no function
iterates over are total functions.

The helpers follow the second half of `lib.rs`.
-/

namespace Thxnet.Crowdfunding

open Thxnet.Lib Thxnet.Frame

/-- The storage items the accounting is about. -/
structure Books (T : Config) where
  world : T.World
  campaigns : StorageMap Nat (Campaign T)
  nextCampaignId : Nat
  investments : StorageDoubleMap Nat T.AccountId Investment
  milestoneStatuses : StorageDoubleMap Nat Nat MilestoneStatus
  investorCampaigns : T.AccountId → BoundedVec Nat T.maxInvestmentsPerInvestor

/-- The whole state a call reads and writes. -/
structure State (T : Config) extends Books T where
  now : Nat
  defaultEligibilityRules :
    BoundedVec (EligibilityRule T) T.maxEligibilityRules
  creatorCampaigns : T.AccountId → BoundedVec Nat T.maxCampaignsPerCreator
  campaignWhitelist : StorageDoubleMap Nat T.AccountId Bool
  campaignWhitelistCount : Nat → Nat
  protocolFeeBpsOverride : Option Nat
  protocolFeeRecipientOverride : Option T.AccountId
  events : List (Event T)

/-- The state before the pallet has been used. -/
def State.genesis (T : Config) (world : T.World) (now : Nat) : State T where
  world := world
  campaigns := .empty
  nextCampaignId := 0
  investments := fun _ => .empty
  milestoneStatuses := fun _ => .empty
  investorCampaigns := fun _ => .empty
  now := now
  defaultEligibilityRules := .empty
  creatorCampaigns := fun _ => .empty
  campaignWhitelist := fun _ => .empty
  campaignWhitelistCount := fun _ => 0
  protocolFeeBpsOverride := none
  protocolFeeRecipientOverride := none
  events := []

variable {T : Config}

/-- Append an event. -/
def State.depositEvent (s : State T) (e : Event T) : State T :=
  { s with events := s.events ++ [e] }

@[simp] theorem State.depositEvent_toBooks (s : State T) (e : Event T) :
    (s.depositEvent e).toBooks = s.toBooks := rfl

/-! ## Basis points -/

/-- `bps` basis points of `amount`, rounded up, on saturating `u128`s. -/
def bpsOf (amount bps : Nat) : Nat :=
  let clamped := min bps 10000
  if clamped = 0 then 0
  else
    saturatingAdd 128 (saturatingMul 128 amount clamped) (10000 - 1) / 10000

/-! ## Moving money -/

/-- What `who` holds of a currency. -/
def balanceOf (w : T.World) (currency : PaymentCurrency T.AssetId)
    (who : T.AccountId) : Nat :=
  match currency with
  | .native => T.nativeCurrency.freeBalance w who
  | .asset id => T.fungibles.balance w id who

/-- `do_transfer`. -/
def doTransfer (w : T.World) (currency : PaymentCurrency T.AssetId)
    (source dest : T.AccountId) (amount : Nat) (req : ExistenceRequirement) :
    Except DispatchError T.World :=
  let preservation : Preservation :=
    match req with
    | .keepAlive => .preserve
    | .allowDeath => .expendable
  transferWith T.nativeCurrency T.fungibles req w currency preservation source
    dest amount

/-- `do_burn`. -/
def doBurn (w : T.World) (currency : PaymentCurrency T.AssetId)
    (who : T.AccountId) (amount : Nat) (req : ExistenceRequirement) :
    Except DispatchError T.World :=
  burnWith T.nativeCurrency T.fungibles req w currency .fee who amount

/-! ## Protocol fee -/

/-- The fee override if set, else the runtime constant. -/
def effectiveProtocolFeeBps (s : State T) : Nat :=
  s.protocolFeeBpsOverride.getD T.protocolFeeBps

/-- The recipient override if set, else the runtime constant. -/
def effectiveProtocolFeeRecipient (s : State T) : T.AccountId :=
  s.protocolFeeRecipientOverride.getD T.protocolFeeRecipient

/-! ## Eligibility -/

/-- Whether `who` satisfies one rule of a campaign. -/
def rulePasses (s : State T) (who : T.AccountId) (campaignId : Nat) :
    EligibilityRule T → Bool
  | .nativeBalance minBalance =>
      decide (minBalance ≤ T.nativeCurrency.freeBalance s.world who)
  | .assetBalance assetId minBalance =>
      decide (minBalance ≤ T.fungibles.balance s.world assetId who)
  | .nftOwnership requiredSets =>
      requiredSets.toList.any fun set =>
        set.toList.all fun item =>
          match T.nftOwner s.world item.1 item.2 with
          | some o => decide (o = who)
          | none => false
  | .accountWhitelist =>
      ((s.campaignWhitelist campaignId).get who).getD false

/-- `check_eligibility_inner`: stop at the first rule that fails. -/
def checkEligibilityInner (s : State T) (who : T.AccountId)
    (campaignId : Nat) : List (EligibilityRule T) → Except DispatchError Unit
  | [] => .ok ()
  | rule :: rest => do
      ensure (rulePasses s who campaignId rule = true)
        (T.err .eligibilityCheckFailed)
      checkEligibilityInner s who campaignId rest

/-! ## Milestone statuses

The storage key of a milestone is a `u8`, so positions are truncated to eight
bits where the source casts them.
-/

/-- `for i in 0..n { MilestoneStatuses::insert(id, i as u8, Pending) }`. -/
def initMilestones (m : StorageDoubleMap Nat Nat MilestoneStatus)
    (id n : Nat) : StorageDoubleMap Nat Nat MilestoneStatus :=
  (List.range n).foldl (fun m i => m.insert id (i % 256) .pending) m

/-- `for i in 0..n as u8 { MilestoneStatuses::remove(id, i) }`. -/
def clearMilestones (m : StorageDoubleMap Nat Nat MilestoneStatus)
    (id n : Nat) : StorageDoubleMap Nat Nat MilestoneStatus :=
  (List.range (n % 256)).foldl (fun m i => m.remove id i) m

/-- `(0..n as u8).all(|i| MilestoneStatuses::get(id, i) is Claimed)`. -/
def allClaimed (m : StorageDoubleMap Nat Nat MilestoneStatus)
    (id n : Nat) : Bool :=
  (List.range (n % 256)).all fun i => (m id).get i = some .claimed

/-! ## Finalisation -/

/-- `do_finalize`: the outcome of a funding campaign, and the milestone
statuses it leaves. -/
def doFinalize (m : StorageDoubleMap Nat Nat MilestoneStatus)
    (campaignId : Nat) (c : Campaign T) :
    CampaignStatus × StorageDoubleMap Nat Nat MilestoneStatus :=
  match c.config.fundingModel with
  | .allOrNothing goal =>
      if goal ≤ c.totalRaised then (.succeeded, m) else (.failed, m)
  | .keepWhatYouRaise softCap =>
      match softCap with
      | some cap => if c.totalRaised < cap then (.failed, m) else (.succeeded, m)
      | none => (.succeeded, m)
  | .milestoneBased goal milestones =>
      if goal ≤ c.totalRaised then
        (.milestonePhase, initMilestones m campaignId milestones.toList.length)
      else (.failed, m)

/-! ## Amounts a call computes -/

/-- The penalty rate of early withdrawals from a campaign. -/
def Campaign.penaltyBps (c : Campaign T) : Nat :=
  c.config.earlyWithdrawalPenaltyBps.getD T.earlyWithdrawalPenaltyBps

/-- What a withdrawal of `amount` pays its investor: `amount` less penalty. -/
def Campaign.withdrawalNet (c : Campaign T) (amount : Nat) : Nat :=
  amount - bpsOf amount c.penaltyBps

/-- The part of the raised amount that has not been paid out, in parts per
million. -/
def Campaign.remainingRatio (c : Campaign T) : Nat :=
  permill.fromRational (c.totalRaised - c.totalDisbursed) c.totalRaised

/-- What `claim_refund` computes for a record: the net contribution, reduced
pro rata once milestones have been paid out. -/
def Campaign.refund (c : Campaign T) (inv : Investment) : Nat :=
  if c.totalDisbursed ≠ 0 ∧ c.totalRaised ≠ 0 then
    permill.mul c.remainingRatio inv.net
  else inv.net

/-- What `claim_milestone_funds` releases for a milestone: its share of the
raised amount, capped at what is left. -/
def Campaign.milestoneRelease (c : Campaign T) (m : Milestone) : Nat :=
  min (bpsOf c.totalRaised m.releaseBps) (c.totalRaised - c.totalDisbursed)

end Thxnet.Crowdfunding
