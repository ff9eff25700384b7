import Thxnet.Crowdfunding.Calls
import Thxnet.Rwa.Calls

/-!
# The runtime

Both pallets in one runtime, wired as in `impls.rs`: campaigns are licensed by
participations (`rwaLicenseVerifier`), and the crowdfunding pallet is asked
before an asset is retired by force or a participation slashed
(`crowdfundingLifecycleGuard`).

For the crowdfunding pallet the whole storage of the RWA pallet is part of the
foreign storage.  The two pay through the same token pallets, whose storage is
the `World` inside.
-/

namespace Thxnet.Runtime

open Thxnet.Lib Thxnet.Frame

/-- The runtime: the configuration of the RWA pallet, and what the crowdfunding
pallet needs beyond it. -/
structure Config extends Rwa.Config where
  CollectionId : Type
  ItemId : Type
  nftOwner : World → CollectionId → ItemId → Option AccountId
  milestoneApprover : Origin AccountId → Bool
  crowdfundingIndex : Nat
  campaignAccount : Nat → AccountId
  campaignCreationDeposit : Nat
  maxCampaignsPerCreator : Nat
  minCampaignDuration : Nat
  maxCampaignDuration : Nat
  earlyWithdrawalPenaltyBps : Nat
  maxMilestones : Nat
  maxEligibilityRules : Nat
  maxNftSets : Nat
  maxNftsPerSet : Nat
  maxInvestmentsPerInvestor : Nat
  protocolFeeBps : Nat
  protocolFeeRecipient : AccountId
  maxWhitelistSize : Nat
  maxMilestones_le : maxMilestones ≤ 255

/-! ## Licenses -/

section License

variable {R : Rwa.Config}

/-- `ensure_active_license`. -/
def ensureActiveLicense (st : Rwa.Store R) (id pid : Nat)
    (who : R.AccountId) : Except DispatchError Unit := do
  let asset ← okOr (st.rwaAssets.get id) .other
  ensure (asset.status = .active) .other
  let p ← okOr ((st.participations id).get pid) .other
  ensure (p.status.isActive = true) .other
  ensure (who ∈ p.holders.toList) .other

/-- `is_license_active`. -/
def isLicenseActive (st : Rwa.Store R) (now id pid : Nat) : Bool :=
  match st.rwaAssets.get id with
  | none => false
  | some asset =>
      if asset.status = .active then
        match (st.participations id).get pid with
        | none => false
        | some p =>
            match p.status with
            | .active _ (some expiry) => now < expiry
            | .active _ none => true
            | _ => false
      else false

/-- `license_expiry`. -/
def licenseExpiry (st : Rwa.Store R) (id pid : Nat) : Option Nat :=
  match (st.participations id).get pid with
  | none => none
  | some p =>
      match p.status with
      | .active _ expiry => expiry
      | _ => none

/-- `RwaLicenseVerifier`. -/
def rwaLicenseVerifier (R : Rwa.Config) :
    Crowdfunding.LicenseVerifier R.AccountId (Rwa.Store R) where
  ensureActiveLicense := fun st _ id pid who =>
    ensureActiveLicense st id pid who
  isLicenseActive := isLicenseActive
  licenseExpiry := fun st _ id pid => licenseExpiry st id pid

end License

/-! ## The crowdfunding pallet in the runtime -/

/-- Put the storage of the token pallets back. -/
def setWorld {R : Rwa.Config} (st : Rwa.Store R) (w : R.World) : Rwa.Store R :=
  ⟨{ st.toBooks with world := w }, st.events⟩

/-- The native token, as the crowdfunding pallet reaches it. -/
def nativeCurrency (R : Rwa.Config) : Currency R.AccountId (Rwa.Store R) where
  minimumBalance := R.nativeCurrency.minimumBalance
  freeBalance := fun st who => R.nativeCurrency.freeBalance st.world who
  transfer := fun st source dest amount req => do
    let w ← R.nativeCurrency.transfer st.world source dest amount req
    pure (setWorld st w)
  withdraw := fun st who amount reasons req => do
    let w ← R.nativeCurrency.withdraw st.world who amount reasons req
    pure (setWorld st w)

/-- The other tokens, as the crowdfunding pallet reaches them. -/
def fungibles (R : Rwa.Config) :
    Fungibles R.AccountId R.AssetId (Rwa.Store R) where
  balance := fun st id who => R.fungibles.balance st.world id who
  transfer := fun st id source dest amount preservation => do
    let w ← R.fungibles.transfer st.world id source dest amount preservation
    pure (setWorld st w)
  burnFrom := fun st id who amount preservation precision fortitude => do
    let w ← R.fungibles.burnFrom st.world id who amount preservation precision
      fortitude
    pure (setWorld st w)

/-- The configuration of the crowdfunding pallet. -/
abbrev Config.crowdfunding (C : Config) : Crowdfunding.Config where
  AccountId := C.AccountId
  AssetId := C.AssetId
  CollectionId := C.CollectionId
  ItemId := C.ItemId
  World := Rwa.Store C.toConfig
  decAccountId := C.decAccountId
  decAssetId := C.decAssetId
  nativeCurrency := nativeCurrency C.toConfig
  fungibles := fungibles C.toConfig
  nftOwner := fun st => C.nftOwner st.world
  adminOrigin := C.adminOrigin
  forceOrigin := C.forceOrigin
  milestoneApprover := C.milestoneApprover
  palletIndex := C.crowdfundingIndex
  campaignAccount := C.campaignAccount
  campaignCreationDeposit := C.campaignCreationDeposit
  maxCampaignsPerCreator := C.maxCampaignsPerCreator
  minCampaignDuration := C.minCampaignDuration
  maxCampaignDuration := C.maxCampaignDuration
  earlyWithdrawalPenaltyBps := C.earlyWithdrawalPenaltyBps
  maxMilestones := C.maxMilestones
  maxEligibilityRules := C.maxEligibilityRules
  maxNftSets := C.maxNftSets
  maxNftsPerSet := C.maxNftsPerSet
  maxInvestmentsPerInvestor := C.maxInvestmentsPerInvestor
  protocolFeeBps := C.protocolFeeBps
  protocolFeeRecipient := C.protocolFeeRecipient
  maxWhitelistSize := C.maxWhitelistSize
  licenseVerifier := rwaLicenseVerifier C.toConfig
  maxMilestones_le := C.maxMilestones_le

/-- The state of the chain. -/
abbrev State (C : Config) : Type := Crowdfunding.State C.crowdfunding

variable {C : Config}

/-- What the RWA pallet sees of it. -/
def rwaState (s : State C) : Rwa.State C.toConfig := ⟨s.world, s.now⟩

/-! ## The guard -/

/-- A campaign that may still pay out: `Funding`, `Paused` or
`MilestonePhase`. -/
def isActiveCampaign (c : Crowdfunding.Campaign C.crowdfunding) : Bool :=
  c.status = .funding ∨ c.status = .paused ∨ c.status = .milestonePhase

/-- Whether an active campaign is linked to the asset. -/
def hasActiveCampaign (s : State C) (id : Nat) : Bool :=
  s.campaigns.any fun c => c.rwaAssetId = some id ∧ isActiveCampaign c = true

/-- `CrowdfundingLifecycleGuard`.  The participation is not looked at. -/
def crowdfundingLifecycleGuard (s : State C) : Rwa.LifecycleGuard where
  canRetireAsset := fun id =>
    if hasActiveCampaign s id then .error .other else .ok ()
  canSlashParticipation := fun id _ =>
    if hasActiveCampaign s id then .error .other else .ok ()

/-! ## Steps -/

/-- One step of the chain: a call of either pallet, a new block, or a change of
the token pallets' storage by another pallet. -/
inductive Action (C : Config) where
  | crowdfunding (origin : Origin C.AccountId)
      (call : Crowdfunding.Call C.crowdfunding)
  | rwa (origin : Origin C.AccountId) (call : Rwa.Call C.toConfig)
  | nextBlock
  | outside (world : C.World)

/-- The effect of a step. -/
def step (s : State C) : Action C → Except DispatchError (State C)
  | .crowdfunding origin call => Crowdfunding.dispatch s origin call
  | .rwa origin call => do
      let r ← Rwa.dispatch (crowdfundingLifecycleGuard s) (rwaState s) origin
        call
      pure { s with world := r.toStore }
  | .nextBlock =>
      .ok { s with
        world := (rwaState s).nextBlock.toStore
        now := s.now + 1 }
  | .outside w => .ok { s with world := setWorld s.world w }

/-- The states in which neither pallet has been used yet. -/
def Genesis (s : State C) : Prop :=
  ∃ world now, s =
    Crowdfunding.State.genesis C.crowdfunding
      (Rwa.Store.genesis C.toConfig world) now

/-- States reached from genesis by steps that satisfy `ok`. -/
abbrev Reachable (ok : State C → Action C → Prop) : State C → Prop :=
  Transition.Reach step Genesis ok

end Thxnet.Runtime
