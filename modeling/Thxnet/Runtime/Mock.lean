import Thxnet.Runtime.Chain
import Thxnet.Rwa.Mock

/-!
# A concrete runtime

Both pallets with the constants of their `mock.rs`, over one vault.  The RWA
pallet's account is number 1000 and the sub-accounts of campaigns are numbered
from 2000 on.
-/

namespace Thxnet.Runtime

open Thxnet.Lib Thxnet.Frame

/-- The runtime over a vault. -/
abbrev chain : Config where
  toConfig := Rwa.vault
  CollectionId := Nat
  ItemId := Nat
  nftOwner := fun _ _ _ => none
  milestoneApprover := fun o => o = .root
  crowdfundingIndex := 4
  campaignAccount := fun id => 2000 + id
  campaignCreationDeposit := 100
  maxCampaignsPerCreator := 5
  minCampaignDuration := 10
  maxCampaignDuration := 1000
  earlyWithdrawalPenaltyBps := 100
  maxMilestones := 5
  maxEligibilityRules := 3
  maxNftSets := 3
  maxNftsPerSet := 3
  maxInvestmentsPerInvestor := 5
  protocolFeeBps := 0
  protocolFeeRecipient := 99
  maxWhitelistSize := 100
  maxMilestones_le := Crowdfunding.purse.maxMilestones_le

/-- The first state of its runs: everybody but the pallets has some of
everything, and it is block 1. -/
def chainGenesis : State chain :=
  Crowdfunding.State.genesis chain.crowdfunding Rwa.vaultGenesis.toStore 1

/-- The state after some requests. -/
def chainAfter (requests : List (Action chain)) : State chain :=
  Transition.final step chainGenesis requests

/-! ## Requests -/

/-- A call of the RWA pallet signed by `who`. -/
def rwaBy (who : Nat) (call : Rwa.Call Rwa.vault) : Action chain :=
  .rwa (.signed who) call

/-- A campaign of `who` licensed by a participation in the first asset. -/
def licensedCampaign (who pid deadline : Nat) : Action chain :=
  .crowdfunding (.signed who) (.createCampaign
    { fundingModel := .keepWhatYouRaise none
      fundingCurrency := .native
      deadline := deadline
      hardCap := none
      minInvestment := none
      maxInvestmentPerInvestor := none
      earlyWithdrawalPenaltyBps := none }
    none (some (0, pid)))

/-- A call of the crowdfunding pallet by root. -/
def crowdfundingByRoot (call : Crowdfunding.Call chain.crowdfunding) :
    Action chain :=
  .crowdfunding .root call

/-- Account 2 takes a license for the given time. -/
def license (maxDuration : Option Nat) : List (Action chain) :=
  [ rwaBy 1 (.registerAsset 9
      { Rwa.defaultPolicy with maxDuration := maxDuration } []),
    rwaBy 2 (.requestParticipation 0 [2]) ]

theorem chainAfter_reachable {ok : State chain → Action chain → Prop}
    {requests : List (Action chain)} (hok : ∀ a ∈ requests, ∀ s, ok s a)
    (h : (Transition.exec step chainGenesis requests).isOk = true) :
    Reachable ok (chainAfter requests) :=
  .exec (.init ⟨_, _, rfl⟩) hok (Transition.exec_final h)

end Thxnet.Runtime
