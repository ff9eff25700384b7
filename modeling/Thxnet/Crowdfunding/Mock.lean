import Thxnet.Crowdfunding.Calls

/-!
# Concrete runtimes

Runtimes with the constants of `mock.rs`, to evaluate the pallet in.  The
ledger is a parameter.  `purse` is the simplest one: balances that any transfer
or burn they cover changes by exactly the amount.  Sub-accounts are numbered
from 1000 on.
-/

namespace Thxnet.Crowdfunding

open Thxnet.Lib Thxnet.Frame

/-- The constants of `mock.rs` over a given ledger, with the license verifier
that requires no license. -/
abbrev mockRuntime (World : Type) (native : Currency Nat World)
    (assets : Fungibles Nat Nat World) : Config where
  AccountId := Nat
  AssetId := Nat
  CollectionId := Nat
  ItemId := Nat
  World := World
  decAccountId := inferInstance
  decAssetId := inferInstance
  nativeCurrency := native
  fungibles := assets
  nftOwner := fun _ _ _ => none
  adminOrigin := fun o => o = .root
  forceOrigin := fun o => o = .root
  milestoneApprover := fun o => o = .root
  palletIndex := 3
  campaignAccount := fun id => 1000 + id
  campaignCreationDeposit := 100
  maxCampaignsPerCreator := 5
  minCampaignDuration := 10
  maxCampaignDuration := 1000
  earlyWithdrawalPenaltyBps := 100
  maxMilestones := 5
  maxEligibilityRules := 3
  maxNftSets := 3
  maxNftsPerSet := 3
  maxInvestmentsPerInvestor := 5
  protocolFeeBps := 0
  protocolFeeRecipient := 99
  maxWhitelistSize := 100
  licenseVerifier :=
    { ensureActiveLicense := fun _ _ _ _ _ => .ok ()
      isLicenseActive := fun _ _ _ _ => true
      licenseExpiry := fun _ _ _ _ => none }
  maxMilestones_le := by decide

/-! ## A purse -/

/-- What everybody has, of the native token and of each asset. -/
structure Purse where
  native : Nat → Nat
  asset : Nat → Nat → Nat

/-- Take `amount` from `who`. -/
def takeUnits (f : Nat → Nat) (who amount : Nat) :
    Except DispatchError (Nat → Nat) :=
  if amount ≤ f who then .ok (Function.update f who (f who - amount))
  else .error (.token .fundsUnavailable)

/-- Move `amount` from `source` to `dest`. -/
def moveUnits (f : Nat → Nat) (source dest amount : Nat) :
    Except DispatchError (Nat → Nat) := do
  let f₁ ← takeUnits f source amount
  pure (Function.update f₁ dest (f₁ dest + amount))

theorem takeUnits_eq_ok {f f' : Nat → Nat} {who amount : Nat}
    (h : takeUnits f who amount = .ok f') (x : Nat) :
    f' x + (if x = who then amount else 0) = f x := by
  unfold takeUnits at h
  split at h
  · cases h
    by_cases hx : x = who
    · subst hx
      rw [Function.update_self, if_pos rfl]
      omega
    · rw [Function.update_of_ne hx, if_neg hx]
      rfl
  · cases h

theorem moveUnits_eq_ok {f f' : Nat → Nat} {source dest amount : Nat}
    (h : moveUnits f source dest amount = .ok f') (x : Nat) :
    f' x + (if x = source then amount else 0) =
      f x + (if x = dest then amount else 0) := by
  simp only [moveUnits, do_eq_ok] at h
  obtain ⟨f₁, htake, rfl⟩ := h
  have hx₁ := takeUnits_eq_ok htake x
  by_cases hx : x = dest
  · subst hx
    rw [Function.update_self, if_pos rfl]
    omega
  · rw [Function.update_of_ne hx, if_neg hx]
    omega

/-- The native side of a purse. -/
def purseCurrency : Currency Nat Purse where
  minimumBalance := 1
  freeBalance := fun p who => p.native who
  transfer := fun p source dest amount _ => do
    let f ← moveUnits p.native source dest amount
    pure { p with native := f }
  withdraw := fun p who amount _ _ => do
    let f ← takeUnits p.native who amount
    pure { p with native := f }

/-- The asset side of a purse. -/
def purseAssets : Fungibles Nat Nat Purse where
  balance := fun p id who => p.asset id who
  transfer := fun p id source dest amount _ => do
    let f ← moveUnits (p.asset id) source dest amount
    pure { p with asset := Function.update p.asset id f }
  burnFrom := fun p id who amount _ _ _ => do
    let f ← takeUnits (p.asset id) who amount
    pure { p with asset := Function.update p.asset id f }

/-- The mock runtime over a purse. -/
abbrev purse : Config := mockRuntime Purse purseCurrency purseAssets

/-- A purse in which everybody outside the pallet has `n` of everything. -/
def Purse.endowed (n : Nat) : Purse where
  native := fun who => if who < 1000 then n else 0
  asset := fun _ who => if who < 1000 then n else 0

/-! ## Requests -/

section Requests

variable {World : Type} {native : Currency Nat World}
  {assets : Fungibles Nat Nat World}

/-- A campaign configuration with the defaults of `mock.rs`. -/
def mockConfig (model : FundingModel 5) (currency : PaymentCurrency Nat)
    (deadline : Nat) : CampaignConfig (mockRuntime World native assets) where
  fundingModel := model
  fundingCurrency := currency
  deadline := deadline
  hardCap := none
  minInvestment := none
  maxInvestmentPerInvestor := none
  earlyWithdrawalPenaltyBps := none

/-- Two milestones, for a third of the raised amount and the rest. -/
def thirdThenRest : BoundedVec Milestone 5 :=
  ⟨[⟨3333⟩, ⟨6667⟩], by decide⟩

/-- A call signed by `who`. -/
def signedBy (who : Nat) (call : Call (mockRuntime World native assets)) :
    Action (mockRuntime World native assets) :=
  .call (.signed who) call

/-- A call by root. -/
def byRoot (call : Call (mockRuntime World native assets)) :
    Action (mockRuntime World native assets) :=
  .call .root call

end Requests

theorem reachable_final {T : Config} {ok : State T → Action T → Prop}
    {s₀ : State T} (hg : Genesis s₀) {requests : List (Action T)}
    (hok : ∀ a ∈ requests, ∀ s, ok s a)
    (h : (Transition.exec step s₀ requests).isOk = true) :
    Reachable ok (Transition.final step s₀ requests) :=
  .exec (.init hg) hok (Transition.exec_final h)

/-- A campaign that keeps what it raises, open until block 50. -/
def openCampaign : Action purse :=
  signedBy 1 (.createCampaign (mockConfig (.keepWhatYouRaise none) .native 50)
    none none)

/-- The first state of runs over a purse. -/
def purseGenesis : State purse :=
  State.genesis purse (Purse.endowed (10 ^ 18)) 0

/-- The state after some requests over a purse. -/
def purseAfter (requests : List (Action purse)) : State purse :=
  Transition.final step purseGenesis requests

theorem purseAfter_run {requests : List (Action purse)}
    (h : (Transition.exec step purseGenesis requests).isOk = true) :
    Transition.Run step purseGenesis
      (Transition.trace step purseGenesis requests) (purseAfter requests) :=
  Transition.run_of_exec (Transition.exec_final h)

theorem purseAfter_reachable {ok : State purse → Action purse → Prop}
    {requests : List (Action purse)} (hok : ∀ a ∈ requests, ∀ s, ok s a)
    (h : (Transition.exec step purseGenesis requests).isOk = true) :
    Reachable ok (purseAfter requests) :=
  reachable_final ⟨_, _, rfl⟩ hok h

/-- What evaluates to true of the first campaign of a concrete run. -/
theorem exists_campaign {T : Config} {s : State T} {p : Campaign T → Prop}
    [DecidablePred p]
    (h : (s.campaigns.get 0).any (fun c => decide (p c)) = true) :
    ∃ c, s.campaigns.get 0 = some c ∧ p c := by
  obtain ⟨c, hget, hc⟩ := (Option.any_eq_true _ _).mp h
  exact ⟨c, hget, of_decide_eq_true hc⟩

end Thxnet.Crowdfunding
