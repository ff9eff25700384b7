import Thxnet.Crowdfunding.Mock
import Thxnet.Rwa.Calls

/-!
# Concrete runtimes for the RWA pallet

A runtime with the constants of `mock.rs`, to evaluate the pallet in.  The
ledger is a parameter.  `vault` is the simplest one: a purse whose owners can
also set some of the native token aside.  The pallet account is number 1000.
-/

namespace Thxnet.Rwa

open Thxnet.Lib Thxnet.Frame
open Thxnet.Crowdfunding (Purse takeUnits moveUnits)

/-- The constants of `mock.rs` over a given ledger. -/
abbrev mockRuntime (World : Type) (native : ReservableCurrency Nat World)
    (assets : Fungibles Nat Nat World) : Config where
  AccountId := Nat
  AssetId := Nat
  World := World
  decAccountId := inferInstance
  decAssetId := inferInstance
  nativeCurrency := native
  fungibles := assets
  adminOrigin := fun o => o = .root
  forceOrigin := fun o => o = .root
  palletIndex := 3
  palletAccount := 1000
  assetRegistrationDeposit := 100
  maxAssetsPerOwner := 5
  maxMetadataLen := 64
  maxSlashRecipients := 3
  maxGroupSize := 5
  maxPendingApprovals := 5
  maxSunsettingPerBlock := 3
  maxParticipationsPerHolder := 5
  minParticipationDeposit := 1
  participationFilter := fun _ _ _ => .ok ()

/-! ## A vault -/

/-- A purse, and what of the native token is set aside. -/
structure Vault extends Purse where
  reserved : Nat → Nat

/-- The native side of a vault. -/
def vaultCurrency : ReservableCurrency Nat Vault where
  minimumBalance := 1
  freeBalance := fun v who => v.native who
  transfer := fun v source dest amount _ => do
    let f ← moveUnits v.native source dest amount
    pure { v with native := f }
  withdraw := fun v who amount _ _ => do
    let f ← takeUnits v.native who amount
    pure { v with native := f }
  reserve := fun v who amount => do
    let f ← takeUnits v.native who amount
    pure { v with
      native := f
      reserved := Function.update v.reserved who (v.reserved who + amount) }
  unreserve := fun v who amount =>
    let n := min amount (v.reserved who)
    { v with
      native := Function.update v.native who (v.native who + n)
      reserved := Function.update v.reserved who (v.reserved who - n) }

/-- The asset side of a vault. -/
def vaultAssets : Fungibles Nat Nat Vault where
  balance := fun v id who => v.asset id who
  transfer := fun v id source dest amount _ => do
    let f ← moveUnits (v.asset id) source dest amount
    pure { v with asset := Function.update v.asset id f }
  burnFrom := fun v id who amount _ _ _ => do
    let f ← takeUnits (v.asset id) who amount
    pure { v with asset := Function.update v.asset id f }

/-- The mock runtime over a vault. -/
abbrev vault : Config := mockRuntime Vault vaultCurrency vaultAssets

/-- The first state of runs over a vault: everybody but the pallet has some of
everything, and it is block 1. -/
def vaultGenesis : State vault :=
  ⟨Store.genesis vault ⟨Purse.endowed (10 ^ 18), fun _ => 0⟩, 1⟩

/-- The state after some requests over a vault. -/
def vaultAfter (requests : List (Action vault)) : State vault :=
  Transition.final step vaultGenesis requests

/-! ## Requests -/

/-- A call signed by `who`. -/
def signedBy (who : Nat) (call : Call vault) : Action vault :=
  .call .unguarded (.signed who) call

/-- A call by root. -/
def byRoot (call : Call vault) : Action vault :=
  .call .unguarded .root call

/-- A policy with the defaults of `mock.rs`. -/
def defaultPolicy : AssetPolicy vault where
  depositCurrency := .native
  entryFee := 0
  deposit := 50
  maxDuration := none
  maxParticipants := none
  requiresApproval := false

/-- Account 1 registers an asset with account 9 as its beneficiary. -/
def registered (policy : AssetPolicy vault) : Action vault :=
  signedBy 1 (.registerAsset 9 policy [])

theorem vaultAfter_reachable {ok : State vault → Action vault → Prop}
    {requests : List (Action vault)} (hok : ∀ a ∈ requests, ∀ s, ok s a)
    (h : (Transition.exec step vaultGenesis requests).isOk = true) :
    Reachable ok (vaultAfter requests) :=
  .exec (.init ⟨_, _, rfl⟩) hok (Transition.exec_final h)

/-- What evaluates to true of the first asset of a concrete run. -/
theorem exists_asset {R : Config} {s : State R} {p : AssetInfo R → Prop}
    [DecidablePred p]
    (h : (s.rwaAssets.get 0).any (fun a => decide (p a)) = true) :
    ∃ a, s.rwaAssets.get 0 = some a ∧ p a := by
  obtain ⟨a, hget, ha⟩ := (Option.any_eq_true _ _).mp h
  exact ⟨a, hget, of_decide_eq_true ha⟩

/-- What evaluates to true of the first participation in it. -/
theorem exists_participation {R : Config} {s : State R}
    {p : Participation R → Prop} [DecidablePred p]
    (h : ((s.participations 0).get 0).any (fun x => decide (p x)) = true) :
    ∃ x, (s.participations 0).get 0 = some x ∧ p x := by
  obtain ⟨x, hget, hx⟩ := (Option.any_eq_true _ _).mp h
  exact ⟨x, hget, of_decide_eq_true hx⟩

end Thxnet.Rwa
