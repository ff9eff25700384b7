import Thxnet.Agent.Calls
import Thxnet.Frame.Repatriation

/-!
# A concrete runtime for the agent pallet

A runtime with the constants of `mock.rs` over the balances pallet, to evaluate
the pallet in.  The hash of a content is a number.
-/

namespace Thxnet.Agent

open Thxnet.Lib Thxnet.Frame

/-- The balances pallet of `mock.rs`. -/
def bankRules : BalancesConfig := unitBalances

/-- The balances pallet as the currency. -/
def bankCurrency : RepatriatingCurrency Nat (Balances Nat) where
  minimumBalance := bankRules.existentialDeposit
  freeBalance := fun w who => (w.info who).data.free
  transfer := fun w source dest amount req =>
    w.transfer bankRules source dest amount req
  withdraw := fun w who amount reasons req =>
    w.withdraw bankRules who amount reasons req
  reserve := fun w who amount => w.reserve bankRules who amount
  unreserve := fun w who amount => w.unreserve bankRules who amount
  repatriateReserved := fun w slashed beneficiary amount status =>
    w.repatriateReserved bankRules slashed beneficiary amount status

/-- The runtime of `mock.rs`. -/
abbrev bank : Config where
  AccountId := Nat
  Hash := Nat
  World := Balances Nat
  decAccountId := inferInstance
  currency := bankCurrency
  palletIndex := 2
  agentDeposit := 1000
  feedbackDeposit := 100
  validatorMinStake := 10000
  maxUriLength := 256
  maxTagLength := 32
  maxTags := 10
  maxMetadataKeyLength := 64
  maxMetadataValueLength := 256
  maxMetadataEntries := 20
  maxResponsesPerFeedback := 10
  validationRequestDeposit := 50
  disputeDeposit := 200
  validationDeadline := 100
  escrowAutoCompleteBlocks := 100800
  feedbackRateLimitBlocks := 100800
  disputeResolverOrigin := fun o => o = .root
  validatorManagerOrigin := fun o => o = .root

/-- The currency of the mock runtime is the balances pallet. -/
def bankBacked : RepatriationBacked bank.currency where
  rules := bankRules
  get := fun w => w
  put := fun _ x => x
  get_put := fun _ _ => rfl
  transfer := fun _ _ _ _ _ => (congrFun Except.map_id _).symm
  withdraw := fun _ _ _ _ _ => (congrFun Except.map_id _).symm
  reserve := fun _ _ _ => (congrFun Except.map_id _).symm
  unreserve := fun _ _ _ => rfl
  repatriate := fun _ _ _ _ _ => (congrFun Except.map_id _).symm

/-- What the mock runtime has set aside. -/
def bankReserves : Repatriations bank.currency := bankBacked.repatriations

/-- Accounts 1 to 5 with 100000 each. -/
def endowed : Balances Nat where
  account := [1, 2, 3, 4, 5].foldl
    (fun m who => m.insert who ⟨0, 1, 0, ⟨100000, 0, 0⟩⟩) .empty
  totalIssuance := 500000

/-- The first state of runs in the mock runtime. -/
def bankGenesis : State bank := ⟨Store.genesis bank endowed, 1⟩

/-- The state after some requests. -/
def bankAfter (requests : List (Action bank)) : State bank :=
  Transition.final step bankGenesis requests

theorem bankAfter_reachable {requests : List (Action bank)}
    (h : (Transition.exec step bankGenesis requests).isOk = true) :
    Reachable (fun _ _ => True) (bankAfter requests) :=
  .exec (.init ⟨_, _, rfl⟩) (fun _ _ _ => trivial) (Transition.exec_final h)

/-- A call signed by `who`. -/
def signedBy (who : Nat) (call : Call bank) : Action bank :=
  .call (.signed who) call

/-- A call by root. -/
def byRoot (call : Call bank) : Action bank := .call .root call

theorem endowed_inOrder : bankReserves.InOrder endowed :=
  ⟨Balances.anchored_of_keys (by decide +kernel), by decide +kernel⟩

theorem endowed_calm (x : Nat) : bankReserves.frozen endowed x = 0 := by
  have hkeys : ∀ who ∈ endowed.account.keys,
      (endowed.info who).data.frozen = 0 := by decide +kernel
  show (endowed.info x).data.frozen = 0
  by_cases hx : x ∈ endowed.account.keys
  · exact hkeys x hx
  · rw [Balances.info_of_notMem hx]
    rfl

end Thxnet.Agent
