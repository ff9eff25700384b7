import Thxnet.Dao.Calls
import Thxnet.Frame.Transfers

/-!
# A concrete runtime for the DAO pallet

A runtime with the constants of `mock.rs` over the balances pallet, to evaluate
the pallet in.
-/

namespace Thxnet.Dao

open Thxnet.Lib Thxnet.Frame

/-- The balances pallet of `mock.rs`. -/
def assemblyRules : BalancesConfig := unitBalances

/-- The runtime of `mock.rs`. -/
abbrev assembly : Config where
  AccountId := Nat
  World := Balances Nat
  decAccountId := inferInstance
  totalBalance := fun w who => (w.info who).total
  palletIndex := 3
  forceOrigin := fun o => o = .root
  topicTitleMinimumLength := 1
  topicTitleMaximumLength := 256
  topicDescriptionMinimumLength := 1
  topicDescriptionMaximumLength := 2048
  topicOptionMinimumLength := 1
  topicOptionMaximumLength := 256
  topicOptionMaximumNumber := 1024
  stringLimit := 8192
  topicRaiserBalanceLowerBound := 1000000 * 10000000000

/-- Account 1 with enough to raise a topic, accounts 2 and 3 with 500 and
700. -/
def citizens : Balances Nat where
  account := [(1, 10000000000000000), (2, 500), (3, 700)].foldl
    (fun m p => m.insert p.1 ⟨0, 1, 0, ⟨p.2, 0, 0⟩⟩) .empty
  totalIssuance := 10000000000001200

/-- The first state of runs in the mock runtime. -/
def assemblyGenesis : State assembly := .genesis assembly citizens 0

/-- The state after some requests. -/
def assemblyAfter (requests : List (Action assembly)) : State assembly :=
  Transition.final step assemblyGenesis requests

/-- A call signed by `who`. -/
def signedBy (who : Nat) (call : Call assembly) : Action assembly :=
  .call (.signed who) call

/-- A topic with three options, of which two are to be chosen, open from second
3600 to second 14400. -/
def topic : Call assembly :=
  .raiseTopic [116] [100] 3600 14400 [[97], [98], [99]] 2

/-- A choice of options. -/
def choice (options : List Nat) : assembly.Options :=
  (BoundedVec.tryFrom options).getD default

end Thxnet.Dao
