import Thxnet.Frame.Support
import Thxnet.Lib.BoundedVec
import Thxnet.Lib.StorageMap

/-!
# Data types of the DAO pallet

The `Config` trait and the records, errors and events of the pallet.  Topics are
raised with a voting period and a list of options; accounts are issued voting
rights whose weight is their balance, and vote once on each topic.

`Config` is the runtime the pallet lives in.  As in the runtimes of the root
chain, topic ids and option indices are `u64` and votes and balances `u128`.
`CurrencyUnits`, which nothing reads, is left out, and so are weights.
-/

namespace Thxnet.Dao

open Thxnet.Lib Thxnet.Frame

/-- The runtime the pallet is instantiated in. -/
structure Config where
  AccountId : Type
  World : Type
  decAccountId : DecidableEq AccountId
  totalBalance : World → AccountId → Nat
  palletIndex : Nat
  forceOrigin : Origin AccountId → Bool
  topicTitleMinimumLength : Nat
  topicTitleMaximumLength : Nat
  topicDescriptionMinimumLength : Nat
  topicDescriptionMaximumLength : Nat
  topicOptionMinimumLength : Nat
  topicOptionMaximumLength : Nat
  topicOptionMaximumNumber : Nat
  stringLimit : Nat
  topicRaiserBalanceLowerBound : Nat

instance (R : Config) : DecidableEq R.AccountId := R.decAccountId

/-- A bounded text. -/
abbrev Config.Text (R : Config) := BoundedVec UInt8 R.stringLimit

/-- A choice of options. -/
abbrev Config.Options (R : Config) := BoundedVec Nat R.topicOptionMaximumNumber

/-- Details of a topic. -/
structure TopicDetails (R : Config) where
  raiser : R.AccountId
  title : R.Text
  description : R.Text
  votingPeriodStart : Nat
  votingPeriodEnd : Nat
  options : BoundedVec R.Text R.topicOptionMaximumNumber
  requiredAnswerNumber : Nat

/-- Errors of the pallet, in the order of their codec indices. -/
inductive Error where
  | insufficientBalance
  | duplicatedOption
  | unknownTopic
  | titleTooShort
  | titleTooLong
  | invalidTitle
  | descriptionTooLong
  | invalidDescription
  | optionTooLong
  | optionTooFew
  | optionTooMany
  | invalidOption
  | invalidVotingPeriodStart
  | invalidVotingPeriodEnd
  | invalidAnswerNumber
  | invalidWeightRatio
  | voterHasVoted
  | voterHasNoVotingRight
  | voteNotOpen
  | voteClosed
  | duplicatedVoting
  | votingRightTokenIssued
  deriving DecidableEq, Repr

/-- How a call fails: with an error, or by a panic. -/
inductive Failure where
  | error (e : DispatchError)
  | panicked
  deriving DecidableEq, Repr

/-- An error of this pallet as a failure. -/
def Config.err (R : Config) (e : Error) : Failure :=
  .error (.module ⟨R.palletIndex, e.ctorIdx⟩)

/-- The `?` operator on a result of the framework. -/
def raised {α : Type} : Except DispatchError α → Except Failure α
  | .ok a => .ok a
  | .error e => .error (.error e)

theorem raised_eq_ok {α : Type} {x : Except DispatchError α} {a : α} :
    raised x = .ok a ↔ x = .ok a := by
  cases x <;> simp [raised]

/-- Events of the pallet. -/
inductive Event (R : Config) where
  | topicRaised (id : Nat) (raiser : R.AccountId)
  | votingRightTokenIssued (topicId : Nat) (voter : R.AccountId)
      (weightPerRequiredOption : Nat)
  | topicVoted (id : Nat) (voter : R.AccountId) (votedOptions : R.Options)

/-! ## Constants -/

/-- One hour, in seconds. -/
def oneHour : Nat := 60 * 60

/-- Three hours, in seconds. -/
def threeHours : Nat := 3 * 60 * 60

/-- Three months, in seconds. -/
def threeMonths : Nat := 3 * 730 * oneHour

end Thxnet.Dao
