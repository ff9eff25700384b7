import Thxnet.Frame.Support
import Thxnet.Lib.Listing

/-!
# Data types of the trustless agent pallet

The `Config` trait and the records, errors and events of `lib.rs`.  Agents are
registered by their owners; clients give feedback on them, validators answer
validation requests about them, and payments to them wait in escrow.  Every one
of these holds something of somebody's balance in reserve.

`Config` is the runtime the pallet lives in.  Block numbers are `u32` and
balances `u128`, as in the runtime of the leafchains.  Weights are left out, and
so are the errors' texts.
-/

namespace Thxnet.Agent

open Thxnet.Lib Thxnet.Frame

/-- The runtime the pallet is instantiated in. -/
structure Config where
  AccountId : Type
  Hash : Type
  World : Type
  decAccountId : DecidableEq AccountId
  currency : RepatriatingCurrency AccountId World
  palletIndex : Nat
  agentDeposit : Nat
  feedbackDeposit : Nat
  validatorMinStake : Nat
  maxUriLength : Nat
  maxTagLength : Nat
  maxTags : Nat
  maxMetadataKeyLength : Nat
  maxMetadataValueLength : Nat
  maxMetadataEntries : Nat
  maxResponsesPerFeedback : Nat
  validationRequestDeposit : Nat
  disputeDeposit : Nat
  validationDeadline : Nat
  escrowAutoCompleteBlocks : Nat
  feedbackRateLimitBlocks : Nat
  disputeResolverOrigin : Origin AccountId → Bool
  validatorManagerOrigin : Origin AccountId → Bool

instance (R : Config) : DecidableEq R.AccountId := R.decAccountId

/-- A bounded URI. -/
abbrev Config.Uri (R : Config) := BoundedVec UInt8 R.maxUriLength

/-- Bounded tags. -/
abbrev Config.Tags (R : Config) :=
  BoundedVec (BoundedVec UInt8 R.maxTagLength) R.maxTags

/-! ## Records -/

/-- Agent information. -/
structure AgentInfo (R : Config) where
  owner : R.AccountId
  registrationUri : R.Uri
  createdAt : Nat

/-- Feedback information. -/
structure FeedbackInfo (R : Config) where
  agentId : Nat
  client : R.AccountId
  score : Nat
  tags : R.Tags
  fileUri : R.Uri
  contentHash : R.Hash
  createdAt : Nat
  revoked : Bool

/-- Feedback authorization. -/
structure FeedbackAuthorization (R : Config) where
  agentId : Nat
  client : R.AccountId
  indexLimit : Nat
  expiry : Nat
  createdAt : Nat
  revoked : Bool

/-- Response to feedback. -/
structure FeedbackResponse (R : Config) where
  responseUri : R.Uri
  contentHash : R.Hash
  createdAt : Nat

/-- Validator information. -/
structure ValidatorInfo (R : Config) where
  account : R.AccountId
  stake : Nat
  registeredAt : Nat
  active : Bool

/-- Validation request. -/
structure ValidationRequest (R : Config) where
  agentId : Nat
  requester : R.AccountId
  reward : Nat
  createdAt : Nat
  deadline : Nat
  completed : Bool

/-- Validation response. -/
structure ValidationResponse (R : Config) where
  requestId : Nat
  validator : R.AccountId
  score : Nat
  evidenceUri : R.Uri
  contentHash : R.Hash
  tags : R.Tags
  createdAt : Nat

/-- Escrow status. -/
inductive EscrowStatus where
  | active
  | autoCompleted
  | disputed
  | resolved
  deriving DecidableEq, Repr

/-- Escrow information. -/
structure EscrowInfo (R : Config) where
  client : R.AccountId
  agentId : Nat
  amount : Nat
  autoCompleteAt : Nat
  timeout : Nat
  status : EscrowStatus
  createdAt : Nat

/-- Agent reputation score, in hundredths of a percent. -/
structure ReputationScore where
  feedbackScore : Nat
  feedbackCount : Nat
  validationScore : Nat
  validationCount : Nat
  overallScore : Nat
  lastUpdated : Nat
  deriving DecidableEq, Repr

/-- Dispute status. -/
inductive DisputeStatus where
  | opened
  | resolvedForDisputer
  | resolvedAgainstDisputer
  | dismissed
  deriving DecidableEq, Repr

/-- Dispute information. -/
structure DisputeInfo (R : Config) where
  feedbackId : Nat
  disputer : R.AccountId
  reasonUri : R.Uri
  contentHash : R.Hash
  status : DisputeStatus
  createdAt : Nat
  resolvedAt : Option Nat

/-! ## Errors and events -/

/-- The pallet's errors, in the order of their codec indices. -/
inductive Error where
  | agentNotFound
  | notAgentOwner
  | tooManyAgents
  | tooManyMetadataEntries
  | uriTooLong
  | metadataKeyTooLong
  | metadataValueTooLong
  | feedbackNotFound
  | notFeedbackClient
  | feedbackAlreadyRevoked
  | invalidScore
  | tooManyTags
  | tagTooLong
  | tooManyFeedbacks
  | tooManyResponses
  | invalidSignature
  | authorizationNotFound
  | authorizationExpired
  | authorizationRevoked
  | authorizationIndexLimitExceeded
  | noValidAuthorization
  | feedbackRateLimitExceeded
  | authorizationAlreadyExists
  | validatorAlreadyRegistered
  | validatorNotFound
  | insufficientStake
  | validationRequestNotFound
  | notRequester
  | validatorNotActive
  | validationAlreadySubmitted
  | tooManyValidationRequests
  | escrowNotFound
  | notEscrowClient
  | escrowNotTimedOut
  | escrowAlreadyClosed
  | invalidEscrowSignature
  | escrowNotAutoCompleted
  | escrowDisputed
  | cannotDisputeEscrow
  | escrowDisputeAlreadyResolved
  | disputeNotFound
  | notDisputeResolver
  | disputeAlreadyResolved
  | tooManyDisputes
  | cannotDisputeRevokedFeedback
  | validationRequestCompleted
  | validationDeadlinePassed
  | validationDeadlineNotPassed
  | validatorNotWhitelisted
  | validatorAlreadyWhitelisted
  | overflow
  deriving DecidableEq, Repr

/-- The dispatch error a pallet error becomes in the runtime `R`. -/
def Config.err (R : Config) (e : Error) : DispatchError :=
  .module ⟨R.palletIndex, e.ctorIdx⟩

/-- The events the calls deposit. -/
inductive Event (R : Config) where
  | agentRegistered (agentId : Nat) (owner : R.AccountId)
      (registrationUri : List UInt8)
  | agentMetadataUpdated (agentId : Nat) (key : List UInt8)
  | agentTransferred (agentId : Nat) (oldOwner newOwner : R.AccountId)
  | feedbackAuthorizationGranted (authorizationId agentId : Nat)
      (client : R.AccountId) (indexLimit expiry : Nat)
  | feedbackAuthorizationRevoked (authorizationId : Nat)
  | feedbackGiven (feedbackId agentId : Nat) (client : R.AccountId)
      (score : Nat)
  | feedbackRevoked (feedbackId : Nat)
  | responseAppended (feedbackId : Nat) (responder : R.AccountId)
  | validatorRegistered (validator : R.AccountId) (stake : Nat)
  | validatorUnregistered (validator : R.AccountId)
  | validationRequested (requestId agentId : Nat) (requester : R.AccountId)
  | validationSubmitted (requestId : Nat) (validator : R.AccountId)
      (score : Nat)
  | escrowCreated (escrowId : Nat) (client : R.AccountId)
      (agentId amount timeout : Nat)
  | escrowAutoCompleted (escrowId : Nat)
  | escrowDisputed (escrowId : Nat) (disputer : R.AccountId)
  | escrowDisputeResolved (escrowId : Nat) (status : EscrowStatus)
  | escrowClaimed (escrowId agentId : Nat)
  | escrowCancelled (escrowId : Nat) (client : R.AccountId)
  | reputationUpdated (agentId overallScore : Nat)
  | disputeCreated (disputeId feedbackId : Nat) (disputer : R.AccountId)
  | disputeResolved (disputeId : Nat) (status : DisputeStatus)
  | validationRequestCancelled (requestId : Nat) (requester : R.AccountId)
  | validatorWhitelisted (validator : R.AccountId)
  | validatorRemovedFromWhitelist (validator : R.AccountId)

end Thxnet.Agent
