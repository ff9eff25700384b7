import Thxnet.Agent.Types
import Thxnet.Lib.Rounding

/-!
# Storage and helper functions of the agent pallet

`Books` holds the pallet's storage items together with the foreign storage the
balances are in; `Store` adds the deposited events, and `State` the block
number a call reads.  An item with a default that no function iterates over is
a total function.

The helpers follow the end of `lib.rs`.  Reputations are computed in `u64` and
`u32` arithmetic that saturates.
-/

namespace Thxnet.Agent

open Thxnet.Lib Thxnet.Frame

/-- The storage items. -/
structure Books (R : Config) where
  world : R.World
  escrows : StorageMap Nat (EscrowInfo R)
  nextEscrowId : Nat
  agents : StorageMap Nat (AgentInfo R)
  agentMetadata : StorageDoubleMap Nat
    (BoundedVec UInt8 R.maxMetadataKeyLength)
    (BoundedVec UInt8 R.maxMetadataValueLength)
  agentsByOwner : StorageMap R.AccountId (BoundedVec Nat 1000)
  nextAgentId : Nat
  feedbacks : StorageMap Nat (FeedbackInfo R)
  agentFeedbacks : StorageMap Nat (BoundedVec Nat 10000)
  clientFeedbacks : StorageMap R.AccountId (BoundedVec Nat 1000)
  feedbackResponses : StorageMap Nat
    (BoundedVec (FeedbackResponse R) R.maxResponsesPerFeedback)
  nextFeedbackId : Nat
  feedbackAuthorizations : StorageMap Nat (FeedbackAuthorization R)
  agentClientAuthorizations : StorageDoubleMap Nat R.AccountId Nat
  feedbackIndices : Nat → R.AccountId → Nat
  lastFeedbackTimestamp : StorageDoubleMap Nat R.AccountId Nat
  nextAuthorizationId : Nat
  validators : StorageMap R.AccountId (ValidatorInfo R)
  validationRequests : StorageMap Nat (ValidationRequest R)
  validationResponses :
    StorageDoubleMap Nat R.AccountId (ValidationResponse R)
  agentValidations : StorageMap Nat (BoundedVec Nat 100)
  nextRequestId : Nat
  agentReputations : StorageMap Nat ReputationScore
  disputes : StorageMap Nat (DisputeInfo R)
  feedbackDisputes : StorageMap Nat (BoundedVec Nat 10)
  nextDisputeId : Nat
  validatorWhitelist : StorageMap R.AccountId Bool

/-- The storage with the events. -/
structure Store (R : Config) extends Books R where
  events : List (Event R)

/-- The whole state a call reads and writes. -/
structure State (R : Config) extends Store R where
  now : Nat

/-- The storage before the pallet has been used. -/
def Store.genesis (R : Config) (world : R.World) : Store R where
  world := world
  escrows := .empty
  nextEscrowId := 0
  agents := .empty
  agentMetadata := fun _ => .empty
  agentsByOwner := .empty
  nextAgentId := 0
  feedbacks := .empty
  agentFeedbacks := .empty
  clientFeedbacks := .empty
  feedbackResponses := .empty
  nextFeedbackId := 0
  feedbackAuthorizations := .empty
  agentClientAuthorizations := fun _ => .empty
  feedbackIndices := fun _ _ => 0
  lastFeedbackTimestamp := fun _ => .empty
  nextAuthorizationId := 0
  validators := .empty
  validationRequests := .empty
  validationResponses := fun _ => .empty
  agentValidations := .empty
  nextRequestId := 0
  agentReputations := .empty
  disputes := .empty
  feedbackDisputes := .empty
  nextDisputeId := 0
  validatorWhitelist := .empty
  events := []

variable {R : Config}

/-- The state with other books. -/
def State.put (s : State R) (b : Books R) : State R :=
  ⟨⟨b, s.events⟩, s.now⟩

/-- Append an event. -/
def State.depositEvent (s : State R) (e : Event R) : State R :=
  ⟨⟨s.toBooks, s.events ++ [e]⟩, s.now⟩

@[simp] theorem State.put_toBooks (s : State R) (b : Books R) :
    (s.put b).toBooks = b := rfl

/-- `checked_add(1)` on an id, a `u64`. -/
def nextId (id : Nat) : Except DispatchError Nat := do
  ensure (id + 1 < 2 ^ 64) (R.err .overflow)
  pure (id + 1)

/-- `try_into` a bounded URI. -/
def boundedUri (uri : List UInt8) : Except DispatchError R.Uri :=
  okOr (BoundedVec.tryFrom uri) (R.err .uriTooLong)

/-- An agent and the check that `who` owns it. -/
def ownedAgent (b : Books R) (who : R.AccountId) (agentId : Nat) :
    Except DispatchError (AgentInfo R) := do
  let agent ← okOr (b.agents.get agentId) (R.err .agentNotFound)
  ensure (agent.owner = who) (R.err .notAgentOwner)
  pure agent

/-! ## Feedback -/

/-- `verify_feedback_authorization`. -/
def verifyFeedbackAuthorization (b : Books R) (agentId : Nat)
    (client : R.AccountId) (currentBlock : Nat) :
    Except DispatchError Unit := do
  let authId ← okOr ((b.agentClientAuthorizations agentId).get client)
    (R.err .noValidAuthorization)
  let authorization ← okOr (b.feedbackAuthorizations.get authId)
    (R.err .noValidAuthorization)
  ensure (authorization.revoked = false) (R.err .authorizationRevoked)
  ensure (currentBlock ≤ authorization.expiry) (R.err .authorizationExpired)
  ensure (b.feedbackIndices agentId client < authorization.indexLimit)
    (R.err .authorizationIndexLimitExceeded)
  ensure (b.feedbackIndices agentId client < maxValue 32)
    (R.err .tooManyFeedbacks)

/-- `check_feedback_rate_limit`. -/
def checkFeedbackRateLimit (b : Books R) (agentId : Nat)
    (client : R.AccountId) (currentBlock : Nat) : Except DispatchError Unit :=
  whenSome ((b.lastFeedbackTimestamp agentId).get client) fun lastTimestamp =>
    ensure (R.feedbackRateLimitBlocks ≤ currentBlock - lastTimestamp)
      (R.err .feedbackRateLimitExceeded)

/-- The loop that bounds the tags. -/
def pushTags : R.Tags → List (List UInt8) → Except DispatchError R.Tags
  | bounded, [] => .ok bounded
  | bounded, tag :: rest => do
      let boundedTag ← okOr (BoundedVec.tryFrom tag) (R.err .tagTooLong)
      let bounded ← okOr (bounded.tryPush boundedTag) (R.err .tooManyTags)
      pushTags bounded rest

/-- `validate_feedback_data`; a validation response is checked the same way. -/
def validateFeedbackData (score : Nat) (tags : List (List UInt8))
    (fileUri : List UInt8) : Except DispatchError (R.Tags × R.Uri) := do
  ensure (score ≤ 100) (R.err .invalidScore)
  ensure (tags.length ≤ R.maxTags) (R.err .tooManyTags)
  let boundedTags ← pushTags default tags
  let uri ← boundedUri fileUri
  pure (boundedTags, uri)

/-- `store_feedback`: the books after and the id of the feedback. -/
def storeFeedback (b : Books R) (agentId : Nat) (client : R.AccountId)
    (feedbackInfo : FeedbackInfo R) (currentBlock : Nat) :
    Except DispatchError (Books R × Nat) := do
  let feedbackId := b.nextFeedbackId
  let next ← nextId (R := R) feedbackId
  let agentFeedbacks ← okOr (b.agentFeedbacks.tryAppend agentId feedbackId)
    (R.err .tooManyFeedbacks)
  let clientFeedbacks ← okOr (b.clientFeedbacks.tryAppend client feedbackId)
    (R.err .tooManyFeedbacks)
  ensure (b.feedbackIndices agentId client + 1 < 2 ^ 32)
    (R.err .tooManyFeedbacks)
  pure
    ({ b with
      feedbacks := b.feedbacks.insert feedbackId feedbackInfo
      nextFeedbackId := next
      agentFeedbacks := agentFeedbacks
      clientFeedbacks := clientFeedbacks
      feedbackIndices := Function.update b.feedbackIndices agentId
        (Function.update (b.feedbackIndices agentId) client
          (b.feedbackIndices agentId client + 1))
      lastFeedbackTimestamp :=
        b.lastFeedbackTimestamp.insert agentId client currentBlock },
      feedbackId)

/-! ## Reputation -/

/-- The weight of a feedback of a given age, in percent. -/
def feedbackWeight (age : Nat) : Nat :=
  let daysInBlocks := 7200
  if min age (maxValue 32) ≤ 30 * daysInBlocks then 100
  else if min age (maxValue 32) ≤ 90 * daysInBlocks then 70
  else if min age (maxValue 32) ≤ 180 * daysInBlocks then 40
  else 20

/-- The variables of the loop over the feedbacks of an agent. -/
structure FeedbackTotals where
  weightedScore : Nat
  totalWeight : Nat
  validCount : Nat

/-- One round of that loop. -/
def addFeedback (b : Books R) (currentBlock : Nat) (t : FeedbackTotals)
    (feedbackId : Nat) : FeedbackTotals :=
  match b.feedbacks.get feedbackId with
  | some feedback =>
      if feedback.revoked then t
      else
        let weight := feedbackWeight (currentBlock - feedback.createdAt)
        { weightedScore := saturatingAdd 64 t.weightedScore
            (saturatingMul 64 feedback.score weight)
          totalWeight := saturatingAdd 64 t.totalWeight weight
          validCount := saturatingAdd 32 t.validCount 1 }
  | none => t

/-- The feedback score of an agent and the number of feedbacks counted. -/
def feedbackAverage (b : Books R) (currentBlock agentId : Nat) : Nat × Nat :=
  let t := (b.agentFeedbacks.listed agentId).foldl (addFeedback b currentBlock)
    ⟨0, 0, 0⟩
  (if 0 < t.totalWeight then
      min (saturatingMul 64 t.weightedScore 100 / t.totalWeight) 10000
    else 0, t.validCount)

/-- The variables of the loop over the validation requests of an agent. -/
structure ValidationTotals where
  totalScore : Nat
  validCount : Nat

/-- One round of that loop.  The responses to a request are visited in the
order of their hashed keys, on which a saturating sum does not depend. -/
def addResponses (b : Books R) (t : ValidationTotals) (requestId : Nat) :
    ValidationTotals where
  totalScore := saturatingAdd 64 t.totalScore
    ((b.validationResponses requestId).sum ValidationResponse.score)
  validCount := saturatingAdd 32 t.validCount
    ((b.validationResponses requestId).count fun _ => true)

/-- The validation score of an agent and the number of responses counted. -/
def validationAverage (b : Books R) (agentId : Nat) : Nat × Nat :=
  let t := (b.agentValidations.listed agentId).foldl (addResponses b) ⟨0, 0⟩
  (if 0 < t.validCount then
      min (saturatingMul 64 t.totalScore 100 / t.validCount) 10000
    else 0, t.validCount)

/-- `calculate_reputation`. -/
def calculateReputation (b : Books R) (currentBlock agentId : Nat) :
    ReputationScore :=
  let (feedbackScore, feedbackCount) := feedbackAverage b currentBlock agentId
  let (validationScore, validationCount) := validationAverage b agentId
  { feedbackScore := feedbackScore
    feedbackCount := feedbackCount
    validationScore := validationScore
    validationCount := validationCount
    overallScore :=
      if 0 < feedbackCount ∨ 0 < validationCount then
        saturatingAdd 32 (saturatingMul 32 feedbackScore 60 / 100)
          (saturatingMul 32 validationScore 40 / 100)
      else 0
    lastUpdated := if currentBlock < 2 ^ 32 then currentBlock else 0 }

/-- The books with a new score of an agent. -/
def Books.rated (b : Books R) (currentBlock agentId : Nat) : Books R :=
  { b with
    agentReputations := b.agentReputations.insert agentId
      (calculateReputation b currentBlock agentId) }

/-- `update_reputation`. -/
def updateReputation (s : State R) (agentId : Nat) : State R :=
  (s.put (s.toBooks.rated s.now agentId)).depositEvent
    (.reputationUpdated agentId
      (calculateReputation s.toBooks s.now agentId).overallScore)

end Thxnet.Agent
