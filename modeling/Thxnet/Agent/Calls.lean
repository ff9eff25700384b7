import Thxnet.Agent.State
import Thxnet.Lib.Transition

/-!
# The dispatchables of the agent pallet

One definition per dispatchable, in the order of `lib.rs`, as a function from
the state before to the state after or the error returned.  The framework runs
every dispatchable in a storage transaction, so an error leaves the state
unchanged and the functions need not say what had been written before it.

A `step` of the chain, as this pallet sees it, is a call, the passage to the
next block, or a change of the foreign storage made by another pallet.
-/

namespace Thxnet.Agent

open Thxnet.Lib Thxnet.Frame

-- every dispatchable runs in a state and has an origin
variable {R : Config} (s : State R) (origin : Origin R.AccountId)

/-! ## Identity registry -/

/-- The loop of `register_agent` that stores the metadata. -/
def storeMetadata (agentId : Nat) :
    StorageDoubleMap Nat (BoundedVec UInt8 R.maxMetadataKeyLength)
      (BoundedVec UInt8 R.maxMetadataValueLength) →
    List (List UInt8 × List UInt8) →
    Except DispatchError
      (StorageDoubleMap Nat (BoundedVec UInt8 R.maxMetadataKeyLength)
        (BoundedVec UInt8 R.maxMetadataValueLength))
  | m, [] => .ok m
  | m, (key, value) :: rest => do
      let boundedKey ← okOr (BoundedVec.tryFrom key)
        (R.err .metadataKeyTooLong)
      let boundedValue ← okOr (BoundedVec.tryFrom value)
        (R.err .metadataValueTooLong)
      storeMetadata agentId (m.insert agentId boundedKey boundedValue) rest

/-- `register_agent`. -/
def registerAgent (registrationUri : List UInt8)
    (metadata : List (List UInt8 × List UInt8)) :
    Except DispatchError (State R) := do
  let who ← ensureSigned origin
  let uri ← boundedUri registrationUri
  ensure (metadata.length ≤ R.maxMetadataEntries)
    (R.err .tooManyMetadataEntries)
  let world ← R.currency.reserve s.world who R.agentDeposit
  let agentId := s.nextAgentId
  let next ← nextId (R := R) agentId
  let agentInfo : AgentInfo R :=
    { owner := who, registrationUri := uri, createdAt := s.now }
  let agentMetadata ← storeMetadata agentId s.agentMetadata metadata
  let agentsByOwner ← okOr (s.agentsByOwner.tryAppend who agentId)
    (R.err .tooManyAgents)
  pure <|
    (s.put
      { s.toBooks with
        world := world
        agents := s.agents.insert agentId agentInfo
        nextAgentId := next
        agentMetadata := agentMetadata
        agentsByOwner := agentsByOwner }).depositEvent
      (.agentRegistered agentId who registrationUri)

/-- `update_metadata`. -/
def updateMetadata (agentId : Nat) (key : List UInt8)
    (value : Option (List UInt8)) : Except DispatchError (State R) := do
  let who ← ensureSigned origin
  let _ ← ownedAgent s.toBooks who agentId
  let boundedKey ← okOr (BoundedVec.tryFrom key) (R.err .metadataKeyTooLong)
  let agentMetadata ← (match value with
    | some val => do
        let boundedValue ← okOr (BoundedVec.tryFrom val)
          (R.err .metadataValueTooLong)
        pure (s.agentMetadata.insert agentId boundedKey boundedValue)
    | none => pure (s.agentMetadata.remove agentId boundedKey))
  pure <|
    (s.put { s.toBooks with agentMetadata := agentMetadata }).depositEvent
      (.agentMetadataUpdated agentId key)

/-- `transfer_agent`. -/
def transferAgent (agentId : Nat) (newOwner : R.AccountId) :
    Except DispatchError (State R) := do
  let who ← ensureSigned origin
  let agent ← ownedAgent s.toBooks who agentId
  let world ← R.currency.repatriateReserved s.world who newOwner
    R.agentDeposit .reserved
  let oldOwner := agent.owner
  let agentsByOwner ← okOr
    ((s.agentsByOwner.modify oldOwner fun list =>
      list.retain fun id => id ≠ agentId).tryAppend newOwner agentId)
    (R.err .tooManyAgents)
  pure <|
    (s.put
      { s.toBooks with
        world := world
        agents := s.agents.insert agentId { agent with owner := newOwner }
        agentsByOwner := agentsByOwner }).depositEvent
      (.agentTransferred agentId oldOwner newOwner)

/-! ## Reputation registry -/

/-- `authorize_feedback`. -/
def authorizeFeedback (agentId : Nat) (client : R.AccountId)
    (indexLimit expiryBlocks : Nat) : Except DispatchError (State R) := do
  let who ← ensureSigned origin
  let _ ← ownedAgent s.toBooks who agentId
  ensure ((s.agentClientAuthorizations agentId).get client = none)
    (R.err .authorizationAlreadyExists)
  let authId := s.nextAuthorizationId
  let next ← nextId (R := R) authId
  let expiry := saturatingAdd 32 s.now expiryBlocks
  let authorization : FeedbackAuthorization R :=
    { agentId := agentId
      client := client
      indexLimit := indexLimit
      expiry := expiry
      createdAt := s.now
      revoked := false }
  pure <|
    (s.put
      { s.toBooks with
        feedbackAuthorizations :=
          s.feedbackAuthorizations.insert authId authorization
        agentClientAuthorizations :=
          s.agentClientAuthorizations.insert agentId client authId
        nextAuthorizationId := next }).depositEvent
      (.feedbackAuthorizationGranted authId agentId client indexLimit expiry)

/-- `revoke_authorization`. -/
def revokeAuthorization (agentId : Nat) (client : R.AccountId) :
    Except DispatchError (State R) := do
  let who ← ensureSigned origin
  let _ ← ownedAgent s.toBooks who agentId
  let authId ← okOr ((s.agentClientAuthorizations agentId).get client)
    (R.err .authorizationNotFound)
  let auth ← okOr (s.feedbackAuthorizations.get authId)
    (R.err .authorizationNotFound)
  pure <|
    (s.put { s.toBooks with
      feedbackAuthorizations := s.feedbackAuthorizations.insert authId
        { auth with revoked := true } }).depositEvent
      (.feedbackAuthorizationRevoked authId)

/-- `give_feedback`. -/
def giveFeedback (agentId score : Nat) (tags : List (List UInt8))
    (fileUri : List UInt8) (contentHash : R.Hash) :
    Except DispatchError (State R) := do
  let who ← ensureSigned origin
  ensure ((s.agents.get agentId).isSome = true) (R.err .agentNotFound)
  verifyFeedbackAuthorization s.toBooks agentId who s.now
  checkFeedbackRateLimit s.toBooks agentId who s.now
  let (boundedTags, uri) ← validateFeedbackData score tags fileUri
  let world ← R.currency.reserve s.world who R.feedbackDeposit
  let feedback : FeedbackInfo R :=
    { agentId := agentId
      client := who
      score := score
      tags := boundedTags
      fileUri := uri
      contentHash := contentHash
      createdAt := s.now
      revoked := false }
  let (b, feedbackId) ← storeFeedback { s.toBooks with world := world } agentId
    who feedback s.now
  pure <| updateReputation
    ((s.put b).depositEvent (.feedbackGiven feedbackId agentId who score))
    agentId

/-- `revoke_feedback`. -/
def revokeFeedback (feedbackId : Nat) : Except DispatchError (State R) := do
  let who ← ensureSigned origin
  let feedback ← okOr (s.feedbacks.get feedbackId) (R.err .feedbackNotFound)
  ensure (feedback.client = who) (R.err .notFeedbackClient)
  ensure (feedback.revoked = false) (R.err .feedbackAlreadyRevoked)
  pure <| updateReputation
    ((s.put
      { s.toBooks with
        feedbacks := s.feedbacks.insert feedbackId
          { feedback with revoked := true }
        world := R.currency.unreserve s.world who R.feedbackDeposit
        }).depositEvent (.feedbackRevoked feedbackId))
    feedback.agentId

/-- `append_response`. -/
def appendResponse (feedbackId : Nat) (responseUri : List UInt8)
    (contentHash : R.Hash) : Except DispatchError (State R) := do
  let who ← ensureSigned origin
  let feedback ← okOr (s.feedbacks.get feedbackId) (R.err .feedbackNotFound)
  let _ ← ownedAgent s.toBooks who feedback.agentId
  let uri ← boundedUri responseUri
  let response : FeedbackResponse R :=
    { responseUri := uri, contentHash := contentHash, createdAt := s.now }
  let feedbackResponses ← okOr
    (s.feedbackResponses.tryAppend feedbackId response)
    (R.err .tooManyResponses)
  pure <|
    (s.put { s.toBooks with
      feedbackResponses := feedbackResponses }).depositEvent
      (.responseAppended feedbackId who)

/-! ## Validation registry -/

/-- The check of `register_validator` against the whitelist, which counts only
if there is an entry. -/
def passesWhitelist (b : Books R) (who : R.AccountId) : Bool :=
  !(b.validatorWhitelist.any fun _ => true) ||
    (b.validatorWhitelist.get who).getD false

/-- `register_validator`. -/
def registerValidator (stake : Nat) : Except DispatchError (State R) := do
  let who ← ensureSigned origin
  ensure (s.validators.get who).isNone (R.err .validatorAlreadyRegistered)
  ensure (passesWhitelist s.toBooks who = true)
    (R.err .validatorNotWhitelisted)
  ensure (R.validatorMinStake ≤ stake) (R.err .insufficientStake)
  let world ← R.currency.reserve s.world who stake
  let validatorInfo : ValidatorInfo R :=
    { account := who, stake := stake, registeredAt := s.now, active := true }
  pure <|
    (s.put
      { s.toBooks with
        world := world
        validators := s.validators.insert who validatorInfo }).depositEvent
      (.validatorRegistered who stake)

/-- `unregister_validator`. -/
def unregisterValidator : Except DispatchError (State R) := do
  let who ← ensureSigned origin
  let validator ← okOr (s.validators.get who) (R.err .validatorNotFound)
  pure <|
    (s.put
      { s.toBooks with
        world := R.currency.unreserve s.world who validator.stake
        validators := s.validators.remove who }).depositEvent
      (.validatorUnregistered who)

/-- What is reserved for a validation request with a reward. -/
def totalReserve (reward : Nat) : Nat :=
  saturatingAdd 128 R.validationRequestDeposit reward

/-- `request_validation`. -/
def requestValidation (agentId reward : Nat) :
    Except DispatchError (State R) := do
  let who ← ensureSigned origin
  ensure ((s.agents.get agentId).isSome = true) (R.err .agentNotFound)
  let world ← R.currency.reserve s.world who (totalReserve (R := R) reward)
  let requestId := s.nextRequestId
  let next ← nextId (R := R) requestId
  let request : ValidationRequest R :=
    { agentId := agentId
      requester := who
      reward := reward
      createdAt := s.now
      deadline := saturatingAdd 32 s.now R.validationDeadline
      completed := false }
  let agentValidations ← okOr (s.agentValidations.tryAppend agentId requestId)
    (R.err .tooManyValidationRequests)
  pure <|
    (s.put
      { s.toBooks with
        world := world
        validationRequests := s.validationRequests.insert requestId request
        nextRequestId := next
        agentValidations := agentValidations }).depositEvent
      (.validationRequested requestId agentId who)

/-- The reward of a request goes to a validator. -/
def payReward (w : R.World) (request : ValidationRequest R)
    (validator : R.AccountId) : Except DispatchError R.World :=
  if 0 < request.reward then
    R.currency.repatriateReserved w request.requester validator request.reward
      .free
  else .ok w

/-- `submit_validation`. -/
def submitValidation (requestId score : Nat) (evidenceUri : List UInt8)
    (contentHash : R.Hash) (tags : List (List UInt8)) :
    Except DispatchError (State R) := do
  let who ← ensureSigned origin
  let request ← okOr (s.validationRequests.get requestId)
    (R.err .validationRequestNotFound)
  let validator ← okOr (s.validators.get who) (R.err .validatorNotFound)
  ensure (validator.active = true) (R.err .validatorNotActive)
  ensure ((s.validationResponses requestId).get who).isNone
    (R.err .validationAlreadySubmitted)
  let (boundedTags, uri) ← validateFeedbackData score tags evidenceUri
  let response : ValidationResponse R :=
    { requestId := requestId
      validator := who
      score := score
      evidenceUri := uri
      contentHash := contentHash
      tags := boundedTags
      createdAt := s.now }
  let s₁ := updateReputation
    (s.put { s.toBooks with
      validationResponses :=
        s.validationResponses.insert requestId who response })
    request.agentId
  let world ← payReward s.world request who
  pure <|
    (s₁.put
      { s₁.toBooks with
        world := world
        validationRequests := s.validationRequests.insert requestId
          { request with completed := true } }).depositEvent
      (.validationSubmitted requestId who score)

/-! ## Escrow -/

/-- `create_escrow`. -/
def createEscrow (agentId amount timeout : Nat)
    (customAutoCompleteBlocks : Option Nat) :
    Except DispatchError (State R) := do
  let who ← ensureSigned origin
  ensure ((s.agents.get agentId).isSome = true) (R.err .agentNotFound)
  let world ← R.currency.reserve s.world who amount
  let escrowId := s.nextEscrowId
  let next ← nextId (R := R) escrowId
  let escrowInfo : EscrowInfo R :=
    { client := who
      agentId := agentId
      amount := amount
      autoCompleteAt := saturatingAdd 32 s.now
        (customAutoCompleteBlocks.getD R.escrowAutoCompleteBlocks)
      timeout := timeout
      status := .active
      createdAt := s.now }
  pure <|
    (s.put
      { s.toBooks with
        world := world
        escrows := s.escrows.insert escrowId escrowInfo
        nextEscrowId := next }).depositEvent
      (.escrowCreated escrowId who agentId amount timeout)

/-- An active escrow auto-completes when its time has come: the state and the
escrow after. -/
def autoComplete (escrowId : Nat) (escrow : EscrowInfo R) :
    Except DispatchError (State R × EscrowInfo R) :=
  if escrow.status = .active then
    if escrow.autoCompleteAt ≤ s.now then
      let escrow := { escrow with status := .autoCompleted }
      .ok ((s.put { s.toBooks with
        escrows := s.escrows.insert escrowId escrow }).depositEvent
        (.escrowAutoCompleted escrowId), escrow)
    else .error (R.err .escrowNotAutoCompleted)
  else .ok (s, escrow)

/-- `claim_escrow`. -/
def claimEscrow (escrowId : Nat) : Except DispatchError (State R) := do
  let who ← ensureSigned origin
  let escrow ← okOr (s.escrows.get escrowId) (R.err .escrowNotFound)
  let agent ← ownedAgent s.toBooks who escrow.agentId
  let (s₁, escrow) ← autoComplete s escrowId escrow
  ensure (escrow.status ≠ .disputed) (R.err .escrowDisputed)
  ensure (escrow.status = .autoCompleted ∨ escrow.status = .resolved)
    (R.err .escrowNotAutoCompleted)
  let world ← R.currency.transfer
    (R.currency.unreserve s.world escrow.client escrow.amount) escrow.client
    agent.owner escrow.amount .keepAlive
  pure <|
    (s₁.put
      { s₁.toBooks with
        world := world
        escrows := s₁.escrows.remove escrowId }).depositEvent
      (.escrowClaimed escrowId escrow.agentId)

/-- The escrow is closed and its amount is the client's again. -/
def refundEscrow (escrowId : Nat) (escrow : EscrowInfo R) : State R :=
  (s.put
    { s.toBooks with
      world := R.currency.unreserve s.world escrow.client escrow.amount
      escrows := s.escrows.remove escrowId }).depositEvent
    (.escrowCancelled escrowId escrow.client)

/-- `cancel_escrow`. -/
def cancelEscrow (escrowId : Nat) : Except DispatchError (State R) := do
  let who ← ensureSigned origin
  let escrow ← okOr (s.escrows.get escrowId) (R.err .escrowNotFound)
  ensure (escrow.client = who) (R.err .notEscrowClient)
  ensure (escrow.timeout ≤ s.now) (R.err .escrowNotTimedOut)
  pure (refundEscrow s escrowId escrow)

/-- `dispute_escrow`. -/
def disputeEscrow (escrowId : Nat) : Except DispatchError (State R) := do
  let who ← ensureSigned origin
  let escrow ← okOr (s.escrows.get escrowId) (R.err .escrowNotFound)
  ensure (escrow.client = who) (R.err .notEscrowClient)
  ensure (escrow.status = .active ∨ escrow.status = .autoCompleted)
    (R.err .cannotDisputeEscrow)
  pure <|
    (s.put { s.toBooks with
      escrows := s.escrows.insert escrowId
        { escrow with status := .disputed } }).depositEvent
      (.escrowDisputed escrowId who)

/-- `resolve_escrow_dispute`. -/
def resolveEscrowDispute (escrowId : Nat) (favorClient : Bool) :
    Except DispatchError (State R) := do
  ensureOrigin R.disputeResolverOrigin origin
  let escrow ← okOr (s.escrows.get escrowId) (R.err .escrowNotFound)
  ensure (escrow.status = .disputed) (R.err .cannotDisputeEscrow)
  pure <|
    if favorClient then refundEscrow s escrowId escrow
    else
      (s.put { s.toBooks with
        escrows := s.escrows.insert escrowId
          { escrow with status := .resolved } }).depositEvent
        (.escrowDisputeResolved escrowId .resolved)

/-- `cancel_validation_request`. -/
def cancelValidationRequest (requestId : Nat) :
    Except DispatchError (State R) := do
  let who ← ensureSigned origin
  let request ← okOr (s.validationRequests.get requestId)
    (R.err .validationRequestNotFound)
  ensure (request.requester = who) (R.err .notRequester)
  ensure (request.completed = false) (R.err .validationRequestCompleted)
  ensure (request.deadline ≤ s.now) (R.err .validationDeadlineNotPassed)
  pure <|
    (s.put
      { s.toBooks with
        world := R.currency.unreserve s.world who
          (totalReserve (R := R) request.reward)
        agentValidations := s.agentValidations.modify request.agentId
          fun list => list.swapRemoveFirst requestId
        validationRequests := s.validationRequests.remove requestId
        }).depositEvent (.validationRequestCancelled requestId who)

/-! ## Disputes -/

/-- `dispute_feedback`. -/
def disputeFeedback (feedbackId : Nat) (reasonUri : List UInt8)
    (contentHash : R.Hash) : Except DispatchError (State R) := do
  let who ← ensureSigned origin
  let feedback ← okOr (s.feedbacks.get feedbackId) (R.err .feedbackNotFound)
  ensure (feedback.revoked = false) (R.err .cannotDisputeRevokedFeedback)
  let _ ← ownedAgent s.toBooks who feedback.agentId
  let uri ← boundedUri reasonUri
  let world ← R.currency.reserve s.world who R.disputeDeposit
  let disputeId := s.nextDisputeId
  let next ← nextId (R := R) disputeId
  let dispute : DisputeInfo R :=
    { feedbackId := feedbackId
      disputer := who
      reasonUri := uri
      contentHash := contentHash
      status := .opened
      createdAt := s.now
      resolvedAt := none }
  let feedbackDisputes ← okOr
    (s.feedbackDisputes.tryAppend feedbackId disputeId)
    (R.err .tooManyDisputes)
  pure <|
    (s.put
      { s.toBooks with
        world := world
        disputes := s.disputes.insert disputeId dispute
        nextDisputeId := next
        feedbackDisputes := feedbackDisputes }).depositEvent
      (.disputeCreated disputeId feedbackId who)

/-- What follows from a dispute resolved for the disputer: the feedback is
revoked and the dispute deposit released, if the feedback is there. -/
def revokeDisputed (dispute : DisputeInfo R) : State R :=
  match s.feedbacks.get dispute.feedbackId with
  | some feedback =>
      let s₁ := updateReputation
        (s.put { s.toBooks with
          feedbacks := s.feedbacks.insert dispute.feedbackId
            { feedback with revoked := true } })
        feedback.agentId
      s₁.put { s₁.toBooks with
        world := R.currency.unreserve s₁.world dispute.disputer
          R.disputeDeposit }
  | none => s

/-- `resolve_dispute`. -/
def resolveDispute (disputeId : Nat) (status : DisputeStatus) :
    Except DispatchError (State R) := do
  ensureOrigin R.disputeResolverOrigin origin
  let dispute ← okOr (s.disputes.get disputeId) (R.err .disputeNotFound)
  ensure (dispute.status = .opened) (R.err .disputeAlreadyResolved)
  let dispute :=
    { dispute with status := status, resolvedAt := some s.now }
  let s₁ := s.put { s.toBooks with
    disputes := s.disputes.insert disputeId dispute }
  let s₂ :=
    match status with
    | .resolvedForDisputer => revokeDisputed s₁ dispute
    | .resolvedAgainstDisputer => s₁
    | .dismissed => s₁
    | .opened => s₁
  pure (s₂.depositEvent (.disputeResolved disputeId status))

/-! ## Validator whitelist -/

/-- `add_validator_to_whitelist`. -/
def addValidatorToWhitelist (validator : R.AccountId) :
    Except DispatchError (State R) := do
  ensureOrigin R.validatorManagerOrigin origin
  ensure ((s.validatorWhitelist.get validator).getD false = false)
    (R.err .validatorAlreadyWhitelisted)
  pure <|
    (s.put { s.toBooks with
      validatorWhitelist := s.validatorWhitelist.insert validator true
      }).depositEvent (.validatorWhitelisted validator)

/-- `remove_validator_from_whitelist`. -/
def removeValidatorFromWhitelist (validator : R.AccountId) :
    Except DispatchError (State R) := do
  ensureOrigin R.validatorManagerOrigin origin
  ensure ((s.validatorWhitelist.get validator).getD false = true)
    (R.err .validatorNotWhitelisted)
  pure <|
    (s.put { s.toBooks with
      validatorWhitelist := s.validatorWhitelist.remove validator
      }).depositEvent (.validatorRemovedFromWhitelist validator)

/-! ## Calls and steps -/

/-- The pallet's calls, in the order of their call indices. -/
inductive Call (R : Config) where
  | registerAgent (registrationUri : List UInt8)
      (metadata : List (List UInt8 × List UInt8))
  | updateMetadata (agentId : Nat) (key : List UInt8)
      (value : Option (List UInt8))
  | transferAgent (agentId : Nat) (newOwner : R.AccountId)
  | giveFeedback (agentId score : Nat) (tags : List (List UInt8))
      (fileUri : List UInt8) (contentHash : R.Hash)
  | revokeFeedback (feedbackId : Nat)
  | appendResponse (feedbackId : Nat) (responseUri : List UInt8)
      (contentHash : R.Hash)
  | registerValidator (stake : Nat)
  | unregisterValidator
  | requestValidation (agentId reward : Nat)
  | submitValidation (requestId score : Nat) (evidenceUri : List UInt8)
      (contentHash : R.Hash) (tags : List (List UInt8))
  | createEscrow (agentId amount timeout : Nat)
      (customAutoCompleteBlocks : Option Nat)
  | claimEscrow (escrowId : Nat)
  | cancelEscrow (escrowId : Nat)
  | cancelValidationRequest (requestId : Nat)
  | disputeFeedback (feedbackId : Nat) (reasonUri : List UInt8)
      (contentHash : R.Hash)
  | resolveDispute (disputeId : Nat) (status : DisputeStatus)
  | addValidatorToWhitelist (validator : R.AccountId)
  | removeValidatorFromWhitelist (validator : R.AccountId)
  | authorizeFeedback (agentId : Nat) (client : R.AccountId)
      (indexLimit expiryBlocks : Nat)
  | revokeAuthorization (agentId : Nat) (client : R.AccountId)
  | disputeEscrow (escrowId : Nat)
  | resolveEscrowDispute (escrowId : Nat) (favorClient : Bool)

/-- Run a call. -/
def dispatch : Call R → Except DispatchError (State R)
  | .registerAgent uri metadata => registerAgent s origin uri metadata
  | .updateMetadata agentId key value =>
      updateMetadata s origin agentId key value
  | .transferAgent agentId newOwner => transferAgent s origin agentId newOwner
  | .giveFeedback agentId score tags uri hash =>
      giveFeedback s origin agentId score tags uri hash
  | .revokeFeedback feedbackId => revokeFeedback s origin feedbackId
  | .appendResponse feedbackId uri hash =>
      appendResponse s origin feedbackId uri hash
  | .registerValidator stake => registerValidator s origin stake
  | .unregisterValidator => unregisterValidator s origin
  | .requestValidation agentId reward =>
      requestValidation s origin agentId reward
  | .submitValidation requestId score uri hash tags =>
      submitValidation s origin requestId score uri hash tags
  | .createEscrow agentId amount timeout blocks =>
      createEscrow s origin agentId amount timeout blocks
  | .claimEscrow escrowId => claimEscrow s origin escrowId
  | .cancelEscrow escrowId => cancelEscrow s origin escrowId
  | .cancelValidationRequest requestId =>
      cancelValidationRequest s origin requestId
  | .disputeFeedback feedbackId uri hash =>
      disputeFeedback s origin feedbackId uri hash
  | .resolveDispute disputeId status =>
      resolveDispute s origin disputeId status
  | .addValidatorToWhitelist validator =>
      addValidatorToWhitelist s origin validator
  | .removeValidatorFromWhitelist validator =>
      removeValidatorFromWhitelist s origin validator
  | .authorizeFeedback agentId client limit blocks =>
      authorizeFeedback s origin agentId client limit blocks
  | .revokeAuthorization agentId client =>
      revokeAuthorization s origin agentId client
  | .disputeEscrow escrowId => disputeEscrow s origin escrowId
  | .resolveEscrowDispute escrowId favorClient =>
      resolveEscrowDispute s origin escrowId favorClient

/-- One step of the chain. -/
inductive Action (R : Config) where
  | call (origin : Origin R.AccountId) (call : Call R)
  | nextBlock
  | outside (world : R.World)

/-- The effect of a step. -/
def step (s : State R) : Action R → Except DispatchError (State R)
  | .call origin call => dispatch s origin call
  | .nextBlock => .ok ⟨s.toStore, s.now + 1⟩
  | .outside world => .ok (s.put { s.toBooks with world := world })

/-- The states in which the pallet has not been used yet. -/
def Genesis (s : State R) : Prop :=
  ∃ world now, s = ⟨Store.genesis R world, now⟩

/-- States reached from genesis by steps that satisfy `ok`. -/
abbrev Reachable (ok : State R → Action R → Prop) : State R → Prop :=
  Transition.Reach step Genesis ok

end Thxnet.Agent
