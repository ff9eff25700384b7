import Thxnet.Agent.Calls

/-!
# What a step can do to the books

`Effect b now a b'` lists every way an accepted step `a` in block `now` can
change the books `b` into `b'`, with the checks the step has passed.
`step_effect` is the only place where the dispatchables are unfolded for this;
an invariant of the books is proved by going through the constructors of
`Effect`.
-/

namespace Thxnet.Agent

open Thxnet.Lib Thxnet.Frame

variable {R : Config}

/-! ## The vocabulary of effects -/

/-- The pair of `agentId` and `client` has an authorization that admits one more
feedback in block `now`. -/
structure Authorized (b : Books R) (now agentId : Nat) (client : R.AccountId)
    (authId : Nat) (auth : FeedbackAuthorization R) : Prop where
  listed : (b.agentClientAuthorizations agentId).get client = some authId
  stored : b.feedbackAuthorizations.get authId = some auth
  live : auth.revoked = false
  notExpired : now ≤ auth.expiry
  notUsedUp : b.feedbackIndices agentId client < auth.indexLimit

/-- The last feedback of the pair is long enough ago. -/
def RateLimited (b : Books R) (now agentId : Nat) (client : R.AccountId) :
    Prop :=
  ∀ last, (b.lastFeedbackTimestamp agentId).get client = some last →
    R.feedbackRateLimitBlocks ≤ now - last

/-- The books with one more feedback of `f.client` on `f.agentId`. -/
def Books.withFeedback (b : Books R) (now : Nat) (world : R.World)
    (f : FeedbackInfo R)
    (agentFeedbacks : StorageMap Nat (BoundedVec Nat 10000))
    (clientFeedbacks : StorageMap R.AccountId (BoundedVec Nat 1000)) :
    Books R :=
  { b with
    world := world
    feedbacks := b.feedbacks.insert b.nextFeedbackId f
    nextFeedbackId := b.nextFeedbackId + 1
    agentFeedbacks := agentFeedbacks
    clientFeedbacks := clientFeedbacks
    feedbackIndices := Function.update b.feedbackIndices f.agentId
      (Function.update (b.feedbackIndices f.agentId) f.client
        (b.feedbackIndices f.agentId f.client + 1))
    lastFeedbackTimestamp :=
      b.lastFeedbackTimestamp.insert f.agentId f.client now }

/-- The books with a feedback revoked. -/
def Books.withRevoked (b : Books R) (feedbackId : Nat) (f : FeedbackInfo R) :
    Books R :=
  { b with
    feedbacks := b.feedbacks.insert feedbackId { f with revoked := true } }

/-- The books without an escrow. -/
def Books.withoutEscrow (b : Books R) (world : R.World) (escrowId : Nat) :
    Books R :=
  { b with world := world, escrows := b.escrows.remove escrowId }

/-- The books with another status of an escrow. -/
def Books.withEscrowStatus (b : Books R) (escrowId : Nat) (e : EscrowInfo R)
    (status : EscrowStatus) : Books R :=
  { b with escrows := b.escrows.insert escrowId { e with status := status } }

/-- An escrow can be claimed: it has been resolved for the agent or has
auto-completed. -/
def Claimable (now : Nat) (e : EscrowInfo R) : Prop :=
  e.status = .active ∧ e.autoCompleteAt ≤ now ∨ e.status = .autoCompleted ∨
    e.status = .resolved

/-! ## Effects -/

/-- What accepted steps do to the books. -/
inductive Effect (b : Books R) (now : Nat) : Action R → Books R → Prop
  | registerAgent {who : R.AccountId} {uri : List UInt8}
      {metadata : List (List UInt8 × List UInt8)} {boundedUri : R.Uri}
      {world : R.World} {agentMetadata agentsByOwner}
      (hcount : metadata.length ≤ R.maxMetadataEntries)
      (hreserve : R.currency.reserve b.world who R.agentDeposit = .ok world)
      (hnext : b.nextAgentId + 1 < 2 ^ 64)
      (hmeta : storeMetadata b.nextAgentId b.agentMetadata metadata =
        .ok agentMetadata)
      (hlist : b.agentsByOwner.tryAppend who b.nextAgentId =
        some agentsByOwner) :
      Effect b now (.call (.signed who) (.registerAgent uri metadata))
        { b with
          world := world
          agents := b.agents.insert b.nextAgentId ⟨who, boundedUri, now⟩
          nextAgentId := b.nextAgentId + 1
          agentMetadata := agentMetadata
          agentsByOwner := agentsByOwner }
  | updateMetadata {who : R.AccountId} {agentId : Nat} {key : List UInt8}
      {value : Option (List UInt8)} {agent : AgentInfo R}
      {boundedKey : BoundedVec UInt8 R.maxMetadataKeyLength} {agentMetadata}
      (hagent : b.agents.get agentId = some agent) (howner : agent.owner = who)
      (hmeta : (∃ v, agentMetadata = b.agentMetadata.insert agentId boundedKey
          v) ∨ agentMetadata = b.agentMetadata.remove agentId boundedKey) :
      Effect b now (.call (.signed who) (.updateMetadata agentId key value))
        { b with agentMetadata := agentMetadata }
  | transferAgent {who newOwner : R.AccountId} {agentId : Nat}
      {agent : AgentInfo R} {world : R.World} {agentsByOwner}
      (hagent : b.agents.get agentId = some agent) (howner : agent.owner = who)
      (hmoved : R.currency.repatriateReserved b.world who newOwner
        R.agentDeposit .reserved = .ok world)
      (hlist : (b.agentsByOwner.modify who fun list =>
          list.retain fun id => id ≠ agentId).tryAppend newOwner agentId =
        some agentsByOwner) :
      Effect b now (.call (.signed who) (.transferAgent agentId newOwner))
        { b with
          world := world
          agents := b.agents.insert agentId { agent with owner := newOwner }
          agentsByOwner := agentsByOwner }
  | giveFeedback {who : R.AccountId} {agentId score : Nat}
      {tags : List (List UInt8)} {uri : List UInt8} {hash : R.Hash}
      {boundedTags : R.Tags} {boundedUri : R.Uri} {world : R.World}
      {authId : Nat} {auth : FeedbackAuthorization R}
      {agentFeedbacks clientFeedbacks}
      (hagent : (b.agents.get agentId).isSome = true)
      (hauth : Authorized b now agentId who authId auth)
      (hrate : RateLimited b now agentId who) (hscore : score ≤ 100)
      (hreserve : R.currency.reserve b.world who R.feedbackDeposit = .ok world)
      (hnext : b.nextFeedbackId + 1 < 2 ^ 64)
      (hagentList : b.agentFeedbacks.tryAppend agentId b.nextFeedbackId =
        some agentFeedbacks)
      (hclientList : b.clientFeedbacks.tryAppend who b.nextFeedbackId =
        some clientFeedbacks)
      (hindex : b.feedbackIndices agentId who + 1 < 2 ^ 32) :
      Effect b now
        (.call (.signed who) (.giveFeedback agentId score tags uri hash))
        ((b.withFeedback now world ⟨agentId, who, score, boundedTags,
          boundedUri, hash, now, false⟩ agentFeedbacks clientFeedbacks).rated
          now agentId)
  | revokeFeedback {who : R.AccountId} {feedbackId : Nat} {f : FeedbackInfo R}
      (hf : b.feedbacks.get feedbackId = some f) (hclient : f.client = who)
      (hlive : f.revoked = false) :
      Effect b now (.call (.signed who) (.revokeFeedback feedbackId))
        (({ b with
          world := R.currency.unreserve b.world who R.feedbackDeposit
          }.withRevoked feedbackId f).rated now f.agentId)
  | appendResponse {who : R.AccountId} {feedbackId : Nat} {uri : List UInt8}
      {hash : R.Hash} {f : FeedbackInfo R} {boundedUri : R.Uri}
      {feedbackResponses}
      (hf : b.feedbacks.get feedbackId = some f)
      (hlist : b.feedbackResponses.tryAppend feedbackId
        ⟨boundedUri, hash, now⟩ = some feedbackResponses) :
      Effect b now (.call (.signed who) (.appendResponse feedbackId uri hash))
        { b with feedbackResponses := feedbackResponses }
  | registerValidator {who : R.AccountId} {stake : Nat} {world : R.World}
      (hnew : b.validators.get who = none)
      (hlisted : passesWhitelist b who = true)
      (hstake : R.validatorMinStake ≤ stake)
      (hreserve : R.currency.reserve b.world who stake = .ok world) :
      Effect b now (.call (.signed who) (.registerValidator stake))
        { b with
          world := world
          validators := b.validators.insert who ⟨who, stake, now, true⟩ }
  | unregisterValidator {who : R.AccountId} {v : ValidatorInfo R}
      (hv : b.validators.get who = some v) :
      Effect b now (.call (.signed who) .unregisterValidator)
        { b with
          world := R.currency.unreserve b.world who v.stake
          validators := b.validators.remove who }
  | requestValidation {who : R.AccountId} {agentId reward : Nat}
      {world : R.World} {agentValidations}
      (hagent : (b.agents.get agentId).isSome = true)
      (hreserve : R.currency.reserve b.world who (totalReserve (R := R) reward)
        = .ok world)
      (hnext : b.nextRequestId + 1 < 2 ^ 64)
      (hlist : b.agentValidations.tryAppend agentId b.nextRequestId =
        some agentValidations) :
      Effect b now (.call (.signed who) (.requestValidation agentId reward))
        { b with
          world := world
          validationRequests := b.validationRequests.insert b.nextRequestId
            ⟨agentId, who, reward, now,
              saturatingAdd 32 now R.validationDeadline, false⟩
          nextRequestId := b.nextRequestId + 1
          agentValidations := agentValidations }
  | submitValidation {who : R.AccountId} {requestId score : Nat}
      {uri : List UInt8} {hash : R.Hash} {tags : List (List UInt8)}
      {request : ValidationRequest R} {v : ValidatorInfo R}
      {boundedTags : R.Tags} {boundedUri : R.Uri} {world : R.World}
      (hrequest : b.validationRequests.get requestId = some request)
      (hv : b.validators.get who = some v) (hactive : v.active = true)
      (hnew : (b.validationResponses requestId).get who = none)
      (hscore : score ≤ 100)
      (hpaid : payReward b.world request who = .ok world) :
      Effect b now
        (.call (.signed who) (.submitValidation requestId score uri hash tags))
        { { b with
            validationResponses := b.validationResponses.insert requestId who
              ⟨requestId, who, score, boundedUri, hash, boundedTags, now⟩
            }.rated now request.agentId with
          world := world
          validationRequests := b.validationRequests.insert requestId
            { request with completed := true } }
  | createEscrow {who : R.AccountId} {agentId amount timeout : Nat}
      {blocks : Option Nat} {world : R.World}
      (hagent : (b.agents.get agentId).isSome = true)
      (hreserve : R.currency.reserve b.world who amount = .ok world)
      (hnext : b.nextEscrowId + 1 < 2 ^ 64) :
      Effect b now
        (.call (.signed who) (.createEscrow agentId amount timeout blocks))
        { b with
          world := world
          escrows := b.escrows.insert b.nextEscrowId
            ⟨who, agentId, amount, saturatingAdd 32 now
              (blocks.getD R.escrowAutoCompleteBlocks), timeout, .active, now⟩
          nextEscrowId := b.nextEscrowId + 1 }
  | claimEscrow {who : R.AccountId} {escrowId : Nat} {e : EscrowInfo R}
      {agent : AgentInfo R} {world : R.World}
      (he : b.escrows.get escrowId = some e)
      (hagent : b.agents.get e.agentId = some agent)
      (howner : agent.owner = who) (hclaim : Claimable now e)
      (hpaid : R.currency.transfer
        (R.currency.unreserve b.world e.client e.amount) e.client who e.amount
        .keepAlive = .ok world) :
      Effect b now (.call (.signed who) (.claimEscrow escrowId))
        { b with
          world := world
          escrows := b.escrows.remove escrowId }
  | cancelEscrow {who : R.AccountId} {escrowId : Nat} {e : EscrowInfo R}
      (he : b.escrows.get escrowId = some e) (hclient : e.client = who)
      (htimeout : e.timeout ≤ now) :
      Effect b now (.call (.signed who) (.cancelEscrow escrowId))
        (b.withoutEscrow (R.currency.unreserve b.world e.client e.amount)
          escrowId)
  | cancelValidationRequest {who : R.AccountId} {requestId : Nat}
      {request : ValidationRequest R}
      (hrequest : b.validationRequests.get requestId = some request)
      (hrequester : request.requester = who)
      (hopen : request.completed = false) (hdeadline : request.deadline ≤ now) :
      Effect b now (.call (.signed who) (.cancelValidationRequest requestId))
        { b with
          world := R.currency.unreserve b.world who
            (totalReserve (R := R) request.reward)
          agentValidations := b.agentValidations.modify request.agentId
            fun list => list.swapRemoveFirst requestId
          validationRequests := b.validationRequests.remove requestId }
  | disputeFeedback {who : R.AccountId} {feedbackId : Nat} {uri : List UInt8}
      {hash : R.Hash} {f : FeedbackInfo R} {agent : AgentInfo R}
      {boundedUri : R.Uri} {world : R.World} {feedbackDisputes}
      (hf : b.feedbacks.get feedbackId = some f) (hlive : f.revoked = false)
      (hagent : b.agents.get f.agentId = some agent)
      (howner : agent.owner = who)
      (hreserve : R.currency.reserve b.world who R.disputeDeposit = .ok world)
      (hnext : b.nextDisputeId + 1 < 2 ^ 64)
      (hlist : b.feedbackDisputes.tryAppend feedbackId b.nextDisputeId =
        some feedbackDisputes) :
      Effect b now (.call (.signed who) (.disputeFeedback feedbackId uri hash))
        { b with
          world := world
          disputes := b.disputes.insert b.nextDisputeId
            ⟨feedbackId, who, boundedUri, hash, .opened, now, none⟩
          nextDisputeId := b.nextDisputeId + 1
          feedbackDisputes := feedbackDisputes }
  | upholdDispute {origin : Origin R.AccountId} {disputeId : Nat}
      {d : DisputeInfo R} {f : FeedbackInfo R}
      (hd : b.disputes.get disputeId = some d) (hopen : d.status = .opened)
      (hf : b.feedbacks.get d.feedbackId = some f) :
      Effect b now
        (.call origin (.resolveDispute disputeId .resolvedForDisputer))
        { ({ b with
            disputes := b.disputes.insert disputeId
              { d with
                status := .resolvedForDisputer
                resolvedAt := some now } }.withRevoked d.feedbackId f).rated
            now f.agentId with
          world := R.currency.unreserve b.world d.disputer R.disputeDeposit }
  | settleDispute {origin : Origin R.AccountId} {disputeId : Nat}
      {status : DisputeStatus} {d : DisputeInfo R}
      (hd : b.disputes.get disputeId = some d) (hopen : d.status = .opened)
      (hother : status = .resolvedForDisputer →
        b.feedbacks.get d.feedbackId = none) :
      Effect b now (.call origin (.resolveDispute disputeId status))
        { b with
          disputes := b.disputes.insert disputeId
            { d with status := status, resolvedAt := some now } }
  | addValidatorToWhitelist {origin : Origin R.AccountId}
      {validator : R.AccountId}
      (hnew : (b.validatorWhitelist.get validator).getD false = false) :
      Effect b now (.call origin (.addValidatorToWhitelist validator))
        { b with
          validatorWhitelist := b.validatorWhitelist.insert validator true }
  | removeValidatorFromWhitelist {origin : Origin R.AccountId}
      {validator : R.AccountId}
      (hlisted : (b.validatorWhitelist.get validator).getD false = true) :
      Effect b now (.call origin (.removeValidatorFromWhitelist validator))
        { b with
          validatorWhitelist := b.validatorWhitelist.remove validator }
  | authorizeFeedback {who client : R.AccountId}
      {agentId indexLimit blocks : Nat} {agent : AgentInfo R}
      (hagent : b.agents.get agentId = some agent) (howner : agent.owner = who)
      (hnew : (b.agentClientAuthorizations agentId).get client = none)
      (hnext : b.nextAuthorizationId + 1 < 2 ^ 64) :
      Effect b now
        (.call (.signed who) (.authorizeFeedback agentId client indexLimit
          blocks))
        { b with
          feedbackAuthorizations := b.feedbackAuthorizations.insert
            b.nextAuthorizationId
            ⟨agentId, client, indexLimit, saturatingAdd 32 now blocks, now,
              false⟩
          agentClientAuthorizations := b.agentClientAuthorizations.insert
            agentId client b.nextAuthorizationId
          nextAuthorizationId := b.nextAuthorizationId + 1 }
  | revokeAuthorization {who client : R.AccountId} {agentId authId : Nat}
      {agent : AgentInfo R} {auth : FeedbackAuthorization R}
      (hagent : b.agents.get agentId = some agent) (howner : agent.owner = who)
      (hlisted : (b.agentClientAuthorizations agentId).get client =
        some authId)
      (hauth : b.feedbackAuthorizations.get authId = some auth) :
      Effect b now (.call (.signed who) (.revokeAuthorization agentId client))
        { b with
          feedbackAuthorizations := b.feedbackAuthorizations.insert authId
            { auth with revoked := true } }
  | disputeEscrow {who : R.AccountId} {escrowId : Nat} {e : EscrowInfo R}
      (he : b.escrows.get escrowId = some e) (hclient : e.client = who)
      (hstatus : e.status = .active ∨ e.status = .autoCompleted) :
      Effect b now (.call (.signed who) (.disputeEscrow escrowId))
        (b.withEscrowStatus escrowId e .disputed)
  | refundEscrow {origin : Origin R.AccountId} {escrowId : Nat}
      {e : EscrowInfo R}
      (horigin : R.disputeResolverOrigin origin = true)
      (he : b.escrows.get escrowId = some e) (hstatus : e.status = .disputed) :
      Effect b now (.call origin (.resolveEscrowDispute escrowId true))
        (b.withoutEscrow (R.currency.unreserve b.world e.client e.amount)
          escrowId)
  | awardEscrow {origin : Origin R.AccountId} {escrowId : Nat}
      {e : EscrowInfo R}
      (horigin : R.disputeResolverOrigin origin = true)
      (he : b.escrows.get escrowId = some e) (hstatus : e.status = .disputed) :
      Effect b now (.call origin (.resolveEscrowDispute escrowId false))
        (b.withEscrowStatus escrowId e .resolved)
  | nextBlock : Effect b now .nextBlock b
  | outside (world : R.World) :
      Effect b now (.outside world) { b with world := world }

/-! ## Every accepted step has one of these effects -/

section Inversion

variable {b : Books R} {s s' : State R} {origin : Origin R.AccountId}

theorem ownedAgent_eq_ok {who : R.AccountId} {agentId : Nat}
    {agent : AgentInfo R} :
    ownedAgent b who agentId = .ok agent ↔
      b.agents.get agentId = some agent ∧ agent.owner = who := by
  simp only [ownedAgent, do_eq_ok]
  constructor
  · rintro ⟨_, hget, howner, rfl⟩
    exact ⟨hget, howner⟩
  · rintro ⟨hget, howner⟩
    exact ⟨agent, hget, howner, rfl⟩

theorem nextId_eq_ok {id next : Nat} :
    nextId (R := R) id = .ok next ↔ id + 1 < 2 ^ 64 ∧ id + 1 = next := by
  simp only [nextId, do_eq_ok]

theorem verifyFeedbackAuthorization_eq_ok {now agentId : Nat}
    {client : R.AccountId} {u : Unit}
    (h : verifyFeedbackAuthorization b agentId client now = .ok u) :
    ∃ authId auth, Authorized b now agentId client authId auth := by
  simp only [verifyFeedbackAuthorization, do_eq_ok] at h
  obtain ⟨authId, hlisted, auth, hstored, hlive, hexpiry, hlimit, _⟩ := h
  exact ⟨authId, auth, hlisted, hstored, hlive, hexpiry, hlimit⟩

theorem checkFeedbackRateLimit_eq_ok {now agentId : Nat}
    {client : R.AccountId} {u : Unit}
    (h : checkFeedbackRateLimit b agentId client now = .ok u) :
    RateLimited b now agentId client := by
  intro last hlast
  rw [checkFeedbackRateLimit, hlast] at h
  exact ensure_eq_ok.mp h

theorem validateFeedbackData_score {score : Nat} {tags : List (List UInt8)}
    {uri : List UInt8} {p : R.Tags × R.Uri}
    (h : validateFeedbackData score tags uri = .ok p) : score ≤ 100 := by
  obtain ⟨_, hscore, _⟩ := bind_eq_ok.mp h
  exact ensure_eq_ok.mp hscore

/-- The step has an effect on the books, and time stands still. -/
def HasEffect (s : State R) (origin : Origin R.AccountId) (call : Call R)
    (s' : State R) : Prop :=
  Effect s.toBooks s.now (.call origin call) s'.toBooks ∧ s'.now = s.now

theorem registerAgent_effect {uri metadata}
    (h : registerAgent s origin uri metadata = .ok s') :
    HasEffect s origin (.registerAgent uri metadata) s' := by
  simp only [registerAgent, do_eq_ok, ensureSigned_eq_ok, nextId_eq_ok] at h
  obtain ⟨who, rfl, boundedUri, _, hcount, world, hreserve, _, ⟨hnext, rfl⟩,
    agentMetadata, hmeta, agentsByOwner, hlist, rfl⟩ := h
  exact ⟨.registerAgent hcount hreserve hnext hmeta hlist, rfl⟩

theorem updateMetadata_effect {agentId key value}
    (h : updateMetadata s origin agentId key value = .ok s') :
    HasEffect s origin (.updateMetadata agentId key value) s' := by
  simp only [updateMetadata, do_eq_ok, ensureSigned_eq_ok,
    ownedAgent_eq_ok] at h
  obtain ⟨who, rfl, agent, ⟨hagent, howner⟩, boundedKey, _, agentMetadata,
    hmeta, rfl⟩ := h
  refine ⟨@Effect.updateMetadata _ _ _ who agentId key value agent boundedKey
    agentMetadata hagent howner ?_, rfl⟩
  cases value with
  | none =>
      cases hmeta
      exact .inr rfl
  | some =>
      obtain ⟨v, _, heq⟩ := bind_eq_ok.mp hmeta
      cases heq
      exact .inl ⟨v, rfl⟩

theorem transferAgent_effect {agentId newOwner}
    (h : transferAgent s origin agentId newOwner = .ok s') :
    HasEffect s origin (.transferAgent agentId newOwner) s' := by
  simp only [transferAgent, do_eq_ok, ensureSigned_eq_ok, ownedAgent_eq_ok] at h
  obtain ⟨who, rfl, agent, ⟨hagent, howner⟩, world, hmoved, agentsByOwner,
    hlist, rfl⟩ := h
  rw [howner] at hlist
  exact ⟨.transferAgent hagent howner hmoved hlist, rfl⟩

theorem authorizeFeedback_effect {agentId client indexLimit blocks}
    (h : authorizeFeedback s origin agentId client indexLimit blocks =
      .ok s') :
    HasEffect s origin (.authorizeFeedback agentId client indexLimit blocks)
      s' := by
  simp only [authorizeFeedback, do_eq_ok, ensureSigned_eq_ok, ownedAgent_eq_ok,
    nextId_eq_ok] at h
  obtain ⟨who, rfl, agent, ⟨hagent, howner⟩, hnew, _, ⟨hnext, rfl⟩, rfl⟩ := h
  exact ⟨.authorizeFeedback hagent howner hnew hnext, rfl⟩

theorem revokeAuthorization_effect {agentId client}
    (h : revokeAuthorization s origin agentId client = .ok s') :
    HasEffect s origin (.revokeAuthorization agentId client) s' := by
  simp only [revokeAuthorization, do_eq_ok, ensureSigned_eq_ok,
    ownedAgent_eq_ok] at h
  obtain ⟨who, rfl, agent, ⟨hagent, howner⟩, authId, hlisted, auth, hauth,
    rfl⟩ := h
  exact ⟨.revokeAuthorization hagent howner hlisted hauth, rfl⟩

theorem giveFeedback_effect {agentId score tags uri hash}
    (h : giveFeedback s origin agentId score tags uri hash = .ok s') :
    HasEffect s origin (.giveFeedback agentId score tags uri hash) s' := by
  simp only [giveFeedback, storeFeedback, do_eq_ok, ensureSigned_eq_ok,
    nextId_eq_ok] at h
  obtain ⟨who, rfl, hagent, _, hauth, _, hrate, ⟨boundedTags, boundedUri⟩,
    hdata, world, hreserve, ⟨b, feedbackId⟩, ⟨_, ⟨hnext, rfl⟩, agentFeedbacks,
    hagentList, clientFeedbacks, hclientList, hindex, hb⟩, rfl⟩ := h
  cases hb
  obtain ⟨authId, auth, hauth⟩ := verifyFeedbackAuthorization_eq_ok hauth
  exact ⟨.giveFeedback hagent hauth (checkFeedbackRateLimit_eq_ok hrate)
    (validateFeedbackData_score hdata) hreserve hnext hagentList hclientList
    hindex, rfl⟩

theorem revokeFeedback_effect {feedbackId}
    (h : revokeFeedback s origin feedbackId = .ok s') :
    HasEffect s origin (.revokeFeedback feedbackId) s' := by
  simp only [revokeFeedback, do_eq_ok, ensureSigned_eq_ok] at h
  obtain ⟨who, rfl, f, hf, hclient, hlive, rfl⟩ := h
  exact ⟨.revokeFeedback hf hclient hlive, rfl⟩

theorem appendResponse_effect {feedbackId uri hash}
    (h : appendResponse s origin feedbackId uri hash = .ok s') :
    HasEffect s origin (.appendResponse feedbackId uri hash) s' := by
  simp only [appendResponse, do_eq_ok, ensureSigned_eq_ok] at h
  obtain ⟨who, rfl, f, hf, _, _, boundedUri, _, feedbackResponses, hlist,
    rfl⟩ := h
  exact ⟨.appendResponse hf hlist, rfl⟩

theorem registerValidator_effect {stake}
    (h : registerValidator s origin stake = .ok s') :
    HasEffect s origin (.registerValidator stake) s' := by
  simp only [registerValidator, do_eq_ok, ensureSigned_eq_ok,
    Option.isNone_iff_eq_none] at h
  obtain ⟨who, rfl, hnew, hlisted, hstake, world, hreserve, rfl⟩ := h
  exact ⟨.registerValidator hnew hlisted hstake hreserve, rfl⟩

theorem unregisterValidator_effect
    (h : unregisterValidator s origin = .ok s') :
    HasEffect s origin .unregisterValidator s' := by
  simp only [unregisterValidator, do_eq_ok, ensureSigned_eq_ok] at h
  obtain ⟨who, rfl, v, hv, rfl⟩ := h
  exact ⟨.unregisterValidator hv, rfl⟩

theorem requestValidation_effect {agentId reward}
    (h : requestValidation s origin agentId reward = .ok s') :
    HasEffect s origin (.requestValidation agentId reward) s' := by
  simp only [requestValidation, do_eq_ok, ensureSigned_eq_ok, nextId_eq_ok] at h
  obtain ⟨who, rfl, hagent, world, hreserve, _, ⟨hnext, rfl⟩,
    agentValidations, hlist, rfl⟩ := h
  exact ⟨.requestValidation hagent hreserve hnext hlist, rfl⟩

theorem submitValidation_effect {requestId score uri hash tags}
    (h : submitValidation s origin requestId score uri hash tags = .ok s') :
    HasEffect s origin (.submitValidation requestId score uri hash tags)
      s' := by
  simp only [submitValidation, do_eq_ok, ensureSigned_eq_ok,
    Option.isNone_iff_eq_none] at h
  obtain ⟨who, rfl, request, hrequest, v, hv, hactive, hnew,
    ⟨boundedTags, boundedUri⟩, hdata, world, hpaid, rfl⟩ := h
  exact ⟨.submitValidation hrequest hv hactive hnew
    (validateFeedbackData_score hdata) hpaid, rfl⟩

theorem createEscrow_effect {agentId amount timeout blocks}
    (h : createEscrow s origin agentId amount timeout blocks = .ok s') :
    HasEffect s origin (.createEscrow agentId amount timeout blocks) s' := by
  simp only [createEscrow, do_eq_ok, ensureSigned_eq_ok, nextId_eq_ok] at h
  obtain ⟨who, rfl, hagent, world, hreserve, _, ⟨hnext, rfl⟩, rfl⟩ := h
  exact ⟨.createEscrow hagent hreserve hnext, rfl⟩

/-- What `autoComplete` returns is written over the escrow, which could be
claimed if the result is not disputed and not active. -/
theorem autoComplete_eq_ok {escrowId : Nat} {e e₁ : EscrowInfo R}
    {s₁ : State R} (h : autoComplete s escrowId e = .ok (s₁, e₁))
    (hclaim : e₁.status = .autoCompleted ∨ e₁.status = .resolved) :
    Claimable s.now e ∧ e₁.client = e.client ∧ e₁.amount = e.amount ∧
      s₁.now = s.now ∧ ∃ m, s₁.toBooks = { s.toBooks with escrows := m } ∧
        m.remove escrowId = s.escrows.remove escrowId := by
  unfold autoComplete at h
  by_cases hactive : e.status = .active
  · rw [if_pos hactive] at h
    by_cases htime : e.autoCompleteAt ≤ s.now
    · rw [if_pos htime] at h
      cases h
      exact ⟨.inl ⟨hactive, htime⟩, rfl, rfl, rfl, _, rfl,
        StorageMap.remove_insert _ _ _⟩
    · rw [if_neg htime] at h
      cases h
  · rw [if_neg hactive] at h
    cases h
    exact ⟨.inr hclaim, rfl, rfl, rfl, _, rfl, rfl⟩

theorem claimEscrow_effect {escrowId}
    (h : claimEscrow s origin escrowId = .ok s') :
    HasEffect s origin (.claimEscrow escrowId) s' := by
  simp only [claimEscrow, do_eq_ok, ensureSigned_eq_ok, ownedAgent_eq_ok] at h
  obtain ⟨who, rfl, e, he, agent, ⟨hagent, howner⟩, ⟨s₁, e₁⟩, hauto,
    _, hclaim, world, hpaid, rfl⟩ := h
  obtain ⟨hclaimable, hclient, hamount, hnow, m, hbooks, hremove⟩ :=
    autoComplete_eq_ok hauto hclaim
  rw [hclient, hamount, howner] at hpaid
  refine ⟨?_, hnow⟩
  have heq : { s₁.toBooks with
        world := world, escrows := s₁.escrows.remove escrowId } =
      { s.toBooks with
        world := world, escrows := s.escrows.remove escrowId } := by
    rw [hbooks, ← hremove]
  show Effect s.toBooks s.now _ { s₁.toBooks with
    world := world, escrows := s₁.escrows.remove escrowId }
  rw [heq]
  exact .claimEscrow he hagent howner hclaimable hpaid

theorem cancelEscrow_effect {escrowId}
    (h : cancelEscrow s origin escrowId = .ok s') :
    HasEffect s origin (.cancelEscrow escrowId) s' := by
  simp only [cancelEscrow, do_eq_ok, ensureSigned_eq_ok] at h
  obtain ⟨who, rfl, e, he, hclient, htimeout, rfl⟩ := h
  exact ⟨.cancelEscrow he hclient htimeout, rfl⟩

theorem disputeEscrow_effect {escrowId}
    (h : disputeEscrow s origin escrowId = .ok s') :
    HasEffect s origin (.disputeEscrow escrowId) s' := by
  simp only [disputeEscrow, do_eq_ok, ensureSigned_eq_ok] at h
  obtain ⟨who, rfl, e, he, hclient, hstatus, rfl⟩ := h
  exact ⟨.disputeEscrow he hclient hstatus, rfl⟩

theorem resolveEscrowDispute_effect {escrowId favorClient}
    (h : resolveEscrowDispute s origin escrowId favorClient = .ok s') :
    HasEffect s origin (.resolveEscrowDispute escrowId favorClient) s' := by
  simp only [resolveEscrowDispute, ensureOrigin, do_eq_ok] at h
  obtain ⟨horigin, e, he, hstatus, rfl⟩ := h
  cases favorClient with
  | true => exact ⟨.refundEscrow horigin he hstatus, rfl⟩
  | false => exact ⟨.awardEscrow horigin he hstatus, rfl⟩

theorem cancelValidationRequest_effect {requestId}
    (h : cancelValidationRequest s origin requestId = .ok s') :
    HasEffect s origin (.cancelValidationRequest requestId) s' := by
  simp only [cancelValidationRequest, do_eq_ok, ensureSigned_eq_ok] at h
  obtain ⟨who, rfl, request, hrequest, hrequester, hopen, hdeadline, rfl⟩ := h
  exact ⟨.cancelValidationRequest hrequest hrequester hopen hdeadline, rfl⟩

theorem disputeFeedback_effect {feedbackId uri hash}
    (h : disputeFeedback s origin feedbackId uri hash = .ok s') :
    HasEffect s origin (.disputeFeedback feedbackId uri hash) s' := by
  simp only [disputeFeedback, do_eq_ok, ensureSigned_eq_ok, ownedAgent_eq_ok,
    nextId_eq_ok] at h
  obtain ⟨who, rfl, f, hf, hlive, agent, ⟨hagent, howner⟩, boundedUri, _,
    world, hreserve, _, ⟨hnext, rfl⟩, feedbackDisputes, hlist, rfl⟩ := h
  exact ⟨.disputeFeedback hf hlive hagent howner hreserve hnext hlist, rfl⟩

theorem resolveDispute_effect {disputeId status}
    (h : resolveDispute s origin disputeId status = .ok s') :
    HasEffect s origin (.resolveDispute disputeId status) s' := by
  simp only [resolveDispute, ensureOrigin, do_eq_ok] at h
  obtain ⟨_, d, hd, hopen, rfl⟩ := h
  have hquiet : status ≠ .resolvedForDisputer →
      Effect s.toBooks s.now (.call origin (.resolveDispute disputeId status))
        { s.toBooks with
          disputes := s.disputes.insert disputeId
            { d with status := status, resolvedAt := some s.now } } :=
    fun hne => .settleDispute hd hopen fun heq => absurd heq hne
  cases status with
  | opened | resolvedAgainstDisputer | dismissed =>
      exact ⟨hquiet (fun h => by cases h), rfl⟩
  | resolvedForDisputer =>
      unfold HasEffect revokeDisputed
      cases hf : s.feedbacks.get d.feedbackId with
      | none =>
          simp only [State.put_toBooks, hf]
          exact ⟨.settleDispute hd hopen fun _ => hf, rfl⟩
      | some =>
          simp only [State.put_toBooks, hf]
          exact ⟨.upholdDispute hd hopen hf, rfl⟩

theorem addValidatorToWhitelist_effect {validator}
    (h : addValidatorToWhitelist s origin validator = .ok s') :
    HasEffect s origin (.addValidatorToWhitelist validator) s' := by
  simp only [addValidatorToWhitelist, ensureOrigin, do_eq_ok] at h
  obtain ⟨_, hnew, rfl⟩ := h
  exact ⟨.addValidatorToWhitelist hnew, rfl⟩

theorem removeValidatorFromWhitelist_effect {validator}
    (h : removeValidatorFromWhitelist s origin validator = .ok s') :
    HasEffect s origin (.removeValidatorFromWhitelist validator) s' := by
  simp only [removeValidatorFromWhitelist, ensureOrigin, do_eq_ok] at h
  obtain ⟨_, hlisted, rfl⟩ := h
  exact ⟨.removeValidatorFromWhitelist hlisted, rfl⟩

theorem dispatch_effect {call : Call R} (h : dispatch s origin call = .ok s') :
    HasEffect s origin call s' := by
  cases call with
  | registerAgent => exact registerAgent_effect h
  | updateMetadata => exact updateMetadata_effect h
  | transferAgent => exact transferAgent_effect h
  | giveFeedback => exact giveFeedback_effect h
  | revokeFeedback => exact revokeFeedback_effect h
  | appendResponse => exact appendResponse_effect h
  | registerValidator => exact registerValidator_effect h
  | unregisterValidator => exact unregisterValidator_effect h
  | requestValidation => exact requestValidation_effect h
  | submitValidation => exact submitValidation_effect h
  | createEscrow => exact createEscrow_effect h
  | claimEscrow => exact claimEscrow_effect h
  | cancelEscrow => exact cancelEscrow_effect h
  | cancelValidationRequest => exact cancelValidationRequest_effect h
  | disputeFeedback => exact disputeFeedback_effect h
  | resolveDispute => exact resolveDispute_effect h
  | addValidatorToWhitelist => exact addValidatorToWhitelist_effect h
  | removeValidatorFromWhitelist => exact removeValidatorFromWhitelist_effect h
  | authorizeFeedback => exact authorizeFeedback_effect h
  | revokeAuthorization => exact revokeAuthorization_effect h
  | disputeEscrow => exact disputeEscrow_effect h
  | resolveEscrowDispute => exact resolveEscrowDispute_effect h

end Inversion

/-- Every accepted step changes the books in one of these ways. -/
theorem step_effect {s s' : State R} {a : Action R} (h : step s a = .ok s') :
    Effect s.toBooks s.now a s'.toBooks := by
  cases a with
  | call => exact (dispatch_effect h).1
  | nextBlock =>
      cases h
      exact .nextBlock
  | outside world =>
      cases h
      exact .outside world

theorem step_call_now {s s' : State R} {origin : Origin R.AccountId}
    {call : Call R} (h : step s (.call origin call) = .ok s') :
    s'.now = s.now :=
  (dispatch_effect h).2

theorem step_now {s s' : State R} {a : Action R} (h : step s a = .ok s') :
    s.now ≤ s'.now := by
  cases a with
  | call => exact (step_call_now h).ge
  | nextBlock =>
      cases h
      exact Nat.le_succ _
  | outside =>
      cases h
      exact Nat.le_refl _

/-! ## When calls are accepted -/

section Enabled

variable {s : State R} {who : R.AccountId}

theorem registerValidator_enabled_iff {stake : Nat} :
    (∃ s', registerValidator s (.signed who) stake = .ok s') ↔
      s.validators.get who = none ∧ passesWhitelist s.toBooks who = true ∧
      R.validatorMinStake ≤ stake ∧
      ∃ world, R.currency.reserve s.world who stake = .ok world := by
  simp only [registerValidator, do_eq_ok, ensureSigned_eq_ok,
    Origin.signed.injEq, Option.isNone_iff_eq_none]
  constructor
  · rintro ⟨_, _, rfl, hnew, hlisted, hstake, world, hreserve, _⟩
    exact ⟨hnew, hlisted, hstake, world, hreserve⟩
  · rintro ⟨hnew, hlisted, hstake, world, hreserve⟩
    exact ⟨_, who, rfl, hnew, hlisted, hstake, world, hreserve, rfl⟩

theorem submitValidation_enabled_iff {requestId score : Nat} {uri : List UInt8}
    {hash : R.Hash} {tags : List (List UInt8)} :
    (∃ s', submitValidation s (.signed who) requestId score uri hash tags =
      .ok s') ↔
    ∃ request v, s.validationRequests.get requestId = some request ∧
      s.validators.get who = some v ∧ v.active = true ∧
      (s.validationResponses requestId).get who = none ∧
      (∃ data, validateFeedbackData (R := R) score tags uri = .ok data) ∧
      ∃ world, payReward s.world request who = .ok world := by
  simp only [submitValidation, do_eq_ok, ensureSigned_eq_ok,
    Origin.signed.injEq, Option.isNone_iff_eq_none]
  constructor
  · rintro ⟨_, _, rfl, request, hrequest, v, hv, hactive, hnew, data, hdata,
      world, hpaid, _⟩
    exact ⟨request, v, hrequest, hv, hactive, hnew, ⟨data, hdata⟩, world, hpaid⟩
  · rintro ⟨request, v, hrequest, hv, hactive, hnew, ⟨data, hdata⟩, world,
      hpaid⟩
    exact ⟨_, who, rfl, request, hrequest, v, hv, hactive, hnew, data, hdata,
      world, hpaid, rfl⟩

end Enabled

end Thxnet.Agent
