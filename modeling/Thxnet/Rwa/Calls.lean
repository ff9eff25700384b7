import Thxnet.Lib.Transition
import Thxnet.Rwa.State

/-!
# The dispatchables of the RWA pallet

One definition per dispatchable, in the order of `lib.rs`, as a function from
the state before to the state after or the error returned.  The framework runs
every dispatchable in a storage transaction, so an error leaves the state
unchanged and the functions need not say what had been written before it.

A `step` of the chain, as this pallet sees it, is a call together with the
answers of the life-cycle guard at that moment, the passage to the next block
with the hook that runs at its start, or a change of the foreign storage made
by another pallet.
-/

namespace Thxnet.Rwa

open Thxnet.Lib Thxnet.Frame

-- every dispatchable runs in a state and has an origin
variable {R : Config} (s : State R) (origin : Origin R.AccountId)

/-! ## Asset management -/

/-- `register_asset`. -/
def registerAsset (beneficiary : R.AccountId) (policy : AssetPolicy R)
    (metadata : List UInt8) : Except DispatchError (State R) := do
  let owner ← ensureSigned origin
  let boundedMeta ← okOr (BoundedVec.tryFrom metadata) (R.err .metadataTooLong)
  ensure ((s.ownerAssets owner).toList.length < R.maxAssetsPerOwner)
    (R.err .maxAssetsPerOwnerReached)
  ensure (R.minParticipationDeposit ≤ policy.deposit)
    (R.err .depositBelowMinimum)
  let deposit := R.assetRegistrationDeposit
  let world ← R.nativeCurrency.reserve s.world owner deposit
  let id := s.nextRwaAssetId
  ensure (id + 1 < 2 ^ 32) (R.err .assetIdOverflow)
  let info : AssetInfo R :=
    { owner := owner
      beneficiary := beneficiary
      status := .active
      policy := policy
      metadata := boundedMeta
      participantCount := 0
      registrationDeposit := deposit
      createdAt := s.now }
  pure <|
    (s.put
      { s.toBooks with
        world := world
        nextRwaAssetId := id + 1
        rwaAssets := s.rwaAssets.insert id info
        ownerAssets := Function.update s.ownerAssets owner
          ((s.ownerAssets owner).push id) }).depositEvent
      (.assetRegistered id owner beneficiary)

/-- While there are participants, neither the entry fee nor a shorter term may
be imposed. -/
def checkFrozenTerms (old new : AssetPolicy R) : Except DispatchError Unit := do
  ensure (old.entryFee = new.entryFee) (R.err .policyFieldImmutable)
  match old.maxDuration, new.maxDuration with
  | some d, some d' => ensure (d ≤ d') (R.err .policyFieldImmutable)
  | none, some _ => .error (R.err .policyFieldImmutable)
  | _, none => .ok ()

/-- `update_asset_policy`. -/
def updateAssetPolicy (id : Nat) (newPolicy : AssetPolicy R) :
    Except DispatchError (State R) := do
  let who ← ensureSigned origin
  let asset ← okOr (s.rwaAssets.get id) (R.err .assetNotFound)
  ensure (asset.owner = who) (R.err .notAssetOwner)
  ensure (asset.status = .active) (R.err .invalidAssetStatus)
  ensure (asset.policy.depositCurrency = newPolicy.depositCurrency)
    (R.err .policyFieldImmutable)
  ensure (asset.policy.deposit = newPolicy.deposit)
    (R.err .policyFieldImmutable)
  whenSome newPolicy.maxParticipants fun most =>
    ensure (asset.participantCount ≤ most) (R.err .maxParticipantsBelowCurrent)
  (if 0 < asset.participantCount then checkFrozenTerms asset.policy newPolicy
    else .ok ())
  pure <|
    (s.put { s.toBooks with
      rwaAssets := s.rwaAssets.insert id { asset with policy := newPolicy }
      }).depositEvent (.assetPolicyUpdated id)

/-- The calls that only move an asset's status. -/
def setAssetStatus (id : Nat) (mayAct : AssetInfo R → Except DispatchError Unit)
    (accepts : AssetStatus → Bool) (target : AssetStatus) (event : Event R) :
    Except DispatchError (State R) := do
  let asset ← okOr (s.rwaAssets.get id) (R.err .assetNotFound)
  mayAct asset
  ensure (accepts asset.status = true) (R.err .invalidAssetStatus)
  pure <|
    (s.put { s.toBooks with
      rwaAssets := s.rwaAssets.insert id { asset with status := target }
      }).depositEvent event

/-- `deactivate_asset`. -/
def deactivateAsset (id : Nat) : Except DispatchError (State R) := do
  let who ← ensureSigned origin
  setAssetStatus s id (fun a => ensure (a.owner = who) (R.err .notAssetOwner))
    (fun st => st = .active) .inactive (.assetDeactivated id)

/-- `reactivate_asset`. -/
def reactivateAsset (id : Nat) : Except DispatchError (State R) := do
  let who ← ensureSigned origin
  setAssetStatus s id (fun a => ensure (a.owner = who) (R.err .notAssetOwner))
    (fun st => st = .inactive) .active (.assetReactivated id)

/-- `sunset_asset`. -/
def sunsetAsset (id expiryBlock : Nat) : Except DispatchError (State R) := do
  let who ← ensureSigned origin
  ensure (s.now < expiryBlock) (R.err .expiryBlockInPast)
  ensure ((s.sunsettingAssets expiryBlock).toList.length <
    R.maxSunsettingPerBlock) (R.err .sunsettingSlotsFull)
  let asset ← okOr (s.rwaAssets.get id) (R.err .assetNotFound)
  ensure (asset.owner = who) (R.err .notAssetOwner)
  ensure (asset.status = .active ∨ asset.status = .inactive)
    (R.err .invalidAssetStatus)
  pure <|
    (s.put
      { s.toBooks with
        rwaAssets := s.rwaAssets.insert id
          { asset with status := .sunsetting expiryBlock }
        sunsettingAssets := Function.update s.sunsettingAssets expiryBlock
          ((s.sunsettingAssets expiryBlock).push id) }).depositEvent
      (.assetSunsetting id expiryBlock)

/-- The books without the schedule entry of a sunsetting asset. -/
def Books.dropSchedule (b : Books R) (id : Nat) (asset : AssetInfo R) :
    Books R :=
  match asset.status with
  | .sunsetting expiryBlock => b.unscheduled id expiryBlock
  | _ => b

/-- `force_retire_asset`. -/
def forceRetireAsset (guard : LifecycleGuard) (s : State R)
    (origin : Origin R.AccountId) (id : Nat) :
    Except DispatchError (State R) := do
  ensureOrigin R.forceOrigin origin
  let asset ← okOr (s.rwaAssets.get id) (R.err .assetNotFound)
  ensure (asset.status ≠ .retired) (R.err .assetAlreadyRetired)
  ensure (guard.canRetireAsset id = .ok ()) (R.err .blockedByLifecycleGuard)
  pure <|
    (s.put ((s.toBooks.dropSchedule id asset).markRetired id asset)
      ).depositEvent (.assetRetired id asset.registrationDeposit)

/-- The block at which a sunsetting asset retires. -/
def sunsetExpiry (asset : AssetInfo R) : Except DispatchError Nat :=
  match asset.status with
  | .sunsetting expiryBlock => .ok expiryBlock
  | _ => .error (R.err .invalidAssetStatus)

/-- `retire_asset`. -/
def retireAsset (id : Nat) : Except DispatchError (State R) := do
  let _ ← ensureSigned origin
  let asset ← okOr (s.rwaAssets.get id) (R.err .assetNotFound)
  let expiry ← sunsetExpiry asset
  ensure (expiry ≤ s.now) (R.err .expiryNotReached)
  pure <|
    (s.put ((s.toBooks.unscheduled id expiry).markRetired id asset)
      ).depositEvent (.assetRetired id asset.registrationDeposit)

/-! ## Participation -/

/-- No holder takes part in the asset yet, and each has room for one more. -/
def checkHolders (b : Books R) (id : Nat) :
    List R.AccountId → Except DispatchError Unit
  | [] => .ok ()
  | h :: rest => do
      ensure ((b.holderIndex id).get h = none) (R.err .alreadyParticipating)
      ensure ((b.holderAssets h).toList.length < R.maxParticipationsPerHolder)
        (R.err .maxParticipationsPerHolderReached)
      checkHolders b id rest

/-- Every holder passes the participation filter. -/
def checkEligible (w : R.World) (id : Nat) (holders : List R.AccountId) :
    Except DispatchError Unit :=
  ensure (∀ h ∈ holders, R.participationFilter w id h = .ok ())
    (R.err .participantNotEligible)

/-- The term a policy gives from now on. -/
def AssetPolicy.term (policy : AssetPolicy R) (now : Nat) :
    ParticipationStatus :=
  .active now (policy.maxDuration.map (saturatingAdd 32 now))

/-- The money of a request: all of it into escrow until it is approved, else
the deposit into escrow and the fee to the beneficiary. -/
def payRequest (w : R.World) (payer : R.AccountId) (asset : AssetInfo R) :
    Except DispatchError R.World :=
  let currency := asset.policy.depositCurrency
  if asset.policy.requiresApproval then
    doTransfer w currency payer R.palletAccount
      (saturatingAdd 128 asset.policy.deposit asset.policy.entryFee)
  else do
    let w₁ ← doTransfer w currency payer R.palletAccount asset.policy.deposit
    doTransfer w₁ currency payer asset.beneficiary asset.policy.entryFee

/-- The participation a request stores. -/
def AssetInfo.newParticipation (asset : AssetInfo R) (id now : Nat)
    (payer : R.AccountId) (holders : BoundedVec R.AccountId R.maxGroupSize) :
    Participation R where
  rwaAssetId := id
  payer := payer
  holders := holders
  status :=
    if asset.policy.requiresApproval then .pendingApproval
    else asset.policy.term now
  depositHeld := asset.policy.deposit
  entryFeePaid := asset.policy.entryFee

/-- What a request writes. -/
def Books.requested (b : Books R) (id : Nat) (asset : AssetInfo R)
    (p : Participation R) : Books R :=
  let pid := b.nextParticipationId id
  (({ b with
      nextParticipationId :=
        Function.update b.nextParticipationId id (pid + 1)
      participations := b.participations.insert id pid p
      pendingApprovals :=
        if asset.policy.requiresApproval then
          Function.update b.pendingApprovals id
            ((b.pendingApprovals id).push pid)
        else b.pendingApprovals
      : Books R }.addAllHolderIndexes id pid p.holders.toList)
    ).incParticipantCount id

/-- `request_participation`.  The source sorts the holders and removes adjacent
duplicates to find repetitions. -/
def requestParticipation (id : Nat) (holders : List R.AccountId) :
    Except DispatchError (State R) := do
  let payer ← ensureSigned origin
  let asset ← okOr (s.rwaAssets.get id) (R.err .assetNotFound)
  ensure (asset.status = .active) (R.err .assetNotActive)
  ensure (holders ≠ []) (R.err .emptyHoldersList)
  let group ← okOr (BoundedVec.tryFrom holders) (R.err .maxGroupSizeReached)
  ensure holders.Nodup (R.err .holderAlreadyExists)
  whenSome asset.policy.maxParticipants fun most =>
    ensure (saturatingAdd 32 asset.participantCount 1 ≤ most)
      (R.err .maxParticipantsReached)
  checkHolders s.toBooks id holders
  checkEligible s.world id holders
  ensure (asset.policy.requiresApproval = true →
    (s.pendingApprovals id).toList.length < R.maxPendingApprovals)
    (R.err .pendingApprovalsFull)
  let world ← payRequest s.world payer asset
  let pid := s.nextParticipationId id
  ensure (pid + 1 < 2 ^ 32) (R.err .participationIdOverflow)
  let s₁ := (s.put ({ s.toBooks with world := world }.requested id asset
    (asset.newParticipation id s.now payer group))).depositEvent
      (.participationRequested id pid payer holders)
  pure <|
    if asset.policy.requiresApproval then s₁
    else s₁.depositEvent (.participationApproved id pid)

/-- The queue of an asset without one request. -/
def Books.dequeued (b : Books R) (id pid : Nat) : Books R :=
  { b with
    pendingApprovals := Function.update b.pendingApprovals id
      ((b.pendingApprovals id).removeFirst pid) }

/-- `approve_participation`. -/
def approveParticipation (id pid : Nat) : Except DispatchError (State R) := do
  ensureAssetOwnerOrAdmin s origin id
  let asset ← okOr (s.rwaAssets.get id) (R.err .assetNotFound)
  ensure (asset.status = .active) (R.err .assetNotActive)
  let p ← okOr ((s.participations id).get pid) (R.err .participationNotFound)
  ensure (p.status = .pendingApproval) (R.err .invalidParticipationStatus)
  let world ← doTransfer s.world asset.policy.depositCurrency R.palletAccount
    asset.beneficiary p.entryFeePaid
  pure <|
    (s.put (Books.dequeued
      { s.toBooks with
        world := world
        participations := s.participations.insert id pid
          { p with status := asset.policy.term s.now } } id pid)).depositEvent
      (.participationApproved id pid)

/-- What a pending participation leaves behind once it has been refunded:
nothing. -/
def Books.withoutPending (b : Books R) (id pid : Nat) (p : Participation R) :
    Books R :=
  (({ b with participations := b.participations.remove id pid
      : Books R }.removeAllHolderIndexes id p.holders.toList)
    ).decParticipantCount id

/-- What is in escrow for a participation that waits for approval. -/
def Participation.pendingTotal (p : Participation R) : Nat :=
  saturatingAdd 128 p.depositHeld p.entryFeePaid

/-- `reject_participation`. -/
def rejectParticipation (id pid : Nat) : Except DispatchError (State R) := do
  ensureAssetOwnerOrAdmin s origin id
  let p ← okOr ((s.participations id).get pid) (R.err .participationNotFound)
  ensure (p.status = .pendingApproval) (R.err .invalidParticipationStatus)
  let asset ← okOr (s.rwaAssets.get id) (R.err .assetNotFound)
  let world ← doTransfer s.world asset.policy.depositCurrency R.palletAccount
    p.payer p.pendingTotal
  pure <|
    (s.put (({ s.toBooks with world := world }.withoutPending id pid
      p).dequeued id pid)).depositEvent
      (.participationRejected id pid p.depositHeld p.entryFeePaid)

/-- The end of the calls that close an active participation: the deposit goes
back to the payer. -/
def refundAndClose (id pid : Nat) (p : Participation R) (asset : AssetInfo R)
    (amount : Nat) (status : ParticipationStatus) (event : Event R) :
    Except DispatchError (State R) := do
  let world ← doTransfer s.world asset.policy.depositCurrency R.palletAccount
    p.payer amount
  pure <|
    (s.put ({ s.toBooks with world := world }.closed id pid p status)
      ).depositEvent event

/-- `exit_participation`. -/
def exitParticipation (id pid : Nat) : Except DispatchError (State R) := do
  let who ← ensureSigned origin
  let p ← okOr ((s.participations id).get pid) (R.err .participationNotFound)
  ensure (p.payer = who) (R.err .notPayer)
  let asset ← okOr (s.rwaAssets.get id) (R.err .assetNotFound)
  let (s₁, p₁, settled) ← trySettleExpiry s id pid p asset
  if settled then pure s₁
  else do
    ensure (p₁.status.isActive = true) (R.err .invalidParticipationStatus)
    refundAndClose s₁ id pid p₁ asset p₁.depositHeld .exited
      (.participationExited id pid p₁.depositHeld)

/-- The renewal of an expired participation takes the deposit again and
restores the index entries. -/
def reopen (id pid : Nat) (p : Participation R) (asset : AssetInfo R)
    (who : R.AccountId) : Except DispatchError (State R × Participation R) := do
  let world ← doTransfer s.world asset.policy.depositCurrency who
    R.palletAccount asset.policy.deposit
  ensure (∀ h ∈ p.holders.toList, (s.holderIndex id).get h = none)
    (R.err .alreadyParticipating)
  ensure (∀ h ∈ p.holders.toList,
    (s.holderAssets h).toList.length < R.maxParticipationsPerHolder)
    (R.err .maxParticipationsPerHolderReached)
  pure (s.put (({ s.toBooks with world := world }.addAllHolderIndexes id pid
      p.holders.toList).incParticipantCount id),
    { p with depositHeld := asset.policy.deposit })

/-- The second phase of `renew_participation`, on the settled record. -/
def renewSettled (id pid : Nat) (asset : AssetInfo R) (who : R.AccountId) :
    Except DispatchError (State R) := do
  let p ← okOr ((s.participations id).get pid) (R.err .participationNotFound)
  ensure (p.payer = who) (R.err .notPayer)
  let (s₁, p₁) ← (match p.status with
    | .active _ _ => .ok (s, p)
    | .expired => reopen s id pid p asset who
    | _ => .error (R.err .invalidParticipationStatus))
  checkEligible s₁.world id p₁.holders.toList
  let world ← doTransfer s₁.world asset.policy.depositCurrency who
    asset.beneficiary asset.policy.entryFee
  pure <|
    (s₁.put { s₁.toBooks with
      world := world
      participations := s₁.participations.insert id pid
        { p₁ with status := asset.policy.term s.now } }).depositEvent
      (.participationRenewed id pid
        (asset.policy.maxDuration.map (saturatingAdd 32 s.now)))

/-- `renew_participation`. -/
def renewParticipation (id pid : Nat) : Except DispatchError (State R) := do
  let who ← ensureSigned origin
  let asset ← okOr (s.rwaAssets.get id) (R.err .assetNotFound)
  ensure (asset.status = .active) (R.err .assetNotActive)
  let p ← okOr ((s.participations id).get pid) (R.err .participationNotFound)
  ensure (p.payer = who) (R.err .notPayer)
  let (s₁, _, _) ← trySettleExpiry s id pid p asset
  renewSettled s₁ id pid asset who

/-- `settle_expired_participation`. -/
def settleExpiredParticipation (id pid : Nat) :
    Except DispatchError (State R) := do
  let _ ← ensureSigned origin
  let asset ← okOr (s.rwaAssets.get id) (R.err .assetNotFound)
  let p ← okOr ((s.participations id).get pid) (R.err .participationNotFound)
  let (s₁, _, settled) ← trySettleExpiry s id pid p asset
  ensure (settled = true) (R.err .invalidParticipationStatus)
  pure s₁

/-- What a participation in a retired asset gets back: the deposit, and the fee
if it had not been approved. -/
def Participation.retiredRefund (p : Participation R) : Nat :=
  saturatingAdd 128 p.depositHeld
    (if p.status = .pendingApproval then p.entryFeePaid else 0)

/-- `claim_retired_deposit`. -/
def claimRetiredDeposit (id pid : Nat) : Except DispatchError (State R) := do
  let _ ← ensureSigned origin
  let asset ← okOr (s.rwaAssets.get id) (R.err .assetNotFound)
  ensure (asset.status = .retired) (R.err .invalidAssetStatus)
  let p ← okOr ((s.participations id).get pid) (R.err .participationNotFound)
  ensure (p.status.isActive = true ∨ p.status = .pendingApproval)
    (R.err .invalidParticipationStatus)
  refundAndClose s id pid p asset p.retiredRefund .exited
    (.participationExited id pid p.retiredRefund)

/-! ## Group management -/

/-- The common start of the calls on a live participation: it must not have
lapsed and must be active. -/
def ensureLive (id pid : Nat) (p : Participation R) (asset : AssetInfo R) :
    Except DispatchError Unit := do
  let (_, p₁, settled) ← trySettleExpiryInner s id pid p asset
  ensure (settled = false) (R.err .participationExpiredError)
  ensure (p₁.status.isActive = true) (R.err .invalidParticipationStatus)

/-- `add_holder`. -/
def addHolder (id pid : Nat) (newHolder : R.AccountId) :
    Except DispatchError (State R) := do
  let who ← ensureSigned origin
  let asset ← okOr (s.rwaAssets.get id) (R.err .assetNotFound)
  let p ← okOr ((s.participations id).get pid) (R.err .participationNotFound)
  ensure (p.payer = who) (R.err .notPayer)
  ensureLive s id pid p asset
  ensure (newHolder ∉ p.holders.toList) (R.err .holderAlreadyExists)
  ensure ((s.holderIndex id).get newHolder = none)
    (R.err .alreadyParticipating)
  ensure ((s.holderAssets newHolder).toList.length <
    R.maxParticipationsPerHolder) (R.err .maxParticipationsPerHolderReached)
  ensure (R.participationFilter s.world id newHolder = .ok ())
    (R.err .participantNotEligible)
  let holders ← okOr (p.holders.tryPush newHolder)
    (R.err .maxGroupSizeReached)
  pure <|
    (s.put ({ s.toBooks with
      participations := s.participations.insert id pid
        { p with holders := holders } : Books R }.addHolderIndex id pid
          newHolder)).depositEvent (.holderAdded id pid newHolder)

/-- The end of `remove_holder` and `leave_participation`: the holder is dropped,
and the last one to go ends the participation. -/
def dropHolder (id pid : Nat) (p : Participation R) (asset : AssetInfo R)
    (holder : R.AccountId) (event : Event R) : Except DispatchError (State R) :=
  let p' := { p with holders := p.holders.removeFirst holder }
  let s₁ := s.put (s.toBooks.removeSingleHolderIndex id holder)
  if p'.holders.toList = [] then
    refundAndClose s₁ id pid p' asset p'.depositHeld .exited
      (.participationExited id pid p'.depositHeld)
  else
    pure <|
      (s₁.put { s₁.toBooks with
        participations := s₁.participations.insert id pid p' }).depositEvent
        event

/-- `remove_holder`. -/
def removeHolder (id pid : Nat) (holder : R.AccountId) :
    Except DispatchError (State R) := do
  let who ← ensureSigned origin
  let asset ← okOr (s.rwaAssets.get id) (R.err .assetNotFound)
  let p ← okOr ((s.participations id).get pid) (R.err .participationNotFound)
  ensure (p.payer = who) (R.err .notPayer)
  ensureLive s id pid p asset
  ensure (holder ∈ p.holders.toList) (R.err .holderNotFound)
  dropHolder s id pid p asset holder (.holderRemoved id pid holder)

/-- `leave_participation`. -/
def leaveParticipation (id pid : Nat) : Except DispatchError (State R) := do
  let who ← ensureSigned origin
  let asset ← okOr (s.rwaAssets.get id) (R.err .assetNotFound)
  let p ← okOr ((s.participations id).get pid) (R.err .participationNotFound)
  ensure (who ∈ p.holders.toList) (R.err .notHolder)
  ensureLive s id pid p asset
  dropHolder s id pid p asset who (.holderLeft id pid who)

/-! ## Slashing and revoking -/

/-- The sum of the shares, as the raw `u32` parts saturate. -/
def totalParts (distribution : List (SlashRecipient R)) : Nat :=
  distribution.foldl (fun acc r => saturatingAdd 32 acc r.share) 0

/-- `set_slash_distribution`. -/
def setSlashDistribution (id : Nat)
    (distribution : BoundedVec (SlashRecipient R) R.maxSlashRecipients) :
    Except DispatchError (State R) := do
  ensureAssetOwnerOrAdmin s origin id
  ensure (totalParts distribution.toList = permill.accuracy)
    (R.err .slashSharesSumInvalid)
  pure <|
    (s.put { s.toBooks with
      assetSlashDistribution := s.assetSlashDistribution.insert id distribution
      }).depositEvent
      (.slashDistributionSet id distribution.toList.length)

/-- `slash_participation`. -/
def slashParticipation (guard : LifecycleGuard) (s : State R)
    (origin : Origin R.AccountId) (id pid amount : Nat)
    (reporter : Option R.AccountId) : Except DispatchError (State R) := do
  ensureOrigin R.adminOrigin origin
  let asset ← okOr (s.rwaAssets.get id) (R.err .assetNotFound)
  let p ← okOr ((s.participations id).get pid) (R.err .participationNotFound)
  let (_, p₁, settled) ← trySettleExpiryInner s id pid p asset
  ensure (settled = false) (R.err .participationExpiredError)
  ensure (guard.canSlashParticipation id pid = .ok ())
    (R.err .blockedByLifecycleGuard)
  ensure (p₁.status.isActive = true) (R.err .invalidParticipationStatus)
  ensure (amount ≤ p.depositHeld) (R.err .slashAmountExceedsDeposit)
  let world ← doDistributeSlash s.toBooks asset.policy.depositCurrency amount
    id asset.beneficiary reporter
  refundAndClose (s.put { s.toBooks with world := world }) id pid p asset
    (p.depositHeld - amount) .slashed
    (.participationSlashed id pid amount reporter)

/-- `revoke_participation`. -/
def revokeParticipation (id pid : Nat) : Except DispatchError (State R) := do
  ensureOrigin R.adminOrigin origin
  let asset ← okOr (s.rwaAssets.get id) (R.err .assetNotFound)
  let p ← okOr ((s.participations id).get pid) (R.err .participationNotFound)
  ensureLive s id pid p asset
  refundAndClose s id pid p asset p.depositHeld .revoked
    (.participationRevoked id pid p.depositHeld)

/-! ## Ownership, beneficiary, metadata -/

/-- `transfer_ownership`. -/
def transferOwnership (id : Nat) (newOwner : R.AccountId) :
    Except DispatchError (State R) := do
  let who ← ensureSigned origin
  let asset ← okOr (s.rwaAssets.get id) (R.err .assetNotFound)
  ensure (asset.owner = who) (R.err .notAssetOwner)
  ensure (asset.status ≠ .retired) (R.err .assetAlreadyRetired)
  ensure (newOwner ≠ who) (R.err .transferToSelf)
  pure <|
    (s.put { s.toBooks with
      pendingOwnershipTransfer := s.pendingOwnershipTransfer.insert id newOwner
      }).depositEvent (.ownershipTransferProposed id who newOwner)

/-- `accept_ownership`. -/
def acceptOwnership (id : Nat) : Except DispatchError (State R) := do
  let who ← ensureSigned origin
  let pending ← okOr (s.pendingOwnershipTransfer.get id)
    (R.err .noPendingTransfer)
  ensure (pending = who) (R.err .notPendingOwner)
  let asset ← okOr (s.rwaAssets.get id) (R.err .assetNotFound)
  ensure (¬ (asset.status = .retired ∨ asset.status = .paused))
    (R.err .invalidAssetStatus)
  ensure ((s.ownerAssets who).toList.length < R.maxAssetsPerOwner)
    (R.err .maxAssetsPerOwnerReached)
  let deposit := asset.registrationDeposit
  let released := R.nativeCurrency.unreserve s.world asset.owner deposit
  let world ← R.nativeCurrency.reserve released who deposit
  let b := { s.toBooks with
    world := world
    rwaAssets := s.rwaAssets.insert id { asset with owner := who }
    pendingOwnershipTransfer := s.pendingOwnershipTransfer.remove id
    : Books R }.removeFromOwnerAssets asset.owner id
  pure <|
    (s.put { b with
      ownerAssets := Function.update b.ownerAssets who
        ((b.ownerAssets who).push id) }).depositEvent
      (.ownershipTransferred id asset.owner who)

/-- `cancel_ownership_transfer`. -/
def cancelOwnershipTransfer (id : Nat) : Except DispatchError (State R) := do
  let who ← ensureSigned origin
  let asset ← okOr (s.rwaAssets.get id) (R.err .assetNotFound)
  ensure (asset.owner = who) (R.err .notAssetOwner)
  ensure ((s.pendingOwnershipTransfer.get id).isSome = true)
    (R.err .noPendingTransfer)
  pure <|
    (s.put { s.toBooks with
      pendingOwnershipTransfer := s.pendingOwnershipTransfer.remove id
      }).depositEvent (.ownershipTransferCancelled id)

/-- `update_beneficiary`. -/
def updateBeneficiary (id : Nat) (newBeneficiary : R.AccountId) :
    Except DispatchError (State R) := do
  ensureAssetOwnerOrAdmin s origin id
  let asset ← okOr (s.rwaAssets.get id) (R.err .assetNotFound)
  ensure (asset.status ≠ .retired) (R.err .assetAlreadyRetired)
  pure <|
    (s.put { s.toBooks with
      rwaAssets := s.rwaAssets.insert id
        { asset with beneficiary := newBeneficiary } }).depositEvent
      (.beneficiaryUpdated id asset.beneficiary newBeneficiary)

/-- `update_metadata`. -/
def updateMetadata (id : Nat) (newMetadata : List UInt8) :
    Except DispatchError (State R) := do
  ensureAssetOwnerOrAdmin s origin id
  let boundedMeta ← okOr (BoundedVec.tryFrom newMetadata)
    (R.err .metadataTooLong)
  let asset ← okOr (s.rwaAssets.get id) (R.err .assetNotFound)
  ensure (asset.status ≠ .retired) (R.err .assetAlreadyRetired)
  pure <|
    (s.put { s.toBooks with
      rwaAssets := s.rwaAssets.insert id { asset with metadata := boundedMeta }
      }).depositEvent (.metadataUpdated id)

/-- `transfer_participation`. -/
def transferParticipation (id pid : Nat) (newPayer : R.AccountId) :
    Except DispatchError (State R) := do
  let who ← ensureSigned origin
  let asset ← okOr (s.rwaAssets.get id) (R.err .assetNotFound)
  ensure (asset.status = .active) (R.err .assetNotActive)
  let p ← okOr ((s.participations id).get pid) (R.err .participationNotFound)
  ensure (p.payer = who) (R.err .notPayer)
  ensure (newPayer ≠ who) (R.err .transferToSelf)
  ensureLive s id pid p asset
  pure <|
    (s.put { s.toBooks with
      participations := s.participations.insert id pid
        { p with payer := newPayer } }).depositEvent
      (.participationTransferred id pid p.payer newPayer)

/-! ## Pausing, and rejecting in bulk -/

/-- `pause_asset`. -/
def pauseAsset (id : Nat) : Except DispatchError (State R) := do
  ensureOrigin R.adminOrigin origin
  setAssetStatus s id (fun _ => .ok ())
    (fun st => st = .active ∨ st = .inactive) .paused (.assetPaused id)

/-- `unpause_asset`. -/
def unpauseAsset (id : Nat) : Except DispatchError (State R) := do
  ensureOrigin R.adminOrigin origin
  setAssetStatus s id (fun _ => .ok ()) (fun st => st = .paused) .active
    (.assetUnpaused id)

/-- The variables of the loop of `batch_reject_pending`. -/
structure BatchState (R : Config) where
  books : Books R
  rejected : Nat
  retained : List Nat

/-- One round of the loop of `batch_reject_pending`.  A refund that fails has
changed nothing. -/
def rejectPending (id : Nat) (currency : PaymentCurrency R.AssetId)
    (t : BatchState R) (pid : Nat) : BatchState R :=
  match (t.books.participations id).get pid with
  | none => t
  | some p =>
      if p.status ≠ .pendingApproval then
        { t with retained := t.retained ++ [pid] }
      else
        match doTransfer t.books.world currency R.palletAccount p.payer
            p.pendingTotal with
        | .ok world =>
            { t with
              books := { t.books with world := world }.withoutPending id pid p
              rejected := t.rejected + 1 }
        | .error _ => { t with retained := t.retained ++ [pid] }

/-- `batch_reject_pending`.  The conversion of the retained list to a bounded
vector is an `expect` in the source; its failure is an error here. -/
def batchRejectPending (id : Nat) : Except DispatchError (State R) := do
  ensureAssetOwnerOrAdmin s origin id
  let asset ← okOr (s.rwaAssets.get id) (R.err .assetNotFound)
  let t := (s.pendingApprovals id).toList.foldl
    (rejectPending id asset.policy.depositCurrency) ⟨s.toBooks, 0, []⟩
  let queue ← okOr (BoundedVec.tryFrom t.retained) .other
  pure <|
    (s.put { t.books with
      pendingApprovals := Function.update t.books.pendingApprovals id queue
      }).depositEvent (.batchPendingRejected id t.rejected)

/-! ## Calls and steps -/

/-- The pallet's calls, in the order of their call indices. -/
inductive Call (R : Config) where
  | registerAsset (beneficiary : R.AccountId) (policy : AssetPolicy R)
      (metadata : List UInt8)
  | updateAssetPolicy (id : Nat) (newPolicy : AssetPolicy R)
  | deactivateAsset (id : Nat)
  | reactivateAsset (id : Nat)
  | sunsetAsset (id expiryBlock : Nat)
  | forceRetireAsset (id : Nat)
  | retireAsset (id : Nat)
  | requestParticipation (id : Nat) (holders : List R.AccountId)
  | approveParticipation (id pid : Nat)
  | rejectParticipation (id pid : Nat)
  | exitParticipation (id pid : Nat)
  | renewParticipation (id pid : Nat)
  | settleExpiredParticipation (id pid : Nat)
  | claimRetiredDeposit (id pid : Nat)
  | addHolder (id pid : Nat) (newHolder : R.AccountId)
  | removeHolder (id pid : Nat) (holder : R.AccountId)
  | leaveParticipation (id pid : Nat)
  | setSlashDistribution (id : Nat)
      (distribution : BoundedVec (SlashRecipient R) R.maxSlashRecipients)
  | slashParticipation (id pid amount : Nat) (reporter : Option R.AccountId)
  | revokeParticipation (id pid : Nat)
  | transferOwnership (id : Nat) (newOwner : R.AccountId)
  | acceptOwnership (id : Nat)
  | cancelOwnershipTransfer (id : Nat)
  | updateBeneficiary (id : Nat) (newBeneficiary : R.AccountId)
  | updateMetadata (id : Nat) (newMetadata : List UInt8)
  | transferParticipation (id pid : Nat) (newPayer : R.AccountId)
  | pauseAsset (id : Nat)
  | unpauseAsset (id : Nat)
  | batchRejectPending (id : Nat)

/-- Run a call. -/
def dispatch (guard : LifecycleGuard) (s : State R)
    (origin : Origin R.AccountId) : Call R → Except DispatchError (State R)
  | .registerAsset beneficiary policy metadata =>
      registerAsset s origin beneficiary policy metadata
  | .updateAssetPolicy id policy => updateAssetPolicy s origin id policy
  | .deactivateAsset id => deactivateAsset s origin id
  | .reactivateAsset id => reactivateAsset s origin id
  | .sunsetAsset id expiryBlock => sunsetAsset s origin id expiryBlock
  | .forceRetireAsset id => forceRetireAsset guard s origin id
  | .retireAsset id => retireAsset s origin id
  | .requestParticipation id holders =>
      requestParticipation s origin id holders
  | .approveParticipation id pid => approveParticipation s origin id pid
  | .rejectParticipation id pid => rejectParticipation s origin id pid
  | .exitParticipation id pid => exitParticipation s origin id pid
  | .renewParticipation id pid => renewParticipation s origin id pid
  | .settleExpiredParticipation id pid =>
      settleExpiredParticipation s origin id pid
  | .claimRetiredDeposit id pid => claimRetiredDeposit s origin id pid
  | .addHolder id pid holder => addHolder s origin id pid holder
  | .removeHolder id pid holder => removeHolder s origin id pid holder
  | .leaveParticipation id pid => leaveParticipation s origin id pid
  | .setSlashDistribution id distribution =>
      setSlashDistribution s origin id distribution
  | .slashParticipation id pid amount reporter =>
      slashParticipation guard s origin id pid amount reporter
  | .revokeParticipation id pid => revokeParticipation s origin id pid
  | .transferOwnership id owner => transferOwnership s origin id owner
  | .acceptOwnership id => acceptOwnership s origin id
  | .cancelOwnershipTransfer id => cancelOwnershipTransfer s origin id
  | .updateBeneficiary id beneficiary =>
      updateBeneficiary s origin id beneficiary
  | .updateMetadata id metadata => updateMetadata s origin id metadata
  | .transferParticipation id pid payer =>
      transferParticipation s origin id pid payer
  | .pauseAsset id => pauseAsset s origin id
  | .unpauseAsset id => unpauseAsset s origin id
  | .batchRejectPending id => batchRejectPending s origin id

/-- One step of the chain. -/
inductive Action (R : Config) where
  | call (guard : LifecycleGuard) (origin : Origin R.AccountId) (call : Call R)
  | nextBlock
  | outside (world : R.World)

/-- The next block, after the hook at its start. -/
def State.nextBlock (s : State R) : State R :=
  onInitialize ⟨s.toStore, s.now + 1⟩ (s.now + 1)

/-- The effect of a step. -/
def step (s : State R) : Action R → Except DispatchError (State R)
  | .call guard origin call => dispatch guard s origin call
  | .nextBlock => .ok s.nextBlock
  | .outside world => .ok (s.put { s.toBooks with world := world })

/-- The states in which the pallet has not been used yet. -/
def Genesis (s : State R) : Prop :=
  ∃ world now, s = ⟨Store.genesis R world, now⟩

/-- States reached from genesis by steps that satisfy `ok`. -/
abbrev Reachable (ok : State R → Action R → Prop) : State R → Prop :=
  Transition.Reach step Genesis ok

end Thxnet.Rwa
