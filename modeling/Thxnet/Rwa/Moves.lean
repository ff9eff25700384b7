import Mathlib.Logic.Relation
import Thxnet.Rwa.Calls

/-!
# What a step can do to the books

A call of this pallet may do several things at once: settle a lapsed
participation and renew it, refund a whole queue.  `Move a now b b'` lists the
single things that can happen to the books during an accepted step `a` at block
`now`, with the checks made before each.  `step_moves` shows that every accepted
step is a sequence of moves; it is the only place where the dispatchables are
unfolded for this, and an invariant of the books is proved by going through the
constructors of `Move`.
-/

namespace Thxnet.Rwa

open Thxnet.Lib Thxnet.Frame Relation

variable {R : Config}

/-! ## Retirement at the start of a block -/

/-- One round of the loop of `on_initialize`, on the books. -/
def Books.retireOne (b : Books R) (id : Nat) : Books R :=
  match b.rwaAssets.get id with
  | none => b
  | some asset => if asset.status = .retired then b else b.markRetired id asset

/-- The books after the hook at the start of block `n`. -/
def Books.initialized (b : Books R) (n : Nat) : Books R :=
  (b.sunsettingAssets n).toList.foldl Books.retireOne
    { b with sunsettingAssets := Function.update b.sunsettingAssets n .empty }

private theorem retireScheduled_toBooks (s : State R) (id : Nat) :
    (retireScheduled s id).toBooks = s.toBooks.retireOne id ∧
      (retireScheduled s id).now = s.now := by
  unfold retireScheduled Books.retireOne
  cases s.rwaAssets.get id with
  | none => exact ⟨rfl, rfl⟩
  | some =>
      dsimp only
      split <;> exact ⟨rfl, rfl⟩

private theorem foldl_retireScheduled (ids : List Nat) (s : State R) :
    (ids.foldl retireScheduled s).toBooks =
        ids.foldl Books.retireOne s.toBooks ∧
      (ids.foldl retireScheduled s).now = s.now := by
  induction ids generalizing s with
  | nil => exact ⟨rfl, rfl⟩
  | cons id ids ih =>
      obtain ⟨hbooks, hnow⟩ := retireScheduled_toBooks s id
      obtain ⟨ihbooks, ihnow⟩ := ih (retireScheduled s id)
      exact ⟨by rw [List.foldl_cons, ihbooks, hbooks, List.foldl_cons],
        by rw [List.foldl_cons, ihnow, hnow]⟩

theorem nextBlock_toBooks (s : State R) :
    s.nextBlock.toBooks = s.toBooks.initialized (s.now + 1) :=
  (foldl_retireScheduled _ _).1

theorem nextBlock_now (s : State R) : s.nextBlock.now = s.now + 1 :=
  (foldl_retireScheduled _ _).2

/-- What taking the schedule of the block and each retirement preserve, the
hook preserves. -/
theorem Books.initialized_induct {I : Books R → Prop} {b : Books R} {n : Nat}
    (h0 : I { b with
      sunsettingAssets := Function.update b.sunsettingAssets n .empty })
    (hstep : ∀ b₁ id asset, id ∈ (b.sunsettingAssets n).toList → I b₁ →
      b₁.rwaAssets.get id = some asset → asset.status ≠ .retired →
      I (b₁.markRetired id asset)) : I (b.initialized n) := by
  have hloop : ∀ (ids : List Nat) (b₁ : Books R),
      (∀ id ∈ ids, id ∈ (b.sunsettingAssets n).toList) → I b₁ →
      I (ids.foldl Books.retireOne b₁) := by
    intro ids
    induction ids with
    | nil => exact fun _ _ h => h
    | cons id ids ih =>
        intro b₁ hmem h
        refine ih _ (fun i hi => hmem i (by simp [hi])) ?_
        unfold Books.retireOne
        split
        · exact h
        · next asset hget =>
            split
            · exact h
            · next hst => exact hstep b₁ id asset (hmem id (by simp)) h hget hst
  exact hloop _ _ (fun _ h => h) h0

/-! ## Settlement and liveness -/

/-- A participation that is active and within its term. -/
def Participation.Running (p : Participation R) (now : Nat) : Prop :=
  p.status.isActive = true ∧ p.lapsed now = false

variable {asset : AssetInfo R} {id pid : Nat} {p : Participation R}
    {s : State R}

theorem trySettleExpiryInner_cases {s₁ : State R} {p₁ : Participation R}
    {settled : Bool}
    (h : trySettleExpiryInner s id pid p asset = .ok (s₁, p₁, settled)) :
    (settled = false ∧ p.lapsed s.now = false ∧ s₁ = s ∧ p₁ = p) ∨
    (settled = true ∧ p.lapsed s.now = true ∧
      p₁ = { p with status := .expired, depositHeld := 0 } ∧
      s₁.now = s.now ∧
      ∃ w, doTransfer s.world asset.policy.depositCurrency R.palletAccount
          p.payer p.depositHeld = .ok w ∧
        s₁.toBooks = ({ s.toBooks with world := w }.removeAllHolderIndexes id
          p.holders.toList).decParticipantCount id) := by
  unfold trySettleExpiryInner at h
  split at h
  · next hlapsed =>
      simp only [do_eq_ok, Prod.mk.injEq] at h
      obtain ⟨w, hpay, rfl, rfl, rfl⟩ := h
      exact .inr ⟨rfl, hlapsed, rfl, rfl, w, hpay, rfl⟩
  · next hlapsed =>
      simp only [pure_eq_ok, Prod.mk.injEq] at h
      obtain ⟨rfl, rfl, rfl⟩ := h
      exact .inl ⟨rfl, by simpa using hlapsed, rfl, rfl⟩

theorem trySettleExpiry_cases {s₁ : State R} {p₁ : Participation R}
    {settled : Bool}
    (h : trySettleExpiry s id pid p asset = .ok (s₁, p₁, settled)) :
    (settled = false ∧ p.lapsed s.now = false ∧ s₁ = s ∧ p₁ = p) ∨
    (settled = true ∧ p.lapsed s.now = true ∧ s₁.now = s.now ∧
      ∃ w, doTransfer s.world asset.policy.depositCurrency R.palletAccount
          p.payer p.depositHeld = .ok w ∧
        s₁.toBooks =
          { s.toBooks with world := w }.closed id pid p .expired) := by
  unfold trySettleExpiry at h
  simp only [bind_eq_ok] at h
  obtain ⟨⟨s₂, p₂, settled₂⟩, hinner, h⟩ := h
  rcases trySettleExpiryInner_cases hinner with
    ⟨rfl, hlapsed, rfl, rfl⟩ | ⟨rfl, hlapsed, rfl, hnow, w, hpay, hbooks⟩
  · simp only [Bool.false_eq_true, if_false, pure_eq_ok, Prod.mk.injEq] at h
    obtain ⟨rfl, rfl, rfl⟩ := h
    exact .inl ⟨rfl, hlapsed, rfl, rfl⟩
  · simp only [if_true, pure_eq_ok, Prod.mk.injEq] at h
    obtain ⟨rfl, rfl, rfl⟩ := h
    refine .inr ⟨rfl, hlapsed, hnow, w, hpay, ?_⟩
    rw [State.put_toBooks, hbooks]
    rfl

theorem ensureLive_eq_ok {u : Unit} (h : ensureLive s id pid p asset = .ok u) :
    p.Running s.now := by
  unfold ensureLive at h
  simp only [do_eq_ok] at h
  obtain ⟨⟨s₁, p₁, settled⟩, hinner, hsettled, hactive⟩ := h
  rcases trySettleExpiryInner_cases hinner with
    ⟨_, hlapsed, _, rfl⟩ | ⟨rfl, _⟩
  · exact ⟨hactive, hlapsed⟩
  · cases hsettled

/-! ## Moves -/

/-- The status changes of the four calls that do nothing else. -/
inductive StatusMove (a : Action R) (id : Nat) (asset : AssetInfo R) :
    AssetStatus → Prop where
  | deactivated {g : LifecycleGuard}
      (ha : a = .call g (.signed asset.owner) (.deactivateAsset id))
      (hst : asset.status = .active) : StatusMove a id asset .inactive
  | reactivated {g : LifecycleGuard}
      (ha : a = .call g (.signed asset.owner) (.reactivateAsset id))
      (hst : asset.status = .inactive) : StatusMove a id asset .active
  | paused {g : LifecycleGuard} {o : Origin R.AccountId}
      (ha : a = .call g o (.pauseAsset id)) (hadmin : R.adminOrigin o = true)
      (hst : asset.status = .active ∨ asset.status = .inactive) :
      StatusMove a id asset .paused
  | unpaused {g : LifecycleGuard} {o : Origin R.AccountId}
      (ha : a = .call g o (.unpauseAsset id)) (hadmin : R.adminOrigin o = true)
      (hst : asset.status = .paused) : StatusMove a id asset .active

/-- The ways a participation ends with a refund to its payer. -/
inductive Ending (a : Action R) (now id pid : Nat) (p : Participation R)
    (asset : AssetInfo R) : ParticipationStatus → Nat → Prop where
  | expired {g : LifecycleGuard} {who : R.AccountId}
      (ha : a = .call g (.signed who) (.exitParticipation id pid) ∨
        a = .call g (.signed who) (.renewParticipation id pid) ∨
        a = .call g (.signed who) (.settleExpiredParticipation id pid))
      (hlapsed : p.lapsed now = true) :
      Ending a now id pid p asset .expired p.depositHeld
  | exited {g : LifecycleGuard}
      (ha : a = .call g (.signed p.payer) (.exitParticipation id pid))
      (hrun : p.Running now) :
      Ending a now id pid p asset .exited p.depositHeld
  | claimed {g : LifecycleGuard} {who : R.AccountId}
      (ha : a = .call g (.signed who) (.claimRetiredDeposit id pid))
      (hretired : asset.status = .retired)
      (hst : p.status.isActive = true ∨ p.status = .pendingApproval) :
      Ending a now id pid p asset .exited p.retiredRefund
  | revoked {g : LifecycleGuard} {o : Origin R.AccountId}
      (ha : a = .call g o (.revokeParticipation id pid))
      (hadmin : R.adminOrigin o = true) (hrun : p.Running now) :
      Ending a now id pid p asset .revoked p.depositHeld

/-- The single things that happen to the books during a step. -/
inductive Move (a : Action R) (now : Nat) (b : Books R) : Books R → Prop where
  | outside {w : R.World} (ha : a = .outside w) :
      Move a now b { b with world := w }
  | initialized (ha : a = .nextBlock) : Move a now b (b.initialized now)
  | registered {g : LifecycleGuard} {owner beneficiary : R.AccountId}
      {policy : AssetPolicy R} {metadata : List UInt8}
      {boundedMeta : BoundedVec UInt8 R.maxMetadataLen} {w : R.World}
      (ha : a = .call g (.signed owner)
        (.registerAsset beneficiary policy metadata))
      (hroom : (b.ownerAssets owner).toList.length < R.maxAssetsPerOwner)
      (hmin : R.minParticipationDeposit ≤ policy.deposit)
      (hreserve : R.nativeCurrency.reserve b.world owner
        R.assetRegistrationDeposit = .ok w)
      (hfits : b.nextRwaAssetId + 1 < 2 ^ 32) :
      Move a now b
        { b with
          world := w
          nextRwaAssetId := b.nextRwaAssetId + 1
          rwaAssets := b.rwaAssets.insert b.nextRwaAssetId
            { owner := owner
              beneficiary := beneficiary
              status := .active
              policy := policy
              metadata := boundedMeta
              participantCount := 0
              registrationDeposit := R.assetRegistrationDeposit
              createdAt := now }
          ownerAssets := Function.update b.ownerAssets owner
            ((b.ownerAssets owner).push b.nextRwaAssetId) }
  | policyUpdated {g : LifecycleGuard} {id : Nat} {asset : AssetInfo R}
      {policy : AssetPolicy R}
      (ha : a = .call g (.signed asset.owner) (.updateAssetPolicy id policy))
      (hget : b.rwaAssets.get id = some asset) (hst : asset.status = .active)
      (hcurrency : asset.policy.depositCurrency = policy.depositCurrency)
      (hdeposit : asset.policy.deposit = policy.deposit)
      (hcap : ∀ most, policy.maxParticipants = some most →
        asset.participantCount ≤ most)
      (hfrozen : 0 < asset.participantCount →
        checkFrozenTerms asset.policy policy = .ok ()) :
      Move a now b
        { b with
          rwaAssets := b.rwaAssets.insert id { asset with policy := policy } }
  | statusSet {id : Nat} {asset : AssetInfo R} {st : AssetStatus}
      (hget : b.rwaAssets.get id = some asset)
      (hmove : StatusMove a id asset st) :
      Move a now b
        { b with
          rwaAssets := b.rwaAssets.insert id { asset with status := st } }
  | sunset {g : LifecycleGuard} {id expiryBlock : Nat} {asset : AssetInfo R}
      (ha : a = .call g (.signed asset.owner) (.sunsetAsset id expiryBlock))
      (hget : b.rwaAssets.get id = some asset)
      (hst : asset.status = .active ∨ asset.status = .inactive)
      (hlater : now < expiryBlock)
      (hroom : (b.sunsettingAssets expiryBlock).toList.length <
        R.maxSunsettingPerBlock) :
      Move a now b
        { b with
          rwaAssets := b.rwaAssets.insert id
            { asset with status := .sunsetting expiryBlock }
          sunsettingAssets := Function.update b.sunsettingAssets expiryBlock
            ((b.sunsettingAssets expiryBlock).push id) }
  | retired {g : LifecycleGuard} {o : Origin R.AccountId} {id : Nat}
      {asset : AssetInfo R}
      (ha : (a = .call g o (.forceRetireAsset id) ∧ R.forceOrigin o = true ∧
          g.canRetireAsset id = .ok ()) ∨
        (a = .call g o (.retireAsset id) ∧
          ∃ expiry, asset.status = .sunsetting expiry ∧ expiry ≤ now))
      (hget : b.rwaAssets.get id = some asset)
      (hst : asset.status ≠ .retired) :
      Move a now b ((b.dropSchedule id asset).markRetired id asset)
  | requested {g : LifecycleGuard} {payer : R.AccountId} {id : Nat}
      {asset : AssetInfo R} {group : BoundedVec R.AccountId R.maxGroupSize}
      {w : R.World}
      (ha : a = .call g (.signed payer) (.requestParticipation id group.toList))
      (hget : b.rwaAssets.get id = some asset) (hst : asset.status = .active)
      (hne : group.toList ≠ []) (hnodup : group.toList.Nodup)
      (hcap : ∀ most, asset.policy.maxParticipants = some most →
        saturatingAdd 32 asset.participantCount 1 ≤ most)
      (hholders : checkHolders b id group.toList = .ok ())
      (heligible : checkEligible b.world id group.toList = .ok ())
      (hroom : asset.policy.requiresApproval = true →
        (b.pendingApprovals id).toList.length < R.maxPendingApprovals)
      (hpay : payRequest b.world payer asset = .ok w)
      (hfits : b.nextParticipationId id + 1 < 2 ^ 32) :
      Move a now b ({ b with world := w }.requested id asset
        (asset.newParticipation id now payer group))
  | approved {g : LifecycleGuard} {o : Origin R.AccountId} {id pid : Nat}
      {asset : AssetInfo R} {p : Participation R} {w : R.World}
      (ha : a = .call g o (.approveParticipation id pid))
      (hget : b.rwaAssets.get id = some asset) (hst : asset.status = .active)
      (hp : (b.participations id).get pid = some p)
      (hpending : p.status = .pendingApproval)
      (hpay : doTransfer b.world asset.policy.depositCurrency R.palletAccount
        asset.beneficiary p.entryFeePaid = .ok w) :
      Move a now b (Books.dequeued
        { b with
          world := w
          participations := b.participations.insert id pid
            { p with status := asset.policy.term now } } id pid)
  | rejected {g : LifecycleGuard} {o : Origin R.AccountId} {id pid : Nat}
      {asset : AssetInfo R} {p : Participation R} {w : R.World}
      (ha : a = .call g o (.rejectParticipation id pid) ∨
        a = .call g o (.batchRejectPending id))
      (hget : b.rwaAssets.get id = some asset)
      (hp : (b.participations id).get pid = some p)
      (hpending : p.status = .pendingApproval)
      (hpay : doTransfer b.world asset.policy.depositCurrency R.palletAccount
        p.payer p.pendingTotal = .ok w) :
      Move a now b ({ b with world := w }.withoutPending id pid p)
  | requeued {g : LifecycleGuard} {o : Origin R.AccountId} {id : Nat}
      {queue : BoundedVec Nat R.maxPendingApprovals}
      (ha : (∃ pid, a = .call g o (.rejectParticipation id pid)) ∨
        a = .call g o (.batchRejectPending id))
      (hsub : queue.toList.Sublist (b.pendingApprovals id).toList) :
      Move a now b
        { b with
          pendingApprovals := Function.update b.pendingApprovals id queue }
  | closed {id pid amount : Nat} {asset : AssetInfo R} {p : Participation R}
      {status : ParticipationStatus} {w : R.World}
      (hget : b.rwaAssets.get id = some asset)
      (hp : (b.participations id).get pid = some p)
      (hend : Ending a now id pid p asset status amount)
      (hpay : doTransfer b.world asset.policy.depositCurrency R.palletAccount
        p.payer amount = .ok w) :
      Move a now b ({ b with world := w }.closed id pid p status)
  | leftLast {g : LifecycleGuard} {who holder : R.AccountId} {id pid : Nat}
      {asset : AssetInfo R} {p : Participation R} {w : R.World}
      (ha : (a = .call g (.signed who) (.removeHolder id pid holder) ∧
          p.payer = who) ∨
        (a = .call g (.signed who) (.leaveParticipation id pid) ∧
          holder = who))
      (hget : b.rwaAssets.get id = some asset)
      (hp : (b.participations id).get pid = some p) (hrun : p.Running now)
      (hholder : holder ∈ p.holders.toList)
      (hlast : p.holders.toList.erase holder = [])
      (hpay : doTransfer b.world asset.policy.depositCurrency R.palletAccount
        p.payer p.depositHeld = .ok w) :
      Move a now b
        (({ b with world := w }.removeSingleHolderIndex id holder).closed id pid
          { p with holders := p.holders.removeFirst holder } .exited)
  | slashed {g : LifecycleGuard} {o : Origin R.AccountId}
      {id pid amount : Nat} {reporter : Option R.AccountId}
      {asset : AssetInfo R} {p : Participation R} {w₁ w : R.World}
      (ha : a = .call g o (.slashParticipation id pid amount reporter))
      (hadmin : R.adminOrigin o = true)
      (hguard : g.canSlashParticipation id pid = .ok ())
      (hget : b.rwaAssets.get id = some asset)
      (hp : (b.participations id).get pid = some p) (hrun : p.Running now)
      (hle : amount ≤ p.depositHeld)
      (hslash : doDistributeSlash b asset.policy.depositCurrency amount id
        asset.beneficiary reporter = .ok w₁)
      (hpay : doTransfer w₁ asset.policy.depositCurrency R.palletAccount
        p.payer (p.depositHeld - amount) = .ok w) :
      Move a now b ({ b with world := w }.closed id pid p .slashed)
  | renewed {g : LifecycleGuard} {id pid : Nat} {asset : AssetInfo R}
      {p : Participation R} {w : R.World}
      (ha : a = .call g (.signed p.payer) (.renewParticipation id pid))
      (hget : b.rwaAssets.get id = some asset) (hst : asset.status = .active)
      (hp : (b.participations id).get pid = some p) (hrun : p.Running now)
      (heligible : checkEligible b.world id p.holders.toList = .ok ())
      (hpay : doTransfer b.world asset.policy.depositCurrency p.payer
        asset.beneficiary asset.policy.entryFee = .ok w) :
      Move a now b
        { b with
          world := w
          participations := b.participations.insert id pid
            { p with status := asset.policy.term now } }
  | reopened {g : LifecycleGuard} {id pid : Nat} {asset : AssetInfo R}
      {p : Participation R} {w₁ w : R.World}
      (ha : a = .call g (.signed p.payer) (.renewParticipation id pid))
      (hget : b.rwaAssets.get id = some asset) (hst : asset.status = .active)
      (hp : (b.participations id).get pid = some p)
      (hexpired : p.status = .expired)
      (hdeposit : doTransfer b.world asset.policy.depositCurrency p.payer
        R.palletAccount asset.policy.deposit = .ok w₁)
      (hindex : ∀ h ∈ p.holders.toList, (b.holderIndex id).get h = none)
      (hroom : ∀ h ∈ p.holders.toList,
        (b.holderAssets h).toList.length < R.maxParticipationsPerHolder)
      (heligible : checkEligible w₁ id p.holders.toList = .ok ())
      (hpay : doTransfer w₁ asset.policy.depositCurrency p.payer
        asset.beneficiary asset.policy.entryFee = .ok w) :
      Move a now b
        (({ b with
            world := w
            participations := b.participations.insert id pid
              { p with
                depositHeld := asset.policy.deposit
                status := asset.policy.term now }
            : Books R }.addAllHolderIndexes id pid
              p.holders.toList).incParticipantCount id)
  | holderAdded {g : LifecycleGuard} {holder : R.AccountId} {id pid : Nat}
      {asset : AssetInfo R} {p : Participation R}
      {holders : BoundedVec R.AccountId R.maxGroupSize}
      (ha : a = .call g (.signed p.payer) (.addHolder id pid holder))
      (hget : b.rwaAssets.get id = some asset)
      (hp : (b.participations id).get pid = some p) (hrun : p.Running now)
      (hnew : holder ∉ p.holders.toList)
      (hindex : (b.holderIndex id).get holder = none)
      (hroom : (b.holderAssets holder).toList.length <
        R.maxParticipationsPerHolder)
      (heligible : R.participationFilter b.world id holder = .ok ())
      (hpush : p.holders.tryPush holder = some holders) :
      Move a now b ({ b with
        participations := b.participations.insert id pid
          { p with holders := holders } : Books R }.addHolderIndex id pid
            holder)
  | holderDropped {g : LifecycleGuard} {who holder : R.AccountId}
      {id pid : Nat} {asset : AssetInfo R} {p : Participation R}
      (ha : (a = .call g (.signed who) (.removeHolder id pid holder) ∧
          p.payer = who) ∨
        (a = .call g (.signed who) (.leaveParticipation id pid) ∧
          holder = who))
      (hget : b.rwaAssets.get id = some asset)
      (hp : (b.participations id).get pid = some p) (hrun : p.Running now)
      (hholder : holder ∈ p.holders.toList)
      (hrest : p.holders.toList.erase holder ≠ []) :
      Move a now b
        { b.removeSingleHolderIndex id holder with
          participations := b.participations.insert id pid
            { p with holders := p.holders.removeFirst holder } }
  | slashDistributionSet {g : LifecycleGuard} {o : Origin R.AccountId}
      {id : Nat}
      {dist : BoundedVec (SlashRecipient R) R.maxSlashRecipients}
      (ha : a = .call g o (.setSlashDistribution id dist))
      (hsum : totalParts dist.toList = permill.accuracy) :
      Move a now b
        { b with
          assetSlashDistribution := b.assetSlashDistribution.insert id dist }
  | ownerProposed {g : LifecycleGuard} {id : Nat} {asset : AssetInfo R}
      {newOwner : R.AccountId}
      (ha : a = .call g (.signed asset.owner) (.transferOwnership id newOwner))
      (hget : b.rwaAssets.get id = some asset)
      (hst : asset.status ≠ .retired) (hne : newOwner ≠ asset.owner) :
      Move a now b
        { b with
          pendingOwnershipTransfer :=
            b.pendingOwnershipTransfer.insert id newOwner }
  | ownerAccepted {g : LifecycleGuard} {who : R.AccountId} {id : Nat}
      {asset : AssetInfo R} {w : R.World}
      (ha : a = .call g (.signed who) (.acceptOwnership id))
      (hpending : b.pendingOwnershipTransfer.get id = some who)
      (hget : b.rwaAssets.get id = some asset)
      (hst : ¬ (asset.status = .retired ∨ asset.status = .paused))
      (hroom : (b.ownerAssets who).toList.length < R.maxAssetsPerOwner)
      (hreserve : R.nativeCurrency.reserve
        (R.nativeCurrency.unreserve b.world asset.owner
          asset.registrationDeposit) who asset.registrationDeposit = .ok w) :
      Move a now b
        { b with
          world := w
          rwaAssets := b.rwaAssets.insert id { asset with owner := who }
          pendingOwnershipTransfer := b.pendingOwnershipTransfer.remove id
          ownerAssets :=
            let dropped := (b.removeFromOwnerAssets asset.owner id).ownerAssets
            Function.update dropped who ((dropped who).push id) }
  | ownerCancelled {g : LifecycleGuard} {id : Nat} {asset : AssetInfo R}
      (ha : a = .call g (.signed asset.owner) (.cancelOwnershipTransfer id))
      (hget : b.rwaAssets.get id = some asset) :
      Move a now b
        { b with
          pendingOwnershipTransfer := b.pendingOwnershipTransfer.remove id }
  | beneficiarySet {g : LifecycleGuard} {o : Origin R.AccountId} {id : Nat}
      {asset : AssetInfo R} {beneficiary : R.AccountId}
      (ha : a = .call g o (.updateBeneficiary id beneficiary))
      (hget : b.rwaAssets.get id = some asset)
      (hst : asset.status ≠ .retired) :
      Move a now b
        { b with
          rwaAssets := b.rwaAssets.insert id
            { asset with beneficiary := beneficiary } }
  | metadataSet {g : LifecycleGuard} {o : Origin R.AccountId} {id : Nat}
      {asset : AssetInfo R} {metadata : List UInt8}
      {boundedMeta : BoundedVec UInt8 R.maxMetadataLen}
      (ha : a = .call g o (.updateMetadata id metadata))
      (hget : b.rwaAssets.get id = some asset)
      (hst : asset.status ≠ .retired) :
      Move a now b
        { b with
          rwaAssets := b.rwaAssets.insert id
            { asset with metadata := boundedMeta } }
  | payerChanged {g : LifecycleGuard} {id pid : Nat} {asset : AssetInfo R}
      {p : Participation R} {newPayer : R.AccountId}
      (ha : a = .call g (.signed p.payer)
        (.transferParticipation id pid newPayer))
      (hget : b.rwaAssets.get id = some asset) (hst : asset.status = .active)
      (hp : (b.participations id).get pid = some p) (hrun : p.Running now)
      (hne : newPayer ≠ p.payer) :
      Move a now b
        { b with
          participations := b.participations.insert id pid
            { p with payer := newPayer } }

/-- A sequence of moves during one step. -/
abbrev Moves (a : Action R) (now : Nat) : Books R → Books R → Prop :=
  ReflTransGen (Move a now)

/-- An accepted call moves the books and leaves the clock alone. -/
abbrev Moved (a : Action R) (s s' : State R) : Prop :=
  s'.now = s.now ∧ Moves a s.now s.toBooks s'.toBooks

/-! ## The moves of each dispatchable -/

section Dispatchables

variable {s s' : State R} {g : LifecycleGuard} {o : Origin R.AccountId}
  {id pid : Nat}

private theorem whenSome_ensure {α : Type} {opt : Option α} {P : α → Prop}
    [DecidablePred P] {e : DispatchError} {u : Unit} :
    whenSome opt (fun x => ensure (P x) e) = .ok u ↔
      ∀ x, opt = some x → P x := by
  cases opt with
  | none => simp [whenSome]
  | some => simp [whenSome, ensure_eq_ok]

theorem registerAsset_moves {beneficiary : R.AccountId}
    {policy : AssetPolicy R} {metadata : List UInt8}
    (h : registerAsset s o beneficiary policy metadata = .ok s') :
    Moved (.call g o (.registerAsset beneficiary policy metadata)) s s' := by
  simp only [registerAsset, do_eq_ok, ensureSigned_eq_ok] at h
  obtain ⟨owner, rfl, boundedMeta, _, hroom, hmin, w, hreserve, hfits,
    rfl⟩ := h
  exact ⟨rfl, .single (.registered rfl hroom hmin hreserve hfits)⟩

theorem updateAssetPolicy_moves {policy : AssetPolicy R}
    (h : updateAssetPolicy s o id policy = .ok s') :
    Moved (.call g o (.updateAssetPolicy id policy)) s s' := by
  simp only [updateAssetPolicy, do_eq_ok, ensureSigned_eq_ok,
    whenSome_ensure] at h
  obtain ⟨who, rfl, asset, hget, rfl, hst, hcurrency, hdeposit, hcap, _,
    hfrozen, rfl⟩ := h
  refine ⟨rfl, .single (.policyUpdated rfl hget hst hcurrency hdeposit hcap
    fun hpos => ?_)⟩
  rwa [if_pos hpos] at hfrozen

private theorem setAssetStatus_moves {a : Action R}
    {mayAct : AssetInfo R → Except DispatchError Unit}
    {accepts : AssetStatus → Bool} {target : AssetStatus} {event : Event R}
    (h : setAssetStatus s id mayAct accepts target event = .ok s')
    (hmove : ∀ asset, mayAct asset = .ok () → accepts asset.status = true →
      StatusMove a id asset target) : Moved a s s' := by
  simp only [setAssetStatus, do_eq_ok] at h
  obtain ⟨asset, hget, _, hact, hst, rfl⟩ := h
  exact ⟨rfl, .single (.statusSet hget (hmove asset hact hst))⟩

theorem deactivateAsset_moves (h : deactivateAsset s o id = .ok s') :
    Moved (.call g o (.deactivateAsset id)) s s' := by
  simp only [deactivateAsset, bind_eq_ok, ensureSigned_eq_ok] at h
  obtain ⟨who, rfl, h⟩ := h
  refine setAssetStatus_moves h fun asset hact hst => ?_
  rw [ensure_eq_ok] at hact
  exact .deactivated (by rw [hact]) (of_decide_eq_true hst)

theorem reactivateAsset_moves (h : reactivateAsset s o id = .ok s') :
    Moved (.call g o (.reactivateAsset id)) s s' := by
  simp only [reactivateAsset, bind_eq_ok, ensureSigned_eq_ok] at h
  obtain ⟨who, rfl, h⟩ := h
  refine setAssetStatus_moves h fun asset hact hst => ?_
  rw [ensure_eq_ok] at hact
  exact .reactivated (by rw [hact]) (of_decide_eq_true hst)

theorem pauseAsset_moves (h : pauseAsset s o id = .ok s') :
    Moved (.call g o (.pauseAsset id)) s s' := by
  simp only [pauseAsset, ensureOrigin, do_eq_ok] at h
  obtain ⟨hadmin, h⟩ := h
  exact setAssetStatus_moves h fun asset _ hst =>
    .paused rfl hadmin (of_decide_eq_true hst)

theorem unpauseAsset_moves (h : unpauseAsset s o id = .ok s') :
    Moved (.call g o (.unpauseAsset id)) s s' := by
  simp only [unpauseAsset, ensureOrigin, do_eq_ok] at h
  obtain ⟨hadmin, h⟩ := h
  exact setAssetStatus_moves h fun asset _ hst =>
    .unpaused rfl hadmin (of_decide_eq_true hst)

theorem sunsetAsset_moves {expiryBlock : Nat}
    (h : sunsetAsset s o id expiryBlock = .ok s') :
    Moved (.call g o (.sunsetAsset id expiryBlock)) s s' := by
  simp only [sunsetAsset, do_eq_ok, ensureSigned_eq_ok] at h
  obtain ⟨who, rfl, hlater, hroom, asset, hget, rfl, hst, rfl⟩ := h
  exact ⟨rfl, .single (.sunset rfl hget hst hlater hroom)⟩

theorem forceRetireAsset_moves (h : forceRetireAsset g s o id = .ok s') :
    Moved (.call g o (.forceRetireAsset id)) s s' := by
  simp only [forceRetireAsset, ensureOrigin, do_eq_ok] at h
  obtain ⟨hforce, asset, hget, hst, hguard, rfl⟩ := h
  exact ⟨rfl, .single (.retired (.inl ⟨rfl, hforce, hguard⟩) hget hst)⟩

variable {asset : AssetInfo R} {holder : R.AccountId}

theorem sunsetExpiry_eq_ok {expiry : Nat}
    (h : sunsetExpiry asset = .ok expiry) :
    asset.status = .sunsetting expiry := by
  unfold sunsetExpiry at h
  split at h
  · next hst =>
      cases h
      exact hst
  · cases h

theorem retireAsset_moves (h : retireAsset s o id = .ok s') :
    Moved (.call g o (.retireAsset id)) s s' := by
  simp only [retireAsset, do_eq_ok, ensureSigned_eq_ok] at h
  obtain ⟨who, rfl, asset, hget, expiry, hexpiry, hnow, rfl⟩ := h
  have hst := sunsetExpiry_eq_ok hexpiry
  have hmove := Move.retired (a := .call g (.signed who) (.retireAsset id))
    (.inr ⟨rfl, expiry, hst, hnow⟩) hget (by simp [hst])
  rw [Books.dropSchedule, hst] at hmove
  exact ⟨rfl, .single hmove⟩

theorem requestParticipation_move {holders : List R.AccountId}
    (h : requestParticipation s o id holders = .ok s') :
    s'.now = s.now ∧ Move (.call g o (.requestParticipation id holders))
      s.now s.toBooks s'.toBooks := by
  simp only [requestParticipation, do_eq_ok, ensureSigned_eq_ok,
    whenSome_ensure] at h
  obtain ⟨payer, rfl, asset, hget, hst, hne, group, hgroup, hnodup, hcap, _,
    hholders, _, heligible, hroom, w, hpay, hfits, rfl⟩ := h
  obtain rfl := (BoundedVec.toList_of_tryFrom hgroup).symm
  have hmove : Move (.call g (.signed payer)
      (.requestParticipation id group.toList)) s.now s.toBooks _ :=
    .requested rfl hget hst hne hnodup hcap hholders heligible hroom hpay hfits
  split <;> exact ⟨rfl, hmove⟩

theorem approveParticipation_moves
    (h : approveParticipation s o id pid = .ok s') :
    Moved (.call g o (.approveParticipation id pid)) s s' := by
  simp only [approveParticipation, do_eq_ok] at h
  obtain ⟨_, _, asset, hget, hst, p, hp, hpending, w, hpay, rfl⟩ := h
  exact ⟨rfl, .single (.approved rfl hget hst hp hpending hpay)⟩

theorem rejectParticipation_moves
    (h : rejectParticipation s o id pid = .ok s') :
    Moved (.call g o (.rejectParticipation id pid)) s s' := by
  simp only [rejectParticipation, do_eq_ok] at h
  obtain ⟨_, _, p, hp, hpending, asset, hget, w, hpay, rfl⟩ := h
  refine ⟨rfl, .tail (.single (.rejected (.inl rfl) hget hp hpending hpay))
    (.requeued (.inl ⟨pid, rfl⟩) ?_)⟩
  exact List.erase_sublist

theorem exitParticipation_moves (h : exitParticipation s o id pid = .ok s') :
    Moved (.call g o (.exitParticipation id pid)) s s' := by
  simp only [exitParticipation, do_eq_ok, ensureSigned_eq_ok] at h
  obtain ⟨who, rfl, p, hp, rfl, asset, hget, ⟨s₁, p₁, settled⟩, hsettle,
    h⟩ := h
  rcases trySettleExpiry_cases hsettle with
    ⟨rfl, hlapsed, rfl, rfl⟩ | ⟨rfl, hlapsed, hnow, w, hpay, hbooks⟩
  · simp only [Bool.false_eq_true, if_false, refundAndClose, do_eq_ok] at h
    obtain ⟨hactive, w, hpay, rfl⟩ := h
    exact ⟨rfl, .single (.closed hget hp (.exited rfl ⟨hactive, hlapsed⟩)
      hpay)⟩
  · simp only [if_true, pure_eq_ok] at h
    subst h
    refine ⟨hnow, ?_⟩
    rw [hbooks]
    exact .single (.closed hget hp (.expired (.inl rfl) hlapsed) hpay)

theorem settleExpiredParticipation_moves
    (h : settleExpiredParticipation s o id pid = .ok s') :
    Moved (.call g o (.settleExpiredParticipation id pid)) s s' := by
  simp only [settleExpiredParticipation, do_eq_ok, ensureSigned_eq_ok] at h
  obtain ⟨who, rfl, asset, hget, p, hp, ⟨s₁, p₁, settled⟩, hsettle, rfl,
    rfl⟩ := h
  rcases trySettleExpiry_cases hsettle with
    ⟨hfalse, _⟩ | ⟨_, hlapsed, hnow, w, hpay, hbooks⟩
  · cases hfalse
  · refine ⟨hnow, ?_⟩
    rw [hbooks]
    exact .single (.closed hget hp (.expired (.inr (.inr rfl)) hlapsed) hpay)

theorem claimRetiredDeposit_moves
    (h : claimRetiredDeposit s o id pid = .ok s') :
    Moved (.call g o (.claimRetiredDeposit id pid)) s s' := by
  simp only [claimRetiredDeposit, refundAndClose, do_eq_ok,
    ensureSigned_eq_ok] at h
  obtain ⟨who, rfl, asset, hget, hretired, p, hp, hst, w, hpay, rfl⟩ := h
  exact ⟨rfl, .single (.closed hget hp (.claimed rfl hretired hst) hpay)⟩

theorem revokeParticipation_moves
    (h : revokeParticipation s o id pid = .ok s') :
    Moved (.call g o (.revokeParticipation id pid)) s s' := by
  simp only [revokeParticipation, ensureOrigin, refundAndClose, do_eq_ok] at h
  obtain ⟨hadmin, asset, hget, p, hp, _, hlive, w, hpay, rfl⟩ := h
  exact ⟨rfl, .single (.closed hget hp
    (.revoked rfl hadmin (ensureLive_eq_ok hlive)) hpay)⟩

theorem slashParticipation_moves {amount : Nat}
    {reporter : Option R.AccountId}
    (h : slashParticipation g s o id pid amount reporter = .ok s') :
    Moved (.call g o (.slashParticipation id pid amount reporter)) s s' := by
  simp only [slashParticipation, ensureOrigin, refundAndClose, do_eq_ok] at h
  obtain ⟨hadmin, asset, hget, p, hp, ⟨s₁, p₁, settled⟩, hinner, hfalse,
    hguard, hactive, hle, w₁, hslash, w, hpay, rfl⟩ := h
  rcases trySettleExpiryInner_cases hinner with
    ⟨_, hlapsed, _, rfl⟩ | ⟨rfl, _⟩
  · exact ⟨rfl, .single (.slashed rfl hadmin hguard hget hp
      ⟨hactive, hlapsed⟩ hle hslash hpay)⟩
  · cases hfalse

/-- Renewing the settled record renews an active participation or reopens an
expired one. -/
theorem renewSettled_cases {who : R.AccountId}
    (h : renewSettled s id pid asset who = .ok s') :
    ∃ p, (s.participations id).get pid = some p ∧ p.payer = who ∧
      s'.now = s.now ∧
      ((p.status.isActive = true ∧
        checkEligible s.world id p.holders.toList = .ok () ∧
        ∃ w, doTransfer s.world asset.policy.depositCurrency p.payer
            asset.beneficiary asset.policy.entryFee = .ok w ∧
          s'.toBooks = { s.toBooks with
            world := w
            participations := s.participations.insert id pid
              { p with status := asset.policy.term s.now } }) ∨
      (p.status = .expired ∧
        (∀ h ∈ p.holders.toList, (s.holderIndex id).get h = none) ∧
        (∀ h ∈ p.holders.toList,
          (s.holderAssets h).toList.length < R.maxParticipationsPerHolder) ∧
        ∃ w₁ w, doTransfer s.world asset.policy.depositCurrency p.payer
            R.palletAccount asset.policy.deposit = .ok w₁ ∧
          checkEligible w₁ id p.holders.toList = .ok () ∧
          doTransfer w₁ asset.policy.depositCurrency p.payer
            asset.beneficiary asset.policy.entryFee = .ok w ∧
          s'.toBooks = ({ s.toBooks with
            world := w
            participations := s.participations.insert id pid
              { p with
                depositHeld := asset.policy.deposit
                status := asset.policy.term s.now }
            : Books R }.addAllHolderIndexes id pid
              p.holders.toList).incParticipantCount id)) := by
  simp only [renewSettled, do_eq_ok] at h
  obtain ⟨p, hp, rfl, ⟨s₁, p₁⟩, hcase, _, heligible, w, hpay, rfl⟩ := h
  refine ⟨p, hp, rfl, ?_⟩
  split at hcase
  · next hst =>
      cases hcase
      exact ⟨rfl, .inl ⟨by simp [hst, ParticipationStatus.isActive], heligible,
        w, hpay, rfl⟩⟩
  · next hst =>
      simp only [reopen, do_eq_ok, Prod.mk.injEq] at hcase
      obtain ⟨w₁, hdeposit, hindex, hroom, rfl, rfl⟩ := hcase
      exact ⟨rfl, .inr ⟨hst, hindex, hroom, w₁, w, hdeposit, heligible, hpay,
        rfl⟩⟩
  · cases hcase

theorem renewParticipation_moves
    (h : renewParticipation s o id pid = .ok s') :
    Moved (.call g o (.renewParticipation id pid)) s s' := by
  simp only [renewParticipation, do_eq_ok, ensureSigned_eq_ok] at h
  obtain ⟨who, rfl, asset, hget, hst, p, hp, rfl, ⟨s₁, p₁, settled⟩, hsettle,
    h⟩ := h
  obtain ⟨p₂, hp₂, hpayer, hnow₂, hrenew⟩ := renewSettled_cases h
  rcases trySettleExpiry_cases hsettle with
    ⟨rfl, hlapsed, rfl, rfl⟩ | ⟨rfl, hlapsed, hnow, w, hpay, hbooks⟩
  · refine ⟨hnow₂, .single ?_⟩
    cases hp₂.symm.trans hp
    rcases hrenew with ⟨hactive, heligible, w, hfee, hbooks⟩ |
      ⟨hexpired, hindex, hroom, w₁, w, hdeposit, heligible, hfee, hbooks⟩
    · rw [hbooks]
      exact .renewed rfl hget hst hp ⟨hactive, hlapsed⟩ heligible hfee
    · rw [hbooks]
      exact .reopened rfl hget hst hp hexpired hdeposit hindex hroom heligible
        hfee
  · -- the settled record is an expired one, so it is reopened
    have hclosed : Move (.call g (.signed p.payer)
        (.renewParticipation id pid)) s.now s.toBooks s₁.toBooks := by
      rw [hbooks]
      exact .closed hget hp (.expired (.inr (.inl rfl)) hlapsed) hpay
    have hstored : (s₁.participations id).get pid =
        some { p with status := .expired, depositHeld := 0 } := by
      rw [hbooks]
      simp [Books.closed, Books.removeAllHolderIndexes,
        Books.decParticipantCount]
    have hget₁ : s₁.rwaAssets.get id =
        some { asset with participantCount := asset.participantCount - 1 } := by
      rw [hbooks]
      simp [Books.closed, Books.removeAllHolderIndexes,
        Books.decParticipantCount, StorageMap.get_modify_self, hget]
    have hp₂eq := Option.some.inj (hp₂.symm.trans hstored)
    refine ⟨hnow₂.trans hnow, .tail (.single hclosed) ?_⟩
    rcases hrenew with ⟨hactive, _⟩ |
      ⟨hexpired, hindex, hroom, w₁, w, hdeposit, heligible, hfee, hbooks'⟩
    · rw [hp₂eq] at hactive
      cases hactive
    · have hmove : Move (.call g (.signed p.payer)
          (.renewParticipation id pid)) s₁.now s₁.toBooks _ :=
        .reopened (by rw [hpayer]) hget₁ hst hp₂ hexpired hdeposit hindex hroom
          heligible hfee
      rw [hbooks', ← hnow]
      exact hmove

theorem addHolder_moves (h : addHolder s o id pid holder = .ok s') :
    Moved (.call g o (.addHolder id pid holder)) s s' := by
  simp only [addHolder, do_eq_ok, ensureSigned_eq_ok] at h
  obtain ⟨who, rfl, asset, hget, p, hp, rfl, _, hlive, hnew, hindex, hroom,
    heligible, holders, hpush, rfl⟩ := h
  exact ⟨rfl, .single (.holderAdded rfl hget hp (ensureLive_eq_ok hlive) hnew
    hindex hroom heligible hpush)⟩

private theorem dropHolder_moves {a : Action R} {who : R.AccountId}
    {event : Event R} (h : dropHolder s id pid p asset holder event = .ok s')
    (ha : (a = .call g (.signed who) (.removeHolder id pid holder) ∧ p.payer =
      who) ∨ (a = .call g (.signed who) (.leaveParticipation id pid) ∧ holder =
      who)) (hget : s.rwaAssets.get id = some asset)
    (hp : (s.participations id).get pid = some p) (hrun : p.Running s.now)
    (hholder : holder ∈ p.holders.toList) : Moved a s s' := by
  unfold dropHolder at h
  dsimp only at h
  split at h
  · next hlast =>
      simp only [refundAndClose, do_eq_ok] at h
      obtain ⟨w, hpay, rfl⟩ := h
      exact ⟨rfl, .single (.leftLast ha hget hp hrun hholder hlast hpay)⟩
  · next hrest =>
      rw [pure_eq_ok] at h
      subst h
      exact ⟨rfl, .single (.holderDropped ha hget hp hrun hholder hrest)⟩

theorem removeHolder_moves (h : removeHolder s o id pid holder = .ok s') :
    Moved (.call g o (.removeHolder id pid holder)) s s' := by
  simp only [removeHolder, do_eq_ok, ensureSigned_eq_ok] at h
  obtain ⟨who, rfl, asset, hget, p, hp, hpayer, _, hlive, hholder, h⟩ := h
  exact dropHolder_moves h (.inl ⟨rfl, hpayer⟩) hget hp
    (ensureLive_eq_ok hlive) hholder

theorem leaveParticipation_moves
    (h : leaveParticipation s o id pid = .ok s') :
    Moved (.call g o (.leaveParticipation id pid)) s s' := by
  simp only [leaveParticipation, do_eq_ok, ensureSigned_eq_ok] at h
  obtain ⟨who, rfl, asset, hget, p, hp, hholder, _, hlive, h⟩ := h
  exact dropHolder_moves h (.inr ⟨rfl, rfl⟩) hget hp (ensureLive_eq_ok hlive)
    hholder

theorem setSlashDistribution_moves
    {dist : BoundedVec (SlashRecipient R) R.maxSlashRecipients}
    (h : setSlashDistribution s o id dist = .ok s') :
    Moved (.call g o (.setSlashDistribution id dist)) s s' := by
  simp only [setSlashDistribution, do_eq_ok] at h
  obtain ⟨_, _, hsum, rfl⟩ := h
  exact ⟨rfl, .single (.slashDistributionSet rfl hsum)⟩

theorem transferOwnership_moves {newOwner : R.AccountId}
    (h : transferOwnership s o id newOwner = .ok s') :
    Moved (.call g o (.transferOwnership id newOwner)) s s' := by
  simp only [transferOwnership, do_eq_ok, ensureSigned_eq_ok] at h
  obtain ⟨who, rfl, asset, hget, rfl, hst, hne, rfl⟩ := h
  exact ⟨rfl, .single (.ownerProposed rfl hget hst hne)⟩

theorem acceptOwnership_moves (h : acceptOwnership s o id = .ok s') :
    Moved (.call g o (.acceptOwnership id)) s s' := by
  simp only [acceptOwnership, do_eq_ok, ensureSigned_eq_ok] at h
  obtain ⟨who, rfl, pending, hpending, rfl, asset, hget, hst, hroom, w,
    hreserve, rfl⟩ := h
  exact ⟨rfl, .single (.ownerAccepted rfl hpending hget hst hroom hreserve)⟩

theorem cancelOwnershipTransfer_moves
    (h : cancelOwnershipTransfer s o id = .ok s') :
    Moved (.call g o (.cancelOwnershipTransfer id)) s s' := by
  simp only [cancelOwnershipTransfer, do_eq_ok, ensureSigned_eq_ok] at h
  obtain ⟨who, rfl, asset, hget, rfl, _, rfl⟩ := h
  exact ⟨rfl, .single (.ownerCancelled rfl hget)⟩

theorem updateBeneficiary_moves {beneficiary : R.AccountId}
    (h : updateBeneficiary s o id beneficiary = .ok s') :
    Moved (.call g o (.updateBeneficiary id beneficiary)) s s' := by
  simp only [updateBeneficiary, do_eq_ok] at h
  obtain ⟨_, _, asset, hget, hst, rfl⟩ := h
  exact ⟨rfl, .single (.beneficiarySet rfl hget hst)⟩

theorem updateMetadata_moves {metadata : List UInt8}
    (h : updateMetadata s o id metadata = .ok s') :
    Moved (.call g o (.updateMetadata id metadata)) s s' := by
  simp only [updateMetadata, do_eq_ok] at h
  obtain ⟨_, _, boundedMeta, _, asset, hget, hst, rfl⟩ := h
  exact ⟨rfl, .single (.metadataSet rfl hget hst)⟩

theorem transferParticipation_moves {newPayer : R.AccountId}
    (h : transferParticipation s o id pid newPayer = .ok s') :
    Moved (.call g o (.transferParticipation id pid newPayer)) s s' := by
  simp only [transferParticipation, do_eq_ok, ensureSigned_eq_ok] at h
  obtain ⟨who, rfl, asset, hget, hst, p, hp, rfl, hne, _, hlive, rfl⟩ := h
  exact ⟨rfl, .single (.payerChanged rfl hget hst hp (ensureLive_eq_ok hlive)
    hne)⟩

variable {currency : PaymentCurrency R.AssetId}

/-- A round of the batch loop refunds one request or keeps it; the asset's
currency and the queue stay as they are. -/
private theorem rejectPending_moves (now : Nat) (t : BatchState R) (pid : Nat)
    (hasset : ∃ asset, t.books.rwaAssets.get id = some asset ∧
      asset.policy.depositCurrency = currency) :
    Moves (.call g o (.batchRejectPending id)) now t.books
        (rejectPending id currency t pid).books ∧
      (rejectPending id currency t pid).books.pendingApprovals =
        t.books.pendingApprovals ∧
      (∃ asset, (rejectPending id currency t pid).books.rwaAssets.get id =
        some asset ∧ asset.policy.depositCurrency = currency) ∧
      ((rejectPending id currency t pid).retained = t.retained ∨
        (rejectPending id currency t pid).retained = t.retained ++ [pid]) := by
  obtain ⟨asset, hget, hcurrency⟩ := hasset
  unfold rejectPending
  split
  · exact ⟨.refl, rfl, ⟨asset, hget, hcurrency⟩, .inl rfl⟩
  · next p hp =>
      split
      · exact ⟨.refl, rfl, ⟨asset, hget, hcurrency⟩, .inr rfl⟩
      · next hpending =>
          split
          · next w hpay =>
              refine ⟨.single (.rejected (.inr rfl) hget hp
                (by simpa using hpending) (by rwa [hcurrency])), rfl,
                ⟨{ asset with
                    participantCount := asset.participantCount - 1 }, ?_,
                  hcurrency⟩, .inl rfl⟩
              simp [Books.withoutPending, Books.removeAllHolderIndexes,
                Books.decParticipantCount, StorageMap.get_modify_self, hget]
          · exact ⟨.refl, rfl, ⟨asset, hget, hcurrency⟩, .inr rfl⟩

private theorem foldl_rejectPending_moves (now : Nat) (pids : List Nat) :
    ∀ t : BatchState R,
    (∃ asset, t.books.rwaAssets.get id = some asset ∧
      asset.policy.depositCurrency = currency) →
    Moves (.call g o (.batchRejectPending id)) now t.books
        (pids.foldl (rejectPending id currency) t).books ∧
      (pids.foldl (rejectPending id currency) t).books.pendingApprovals =
        t.books.pendingApprovals ∧
      ∃ kept, kept.Sublist pids ∧
        (pids.foldl (rejectPending id currency) t).retained =
          t.retained ++ kept := by
  induction pids with
  | nil => exact fun t _ => ⟨.refl, rfl, [], .slnil, by simp⟩
  | cons pid pids ih =>
      intro t hasset
      obtain ⟨hmoves, hqueue, hasset₁, hretained⟩ :=
        rejectPending_moves (g := g) (o := o) now t pid hasset
      obtain ⟨hmoves₁, hqueue₁, kept, hsub, hkept⟩ := ih _ hasset₁
      refine ⟨hmoves.trans hmoves₁, hqueue₁.trans hqueue, ?_⟩
      rw [List.foldl_cons, hkept]
      rcases hretained with heq | heq
      · exact ⟨kept, hsub.cons _, by rw [heq]⟩
      · exact ⟨pid :: kept, hsub.cons_cons _, by rw [heq]; simp⟩

theorem batchRejectPending_moves (h : batchRejectPending s o id = .ok s') :
    Moved (.call g o (.batchRejectPending id)) s s' := by
  simp only [batchRejectPending, do_eq_ok] at h
  obtain ⟨_, _, asset, hget, queue, hqueue, rfl⟩ := h
  obtain ⟨hmoves, hpending, kept, hsub, hkept⟩ :=
    foldl_rejectPending_moves (g := g) (o := o) s.now _ ⟨s.toBooks, 0, []⟩
      ⟨asset, hget, rfl⟩
  refine ⟨rfl, hmoves.tail (.requeued (.inr rfl) ?_)⟩
  rw [BoundedVec.toList_of_tryFrom hqueue, hkept, hpending]
  exact hsub

end Dispatchables

/-- The blocks that pass with an action. -/
def Action.elapsed : Action R → Nat
  | .nextBlock => 1
  | .outside _ => 0
  | .call _ _ _ => 0

theorem dispatch_moves {s' : State R} {g : LifecycleGuard}
    {o : Origin R.AccountId} {call : Call R} (h : dispatch g s o call = .ok s')
    : Moved (.call g o call) s s' := by
  cases call with
  | registerAsset => exact registerAsset_moves h
  | updateAssetPolicy => exact updateAssetPolicy_moves h
  | deactivateAsset => exact deactivateAsset_moves h
  | reactivateAsset => exact reactivateAsset_moves h
  | sunsetAsset => exact sunsetAsset_moves h
  | forceRetireAsset => exact forceRetireAsset_moves h
  | retireAsset => exact retireAsset_moves h
  | requestParticipation =>
      obtain ⟨hnow, hmove⟩ := requestParticipation_move h
      exact ⟨hnow, .single hmove⟩
  | approveParticipation => exact approveParticipation_moves h
  | rejectParticipation => exact rejectParticipation_moves h
  | exitParticipation => exact exitParticipation_moves h
  | renewParticipation => exact renewParticipation_moves h
  | settleExpiredParticipation => exact settleExpiredParticipation_moves h
  | claimRetiredDeposit => exact claimRetiredDeposit_moves h
  | addHolder => exact addHolder_moves h
  | removeHolder => exact removeHolder_moves h
  | leaveParticipation => exact leaveParticipation_moves h
  | setSlashDistribution => exact setSlashDistribution_moves h
  | slashParticipation => exact slashParticipation_moves h
  | revokeParticipation => exact revokeParticipation_moves h
  | transferOwnership => exact transferOwnership_moves h
  | acceptOwnership => exact acceptOwnership_moves h
  | cancelOwnershipTransfer => exact cancelOwnershipTransfer_moves h
  | updateBeneficiary => exact updateBeneficiary_moves h
  | updateMetadata => exact updateMetadata_moves h
  | transferParticipation => exact transferParticipation_moves h
  | pauseAsset => exact pauseAsset_moves h
  | unpauseAsset => exact unpauseAsset_moves h
  | batchRejectPending => exact batchRejectPending_moves h

/-- Every accepted step is a sequence of moves. -/
theorem step_moves {s' : State R} {a : Action R} (h : step s a = .ok s') :
    s'.now = s.now + a.elapsed ∧ Moves a s'.now s.toBooks s'.toBooks := by
  cases a with
  | call =>
      obtain ⟨hnow, hmoves⟩ := dispatch_moves h
      exact ⟨hnow, hnow ▸ hmoves⟩
  | nextBlock =>
      cases h
      refine ⟨nextBlock_now s, ?_⟩
      rw [nextBlock_toBooks, nextBlock_now]
      exact .single (.initialized rfl)
  | outside =>
      cases h
      exact ⟨rfl, .single (.outside rfl)⟩

/-- The rule for one step: what each of its moves preserves, it preserves. -/
theorem step_induct {J : Books R → Prop} {s' : State R} {a : Action R}
    (h : step s a = .ok s') (hmove : ∀ b b', Move a s'.now b b' → J b → J b')
    (h0 : J s.toBooks) :
    J s'.toBooks := by
  obtain ⟨-, hmoves⟩ := step_moves h
  generalize s'.toBooks = b' at hmoves
  induction hmoves with
  | refl => exact h0
  | tail _ hlast ih => exact hmove _ _ hlast ih

/-- The invariant rule for the books: what holds at genesis and is preserved by
every move of an admitted step holds in every reachable state. -/
theorem books_invariant {ok : State R → Action R → Prop} {I : Books R → Prop}
    (h0 : ∀ world, I (Store.genesis R world).toBooks)
    (hmove : ∀ s a, Reachable ok s → ok s a → ∀ now b b',
      Move a now b b' → I b → I b') (h : Reachable ok s) : I s.toBooks := by
  refine Transition.Reach.invariant (I := fun s : State R => I s.toBooks)
    ?_ ?_ h
  · rintro s ⟨world, now, rfl⟩
    exact h0 world
  · intro s a s' hs hI hok hstep
    exact step_induct hstep (hmove s a hs hok _) hI

end Thxnet.Rwa
