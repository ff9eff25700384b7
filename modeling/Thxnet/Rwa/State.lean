import Thxnet.Frame.PerThing
import Thxnet.Lib.StorageMap
import Thxnet.Rwa.Types

/-!
# Storage and helper functions of the RWA pallet

`Books` holds the pallet's storage items together with the foreign storage the
money is in; `Store` adds the deposited events, and `State` the block number a
call reads.  Items with a default (`ValueQuery`) that no function iterates over
are total functions.

The helpers follow the end of `lib.rs`.  Those that only write storage are
functions on `Books`.
-/

namespace Thxnet.Rwa

open Thxnet.Lib Thxnet.Frame

/-- The storage items. -/
structure Books (R : Config) where
  world : R.World
  rwaAssets : StorageMap Nat (AssetInfo R)
  nextRwaAssetId : Nat
  participations : StorageDoubleMap Nat Nat (Participation R)
  nextParticipationId : Nat → Nat
  holderIndex : StorageDoubleMap Nat R.AccountId Nat
  pendingApprovals : Nat → BoundedVec Nat R.maxPendingApprovals
  assetSlashDistribution :
    StorageMap Nat (BoundedVec (SlashRecipient R) R.maxSlashRecipients)
  sunsettingAssets : Nat → BoundedVec Nat R.maxSunsettingPerBlock
  ownerAssets : R.AccountId → BoundedVec Nat R.maxAssetsPerOwner
  holderAssets : R.AccountId → BoundedVec Nat R.maxParticipationsPerHolder
  pendingOwnershipTransfer : StorageMap Nat R.AccountId

/-- The storage with the events. -/
structure Store (R : Config) extends Books R where
  events : List (Event R)

/-- The whole state a call reads and writes. -/
structure State (R : Config) extends Store R where
  now : Nat

/-- The storage before the pallet has been used. -/
def Store.genesis (R : Config) (world : R.World) : Store R where
  world := world
  rwaAssets := .empty
  nextRwaAssetId := 0
  participations := fun _ => .empty
  nextParticipationId := fun _ => 0
  holderIndex := fun _ => .empty
  pendingApprovals := fun _ => .empty
  assetSlashDistribution := .empty
  sunsettingAssets := fun _ => .empty
  ownerAssets := fun _ => .empty
  holderAssets := fun _ => .empty
  pendingOwnershipTransfer := .empty
  events := []

variable {R : Config}

/-- The state with other books. -/
def State.put (s : State R) (b : Books R) : State R :=
  ⟨⟨b, s.events⟩, s.now⟩

/-- Append an event. -/
def State.depositEvent (s : State R) (e : Event R) : State R :=
  ⟨⟨s.toBooks, s.events ++ [e]⟩, s.now⟩

@[simp] theorem State.put_toBooks (s : State R) (b : Books R) :
    (s.put b).toBooks = b := rfl

/-! ## Moving money -/

/-- `do_transfer`. -/
def doTransfer (w : R.World) (currency : PaymentCurrency R.AssetId)
    (source dest : R.AccountId) (amount : Nat) :
    Except DispatchError R.World :=
  transferWith R.nativeCurrency.toCurrency R.fungibles .keepAlive w currency
    .preserve source dest amount

/-- `do_burn`. -/
def doBurn (w : R.World) (currency : PaymentCurrency R.AssetId)
    (who : R.AccountId) (amount : Nat) : Except DispatchError R.World :=
  burnWith R.nativeCurrency.toCurrency R.fungibles .keepAlive w currency
    .transfer who amount

/-! ## Indexes -/

/-- `remove_from_owner_assets`. -/
def Books.removeFromOwnerAssets (b : Books R) (owner : R.AccountId)
    (id : Nat) : Books R :=
  { b with
    ownerAssets := Function.update b.ownerAssets owner
      ((b.ownerAssets owner).removeFirst id) }

/-- `push_holder_asset`. -/
def pushHolderAsset
    (f : R.AccountId → BoundedVec Nat R.maxParticipationsPerHolder)
    (h : R.AccountId) (id : Nat) :
    R.AccountId → BoundedVec Nat R.maxParticipationsPerHolder :=
  if id ∈ (f h).toList then f else Function.update f h ((f h).push id)

/-- The index entries of one holder of a participation. -/
def Books.addHolderIndex (b : Books R) (id pid : Nat) (h : R.AccountId) :
    Books R :=
  { b with
    holderIndex := b.holderIndex.insert id h pid
    holderAssets := pushHolderAsset b.holderAssets h id }

/-- The same for all holders of a participation. -/
def Books.addAllHolderIndexes (b : Books R) (id pid : Nat)
    (holders : List R.AccountId) : Books R :=
  { b with
    holderIndex := holders.foldl (fun m h => m.insert id h pid) b.holderIndex
    holderAssets :=
      holders.foldl (fun f h => pushHolderAsset f h id) b.holderAssets }

/-- `remove_single_holder_index`. -/
def Books.removeSingleHolderIndex (b : Books R) (id : Nat) (h : R.AccountId) :
    Books R :=
  { b with
    holderIndex := b.holderIndex.remove id h
    holderAssets := Function.update b.holderAssets h
      ((b.holderAssets h).removeFirst id) }

/-- `remove_all_holder_indexes`. -/
def Books.removeAllHolderIndexes (b : Books R) (id : Nat)
    (holders : List R.AccountId) : Books R :=
  { b with
    holderIndex := holders.foldl (fun m h => m.remove id h) b.holderIndex
    holderAssets := holders.foldl
      (fun f h => Function.update f h ((f h).removeFirst id)) b.holderAssets }

/-- `dec_participant_count`. -/
def Books.decParticipantCount (b : Books R) (id : Nat) : Books R :=
  { b with
    rwaAssets := b.rwaAssets.modify id fun a =>
      { a with participantCount := a.participantCount - 1 } }

/-- `inc_participant_count`. -/
def Books.incParticipantCount (b : Books R) (id : Nat) : Books R :=
  { b with
    rwaAssets := b.rwaAssets.modify id fun a =>
      { a with participantCount := saturatingAdd 32 a.participantCount 1 } }

/-! ## Ending a participation -/

/-- What every call that ends a participation writes: the final status, no
deposit held, no index entries, one participant less. -/
def Books.closed (b : Books R) (id pid : Nat) (p : Participation R)
    (status : ParticipationStatus) : Books R :=
  (({ b with
      participations := b.participations.insert id pid
        { p with status := status, depositHeld := 0 }
      : Books R }.removeAllHolderIndexes id p.holders.toList)
    ).decParticipantCount id

/-- Whether a participation is still stored as active but past its term. -/
def Participation.lapsed (p : Participation R) (now : Nat) : Bool :=
  match p.status with
  | .active _ (some expiry) => expiry ≤ now
  | _ => false

/-- `try_settle_expiry_inner`: the state after, the participation after, and
whether it was settled.  The participation is not written. -/
def trySettleExpiryInner (s : State R) (id pid : Nat) (p : Participation R)
    (asset : AssetInfo R) :
    Except DispatchError (State R × Participation R × Bool) :=
  if p.lapsed s.now = true then do
    let deposit := p.depositHeld
    let world ← doTransfer s.world asset.policy.depositCurrency
      R.palletAccount p.payer deposit
    pure ((s.put (({ s.toBooks with world := world }.removeAllHolderIndexes id
        p.holders.toList).decParticipantCount id)).depositEvent
          (.participationExpired id pid deposit),
      { p with status := .expired, depositHeld := 0 }, true)
  else pure (s, p, false)

/-- `try_settle_expiry`: the same, and the participation is written. -/
def trySettleExpiry (s : State R) (id pid : Nat) (p : Participation R)
    (asset : AssetInfo R) :
    Except DispatchError (State R × Participation R × Bool) := do
  let (s₁, p₁, settled) ← trySettleExpiryInner s id pid p asset
  if settled then
    pure (s₁.put { s₁.toBooks with
      participations := s₁.participations.insert id pid p₁ }, p₁, true)
  else pure (s₁, p₁, false)

/-! ## Slashing -/

/-- What one recipient of a slash is paid. -/
def paySlash (w : R.World) (currency : PaymentCurrency R.AssetId)
    (beneficiary : R.AccountId) (reporter : Option R.AccountId)
    (amount : Nat) :
    SlashRecipientKind R.AccountId → Except DispatchError R.World
  | .beneficiary => doTransfer w currency R.palletAccount beneficiary amount
  | .reporter =>
      doTransfer w currency R.palletAccount (reporter.getD beneficiary) amount
  | .account who => doTransfer w currency R.palletAccount who amount
  | .burn => doBurn w currency R.palletAccount amount

/-- What the next recipient gets: its share, or what is left if it is the
last. -/
def shareAmount (total distributed share : Nat) (isLast : Bool) : Nat :=
  if isLast then total - distributed else permill.mul share total

/-- The loop of `do_distribute_slash`. -/
def distributeSlash (currency : PaymentCurrency R.AssetId)
    (beneficiary : R.AccountId) (reporter : Option R.AccountId)
    (total : Nat) : R.World → Nat → List (SlashRecipient R) →
    Except DispatchError R.World
  | w, _, [] => .ok w
  | w, distributed, r :: rest =>
      let amount := shareAmount total distributed r.share rest.isEmpty
      if amount = 0 then
        distributeSlash currency beneficiary reporter total w distributed rest
      else do
        let w' ← paySlash w currency beneficiary reporter amount r.kind
        distributeSlash currency beneficiary reporter total w'
          (saturatingAdd 128 distributed amount) rest

/-- `do_distribute_slash`. -/
def doDistributeSlash (b : Books R) (currency : PaymentCurrency R.AssetId)
    (total id : Nat) (beneficiary : R.AccountId)
    (reporter : Option R.AccountId) : Except DispatchError R.World :=
  match b.assetSlashDistribution.get id with
  | some dist =>
      if dist.toList = [] then
        doTransfer b.world currency R.palletAccount beneficiary total
      else
        distributeSlash currency beneficiary reporter total b.world 0
          dist.toList
  | none => doTransfer b.world currency R.palletAccount beneficiary total

/-! ## Retirement -/

/-- The schedule without one asset. -/
def Books.unscheduled (b : Books R) (id expiryBlock : Nat) : Books R :=
  { b with
    sunsettingAssets := Function.update b.sunsettingAssets expiryBlock
      ((b.sunsettingAssets expiryBlock).removeFirst id) }

/-- What every path to retirement writes: the deposit is released, the asset
leaves its owner's list, proposals, slash shares and pending requests are
dropped. -/
def Books.markRetired (b : Books R) (id : Nat) (asset : AssetInfo R) :
    Books R :=
  { b with
    world := R.nativeCurrency.unreserve b.world asset.owner
      asset.registrationDeposit
    rwaAssets := b.rwaAssets.insert id { asset with status := .retired }
    pendingOwnershipTransfer := b.pendingOwnershipTransfer.remove id
    assetSlashDistribution := b.assetSlashDistribution.remove id
    pendingApprovals := Function.update b.pendingApprovals id .empty
    : Books R }.removeFromOwnerAssets asset.owner id

/-- One round of the loop of `on_initialize`. -/
def retireScheduled (s : State R) (id : Nat) : State R :=
  match s.rwaAssets.get id with
  | none => s
  | some asset =>
      if asset.status = .retired then s
      else
        (s.put (s.toBooks.markRetired id asset)).depositEvent
          (.assetRetired id asset.registrationDeposit)

/-- `on_initialize`. -/
def onInitialize (s : State R) (n : Nat) : State R :=
  (s.sunsettingAssets n).toList.foldl retireScheduled
    (s.put { s.toBooks with
      sunsettingAssets := Function.update s.sunsettingAssets n .empty })

/-! ## Origins -/

/-- `ensure_asset_owner_or_admin`. -/
def ensureAssetOwnerOrAdmin (s : State R) (origin : Origin R.AccountId)
    (id : Nat) : Except DispatchError Unit :=
  if R.adminOrigin origin = true then
    ensure ((s.rwaAssets.get id).isSome = true) (R.err .assetNotFound)
  else do
    let who ← ensureSigned origin
    let asset ← okOr (s.rwaAssets.get id) (R.err .assetNotFound)
    ensure (asset.owner = who) (R.err .notAssetOwner)

end Thxnet.Rwa
