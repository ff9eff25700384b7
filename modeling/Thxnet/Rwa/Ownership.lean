import Thxnet.Frame.Reserves
import Thxnet.Lib.Listing
import Thxnet.Rwa.Payout

/-!
# Registration deposits and ownership

Whoever owns an asset that is not retired has its registration deposit
reserved.  `Books.pledge b id` is the owner and the deposit of such an asset;
`Custody` says that each owner's list names exactly the assets pledged by that
owner, and that an offered asset is pledged by somebody else than the account
it is offered to.  What an account has reserved is what it had reserved before
the pallet was used and the sum of its pledges.

Pledges are made by registration and by taking an asset over, and released by
handing it over and by the three ways to retirement.
-/

namespace Thxnet.Rwa

open Thxnet.Lib Thxnet.Frame

variable {R : Config}

/-! ## Pledges -/

/-- Who has reserved how much for the asset: its owner, unless it is
retired. -/
def AssetInfo.pledge (asset : AssetInfo R) : Option (R.AccountId × Nat) :=
  if asset.status = .retired then none
  else some (asset.owner, asset.registrationDeposit)

/-- The pledge for the asset under an id. -/
def Books.pledge (b : Books R) (id : Nat) : Option (R.AccountId × Nat) :=
  (b.rwaAssets.get id).bind AssetInfo.pledge

/-- What an account has to have reserved for an asset. -/
def AssetInfo.pledgedBy (o : R.AccountId) (asset : AssetInfo R) : Nat :=
  if asset.owner = o ∧ asset.status ≠ .retired then asset.registrationDeposit
  else 0

/-- The sum of the registration deposits of the assets of an account that are
not retired. -/
def Books.pledged (b : Books R) (o : R.AccountId) : Nat :=
  b.rwaAssets.sum (AssetInfo.pledgedBy o)

/-- Owners' lists and offers are right. -/
structure Custody (b : Books R) : Prop where
  nodup : ∀ o, (b.ownerAssets o).toList.Nodup
  listed : ∀ o id, id ∈ (b.ownerAssets o).toList ↔
    ∃ d, b.pledge id = some (o, d)
  offered : ∀ id who, b.pendingOwnershipTransfer.get id = some who →
    ∃ o d, b.pledge id = some (o, d) ∧ o ≠ who

variable {b : Books R} {asset : AssetInfo R} {a : Action R} {now : Nat}
  {ok : State R → Action R → Prop}

theorem pledge_of_get {id : Nat} (h : b.rwaAssets.get id = some asset) :
    b.pledge id = asset.pledge := by
  simp [Books.pledge, h]

theorem pledge_of_owned (h : asset.status ≠ .retired) :
    asset.pledge = some (asset.owner, asset.registrationDeposit) :=
  if_neg h

theorem pledge_eq_some {id : Nat} {o : R.AccountId} {d : Nat} :
    b.pledge id = some (o, d) ↔ ∃ asset, b.rwaAssets.get id = some asset ∧
      asset.owner = o ∧ asset.status ≠ .retired ∧
      asset.registrationDeposit = d := by
  unfold Books.pledge
  cases hget : b.rwaAssets.get id with
  | none => simp
  | some asset =>
      by_cases hst : asset.status = .retired <;>
        simp [AssetInfo.pledge, hst]

/-! ## Money that leaves reservations alone -/

/-- Only payments have happened. -/
inductive Payments : R.World → R.World → Prop where
  | refl (w : R.World) : Payments w w
  | transfer {w w' : R.World} {source dest : R.AccountId} {amount : Nat}
      {req : ExistenceRequirement}
      (h : R.nativeCurrency.transfer w source dest amount req = .ok w') :
      Payments w w'
  | withdraw {w w' : R.World} {who : R.AccountId} {amount : Nat}
      {reasons : WithdrawReasons} {req : ExistenceRequirement}
      (h : R.nativeCurrency.withdraw w who amount reasons req = .ok w') :
      Payments w w'
  | assetTransfer {w w' : R.World} {id : R.AssetId}
      {source dest : R.AccountId} {amount : Nat} {preservation : Preservation}
      (h : R.fungibles.transfer w id source dest amount preservation = .ok w') :
      Payments w w'
  | assetBurn {w w' : R.World} {id : R.AssetId} {who : R.AccountId}
      {amount : Nat} {preservation : Preservation} {precision : Precision}
      {fortitude : Fortitude}
      (h : R.fungibles.burnFrom w id who amount preservation precision
        fortitude = .ok w') : Payments w w'
  | trans {w w₁ w₂ : R.World} (h : Payments w w₁) (h' : Payments w₁ w₂) :
      Payments w w₂

section Payments

variable {w w' : R.World} {currency : PaymentCurrency R.AssetId}
  {source dest who : R.AccountId} {amount : Nat}

private theorem payments_rule : LedgerRule R.nativeCurrency.toCurrency
    R.fungibles (fun _ _ _ _ => Payments) (fun _ _ _ => Payments) where
  moved_zero := fun _ _ _ => .refl
  burned_zero := fun _ _ => .refl
  native_transfer := .transfer
  native_withdraw := .withdraw
  asset_transfer := .assetTransfer
  asset_burn := .assetBurn

theorem payRequest_payments (h : payRequest w who asset = .ok w') :
    Payments w w' := by
  unfold payRequest at h
  dsimp only at h
  split at h
  · exact payments_rule.transfer h
  · obtain ⟨w₁, h₁, h₂⟩ := bind_eq_ok.mp h
    exact .trans (payments_rule.transfer h₁) (payments_rule.transfer h₂)

variable {reporter : Option R.AccountId}

theorem distributeSlash_payments {beneficiary : R.AccountId}
    {total distributed : Nat} {rest : List (SlashRecipient R)}
    (h : distributeSlash currency beneficiary reporter total w distributed
      rest = .ok w') : Payments w w' := by
  induction rest generalizing w distributed with
  | nil =>
      cases h
      exact .refl _
  | cons r rest ih =>
      unfold distributeSlash at h
      dsimp only at h
      split at h
      · exact ih h
      · obtain ⟨w₁, hpay, h⟩ := bind_eq_ok.mp h
        refine .trans ?_ (ih h)
        unfold paySlash at hpay
        split at hpay
        · exact payments_rule.transfer hpay
        · exact payments_rule.transfer hpay
        · exact payments_rule.transfer hpay
        · exact payments_rule.burn hpay

theorem doDistributeSlash_payments {total id : Nat} {beneficiary : R.AccountId}
    (h : doDistributeSlash b currency total id beneficiary reporter = .ok w') :
    Payments b.world w' := by
  unfold doDistributeSlash at h
  split at h
  · split at h
    · exact payments_rule.transfer h
    · exact distributeSlash_payments h
  · exact payments_rule.transfer h

end Payments

/-! ## What happens to pledges -/

/-- An asset is pledged for the first time. -/
structure Pledged (b b' : Books R) (id : Nat) (o : R.AccountId) (d : Nat) :
    Prop where
  self : b'.pledge id = some (o, d)
  ne : ∀ i, i ≠ id → b'.pledge i = b.pledge i
  reserve : R.nativeCurrency.reserve b.world o d = .ok b'.world
  room : (b.ownerAssets o).toList.length < R.maxAssetsPerOwner
  lists : b'.ownerAssets =
    Function.update b.ownerAssets o ((b.ownerAssets o).push id)
  offers : b'.pendingOwnershipTransfer = b.pendingOwnershipTransfer

/-- The deposit of an asset is released. -/
structure Released (b b' : Books R) (id : Nat) (o : R.AccountId) (d : Nat) :
    Prop where
  held : b.pledge id = some (o, d)
  self : b'.pledge id = none
  ne : ∀ i, i ≠ id → b'.pledge i = b.pledge i
  unreserve : b'.world = R.nativeCurrency.unreserve b.world o d
  lists : b'.ownerAssets =
    Function.update b.ownerAssets o ((b.ownerAssets o).removeFirst id)
  offers : b'.pendingOwnershipTransfer = b.pendingOwnershipTransfer.remove id

/-- The steps that reserve or release registration deposits. -/
def Action.movesDeposits : Action R → Bool
  | .call _ _ (.registerAsset _ _ _) => true
  | .call _ _ (.acceptOwnership _) => true
  | .call _ _ (.forceRetireAsset _) => true
  | .call _ _ (.retireAsset _) => true
  | .nextBlock => true
  | _ => false

/-- What can happen to pledges, owners' lists and offers.  An asset that changes
hands is released by one owner and pledged by the next. -/
inductive PledgeChange (a : Action R) (now : Nat) (b b' : Books R) : Prop where
  | kept (hworld : a = .outside b'.world ∨ Payments b.world b'.world)
      (hpledge : ∀ i, b'.pledge i = b.pledge i)
      (hlists : b'.ownerAssets = b.ownerAssets)
      (hoffers : ∀ i who, b'.pendingOwnershipTransfer.get i = some who →
        b.pendingOwnershipTransfer.get i = some who ∨
        ∃ o d, b.pledge i = some (o, d) ∧ o ≠ who)
  | pledged {o : R.AccountId} {d : Nat} (ha : a.movesDeposits = true)
      (h : Pledged b b' b.nextRwaAssetId o d)
  | released {id : Nat} {o : R.AccountId} {d : Nat}
      (ha : a.movesDeposits = true) (h : Released b b' id o d)
  | handed {b₁ : Books R} {id : Nat} {o who : R.AccountId} {d : Nat}
      (ha : a.movesDeposits = true) (h₁ : Released b b₁ id o d)
      (h₂ : Pledged b₁ b' id who d)
  | initialized (ha : a = .nextBlock) (hb : b' = b.initialized now)

section Pledge

variable {b b' : Books R} {id : Nat} {asset asset' : AssetInfo R}

private theorem pledge_insert_self
    (h : b'.rwaAssets = b.rwaAssets.insert id asset') :
    b'.pledge id = asset'.pledge := by
  simp [Books.pledge, h]

private theorem pledge_insert_ne
    (h : b'.rwaAssets = b.rwaAssets.insert id asset') (i : Nat) (hi : i ≠ id) :
    b'.pledge i = b.pledge i := by
  simp [Books.pledge, h, hi]

private theorem pledge_insert (hget : b.rwaAssets.get id = some asset)
    (h : b'.rwaAssets = b.rwaAssets.insert id asset')
    (hpledge : asset'.pledge = asset.pledge) (i : Nat) :
    b'.pledge i = b.pledge i := by
  by_cases hi : i = id
  · subst hi
    rw [pledge_insert_self h, hpledge, pledge_of_get hget]
  · exact pledge_insert_ne h i hi

private theorem pledge_modify {f : AssetInfo R → AssetInfo R}
    (hget : b.rwaAssets.get id = some asset)
    (h : b'.rwaAssets = b.rwaAssets.modify id f)
    (hpledge : (f asset).pledge = asset.pledge) (i : Nat) :
    b'.pledge i = b.pledge i := by
  rw [StorageMap.modify_of_some hget] at h
  exact pledge_insert hget h hpledge i

private theorem pledge_status {st : AssetStatus}
    (hold : asset.status ≠ .retired) (hnew : st ≠ .retired) :
    ({ asset with status := st } : AssetInfo R).pledge = asset.pledge := by
  rw [pledge_of_owned hold, pledge_of_owned hnew]

private theorem StatusMove.not_retired {a : Action R} {st : AssetStatus}
    (h : StatusMove a id asset st) :
    asset.status ≠ .retired ∧ st ≠ .retired := by
  cases h with
  | deactivated _ hst | reactivated _ hst => simp [hst]
  | paused _ _ hst => rcases hst with hst | hst <;> simp [hst]
  | unpaused _ _ hst => simp [hst]

theorem released_markRetired (hget : b.rwaAssets.get id = some asset)
    (hst : asset.status ≠ .retired) :
    Released b (b.markRetired id asset) id asset.owner
      asset.registrationDeposit where
  held := by rw [pledge_of_get hget, pledge_of_owned hst]
  self := by
    rw [pledge_insert_self (show _ = b.rwaAssets.insert id
      { asset with status := .retired } from rfl)]
    exact if_pos rfl
  ne := pledge_insert_ne rfl
  unreserve := rfl
  lists := rfl
  offers := rfl

private theorem dropSchedule_same (b : Books R) (id : Nat)
    (asset : AssetInfo R) :
    (b.dropSchedule id asset).rwaAssets = b.rwaAssets ∧
      (b.dropSchedule id asset).world = b.world ∧
      (b.dropSchedule id asset).ownerAssets = b.ownerAssets ∧
      (b.dropSchedule id asset).pendingOwnershipTransfer =
        b.pendingOwnershipTransfer := by
  unfold Books.dropSchedule
  split <;> exact ⟨rfl, rfl, rfl, rfl⟩

end Pledge

theorem Move.pledgeChange {b' : Books R} (h : Move a now b b') :
    PledgeChange a now b b' := by
  cases h with
  | outside ha => exact .kept (.inl ha) (fun _ => rfl) rfl fun _ _ h => .inl h
  | initialized ha => exact .initialized ha rfl
  | registered ha hroom _ hreserve =>
      exact .pledged (ha ▸ rfl)
        ⟨(pledge_insert_self rfl).trans (if_neg (by simp)),
          pledge_insert_ne rfl, hreserve, hroom, rfl, rfl⟩
  | policyUpdated _ hget | beneficiarySet _ hget | metadataSet _ hget =>
      exact .kept (.inr (.refl _)) (pledge_insert hget rfl rfl) rfl
        fun _ _ h => .inl h
  | statusSet hget hmove =>
      obtain ⟨hold, hnew⟩ := hmove.not_retired
      exact .kept (.inr (.refl _))
        (pledge_insert hget rfl (pledge_status hold hnew)) rfl
        fun _ _ h => .inl h
  | @sunset g id expiryBlock asset _ hget hst =>
      have hold : asset.status ≠ .retired := by
        rcases hst with hst | hst <;> simp [hst]
      exact .kept (.inr (.refl _))
        (pledge_insert hget rfl (pledge_status hold (by simp))) rfl
        fun _ _ h => .inl h
  | @retired g o id asset ha hget hst =>
      have hmoves : a.movesDeposits = true := by
        rcases ha with ⟨rfl, _⟩ | ⟨rfl, _⟩ <;> rfl
      obtain ⟨hassets, hworld, hlists, hoffers⟩ := dropSchedule_same b id asset
      have hrel := released_markRetired (b := b.dropSchedule id asset)
        (hassets ▸ hget) hst
      refine .released (o := asset.owner) (d := asset.registrationDeposit)
        hmoves ⟨?_, hrel.self, fun i hi => ?_, ?_, ?_, ?_⟩
      · rw [pledge_of_get hget, pledge_of_owned hst]
      · rw [hrel.ne i hi]
        unfold Books.pledge
        rw [hassets]
      · rw [hrel.unreserve, hworld]
      · rw [hrel.lists, hlists]
      · rw [hrel.offers, hoffers]
  | requested _ hget _ _ _ _ _ _ _ hpay =>
      exact .kept (.inr (payRequest_payments hpay))
        (pledge_modify hget rfl rfl) rfl fun _ _ h => .inl h
  | approved _ _ _ _ _ hpay =>
      exact .kept (.inr (payments_rule.transfer hpay)) (fun _ => rfl) rfl
        fun _ _ h => .inl h
  | rejected _ hget _ _ hpay =>
      exact .kept (.inr (payments_rule.transfer hpay))
        (pledge_modify hget rfl rfl) rfl fun _ _ h => .inl h
  | requeued | holderAdded | holderDropped | slashDistributionSet
  | payerChanged =>
      exact .kept (.inr (.refl _)) (fun _ => rfl) rfl fun _ _ h => .inl h
  | closed hget _ _ hpay =>
      exact .kept (.inr (payments_rule.transfer hpay))
        (pledge_modify hget rfl rfl) rfl fun _ _ h => .inl h
  | leftLast _ hget _ _ _ _ hpay =>
      exact .kept (.inr (payments_rule.transfer hpay))
        (pledge_modify hget rfl rfl) rfl fun _ _ h => .inl h
  | slashed _ _ _ hget _ _ _ hslash hpay =>
      exact .kept (.inr (.trans (doDistributeSlash_payments hslash)
        (payments_rule.transfer hpay))) (pledge_modify hget rfl rfl) rfl
        fun _ _ h => .inl h
  | renewed _ _ _ _ _ _ hpay =>
      exact .kept (.inr (payments_rule.transfer hpay)) (fun _ => rfl) rfl
        fun _ _ h => .inl h
  | reopened _ hget _ _ _ hdeposit _ _ _ hpay =>
      exact .kept (.inr (.trans (payments_rule.transfer hdeposit)
        (payments_rule.transfer hpay))) (pledge_modify hget rfl rfl) rfl
        fun _ _ h => .inl h
  | @ownerProposed g id asset newOwner _ hget hst hne =>
      refine .kept (.inr (.refl _)) (fun _ => rfl) rfl fun i who hi => ?_
      by_cases hid : i = id
      · subst hid
        have hwho : newOwner = who := by simpa using hi
        refine .inr ⟨asset.owner, asset.registrationDeposit, ?_,
          hwho ▸ hne.symm⟩
        rw [pledge_of_get hget, pledge_of_owned hst]
      · exact .inl (by simpa [hid] using hi)
  | @ownerAccepted g who id asset w ha hpending hget hst hroom hreserve =>
      have hold : asset.status ≠ .retired := fun h => hst (.inl h)
      have hrel := released_markRetired hget hold
      refine .handed (ha ▸ rfl) hrel
        ⟨?_, fun i hi => ?_, hreserve, ?_, rfl, rfl⟩
      · rw [pledge_insert_self rfl]
        exact if_neg hold
      · rw [hrel.ne i hi]
        exact pledge_insert_ne rfl i hi
      · refine Nat.lt_of_le_of_lt ?_ hroom
        rw [hrel.lists, Function.update_apply]
        split
        case isTrue h =>
          rw [h, BoundedVec.toList_removeFirst]
          exact List.length_erase_le
        case isFalse => exact Nat.le_refl _
  | @ownerCancelled g id =>
      refine .kept (.inr (.refl _)) (fun _ => rfl) rfl fun i who hi => .inl ?_
      by_cases hid : i = id
      · subst hid
        simp at hi
      · simpa [hid] using hi

/-! ## Lists and offers -/

section Custody

variable {b b' : Books R} {id d : Nat} {o who : R.AccountId}

private theorem Custody.kept (h : Custody b)
    (hpledge : ∀ i, b'.pledge i = b.pledge i)
    (hlists : b'.ownerAssets = b.ownerAssets)
    (hoffers : ∀ i who, b'.pendingOwnershipTransfer.get i = some who →
      b.pendingOwnershipTransfer.get i = some who ∨
      ∃ o d, b.pledge i = some (o, d) ∧ o ≠ who) : Custody b' where
  nodup := fun x => by rw [hlists]; exact h.nodup x
  listed := fun x i => by rw [hlists, hpledge]; exact h.listed x i
  offered := by
    intro i w hi
    rw [hpledge]
    rcases hoffers i w hi with hi | hi
    · exact h.offered i w hi
    · exact hi

private theorem Custody.lists (h : Custody b) :
    Lists (fun o => (b.ownerAssets o).toList)
      (fun i => (b.pledge i).map Prod.fst) :=
  ⟨h.nodup, fun o i => by rw [h.listed]; simp⟩

private theorem custody_of_lists
    (h : Lists (fun o => (b.ownerAssets o).toList)
      (fun i => (b.pledge i).map Prod.fst))
    (hoffered : ∀ id who, b.pendingOwnershipTransfer.get id = some who →
      ∃ o d, b.pledge id = some (o, d) ∧ o ≠ who) : Custody b :=
  ⟨h.nodup, fun o i => by rw [h.mem]; simp, hoffered⟩

private theorem Custody.pledged (h : Custody b) (hnone : b.pledge id = none)
    (hp : Pledged b b' id o d) : Custody b' := by
  refine custody_of_lists (h.lists.move (v := id)
    (fun i hi => by rw [hp.ne i hi]) fun x => ?_) fun i w hi => ?_
  · rw [h.lists.erase_eq (by simp [hnone]), hp.self, hp.lists]
    by_cases hx : x = o
    · simp [hx, BoundedVec.toList_push hp.room]
    · simp [Function.update_of_ne hx, Ne.symm hx]
  · rw [hp.offers] at hi
    obtain ⟨x, dx, hx, hne⟩ := h.offered i w hi
    refine ⟨x, dx, ?_, hne⟩
    rw [hp.ne i]
    · exact hx
    · rintro rfl
      rw [hnone] at hx
      cases hx

private theorem Custody.released (h : Custody b)
    (hr : Released b b' id o d) : Custody b' := by
  refine custody_of_lists (h.lists.move (v := id)
    (fun i hi => by rw [hr.ne i hi]) fun x => ?_) fun i w hi => ?_
  · rw [hr.self, hr.lists]
    by_cases hx : x = o
    · simp [hx, BoundedVec.toList_removeFirst]
    · rw [h.lists.erase_eq (by simp [hr.held, Ne.symm hx])]
      simp [Function.update_of_ne hx]
  · rw [hr.offers] at hi
    by_cases hid : i = id
    · subst hid
      simp at hi
    · rw [StorageMap.get_remove_ne _ hid] at hi
      rw [hr.ne i hid]
      exact h.offered i w hi

private theorem Custody.initialized (h : Custody b) (n : Nat) :
    Custody (b.initialized n) := by
  refine Books.initialized_induct (I := Custody) ?_ ?_
  · exact h.kept (fun _ => rfl) rfl fun _ _ hi => .inl hi
  · intro b₁ i asset _ hb₁ hget hst
    exact hb₁.released (released_markRetired hget hst)

/-- Nothing is pledged under an id that has not been given out. -/
theorem Sound.pledge_next (hs : Sound b) : b.pledge b.nextRwaAssetId = none := by
  have hnone := hs.assets b.nextRwaAssetId (Nat.le_refl _)
  simp only [Books.terms, Option.map_eq_none_iff] at hnone
  simp [Books.pledge, hnone]

theorem Custody.change (h : Custody b) (hs : Sound b)
    (hc : PledgeChange a now b b') : Custody b' := by
  cases hc with
  | kept _ hpledge hlists hoffers => exact h.kept hpledge hlists hoffers
  | pledged _ hp => exact h.pledged hs.pledge_next hp
  | released _ hr => exact h.released hr
  | handed _ hr hp => exact (h.released hr).pledged hr.self hp
  | initialized _ hb => exact hb ▸ h.initialized now

end Custody

/-! ## Reserves -/

/-- A ledger whose native side keeps what is set aside, also through payments
in assets. -/
structure ReserveLedger (R : Config) extends Reserves R.nativeCurrency where
  assetTransfer : ∀ {w w' id source dest amount preservation}, InOrder w →
    R.fungibles.transfer w id source dest amount preservation = .ok w' →
    InOrder w' ∧ ∀ x, reserved w' x = reserved w x
  assetBurn : ∀ {w w' id who amount preservation precision fortitude},
    InOrder w →
    R.fungibles.burnFrom w id who amount preservation precision fortitude =
      .ok w' →
    InOrder w' ∧ ∀ x, reserved w' x = reserved w x

/-- The steps in which no other pallet touches the reservations. -/
def SparesReserves (L : ReserveLedger R) (s : State R) : Action R → Prop
  | .outside w => L.InOrder w ∧
      ∀ x, L.reserved w x = L.reserved s.world x
  | _ => True

/-- Beyond what was set aside before, each account has set aside what it has
pledged. -/
def Covers (L : ReserveLedger R) (base : R.AccountId → Nat) (b : Books R) :
    Prop :=
  L.InOrder b.world ∧ ∀ o, L.reserved b.world o = base o + b.pledged o

section Reserves

variable {L : ReserveLedger R} {base : R.AccountId → Nat} {b b' : Books R}
  {id d : Nat} {o who : R.AccountId}

theorem Payments.reserved {w w' : R.World} (h : Payments w w')
    (hw : L.InOrder w) :
    L.InOrder w' ∧ ∀ x, L.reserved w' x = L.reserved w x := by
  induction h with
  | refl => exact ⟨hw, fun _ => rfl⟩
  | transfer h => exact L.transfer hw h
  | withdraw h => exact L.withdraw hw h
  | assetTransfer h => exact L.assetTransfer hw h
  | assetBurn h => exact L.assetBurn hw h
  | trans _ _ ih ih' =>
      obtain ⟨hw₁, hsame⟩ := ih hw
      obtain ⟨hw₂, hsame'⟩ := ih' hw₁
      exact ⟨hw₂, fun x => (hsame' x).trans (hsame x)⟩

/-- What a pledge that may not exist says about an account. -/
private def pledgeTo (o : R.AccountId) :
    Option (R.AccountId × Nat) → Nat
  | some (x, d) => if o = x then d else 0
  | none => 0

private theorem getD_pledgedBy (b : Books R) (o : R.AccountId) (id : Nat) :
    ((b.rwaAssets.get id).map (AssetInfo.pledgedBy o)).getD 0 =
      pledgeTo o (b.pledge id) := by
  unfold Books.pledge
  cases b.rwaAssets.get id with
  | none => rfl
  | some asset =>
      by_cases hst : asset.status = .retired
      · simp [AssetInfo.pledgedBy, AssetInfo.pledge, pledgeTo, hst]
      · simp [AssetInfo.pledgedBy, AssetInfo.pledge, pledgeTo, hst,
          eq_comm (a := o)]

private theorem pledged_congr (h : ∀ i, b'.pledge i = b.pledge i)
    (o : R.AccountId) : b'.pledged o = b.pledged o := by
  refine StorageMap.total_congr
    (f := fun _ => AssetInfo.pledgedBy o)
    (g := fun _ => AssetInfo.pledgedBy o) fun i => ?_
  rw [getD_pledgedBy, getD_pledgedBy, h]

private theorem pledged_of_agree
    (h : ∀ i, i ≠ id → b'.pledge i = b.pledge i) (o : R.AccountId) :
    b'.pledged o + pledgeTo o (b.pledge id) =
      b.pledged o + pledgeTo o (b'.pledge id) := by
  rw [← getD_pledgedBy, ← getD_pledgedBy]
  refine StorageMap.total_of_agree
    (f := fun _ => AssetInfo.pledgedBy o)
    (g := fun _ => AssetInfo.pledgedBy o) fun i hi => ?_
  rw [getD_pledgedBy, getD_pledgedBy, h i hi]

private theorem Covers.pledged (h : Covers L base b)
    (hnone : b.pledge id = none) (hp : Pledged b b' id o d) :
    Covers L base b' := by
  obtain ⟨hw, hres⟩ := L.reserve h.1 hp.reserve
  refine ⟨hw, fun x => ?_⟩
  have hagree := pledged_of_agree hp.ne x
  rw [hnone, hp.self] at hagree
  simp only [pledgeTo] at hagree
  rw [hres, h.2]
  omega

private theorem Covers.released (h : Covers L base b)
    (hr : Released b b' id o d) : Covers L base b' := by
  obtain ⟨hw, hres⟩ := L.unreserve o d h.1
  rw [← hr.unreserve] at hw hres
  refine ⟨hw, fun x => ?_⟩
  have hagree := pledged_of_agree hr.ne x
  rw [hr.held, hr.self] at hagree
  simp only [pledgeTo] at hagree
  rw [hres, h.2]
  omega

private theorem Covers.initialized (h : Covers L base b) (n : Nat) :
    Covers L base (b.initialized n) := by
  refine Books.initialized_induct (I := Covers L base) ?_ ?_
  · exact h
  · intro b₁ i asset _ hb₁ hget hst
    exact hb₁.released (released_markRetired hget hst)

theorem Covers.change (h : Covers L base b) (hs : Sound b)
    (hc : PledgeChange a now b b') (hout : ∀ w, a = .outside w → L.InOrder w ∧
      ∀ x, L.reserved w x = L.reserved b.world x) : Covers L base b' := by
  cases hc with
  | kept hworld hpledge =>
      have hsame : L.InOrder b'.world ∧
          ∀ x, L.reserved b'.world x = L.reserved b.world x := by
        rcases hworld with ha | hpay
        · exact hout _ ha
        · exact hpay.reserved h.1
      refine ⟨hsame.1, fun x => ?_⟩
      rw [hsame.2, h.2, pledged_congr hpledge]
  | pledged _ hp => exact h.pledged hs.pledge_next hp
  | released _ hr => exact h.released hr
  | handed _ hr hp => exact (h.released hr).pledged hr.self hp
  | initialized _ hb => exact hb ▸ h.initialized now

/-- What a step does that spares the reservations of others. -/
theorem Covers.step {s s' : State R} (h : Covers L base s.toBooks)
    (hs : Sound s.toBooks) (hok : SparesReserves L s a)
    (hstep : step s a = .ok s') :
    Covers L base s'.toBooks := by
  cases a with
  | outside =>
      cases hstep
      obtain ⟨hw, hsame⟩ := hok
      exact ⟨hw, fun x => (hsame x).trans (h.2 x)⟩
  | call | nextBlock =>
      exact (step_induct (J := fun b => Sound b ∧ Covers L base b) hstep
        (fun _ _ hmove hb => ⟨hb.1.change hmove.change,
          hb.2.change hb.1 hmove.pledgeChange fun w ha => by cases ha⟩)
        ⟨hs, h⟩).2

end Reserves

theorem custody_of_reachable {s : State R} (h : Reachable ok s) :
    Custody s.toBooks := by
  have hboth : Sound s.toBooks ∧ Custody s.toBooks := by
    refine books_invariant (I := fun b => Sound b ∧ Custody b) ?_ ?_ h
    · intro world
      refine ⟨Sound.genesis world, fun _ => List.nodup_nil, fun o id => ?_,
        fun id who hnone => by cases hnone⟩
      refine iff_of_false (fun hmem => by cases hmem) ?_
      rintro ⟨d, hd⟩
      cases hd
    · rintro s a _ _ now b b' hmove ⟨hs, hb⟩
      exact ⟨hs.change hmove.change, hb.change hs hmove.pledgeChange⟩
  exact hboth.2

/-! ## Each deposit once -/

/-- Whether a step reserves a deposit for the asset: its registration, and its
acceptance by a new owner. -/
def takesDeposit (id : Nat) (s : State R) : Action R → Bool
  | .call _ _ (.registerAsset _ _ _) => s.nextRwaAssetId = id
  | .call _ _ (.acceptOwnership i) => i = id
  | _ => false

/-- Whether a step unreserves the deposit of the asset: its acceptance by a new
owner, either of the calls that retire it, and the hook of a block for which it
is scheduled, if it is not retired. -/
def releasesDeposit (id : Nat) (s : State R) : Action R → Bool
  | .call _ _ (.acceptOwnership i) => i = id
  | .call _ _ (.forceRetireAsset i) => i = id
  | .call _ _ (.retireAsset i) => i = id
  | .nextBlock => decide (id ∈ (s.sunsettingAssets (s.now + 1)).toList) &&
      (s.toBooks.pledge id).isSome
  | _ => false

/-- One for an asset with a deposit. -/
def Books.deposits (b : Books R) (id : Nat) : Nat :=
  if (b.pledge id).isSome = true then 1 else 0

section Once

variable {s s' : State R} {a : Action R} {id : Nat} {o : Origin R.AccountId}

/-- One for a step that does. -/
private def once (p : Bool) : Nat := if p = true then 1 else 0

private theorem pledge_kept {b' : Books R} (hquiet : a.movesDeposits = false)
    (h : PledgeChange a now b b') :
    b'.pledge id = b.pledge id := by
  cases h with
  | kept _ hpledge => exact hpledge id
  | pledged ha | released ha | handed ha => exact absurd ha (by simp [hquiet])
  | initialized ha => subst ha; cases hquiet

private theorem deposits_kept (hquiet : a.movesDeposits = false)
    (h : step s a = .ok s') :
    s'.toBooks.deposits id = s.toBooks.deposits id := by
  have hkept : s'.toBooks.pledge id = s.toBooks.pledge id :=
    step_induct (J := fun b => b.pledge id = s.toBooks.pledge id) h
      (fun _ _ hmove hb => (pledge_kept hquiet hmove.pledgeChange).trans hb) rfl
  unfold Books.deposits
  rw [hkept]

private theorem deposits_of_pledge {p : R.AccountId × Nat}
    (h : b.pledge id = some p) : b.deposits id = 1 := by
  simp [Books.deposits, h]

private theorem deposits_of_none (h : b.pledge id = none) :
    b.deposits id = 0 := by
  simp [Books.deposits, h]

private theorem deposits_of_eq {b' : Books R} (h : b'.pledge id = b.pledge id) :
    b'.deposits id = b.deposits id := by
  simp [Books.deposits, h]

private theorem deposits_register {beneficiary : R.AccountId}
    {policy : AssetPolicy R} {metadata : List UInt8} (hs : Sound s.toBooks)
    (h : registerAsset s o beneficiary policy metadata = .ok s') :
    s'.toBooks.deposits id = s.toBooks.deposits id +
      once (s.nextRwaAssetId = id) := by
  simp only [registerAsset, do_eq_ok, ensureSigned_eq_ok] at h
  obtain ⟨owner, rfl, boundedMeta, _, _, _, w, _, _, rfl⟩ := h
  by_cases hid : s.nextRwaAssetId = id
  · subst hid
    rw [deposits_of_none hs.pledge_next, deposits_of_pledge
      ((pledge_insert_self rfl).trans (if_neg (by simp)))]
    simp [once]
  · rw [deposits_of_eq (pledge_insert_ne rfl id (Ne.symm hid))]
    simp [once, hid]

private theorem deposits_accept {i : Nat} (h : acceptOwnership s o i = .ok s') :
    s'.toBooks.deposits id = s.toBooks.deposits id := by
  simp only [acceptOwnership, do_eq_ok, ensureSigned_eq_ok] at h
  obtain ⟨who, rfl, pending, _, rfl, asset, hget, hst, _, w, _, rfl⟩ := h
  have hold : asset.status ≠ .retired := fun h => hst (.inl h)
  by_cases hid : id = i
  · subst hid
    rw [deposits_of_pledge ((pledge_of_get hget).trans (pledge_of_owned hold)),
      deposits_of_pledge ((pledge_insert_self rfl).trans
        (pledge_of_owned
          (show { asset with owner := pending }.status ≠ .retired from hold)))]
  · exact deposits_of_eq (pledge_insert_ne rfl id hid)

private theorem deposits_retired {i : Nat} (hb : b.rwaAssets = s.rwaAssets)
    (hget : s.rwaAssets.get i = some asset) (hst : asset.status ≠ .retired) :
    (b.markRetired i asset).deposits id + once (i = id) =
      s.toBooks.deposits id := by
  have hrel := released_markRetired (b := b) (hb ▸ hget) hst
  by_cases hid : i = id
  · subst hid
    rw [deposits_of_none hrel.self,
      deposits_of_pledge ((pledge_of_get hget).trans (pledge_of_owned hst))]
    simp [once]
  · have hsame : b.pledge id = s.toBooks.pledge id := by
      unfold Books.pledge
      rw [hb]
    rw [deposits_of_eq ((hrel.ne id (Ne.symm hid)).trans hsame)]
    simp [once, hid]

private theorem pledge_retireOne (b : Books R) (i : Nat) :
    (b.retireOne i).pledge id = if id = i then none else b.pledge id := by
  unfold Books.retireOne
  cases hget : b.rwaAssets.get i with
  | none =>
      by_cases hid : id = i
      · simp [hid, Books.pledge, hget]
      · simp [hid]
  | some asset =>
      by_cases hst : asset.status = .retired
      · by_cases hid : id = i
        · simp [hid, hst, Books.pledge, hget, AssetInfo.pledge]
        · simp [hid, hst]
      · have hrel := released_markRetired hget hst
        by_cases hid : id = i
        · simp [hid, hst, hrel.self]
        · simp [hid, hst, hrel.ne id hid]

private theorem pledge_foldl_retireOne (ids : List Nat) (b : Books R) :
    (ids.foldl Books.retireOne b).pledge id =
      if id ∈ ids then none else b.pledge id := by
  induction ids generalizing b with
  | nil => simp
  | cons i ids ih =>
      rw [List.foldl_cons, ih, pledge_retireOne]
      by_cases hi : id = i <;> by_cases hmem : id ∈ ids <;> simp [hi, hmem]

/-- The hook releases the deposits of the scheduled assets. -/
private theorem deposits_initialized (b : Books R) (n : Nat) :
    (b.initialized n).deposits id +
      once (decide (id ∈ (b.sunsettingAssets n).toList) &&
        (b.pledge id).isSome) = b.deposits id := by
  have hpledge : (b.initialized n).pledge id =
      if id ∈ (b.sunsettingAssets n).toList then none else b.pledge id :=
    pledge_foldl_retireOne _ _
  unfold Books.deposits
  rw [hpledge]
  by_cases hmem : id ∈ (b.sunsettingAssets n).toList
  · cases b.pledge id <;> simp [hmem, once]
  · simp [hmem, once]

theorem deposits_step (hs : Reachable ok s) (h : step s a = .ok s') :
    s'.toBooks.deposits id + once (releasesDeposit id s a) =
      s.toBooks.deposits id + once (takesDeposit id s a) := by
  cases a with
  | outside => rw [deposits_kept rfl h]; rfl
  | nextBlock =>
      cases h
      rw [nextBlock_toBooks]
      exact deposits_initialized s.toBooks (s.now + 1)
  | call g o call =>
      cases call with
      | registerAsset =>
          rw [deposits_register (sound_of_reachable hs) h]
          rfl
      | acceptOwnership =>
          rw [deposits_accept h]
          rfl
      | forceRetireAsset i =>
          simp only [step, dispatch, forceRetireAsset, do_eq_ok] at h
          obtain ⟨_, _, asset, hget, hst, _, rfl⟩ := h
          exact deposits_retired (dropSchedule_same s.toBooks i asset).1 hget
            hst
      | retireAsset i =>
          simp only [step, dispatch, retireAsset, do_eq_ok] at h
          obtain ⟨_, _, asset, hget, expiry, hexpiry, _, rfl⟩ := h
          have hst : asset.status ≠ .retired := by
            simp [sunsetExpiry_eq_ok hexpiry]
          exact deposits_retired (b := s.toBooks.unscheduled i expiry) rfl hget
            hst
      | _ =>
          rw [deposits_kept rfl h]
          rfl

/-- Along an execution, every deposit taken has been released or is the one
the asset has now. -/
theorem deposits_run {s₀ : State R} {t : List (State R × Action R)}
    (h0 : Genesis s₀) (hrun : Transition.Run step s₀ t s) (id : Nat) :
    t.countP (fun p => takesDeposit id p.1 p.2) =
      t.countP (fun p => releasesDeposit id p.1 p.2) +
        s.toBooks.deposits id := by
  -- the history is the pair of the two counts
  let f := fun (n : Nat × Nat) (p : State R × Action R) =>
    (n.1 + once (takesDeposit id p.1 p.2),
      n.2 + once (releasesDeposit id p.1 p.2))
  have hfold : ∀ (t : List (State R × Action R)) (n : Nat × Nat),
      t.foldl f n = (n.1 + t.countP (fun p => takesDeposit id p.1 p.2),
        n.2 + t.countP (fun p => releasesDeposit id p.1 p.2)) := by
    intro t
    induction t with
    | nil => exact fun _ => rfl
    | cons p t ih =>
        intro n
        rw [List.foldl_cons, ih, List.countP_cons, List.countP_cons]
        simp only [f, once, Prod.mk.injEq]
        omega
  have hend := Transition.Run.history (A := fun _ _ => True)
    (J := fun s n => Reachable (fun _ _ => True) s ∧
      n.1 = n.2 + s.toBooks.deposits id) (f := f) (b := (0, 0)) ?_ hrun
    (fun _ _ => trivial) ?_
  · rw [hfold] at hend
    simpa using hend.2
  · rintro s a s' n - ⟨hs, hn⟩ hstep
    refine ⟨.step hs trivial hstep, ?_⟩
    have hcount : s'.toBooks.deposits id + once (releasesDeposit id s a) =
        s.toBooks.deposits id + once (takesDeposit id s a) :=
      deposits_step hs hstep
    simp only [f]
    omega
  · refine ⟨.init h0, ?_⟩
    obtain ⟨world, now, rfl⟩ := h0
    rfl

end Once

/-! ## Deposits follow ownership -/

/-- In every state of a run in which no other pallet touches the reservations:
the list of an owner names, each once, exactly the assets of that owner that
are not retired; what an account has reserved is what it had reserved at the
start and the sum of the registration deposits of those assets; for each asset,
every deposit reserved has been released once or is the one its present owner
has reserved, and a retired asset has none; and an asset is offered only while
it is not retired, and not to its owner. -/
theorem deposits_follow_ownership (L : ReserveLedger R) {s₀ s : State R}
    {t : List (State R × Action R)} (h0 : Genesis s₀)
    (horder : L.InOrder s₀.world) (hrun : Transition.Run step s₀ t s)
    (hok : ∀ p ∈ t, SparesReserves L p.1 p.2) :
    (∀ o, (s.ownerAssets o).toList.Nodup ∧
      ∀ id, id ∈ (s.ownerAssets o).toList ↔
        ∃ asset, s.rwaAssets.get id = some asset ∧ asset.owner = o ∧
          asset.status ≠ .retired) ∧
    (∀ o, L.reserved s.world o = L.reserved s₀.world o +
      s.rwaAssets.sum fun asset =>
        if asset.owner = o ∧ asset.status ≠ .retired
        then asset.registrationDeposit else 0) ∧
    (∀ id, t.countP (fun p => takesDeposit id p.1 p.2) =
      t.countP (fun p => releasesDeposit id p.1 p.2) +
        if (s.rwaAssets.get id).any (fun asset =>
          asset.status ≠ .retired) = true then 1 else 0) ∧
    (∀ id who, s.pendingOwnershipTransfer.get id = some who →
      ∃ asset, s.rwaAssets.get id = some asset ∧ asset.status ≠ .retired ∧
        asset.owner ≠ who) := by
  have hreach : Reachable (fun _ _ => True) s :=
    Transition.Reach.run (.init h0) hrun fun _ _ => trivial
  have hcustody := custody_of_reachable hreach
  have hcovers : Covers L (L.reserved s₀.world) s.toBooks := by
    refine (Transition.Run.keeps (A := SparesReserves L)
      (I := fun s => Reachable (fun _ _ => True) s ∧
        Covers L (L.reserved s₀.world) s.toBooks) ?_ hrun hok ?_).2
    · rintro s a s' hok ⟨hs, hb⟩ hstep
      exact ⟨.step hs trivial hstep,
        hb.step (sound_of_reachable hs) hok hstep⟩
    · refine ⟨.init h0, horder, fun o => ?_⟩
      obtain ⟨world, now, rfl⟩ := h0
      exact (Nat.add_zero _).symm
  refine ⟨fun o => ⟨hcustody.nodup o, fun id => ?_⟩, hcovers.2, fun id => ?_,
    fun id who hoffer => ?_⟩
  · rw [hcustody.listed]
    constructor
    · rintro ⟨d, hd⟩
      obtain ⟨asset, hget, howner, hst, _⟩ := pledge_eq_some.mp hd
      exact ⟨asset, hget, howner, hst⟩
    · rintro ⟨asset, hget, howner, hst⟩
      exact ⟨_, pledge_eq_some.mpr ⟨asset, hget, howner, hst, rfl⟩⟩
  · rw [deposits_run h0 hrun id]
    unfold Books.deposits Books.pledge
    cases s.rwaAssets.get id with
    | none => rfl
    | some asset =>
        by_cases hst : asset.status = .retired <;>
          simp [AssetInfo.pledge, hst]
  · obtain ⟨o, d, hpledge, hne⟩ := hcustody.offered id who hoffer
    obtain ⟨asset, hget, rfl, hst, _⟩ := pledge_eq_some.mp hpledge
    exact ⟨asset, hget, hst, hne⟩

/-! ### The balances and the assets pallet -/

/-- The runtime pays, burns and reserves through the two pallets. -/
structure PalletBacked (R : Config) extends LedgerBacked R where
  native_withdraw : ∀ w who amount reasons req,
    R.nativeCurrency.withdraw w who amount reasons req =
      ((get w).balances.withdraw rules.toBalancesConfig who amount reasons
        req).map fun x => put w { get w with balances := x }
  native_reserve : ∀ w who amount,
    R.nativeCurrency.reserve w who amount =
      ((get w).balances.reserve rules.toBalancesConfig who amount).map
        fun x => put w { get w with balances := x }
  native_unreserve : ∀ w who amount,
    R.nativeCurrency.unreserve w who amount = put w { get w with
      balances := (get w).balances.unreserve rules.toBalancesConfig who
        amount }
  asset_burn : ∀ w id who amount preservation precision fortitude,
    R.fungibles.burnFrom w id who amount preservation precision fortitude =
      ((get w).burnFrom rules id who amount preservation precision).map (put w)

/-- Both pallets leave the deposits reserved. -/
def PalletBacked.reserves (L : PalletBacked R) : ReserveLedger R where
  toReserves := BalancesBacked.reserves
    { rules := L.rules.toBalancesConfig
      get := fun w => (L.get w).balances
      put := fun w x => L.put w { L.get w with balances := x }
      get_put := fun w x => by rw [L.get_put]
      transfer := L.native_transfer
      withdraw := L.native_withdraw
      reserve := L.native_reserve
      unreserve := L.native_unreserve }
  assetTransfer := by
    intro w w' id source dest amount preservation hw hok
    rw [L.asset_transfer] at hok
    have hx := ok_of_map_put L.get_put hok
    have hleaves := Ledger.transfer_rule Balances.leaves_rule hx hw
    exact ⟨hleaves.anchored, hleaves.reserved⟩
  assetBurn := by
    intro w w' id who amount preservation precision fortitude hw hok
    rw [L.asset_burn] at hok
    have hx := ok_of_map_put L.get_put hok
    have hleaves := Ledger.burnFrom_rule Balances.leaves_rule hx hw
    exact ⟨hleaves.anchored, hleaves.reserved⟩

/-! ### A concrete run

Over a till, account 1 registers two assets and hands the first to account 2;
the second is force retired.
-/

/-- A till is both pallets. -/
def tillPallets : PalletBacked till where
  toLedgerBacked := tillBacked
  native_withdraw := fun _ _ _ _ _ => rfl
  native_reserve := fun _ _ _ => rfl
  native_unreserve := fun _ _ _ => rfl
  asset_burn := fun _ _ _ _ _ _ _ => (congrFun Except.map_id _).symm

private theorem tillEndowed_anchored : tillEndowed.balances.Anchored :=
  Balances.anchored_of_keys (by decide +kernel)

/-- Account 1 registers an asset over a till. -/
def tillRegistered : Action till :=
  .call .unguarded (.signed 1) (.registerAsset 9
    { depositCurrency := .native
      entryFee := 0
      deposit := 50
      maxDuration := none
      maxParticipants := none
      requiresApproval := false } [])

/-- The requests of the run. -/
def handedOver : List (Action till) :=
  [tillRegistered, tillRegistered,
    .call .unguarded (.signed 1) (.transferOwnership 0 2),
    .call .unguarded (.signed 2) (.acceptOwnership 0),
    .call .unguarded .root (.forceRetireAsset 1), .nextBlock]

/-- The deposit of the first asset is account 2's by then, and nothing of
account 1 is reserved any more. -/
theorem deposits_follow_ownership_handed :
    (∀ o, tillPallets.reserves.reserved (tillAfter handedOver).world o =
      tillPallets.reserves.reserved tillGenesis.world o +
        (tillAfter handedOver).rwaAssets.sum fun asset =>
          if asset.owner = o ∧ asset.status ≠ .retired
          then asset.registrationDeposit else 0) ∧
    tillPallets.reserves.reserved (tillAfter handedOver).world 2 = 100 ∧
    tillPallets.reserves.reserved (tillAfter handedOver).world 1 = 0 := by
  have hexec : Transition.exec step tillGenesis handedOver =
      .ok (tillAfter handedOver) := Transition.exec_final (by decide +kernel)
  have h0 : Genesis tillGenesis := ⟨_, _, rfl⟩
  have horder : tillPallets.reserves.InOrder tillGenesis.world :=
    tillEndowed_anchored
  refine ⟨(deposits_follow_ownership tillPallets.reserves h0 horder
    (Transition.run_of_exec hexec) ?_).2.1,
    by decide +kernel, by decide +kernel⟩
  intro p hp
  have hmem := Transition.mem_of_mem_trace hp
  unfold SparesReserves
  split
  · next w ha =>
      rw [ha] at hmem
      simp [handedOver, tillRegistered] at hmem
  · trivial

end Thxnet.Rwa
