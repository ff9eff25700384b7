import Thxnet.Rwa.Moves

/-!
# The register

What this pallet is for: a register of licenses.  For every asset it keeps the
policy and the number of participants (`Terms`); for every participation the
status and the money held for it (`Entry`).  Owners, schedules, groups and
indexes are not part of it.

`Change a now b b'` lists what can happen to the register, with the payments
that go with it, and `Move.change` shows that every move of the pallet is one
of these changes.  Most moves are not seen by the register at all.
-/

namespace Thxnet.Rwa

open Thxnet.Lib Thxnet.Frame

variable {R : Config}

/-- What the register keeps about an asset. -/
structure Terms (R : Config) where
  policy : AssetPolicy R
  count : Nat

/-- What the register keeps about a participation. -/
structure Entry where
  status : ParticipationStatus
  deposit : Nat
  fee : Nat

/-- The terms of an asset. -/
def AssetInfo.terms (asset : AssetInfo R) : Terms R :=
  ⟨asset.policy, asset.participantCount⟩

/-- The entry of a participation. -/
def Participation.entry (p : Participation R) : Entry :=
  ⟨p.status, p.depositHeld, p.entryFeePaid⟩

/-- The terms registered under an id. -/
def Books.terms (b : Books R) (id : Nat) : Option (Terms R) :=
  (b.rwaAssets.get id).map AssetInfo.terms

/-- The entry registered under a pair of ids. -/
def Books.entry (b : Books R) (id pid : Nat) : Option Entry :=
  ((b.participations id).get pid).map Participation.entry

/-- Whether the status is one of a participant. -/
def ParticipationStatus.isLive (st : ParticipationStatus) : Bool :=
  st.isActive || st = .pendingApproval

theorem Books.terms_of_get {b : Books R} {id : Nat} {asset : AssetInfo R}
    (h : b.rwaAssets.get id = some asset) : b.terms id = some asset.terms := by
  simp [Books.terms, h]

theorem Books.entry_of_get {b : Books R} {id pid : Nat} {p : Participation R}
    (h : (b.participations id).get pid = some p) :
    b.entry id pid = some p.entry := by
  simp [Books.entry, h]

/-! ## Changes -/

/-- Nothing but reservations has happened to the money. -/
inductive Reservations : R.World → R.World → Prop where
  | refl (w : R.World) : Reservations w w
  | reserve {w w' : R.World} {who : R.AccountId} {amount : Nat}
      (h : R.nativeCurrency.reserve w who amount = .ok w') : Reservations w w'
  | unreserve (w : R.World) (who : R.AccountId) (amount : Nat) :
      Reservations w (R.nativeCurrency.unreserve w who amount)
  | trans {w w₁ w₂ : R.World} (h : Reservations w w₁)
      (h' : Reservations w₁ w₂) : Reservations w w₂

/-- The register is as before. -/
structure SameRegister (b b' : Books R) : Prop where
  terms : ∀ id, b'.terms id = b.terms id
  entry : ∀ id pid, b'.entry id pid = b.entry id pid
  nextAsset : b'.nextRwaAssetId = b.nextRwaAssetId
  next : b'.nextParticipationId = b.nextParticipationId

theorem SameRegister.trans {b b₁ b₂ : Books R} (h : SameRegister b b₁)
    (h' : SameRegister b₁ b₂) : SameRegister b b₂ where
  terms := fun id => (h'.terms id).trans (h.terms id)
  entry := fun id pid => (h'.entry id pid).trans (h.entry id pid)
  nextAsset := h'.nextAsset.trans h.nextAsset
  next := h'.next.trans h.next

/-- One pair of ids has new terms and a new entry, and everything else is as
before. -/
structure Updates (b b' : Books R) (id pid : Nat) (terms : Terms R)
    (entry : Option Entry) : Prop where
  terms_self : b'.terms id = some terms
  terms_ne : ∀ i, i ≠ id → b'.terms i = b.terms i
  entry_self : b'.entry id pid = entry
  entry_ne : ∀ i q, ¬ (i = id ∧ q = pid) → b'.entry i q = b.entry i q
  nextAsset : b'.nextRwaAssetId = b.nextRwaAssetId

/-- What can happen to the register. -/
inductive Change (a : Action R) (now : Nat) (b b' : Books R) : Prop where
  | detail (hworld : a = .outside b'.world ∨ Reservations b.world b'.world)
      (hsame : SameRegister b b')
  | registered {g : LifecycleGuard} {o : Origin R.AccountId}
      {beneficiary : R.AccountId} {policy : AssetPolicy R}
      {metadata : List UInt8}
      (ha : a = .call g o (.registerAsset beneficiary policy metadata))
      (hworld : Reservations b.world b'.world)
      (hnew : b'.terms b.nextRwaAssetId = some ⟨policy, 0⟩)
      (hterms : ∀ i, i ≠ b.nextRwaAssetId → b'.terms i = b.terms i)
      (hentry : ∀ i q, b'.entry i q = b.entry i q)
      (hnextAsset : b'.nextRwaAssetId = b.nextRwaAssetId + 1)
      (hnext : b'.nextParticipationId = b.nextParticipationId)
  | policyUpdated {g : LifecycleGuard} {o : Origin R.AccountId} {id : Nat}
      {asset : AssetInfo R} {policy : AssetPolicy R}
      (ha : a = .call g o (.updateAssetPolicy id policy))
      (hget : b.rwaAssets.get id = some asset)
      (hcurrency : asset.policy.depositCurrency = policy.depositCurrency)
      (hdeposit : asset.policy.deposit = policy.deposit)
      (hcap : ∀ most, policy.maxParticipants = some most →
        asset.participantCount ≤ most)
      (hfrozen : 0 < asset.participantCount →
        checkFrozenTerms asset.policy policy = .ok ())
      (hworld : b'.world = b.world)
      (hself : b'.terms id = some ⟨policy, asset.participantCount⟩)
      (hterms : ∀ i, i ≠ id → b'.terms i = b.terms i)
      (hentry : ∀ i q, b'.entry i q = b.entry i q)
      (hnextAsset : b'.nextRwaAssetId = b.nextRwaAssetId)
      (hnext : b'.nextParticipationId = b.nextParticipationId)
  | requested {g : LifecycleGuard} {payer : R.AccountId} {id : Nat}
      {asset : AssetInfo R} {holders : List R.AccountId}
      (ha : a = .call g (.signed payer) (.requestParticipation id holders))
      (hget : b.rwaAssets.get id = some asset)
      (hcap : ∀ most, asset.policy.maxParticipants = some most →
        saturatingAdd 32 asset.participantCount 1 ≤ most)
      (hpay : payRequest b.world payer asset = .ok b'.world)
      (hfits : b.nextParticipationId id + 1 < 2 ^ 32)
      (hup : Updates b b' id (b.nextParticipationId id)
        ⟨asset.policy, saturatingAdd 32 asset.participantCount 1⟩
        (some ⟨if asset.policy.requiresApproval then .pendingApproval
            else asset.policy.term now, asset.policy.deposit,
          asset.policy.entryFee⟩))
      (hnext : b'.nextParticipationId = Function.update b.nextParticipationId id
        (b.nextParticipationId id + 1))
  | approved {id pid : Nat} {asset : AssetInfo R} {p : Participation R}
      (hget : b.rwaAssets.get id = some asset)
      (hp : (b.participations id).get pid = some p)
      (hpending : p.status = .pendingApproval)
      (hpay : doTransfer b.world asset.policy.depositCurrency R.palletAccount
        asset.beneficiary p.entryFeePaid = .ok b'.world)
      (hup : Updates b b' id pid asset.terms
        (some ⟨asset.policy.term now, p.depositHeld, p.entryFeePaid⟩))
      (hnext : b'.nextParticipationId = b.nextParticipationId)
  | rejected {id pid : Nat} {asset : AssetInfo R} {p : Participation R}
      (hget : b.rwaAssets.get id = some asset)
      (hp : (b.participations id).get pid = some p)
      (hpending : p.status = .pendingApproval)
      (hpay : doTransfer b.world asset.policy.depositCurrency R.palletAccount
        p.payer p.pendingTotal = .ok b'.world)
      (hup : Updates b b' id pid
        ⟨asset.policy, asset.participantCount - 1⟩ none)
      (hnext : b'.nextParticipationId = b.nextParticipationId)
  | ended {id pid amount : Nat} {asset : AssetInfo R} {p : Participation R}
      {status : ParticipationStatus}
      (hget : b.rwaAssets.get id = some asset)
      (hp : (b.participations id).get pid = some p)
      (hlive : p.status.isActive = true ∧ amount = p.depositHeld ∨
        p.status.isLive = true ∧ amount = p.retiredRefund)
      (hstatus : status.isLive = false)
      (hexpired : status = .expired → p.lapsed now = true)
      (hpay : doTransfer b.world asset.policy.depositCurrency R.palletAccount
        p.payer amount = .ok b'.world)
      (hup : Updates b b' id pid ⟨asset.policy, asset.participantCount - 1⟩
        (some ⟨status, 0, p.entryFeePaid⟩))
      (hnext : b'.nextParticipationId = b.nextParticipationId)
  | slashed {g : LifecycleGuard} {o : Origin R.AccountId}
      {id pid amount : Nat} {reporter : Option R.AccountId}
      {asset : AssetInfo R} {p : Participation R} {w : R.World}
      (ha : a = .call g o (.slashParticipation id pid amount reporter))
      (hget : b.rwaAssets.get id = some asset)
      (hp : (b.participations id).get pid = some p)
      (hactive : p.status.isActive = true) (hle : amount ≤ p.depositHeld)
      (hslash : doDistributeSlash b asset.policy.depositCurrency amount id
        asset.beneficiary reporter = .ok w)
      (hpay : doTransfer w asset.policy.depositCurrency R.palletAccount
        p.payer (p.depositHeld - amount) = .ok b'.world)
      (hup : Updates b b' id pid ⟨asset.policy, asset.participantCount - 1⟩
        (some ⟨.slashed, 0, p.entryFeePaid⟩))
      (hnext : b'.nextParticipationId = b.nextParticipationId)
  | renewed {id pid : Nat} {asset : AssetInfo R} {p : Participation R}
      (hget : b.rwaAssets.get id = some asset)
      (hp : (b.participations id).get pid = some p) (hrun : p.Running now)
      (hpay : doTransfer b.world asset.policy.depositCurrency p.payer
        asset.beneficiary asset.policy.entryFee = .ok b'.world)
      (hup : Updates b b' id pid asset.terms
        (some ⟨asset.policy.term now, p.depositHeld, p.entryFeePaid⟩))
      (hnext : b'.nextParticipationId = b.nextParticipationId)
  | reopened {g : LifecycleGuard} {id pid : Nat} {asset : AssetInfo R}
      {p : Participation R} {w : R.World}
      (ha : a = .call g (.signed p.payer) (.renewParticipation id pid))
      (hget : b.rwaAssets.get id = some asset)
      (hp : (b.participations id).get pid = some p)
      (hexpired : p.status = .expired)
      (hdeposit : doTransfer b.world asset.policy.depositCurrency p.payer
        R.palletAccount asset.policy.deposit = .ok w)
      (hpay : doTransfer w asset.policy.depositCurrency p.payer
        asset.beneficiary asset.policy.entryFee = .ok b'.world)
      (hup : Updates b b' id pid
        ⟨asset.policy, saturatingAdd 32 asset.participantCount 1⟩
        (some ⟨asset.policy.term now, asset.policy.deposit, p.entryFeePaid⟩))
      (hnext : b'.nextParticipationId = b.nextParticipationId)

/-! ## What holds of every entry -/

section Each

variable {b b' : Books R} {id pid : Nat} {t t₀ : Terms R} {e : Option Entry}
  {P : AssetPolicy R → Entry → Prop}

theorem SameRegister.each (h : SameRegister b b')
    (hP : ∀ i q t e, b.terms i = some t → b.entry i q = some e →
      P t.policy e) :
    ∀ i q t e, b'.terms i = some t → b'.entry i q = some e →
      P t.policy e := by
  intro i q t e ht he
  rw [h.terms] at ht
  rw [h.entry] at he
  exact hP i q t e ht he

/-- One asset has new terms. -/
theorem each_setTerms (hself : b'.terms id = some t)
    (hterms : ∀ i, i ≠ id → b'.terms i = b.terms i)
    (hentry : ∀ i q, b'.entry i q = b.entry i q)
    (hP : ∀ i q t e, b.terms i = some t → b.entry i q = some e →
      P t.policy e)
    (hnew : ∀ q e', b.entry id q = some e' → P t.policy e') :
    ∀ i q t e, b'.terms i = some t → b'.entry i q = some e →
      P t.policy e := by
  intro i q t' e' ht he
  rw [hentry] at he
  by_cases hi : i = id
  · rw [hi, hself] at ht
    cases ht
    exact hnew q e' (hi ▸ he)
  · rw [hterms i hi] at ht
    exact hP i q t' e' ht he

/-- One entry is new, under the policy the asset had. -/
theorem Updates.each (hup : Updates b b' id pid t e)
    (ht₀ : b.terms id = some t₀) (hpolicy : t.policy = t₀.policy)
    (hP : ∀ i q t e, b.terms i = some t → b.entry i q = some e →
      P t.policy e)
    (hnew : ∀ e', e = some e' → P t.policy e') :
    ∀ i q t e, b'.terms i = some t → b'.entry i q = some e →
      P t.policy e := by
  intro i q t' e' ht he
  by_cases hi : i = id
  · rw [hi, hup.terms_self] at ht
    cases ht
    by_cases hq : q = pid
    · rw [hi, hq, hup.entry_self] at he
      exact hnew e' he
    · rw [hi, hup.entry_ne id q fun h => hq h.2] at he
      rw [hpolicy]
      exact hP id q t₀ e' ht₀ he
  · rw [hup.terms_ne i hi] at ht
    rw [hup.entry_ne i q fun h => hi h.1] at he
    exact hP i q t' e' ht he

end Each

/-! ## Moves as changes -/

variable {asset : AssetInfo R} {b b' : Books R} {e : Entry} {id pid : Nat}
    {p : Participation R}

private theorem terms_insert_self {t : Terms R}
    (h : b'.rwaAssets = b.rwaAssets.insert id asset) (ht : asset.terms = t) :
    b'.terms id = some t := by
  simp [Books.terms, h, ht]

private theorem terms_insert_ne
    (h : b'.rwaAssets = b.rwaAssets.insert id asset) (i : Nat) (hi : i ≠ id) :
    b'.terms i = b.terms i := by
  simp [Books.terms, h, hi]

private theorem entry_insert_self
    (h : b'.participations = b.participations.insert id pid p)
    (he : p.entry = e) : b'.entry id pid = some e := by
  simp [Books.entry, h, he]

private theorem entry_insert_ne
    (h : b'.participations = b.participations.insert id pid p) (i q : Nat)
    (hne : ¬ (i = id ∧ q = pid)) : b'.entry i q = b.entry i q := by
  unfold Books.entry
  rw [h, StorageDoubleMap.get_insert_ne _ _ hne]

private theorem entry_remove_self
    (h : b'.participations = b.participations.remove id pid) :
    b'.entry id pid = none := by
  simp [Books.entry, h]

private theorem entry_remove_ne
    (h : b'.participations = b.participations.remove id pid) (i q : Nat)
    (hne : ¬ (i = id ∧ q = pid)) : b'.entry i q = b.entry i q := by
  unfold Books.entry
  rw [h, StorageDoubleMap.get_remove_ne _ hne]

private theorem sameRegister_asset {asset' : AssetInfo R}
    (hget : b.rwaAssets.get id = some asset)
    (hassets : b'.rwaAssets = b.rwaAssets.insert id asset')
    (hparts : b'.participations = b.participations)
    (hnextAsset : b'.nextRwaAssetId = b.nextRwaAssetId)
    (hnext : b'.nextParticipationId = b.nextParticipationId)
    (hterms : asset'.terms = asset.terms) :
    SameRegister b b' where
  terms := by
    intro i
    by_cases hi : i = id
    · subst hi
      rw [terms_insert_self hassets hterms, Books.terms_of_get hget]
    · exact terms_insert_ne hassets i hi
  entry := fun i q => by simp [Books.entry, hparts]
  nextAsset := hnextAsset
  next := hnext

private theorem sameRegister_participation {p' : Participation R}
    (hp : (b.participations id).get pid = some p)
    (hassets : b'.rwaAssets = b.rwaAssets)
    (hparts : b'.participations = b.participations.insert id pid p')
    (hnextAsset : b'.nextRwaAssetId = b.nextRwaAssetId)
    (hnext : b'.nextParticipationId = b.nextParticipationId)
    (hentry : p'.entry = p.entry) :
    SameRegister b b' where
  terms := fun i => by simp [Books.terms, hassets]
  entry := by
    intro i q
    by_cases hi : i = id ∧ q = pid
    · obtain ⟨rfl, rfl⟩ := hi
      rw [entry_insert_self hparts hentry, Books.entry_of_get hp]
    · exact entry_insert_ne hparts i q hi
  nextAsset := hnextAsset
  next := hnext

private theorem sameRegister_markRetired
    (hget : b.rwaAssets.get id = some asset) :
    SameRegister b (b.markRetired id asset) :=
  sameRegister_asset hget rfl rfl rfl rfl rfl

/-- The hook at the start of a block is not seen by the register. -/
theorem sameRegister_initialized (b : Books R) (n : Nat) :
    Reservations b.world (b.initialized n).world ∧
      SameRegister b (b.initialized n) := by
  refine Books.initialized_induct (I := fun b₁ =>
    Reservations b.world b₁.world ∧ SameRegister b b₁)
    ⟨.refl _, fun _ => rfl, fun _ _ => rfl, rfl, rfl⟩ ?_
  rintro b₁ id asset _ ⟨hworld, hsame⟩ hget _
  exact ⟨hworld.trans (.unreserve _ _ _),
    hsame.trans (sameRegister_markRetired hget)⟩

private theorem updates_insert {f : AssetInfo R → AssetInfo R} {t : Terms R}
    (hget : b.rwaAssets.get id = some asset)
    (hassets : b'.rwaAssets = b.rwaAssets.modify id f)
    (hparts : b'.participations = b.participations.insert id pid p)
    (hnextAsset : b'.nextRwaAssetId = b.nextRwaAssetId)
    (ht : (f asset).terms = t) (he : p.entry = e) :
    Updates b b' id pid t (some e) := by
  rw [StorageMap.modify_of_some hget] at hassets
  exact ⟨terms_insert_self hassets ht, terms_insert_ne hassets,
    entry_insert_self hparts he, entry_insert_ne hparts, hnextAsset⟩

private theorem updates_participation (hget : b.rwaAssets.get id = some asset)
    (hassets : b'.rwaAssets = b.rwaAssets)
    (hparts : b'.participations = b.participations.insert id pid p)
    (hnextAsset : b'.nextRwaAssetId = b.nextRwaAssetId) (he : p.entry = e) :
    Updates b b' id pid asset.terms (some e) where
  terms_self := by rw [Books.terms, hassets, hget]; rfl
  terms_ne := fun i _ => by rw [Books.terms, hassets, Books.terms]
  entry_self := entry_insert_self hparts he
  entry_ne := entry_insert_ne hparts
  nextAsset := hnextAsset

private theorem updates_closed {b₁ : Books R} {status : ParticipationStatus}
    (hget : b.rwaAssets.get id = some asset)
    (hassets : b₁.rwaAssets = b.rwaAssets)
    (hparts : b₁.participations = b.participations)
    (hnextAsset : b₁.nextRwaAssetId = b.nextRwaAssetId) :
    Updates b (b₁.closed id pid p status) id pid
      ⟨asset.policy, asset.participantCount - 1⟩
      (some ⟨status, 0, p.entryFeePaid⟩) := by
  refine updates_insert
    (f := fun a => { a with participantCount := a.participantCount - 1 })
    (p := { p with status := status, depositHeld := 0 }) hget ?_ ?_ hnextAsset
    rfl rfl
  · rw [← hassets]; rfl
  · rw [← hparts]; rfl

theorem isLive_of_isActive {st : ParticipationStatus}
    (h : st.isActive = true) : st.isLive = true := by
  simp [ParticipationStatus.isLive, h]

/-- What an ending says about the participation and its final status. -/
theorem Ending.summary {a : Action R} {now amount : Nat}
    {status : ParticipationStatus}
    (h : Ending a now id pid p asset status amount) :
    (p.status.isActive = true ∧ amount = p.depositHeld ∨
      p.status.isLive = true ∧ amount = p.retiredRefund) ∧
    status.isLive = false ∧ (status = .expired → p.lapsed now = true) := by
  cases h with
  | expired _ hlapsed =>
      refine ⟨.inl ⟨?_, rfl⟩, rfl, fun _ => hlapsed⟩
      unfold Participation.lapsed at hlapsed
      split at hlapsed
      · next hst => rw [hst]; rfl
      · cases hlapsed
  | exited _ hrun => exact ⟨.inl ⟨hrun.1, rfl⟩, rfl, nofun⟩
  | claimed _ _ hst =>
      refine ⟨.inr ⟨?_, rfl⟩, rfl, nofun⟩
      rcases hst with hst | hst
      · exact isLive_of_isActive hst
      · rw [hst]; rfl
  | revoked _ _ hrun => exact ⟨.inl ⟨hrun.1, rfl⟩, rfl, nofun⟩

theorem Move.change {a : Action R} {now : Nat} (h : Move a now b b') :
    Change a now b b' := by
  cases h with
  | outside ha =>
      exact .detail (.inl ha) ⟨fun _ => rfl, fun _ _ => rfl, rfl, rfl⟩
  | initialized =>
      obtain ⟨hworld, hsame⟩ := sameRegister_initialized b now
      exact .detail (.inr hworld) hsame
  | registered ha _ _ hreserve =>
      exact .registered ha (.reserve hreserve) (terms_insert_self rfl rfl)
        (terms_insert_ne rfl) (fun _ _ => rfl) rfl rfl
  | policyUpdated ha hget _ hcurrency hdeposit hcap hfrozen =>
      exact .policyUpdated ha hget hcurrency hdeposit hcap hfrozen rfl
        (terms_insert_self rfl rfl) (terms_insert_ne rfl) (fun _ _ => rfl) rfl
        rfl
  | statusSet hget =>
      exact .detail (.inr (.refl _))
        (sameRegister_asset hget rfl rfl rfl rfl rfl)
  | sunset _ hget | beneficiarySet _ hget | metadataSet _ hget =>
      exact .detail (.inr (.refl _))
        (sameRegister_asset hget rfl rfl rfl rfl rfl)
  | @retired _ _ _ asset _ hget =>
      refine .detail (.inr ?_) ?_
      · cases hst : asset.status <;>
          simpa only [Books.dropSchedule, hst] using .unreserve _ _ _
      · cases hst : asset.status <;>
          (simp only [Books.dropSchedule, hst]
           exact sameRegister_asset hget rfl rfl rfl rfl rfl)
  | requested ha hget _ _ _ hcap _ _ _ hpay hfits =>
      exact .requested ha hget hcap hpay hfits
        (updates_insert hget rfl rfl rfl rfl rfl) rfl
  | approved _ hget _ hp hpending hpay =>
      exact .approved hget hp hpending hpay
        (updates_participation hget rfl rfl rfl rfl) rfl
  | rejected _ hget hp hpending hpay =>
      have hassets := StorageMap.modify_of_some hget fun asset =>
        { asset with participantCount := asset.participantCount - 1 }
      exact .rejected hget hp hpending hpay
        ⟨terms_insert_self hassets rfl, terms_insert_ne hassets,
          entry_remove_self rfl, entry_remove_ne rfl, rfl⟩ rfl
  | requeued | slashDistributionSet | ownerProposed | ownerCancelled =>
      exact .detail (.inr (.refl _)) ⟨fun _ => rfl, fun _ _ => rfl, rfl, rfl⟩
  | closed hget hp hend hpay =>
      obtain ⟨hlive, hstatus, hexpired⟩ := hend.summary
      exact .ended hget hp hlive hstatus hexpired hpay
        (updates_closed hget rfl rfl rfl) rfl
  | leftLast _ hget hp hrun _ _ hpay =>
      have hstatus : ParticipationStatus.exited.isLive = false := rfl
      exact .ended hget hp (.inl ⟨hrun.1, rfl⟩) hstatus (fun h => by cases h)
        hpay (updates_closed hget rfl rfl rfl) rfl
  | slashed ha _ _ hget hp hrun hle hslash hpay =>
      exact .slashed ha hget hp hrun.1 hle hslash hpay
        (updates_closed hget rfl rfl rfl) rfl
  | renewed _ hget _ hp hrun _ hpay =>
      exact .renewed hget hp hrun hpay
        (updates_participation hget rfl rfl rfl rfl) rfl
  | reopened ha hget _ hp hexpired hdeposit _ _ _ hpay =>
      exact .reopened ha hget hp hexpired hdeposit hpay
        (updates_insert hget rfl rfl rfl rfl rfl) rfl
  | holderAdded _ _ hp | holderDropped _ _ hp =>
      exact .detail (.inr (.refl _))
        (sameRegister_participation hp rfl rfl rfl rfl rfl)
  | ownerAccepted _ _ hget _ _ hreserve =>
      exact .detail (.inr (.trans (.unreserve _ _ _) (.reserve hreserve)))
        (sameRegister_asset hget rfl rfl rfl rfl rfl)
  | payerChanged _ _ _ hp =>
      exact .detail (.inr (.refl _))
        (sameRegister_participation hp rfl rfl rfl rfl rfl)

end Thxnet.Rwa
