import Thxnet.Rwa.Counting

/-!
# The status of an asset and the sunset schedule

`StatusChange a now b b'` lists what can happen to the statuses of the assets
and to the schedule of sunsets, and `Move.statusChange` shows that every move of
the pallet is one of these.  The schedule names only assets that are on their
way out or have left (`scheduled_of_reachable`), so the hook at the start of a
block does not touch an active asset (`Scheduled.initialized_active`).
-/

namespace Thxnet.Rwa

open Thxnet.Lib Thxnet.Frame

variable {R : Config}

/-- The status registered under an id. -/
def Books.status (b : Books R) (id : Nat) : Option AssetStatus :=
  (b.rwaAssets.get id).map AssetInfo.status

variable {a : Action R} {asset : AssetInfo R} {st : AssetStatus}
    {b b' : Books R} {id : Nat}

theorem Books.status_of_get (h : b.rwaAssets.get id = some asset) :
    b.status id = some asset.status := by
  simp [Books.status, h]

theorem Sound.status_next (h : Sound b) : b.status b.nextRwaAssetId = none := by
  have hnone := h.assets b.nextRwaAssetId (Nat.le_refl _)
  rw [Books.terms, Option.map_eq_none_iff] at hnone
  rw [Books.status, hnone]
  rfl

/-! ## Changes of status -/

/-- What can happen to the statuses and the schedule. -/
inductive StatusChange (a : Action R) (now : Nat) (b b' : Books R) : Prop where
  | kept (hstatus : ∀ i, b'.status i = b.status i)
      (hschedule : b'.sunsettingAssets = b.sunsettingAssets)
  | initialized (ha : a = .nextBlock) (hb : b' = b.initialized now)
  | registered (hself : b'.status b.nextRwaAssetId = some .active)
      (hne : ∀ i, i ≠ b.nextRwaAssetId → b'.status i = b.status i)
      (hschedule : b'.sunsettingAssets = b.sunsettingAssets)
  | set {id : Nat} {asset : AssetInfo R} {st : AssetStatus}
      (hget : b.rwaAssets.get id = some asset)
      (hmove : StatusMove a id asset st)
      (hself : b'.status id = some st)
      (hne : ∀ i, i ≠ id → b'.status i = b.status i)
      (hschedule : b'.sunsettingAssets = b.sunsettingAssets)
  | sunset {id expiryBlock : Nat} {asset : AssetInfo R}
      (hget : b.rwaAssets.get id = some asset)
      (hst : asset.status = .active ∨ asset.status = .inactive)
      (hlater : now < expiryBlock)
      (hroom : (b.sunsettingAssets expiryBlock).toList.length <
        R.maxSunsettingPerBlock)
      (hself : b'.status id = some (.sunsetting expiryBlock))
      (hne : ∀ i, i ≠ id → b'.status i = b.status i)
      (hschedule : b'.sunsettingAssets = Function.update b.sunsettingAssets
        expiryBlock ((b.sunsettingAssets expiryBlock).push id))
  | retired {id : Nat} {asset : AssetInfo R}
      (ha : (∃ g o, a = .call g o (.forceRetireAsset id)) ∨
        ∃ expiry, asset.status = .sunsetting expiry ∧ expiry ≤ now)
      (hget : b.rwaAssets.get id = some asset)
      (hst : asset.status ≠ .retired)
      (hself : b'.status id = some .retired)
      (hne : ∀ i, i ≠ id → b'.status i = b.status i)
      (hschedule : b'.sunsettingAssets =
        (b.dropSchedule id asset).sunsettingAssets)

theorem status_insert_self (h : b'.rwaAssets = b.rwaAssets.insert id asset)
    (hst : asset.status = st) : b'.status id = some st := by
  simp [Books.status, h, hst]

theorem status_insert_ne (h : b'.rwaAssets = b.rwaAssets.insert id asset)
    (i : Nat) (hi : i ≠ id) : b'.status i = b.status i := by
  simp [Books.status, h, hi]

/-- A change of an asset record that leaves the status alone. -/
theorem status_insert {asset' : AssetInfo R}
    (hget : b.rwaAssets.get id = some asset)
    (h : b'.rwaAssets = b.rwaAssets.insert id asset')
    (hst : asset'.status = asset.status) (i : Nat) :
    b'.status i = b.status i := by
  by_cases hi : i = id
  · subst hi
    rw [status_insert_self h hst, Books.status_of_get hget]
  · exact status_insert_ne h i hi

theorem status_modify {f : AssetInfo R → AssetInfo R}
    (hget : b.rwaAssets.get id = some asset)
    (h : b'.rwaAssets = b.rwaAssets.modify id f)
    (hst : (f asset).status = asset.status) (i : Nat) :
    b'.status i = b.status i := by
  rw [StorageMap.modify_of_some hget] at h
  exact status_insert hget h hst i

theorem Move.statusChange {now : Nat} (h : Move a now b b') :
    StatusChange a now b b' := by
  cases h with
  | initialized ha => exact .initialized ha rfl
  | registered =>
      exact .registered (status_insert_self rfl rfl) (status_insert_ne rfl) rfl
  | statusSet hget hmove =>
      exact .set hget hmove (status_insert_self rfl rfl) (status_insert_ne rfl)
        rfl
  | sunset _ hget hst hlater hroom =>
      exact .sunset hget hst hlater hroom (status_insert_self rfl rfl)
        (status_insert_ne rfl) rfl
  | @retired g o id asset ha hget hst =>
      have hassets : (b.dropSchedule id asset).rwaAssets = b.rwaAssets := by
        unfold Books.dropSchedule
        split <;> rfl
      have hinsert :
          ((b.dropSchedule id asset).markRetired id asset).rwaAssets =
            b.rwaAssets.insert id { asset with status := .retired } := by
        rw [← hassets]
        rfl
      exact .retired (ha.imp (fun hforce => ⟨g, o, hforce.1⟩) And.right) hget
        hst (status_insert_self hinsert rfl)
        (status_insert_ne hinsert) rfl
  | policyUpdated _ hget | beneficiarySet _ hget | metadataSet _ hget =>
      exact .kept (status_insert hget rfl rfl) rfl
  | ownerAccepted _ _ hget => exact .kept (status_insert hget rfl rfl) rfl
  | requested _ hget | rejected _ hget | leftLast _ hget | reopened _ hget =>
      exact .kept (status_modify hget rfl rfl) rfl
  | closed hget => exact .kept (status_modify hget rfl rfl) rfl
  | slashed _ _ _ hget => exact .kept (status_modify hget rfl rfl) rfl
  | outside | approved | requeued | renewed | holderAdded | holderDropped
  | slashDistributionSet | ownerProposed | ownerCancelled | payerChanged =>
      exact .kept (fun _ => rfl) rfl

/-! ## The schedule -/

/-- Whether an asset with this status is on its way out, or has left. -/
def AssetStatus.isLeaving : AssetStatus → Bool
  | .sunsetting _ => true
  | .retired => true
  | .active => false
  | .inactive => false
  | .paused => false

/-- The asset is registered, and leaving. -/
def Books.Leaving (b : Books R) (id : Nat) : Prop :=
  ∃ st, b.status id = some st ∧ st.isLeaving = true

/-- The schedule names only assets that are leaving. -/
def Scheduled (b : Books R) : Prop :=
  ∀ n id, id ∈ (b.sunsettingAssets n).toList → b.Leaving id

/-- Names may be struck off the schedule, as long as who leaves keeps
leaving. -/
private theorem Scheduled.shrink (h : Scheduled b)
    (hmem : ∀ n i, i ∈ (b'.sunsettingAssets n).toList → i ∈ (b.sunsettingAssets
      n).toList) (hleave : ∀ i, b.Leaving i → b'.Leaving i) : Scheduled b' :=
  fun n i hi => hleave i (h n i (hmem n i hi))

private theorem mem_dropSchedule {n i : Nat}
    (h : i ∈ ((b.dropSchedule id asset).sunsettingAssets n).toList) :
    i ∈ (b.sunsettingAssets n).toList := by
  unfold Books.dropSchedule at h
  split at h
  · next expiryBlock _ =>
      by_cases hn : n = expiryBlock
      · subst hn
        simp only [Books.unscheduled, Function.update_self,
          BoundedVec.toList_removeFirst] at h
        exact List.mem_of_mem_erase h
      · simpa only [Books.unscheduled, Function.update_of_ne hn] using h
  · exact h

private theorem leaving_of_ne (hid : ¬ b.Leaving id)
    (hne : ∀ i, i ≠ id → b'.status i = b.status i) (i : Nat) (h : b.Leaving i) :
    b'.Leaving i := by
  have hi : i ≠ id := fun hi => hid (hi ▸ h)
  unfold Books.Leaving
  rw [hne i hi]
  exact h

private theorem not_leaving (hst : b.status id = some st)
    (hstay : st.isLeaving = false) : ¬ b.Leaving id := by
  rintro ⟨st', hst', hleave⟩
  cases hst.symm.trans hst'
  rw [hstay] at hleave
  cases hleave

private theorem leaving_retired (hself : b'.status id = some .retired)
    (hne : ∀ i, i ≠ id → b'.status i = b.status i) (i : Nat) (h : b.Leaving i) :
    b'.Leaving i := by
  by_cases hi : i = id
  · exact ⟨.retired, hi ▸ hself, rfl⟩
  · unfold Books.Leaving
    rw [hne i hi]
    exact h

theorem StatusMove.stays (h : StatusMove a id asset st) :
    asset.status.isLeaving = false := by
  cases h with
  | deactivated _ hst | reactivated _ hst => rw [hst]; rfl
  | paused _ _ hst => rcases hst with hst | hst <;> (rw [hst]; rfl)
  | unpaused _ _ hst => rw [hst]; rfl

/-- The hook retires what the schedule names. -/
theorem Scheduled.initialized (h : Scheduled b) (n : Nat) :
    Scheduled (b.initialized n) := by
  refine Books.initialized_induct (I := Scheduled) ?_ ?_
  · refine h.shrink (fun m i hi => ?_) fun i hi => hi
    dsimp only at hi
    by_cases hm : m = n
    · subst hm
      rw [Function.update_self] at hi
      cases hi
    · rwa [Function.update_of_ne hm] at hi
  · intro b₁ id asset _ hb₁ _ _
    exact hb₁.shrink (fun _ _ hi => hi)
      (leaving_retired (status_insert_self rfl rfl) (status_insert_ne rfl))

theorem Scheduled.change {now : Nat} (h : Scheduled b) (hsound : Sound b)
    (hc : StatusChange a now b b') : Scheduled b' := by
  cases hc with
  | kept hstatus hschedule =>
      refine h.shrink (fun n i hi => hschedule ▸ hi) fun i hi => ?_
      unfold Books.Leaving
      rwa [hstatus i]
  | initialized _ hb => exact hb ▸ h.initialized now
  | registered _ hne hschedule =>
      have hnew : ¬ b.Leaving b.nextRwaAssetId := by
        rintro ⟨st, hst, _⟩
        cases hsound.status_next.symm.trans hst
      exact h.shrink (fun n i hi => hschedule ▸ hi) (leaving_of_ne hnew hne)
  | set hget hmove _ hne hschedule =>
      have hstay := not_leaving (Books.status_of_get hget) hmove.stays
      exact h.shrink (fun n i hi => hschedule ▸ hi) (leaving_of_ne hstay hne)
  | @sunset id expiryBlock asset hget hst _ _ hself hne hschedule =>
      have hstay : ¬ b.Leaving id := by
        refine not_leaving (Books.status_of_get hget) ?_
        rcases hst with hst | hst <;> (rw [hst]; rfl)
      intro n i hi
      by_cases hid : i = id
      · exact ⟨_, hid ▸ hself, rfl⟩
      · refine leaving_of_ne hstay hne i (h n i ?_)
        rw [hschedule] at hi
        by_cases hn : n = expiryBlock
        · subst hn
          rw [Function.update_self] at hi
          exact (BoundedVec.mem_of_mem_push hi).resolve_right hid
        · rwa [Function.update_of_ne hn] at hi
  | retired _ _ _ hself hne hschedule =>
      exact h.shrink (fun n i hi => mem_dropSchedule (hschedule ▸ hi))
        (leaving_retired hself hne)

theorem scheduled_of_reachable {ok : State R → Action R → Prop} {s : State R}
    (h : Reachable ok s) : Scheduled s.toBooks := by
  have hboth : Sound s.toBooks ∧ Scheduled s.toBooks :=
    books_invariant (I := fun b => Sound b ∧ Scheduled b)
      (fun world => ⟨Sound.genesis world, fun _ _ hi => nomatch hi⟩)
      (fun _ _ _ _ _ _ _ hmove hb =>
        ⟨hb.1.change hmove.change, hb.2.change hb.1 hmove.statusChange⟩) h
  exact hboth.2

/-! ## The hook -/

theorem status_retireOne (b : Books R) (id i : Nat) :
    (b.retireOne id).status i =
      if i = id then (b.status i).map fun _ => .retired else b.status i := by
  unfold Books.retireOne
  cases hget : b.rwaAssets.get id with
  | none =>
      by_cases hi : i = id
      · simp [Books.status, hi, hget]
      · rw [if_neg hi]
  | some asset =>
      dsimp only
      by_cases hi : i = id
      · subst hi
        rw [if_pos rfl, Books.status_of_get hget]
        by_cases hst : asset.status = .retired
        · rw [if_pos hst, Books.status_of_get hget, hst]
          rfl
        · rw [if_neg hst]
          exact status_insert_self rfl rfl
      · rw [if_neg hi]
        by_cases hst : asset.status = .retired
        · rw [if_pos hst]
        · rw [if_neg hst]
          exact status_insert_ne rfl i hi

/-- The hook retires the assets of the block, and no others. -/
theorem status_initialized (b : Books R) (n i : Nat) :
    (b.initialized n).status i =
      if i ∈ (b.sunsettingAssets n).toList then
        (b.status i).map fun _ => .retired
      else b.status i := by
  have hloop : ∀ (ids : List Nat) (b₁ : Books R),
      (ids.foldl Books.retireOne b₁).status i =
        if i ∈ ids then (b₁.status i).map fun _ => .retired
        else b₁.status i := by
    intro ids
    induction ids with
    | nil => exact fun _ => rfl
    | cons id ids ih =>
        intro b₁
        rw [List.foldl_cons, ih, status_retireOne]
        by_cases hi : i = id
        · by_cases hmem : i ∈ ids <;> simp [hi, Function.comp_def]
        · simp [hi]
  exact hloop _ _

theorem schedule_initialized (b : Books R) (n : Nat) :
    (b.initialized n).sunsettingAssets =
      Function.update b.sunsettingAssets n .empty :=
  Books.initialized_induct
    (I := fun b₁ => b₁.sunsettingAssets =
      Function.update b.sunsettingAssets n .empty)
    rfl fun _ _ _ _ hb₁ _ _ => hb₁

theorem Scheduled.initialized_active (h : Scheduled b) {n : Nat}
    (hget : b.rwaAssets.get id = some asset)
    (hactive : asset.status = .active) :
    (b.initialized n).rwaAssets.get id = some asset := by
  refine Books.initialized_induct
    (I := fun b₁ => b₁.rwaAssets.get id = some asset) hget ?_
  intro b₁ i asset₁ hi hb₁ _ _
  have hne : id ≠ i := by
    rintro rfl
    refine not_leaving (Books.status_of_get hget) ?_ (h n id hi)
    rw [hactive]
    rfl
  exact (StorageMap.get_insert_ne _ _ hne).trans hb₁

theorem initialized_participations (b : Books R) (n : Nat) :
    (b.initialized n).participations = b.participations :=
  Books.initialized_induct (I := fun b₁ => b₁.participations = b.participations)
    rfl fun _ _ _ _ hb₁ _ _ => hb₁

end Thxnet.Rwa
