import Thxnet.Rwa.Mock

/-!
# The participation query against the call

`can_participate` answers whether an account could request a participation for
itself.  It repeats five of the checks `request_participation` makes, in the
same order, and leaves three out: the group must have room for one holder, the
holder for one more participation, and the queue of requests for one more.
`participation_agrees_iff` says for which states the answer is right all the
same.
-/

namespace Thxnet.Rwa

open Thxnet.Lib Thxnet.Frame

variable {R : Config}

/-! ## The query -/

/-- The errors of `can_participate`. -/
inductive CanParticipateError where
  | assetNotFound
  | assetNotActive
  | maxParticipantsReached
  | alreadyParticipating
  | notEligible
  deriving DecidableEq, Repr

/-- `can_participate`. -/
def canParticipate (s : State R) (assetId : Nat) (who : R.AccountId) :
    Except CanParticipateError Unit := do
  let asset ← okOr (s.rwaAssets.get assetId) .assetNotFound
  ensure (asset.status = .active) .assetNotActive
  whenSome asset.policy.maxParticipants fun most =>
    ensure (¬ most ≤ asset.participantCount) .maxParticipantsReached
  ensure ((s.holderIndex assetId).get who = none) .alreadyParticipating
  ensure (R.participationFilter s.world assetId who = .ok ()) .notEligible

/-! ## The checks of the call -/

/-- `request_participation` as far as the money: its checks, and what it has
read. -/
def requestChecks (s : State R) (id : Nat) (holders : List R.AccountId) :
    Except DispatchError
      (AssetInfo R × BoundedVec R.AccountId R.maxGroupSize) := do
  let asset ← okOr (s.rwaAssets.get id) (R.err .assetNotFound)
  ensure (asset.status = .active) (R.err .assetNotActive)
  ensure (holders ≠ []) (R.err .emptyHoldersList)
  let group ← okOr (BoundedVec.tryFrom holders) (R.err .maxGroupSizeReached)
  ensure holders.Nodup (R.err .holderAlreadyExists)
  whenSome asset.policy.maxParticipants fun most =>
    ensure (saturatingAdd 32 asset.participantCount 1 ≤ most)
      (R.err .maxParticipantsReached)
  checkHolders s.toBooks id holders
  checkEligible s.world id holders
  ensure (asset.policy.requiresApproval = true →
    (s.pendingApprovals id).toList.length < R.maxPendingApprovals)
    (R.err .pendingApprovalsFull)
  pure (asset, group)

/-- The call makes these checks first and then moves the money. -/
theorem requestParticipation_checks (s : State R) (who : R.AccountId) (id : Nat)
    (holders : List R.AccountId) :
    requestParticipation s (.signed who) id holders = (do
      let (asset, group) ← requestChecks s id holders
      let world ← payRequest s.world who asset
      let pid := s.nextParticipationId id
      ensure (pid + 1 < 2 ^ 32) (R.err .participationIdOverflow)
      let s₁ := (s.put ({ s.toBooks with world := world }.requested id asset
        (asset.newParticipation id s.now who group))).depositEvent
          (.participationRequested id pid who holders)
      pure <|
        if asset.policy.requiresApproval then s₁
        else s₁.depositEvent (.participationApproved id pid)) := by
  simp only [requestParticipation, requestChecks, bind_assoc, pure_bind]
  rfl

/-! ## The checks both make -/

/-- Whether the call finds room for one more participant. -/
def AssetInfo.hasRoom (asset : AssetInfo R) : Bool :=
  asset.policy.maxParticipants.all fun most =>
    saturatingAdd 32 asset.participantCount 1 ≤ most

/-- Whether the query does. -/
def AssetInfo.showsRoom (asset : AssetInfo R) : Bool :=
  asset.policy.maxParticipants.all fun most =>
    !decide (most ≤ asset.participantCount)

theorem AssetInfo.hasRoom_of_showsRoom {asset : AssetInfo R}
    (h : asset.showsRoom = true) : asset.hasRoom = true := by
  unfold AssetInfo.showsRoom at h
  unfold AssetInfo.hasRoom saturatingAdd
  cases hmax : asset.policy.maxParticipants with
  | none => rfl
  | some =>
      rw [hmax] at h
      simp only [Option.all_some, Bool.not_eq_true', decide_eq_false_iff_not]
        at h
      simp only [Option.all_some, decide_eq_true_eq]
      omega

/-- They differ only where the count is at the end of its range. -/
theorem AssetInfo.showsRoom_eq_iff (asset : AssetInfo R) :
    asset.showsRoom = asset.hasRoom ↔
      ∀ most, asset.policy.maxParticipants = some most →
        most ≤ asset.participantCount → most < maxValue 32 := by
  unfold AssetInfo.showsRoom AssetInfo.hasRoom saturatingAdd
  cases hmax : asset.policy.maxParticipants with
  | none => simp
  | some most =>
      generalize maxValue 32 = top
      simp only [Option.all_some, Option.some.injEq, forall_eq']
      by_cases hle : most ≤ asset.participantCount
      · simp only [hle, decide_true, Bool.not_true, forall_const]
        rw [eq_comm, decide_eq_false_iff_not]
        omega
      · simp only [hle, decide_false, Bool.not_false, false_imp_iff, iff_true]
        rw [eq_comm, decide_eq_true_eq]
        omega

/-- The first failing check of those the query reports, when `who` asks for
itself and room is judged by `room`. -/
def firstFailing (room : AssetInfo R → Bool) (s : State R) (id : Nat)
    (who : R.AccountId) : Option CanParticipateError :=
  match s.rwaAssets.get id with
  | none => some .assetNotFound
  | some asset =>
      if asset.status ≠ .active then some .assetNotActive
      else if room asset = false then some .maxParticipantsReached
      else if (s.holderIndex id).get who ≠ none then some .alreadyParticipating
      else if R.participationFilter s.world id who ≠ .ok () then
        some .notEligible
      else none

variable {room : AssetInfo R → Bool} {id : Nat} {who : R.AccountId}
    {s : State R}

theorem firstFailing_eq_none :
    firstFailing room s id who = none ↔
      ∃ asset, s.rwaAssets.get id = some asset ∧ asset.status = .active ∧
        room asset = true ∧ (s.holderIndex id).get who = none ∧
        R.participationFilter s.world id who = .ok () := by
  unfold firstFailing
  cases s.rwaAssets.get id with
  | none => simp
  | some => simp [ite_eq_iff]

/-- Among the checks on an active asset the one for room comes first. -/
theorem firstFailing_eq_max {asset : AssetInfo R}
    (hget : s.rwaAssets.get id = some asset)
    (hactive : asset.status = .active) :
    firstFailing room s id who = some .maxParticipantsReached ↔
      room asset = false := by
  unfold firstFailing
  rw [hget]
  cases hroom : room asset <;> simp [hactive, hroom, ite_eq_iff]

/-- Which checks fail depends on room only for active assets. -/
theorem firstFailing_congr {room' : AssetInfo R → Bool} (who : R.AccountId)
    (h : ∀ asset, s.rwaAssets.get id = some asset → asset.status = .active →
      room asset = room' asset) :
    firstFailing room s id who = firstFailing room' s id who := by
  unfold firstFailing
  cases hget : s.rwaAssets.get id with
  | none => rfl
  | some asset =>
      by_cases hactive : asset.status = .active
      · simp only [h asset hget hactive]
      · simp [hactive]

/-- The query returns the first failing check, with its own notion of room. -/
theorem canParticipate_eq (s : State R) (id : Nat) (who : R.AccountId) :
    canParticipate s id who =
      (firstFailing AssetInfo.showsRoom s id who).elim (.ok ()) .error := by
  unfold canParticipate firstFailing
  cases s.rwaAssets.get id with
  | none => rfl
  | some asset =>
      have hroom : whenSome asset.policy.maxParticipants (fun most =>
          ensure (¬ most ≤ asset.participantCount)
            CanParticipateError.maxParticipantsReached) =
          ensure (asset.showsRoom = true) .maxParticipantsReached := by
        unfold AssetInfo.showsRoom whenSome
        cases asset.policy.maxParticipants with
        | none => rfl
        | some => simp
      show (do
        ensure (asset.status = .active) .assetNotActive
        whenSome asset.policy.maxParticipants fun most =>
          ensure (¬ most ≤ asset.participantCount) .maxParticipantsReached
        ensure ((s.holderIndex id).get who = none) .alreadyParticipating
        ensure (R.participationFilter s.world id who = .ok ())
          .notEligible : Except CanParticipateError Unit) = _
      rw [hroom]
      simp only [ensure_bind]
      unfold ensure
      by_cases hactive : asset.status = .active
      · cases asset.showsRoom with
        | false => simp [hactive]
        | true =>
            by_cases hindex : (s.holderIndex id).get who = none
            · by_cases hfilter : R.participationFilter s.world id who = .ok ()
              · simp [hactive, hindex, hfilter]
              · simp [hactive, hindex, hfilter]
            · simp [hactive, hindex]
      · simp [hactive]

theorem canParticipate_eq_error {e : CanParticipateError} :
    canParticipate s id who = .error e ↔
      firstFailing AssetInfo.showsRoom s id who = some e := by
  rw [canParticipate_eq]
  cases firstFailing AssetInfo.showsRoom s id who <;> simp

theorem canParticipate_eq_ok :
    canParticipate s id who = .ok () ↔
      firstFailing AssetInfo.showsRoom s id who = none := by
  rw [canParticipate_eq]
  cases firstFailing AssetInfo.showsRoom s id who <;> simp

/-! ## The limits -/

/-- The limits that the query does not look at leave room for a request of
`who` for itself. -/
structure Unlimited (s : State R) (id : Nat) (who : R.AccountId)
    (asset : AssetInfo R) : Prop where
  group : 1 ≤ R.maxGroupSize
  holder : (s.holderAssets who).toList.length < R.maxParticipationsPerHolder
  queue : asset.policy.requiresApproval = true →
    (s.pendingApprovals id).toList.length < R.maxPendingApprovals

/-- The checks of the call, for a single holder: those the query reports, and
the limits. -/
theorem requestChecks_ok_iff :
    (∃ x, requestChecks s id [who] = .ok x) ↔
      firstFailing AssetInfo.hasRoom s id who = none ∧
        ∀ asset, s.rwaAssets.get id = some asset →
          Unlimited s id who asset := by
  simp only [requestChecks, do_eq_ok, whenSome_eq_ok, checkHolders,
    checkEligible, firstFailing_eq_none]
  have hroom : ∀ asset : AssetInfo R, (∀ most,
      asset.policy.maxParticipants = some most →
        saturatingAdd 32 asset.participantCount 1 ≤ most) ↔
      asset.hasRoom = true := by
    intro asset
    unfold AssetInfo.hasRoom
    cases asset.policy.maxParticipants <;> simp
  constructor
  · rintro ⟨_, asset, hget, hactive, _, group, hgroup, _, hmost,
      ⟨hindex, hholder, _⟩, helig, hqueue, rfl⟩
    refine ⟨⟨asset, hget, hactive, (hroom asset).mp hmost, hindex,
      helig who (by simp)⟩, fun asset' hget' => ?_⟩
    cases hget.symm.trans hget'
    have hlength := group.length_le
    rw [BoundedVec.toList_of_tryFrom hgroup] at hlength
    exact ⟨hlength, hholder, hqueue⟩
  · rintro ⟨⟨asset, hget, hactive, hmost, hindex, hfilter⟩, hlimits⟩
    obtain ⟨hgroup, hholder, hqueue⟩ := hlimits asset hget
    refine ⟨_, asset, hget, hactive, by simp, ⟨[who], hgroup⟩,
      by simp [BoundedVec.tryFrom, hgroup], by simp, (hroom asset).mpr hmost,
      ⟨hindex, hholder, trivial⟩, by simpa using hfilter, hqueue, rfl⟩

/-- What the query should answer: whether the call gets as far as the money, and
else the first check the call finds failing, of those the query reports. -/
structure QueryAgrees (s : State R) (id : Nat) (who : R.AccountId) :
    Prop where
  ok_iff : canParticipate s id who = .ok () ↔
    ∃ x, requestChecks s id [who] = .ok x
  first_failing : ∀ e, canParticipate s id who = .error e →
    firstFailing AssetInfo.hasRoom s id who = some e

/-- For an active asset: the count of participants is not at the end of its
range, and the limits leave room if the reported checks pass. -/
def Answerable (s : State R) (id : Nat) (who : R.AccountId) : Prop :=
  ∀ asset, s.rwaAssets.get id = some asset → asset.status = .active →
    (∀ most, asset.policy.maxParticipants = some most →
      most ≤ asset.participantCount → most < maxValue 32) ∧
    (asset.hasRoom = true → (s.holderIndex id).get who = none →
      R.participationFilter s.world id who = .ok () →
      Unlimited s id who asset)

/-- **Participation query.**  The query agrees with the call about an asset and
an account exactly if it is answerable. -/
theorem participation_agrees_iff (s : State R) (id : Nat) (who : R.AccountId) :
    QueryAgrees s id who ↔ Answerable s id who := by
  constructor
  · intro hagree asset hget hactive
    have hsame : asset.showsRoom = asset.hasRoom := by
      cases hshows : asset.showsRoom with
      | true => exact (AssetInfo.hasRoom_of_showsRoom hshows).symm
      | false =>
          have hfirst := hagree.first_failing _ (canParticipate_eq_error.mpr
            ((firstFailing_eq_max hget hactive).mpr hshows))
          exact ((firstFailing_eq_max hget hactive).mp hfirst).symm
    refine ⟨asset.showsRoom_eq_iff.mp hsame, fun hroom hindex hfilter => ?_⟩
    have hok : canParticipate s id who = .ok () := by
      rw [canParticipate_eq_ok, firstFailing_eq_none]
      exact ⟨asset, hget, hactive, hsame.trans hroom, hindex, hfilter⟩
    exact (requestChecks_ok_iff.mp (hagree.ok_iff.mp hok)).2 asset hget
  · intro hanswer
    have hsame : firstFailing AssetInfo.showsRoom s id who =
        firstFailing AssetInfo.hasRoom s id who :=
      firstFailing_congr who fun asset hget hactive =>
        asset.showsRoom_eq_iff.mpr (hanswer asset hget hactive).1
    refine ⟨?_, fun e he => ?_⟩
    · rw [canParticipate_eq_ok, hsame, requestChecks_ok_iff]
      refine ⟨fun hnone => ⟨hnone, fun asset hget => ?_⟩, And.left⟩
      obtain ⟨asset', hget', hactive, hroom, hindex, hfilter⟩ :=
        firstFailing_eq_none.mp hnone
      cases hget'.symm.trans hget
      exact (hanswer asset hget hactive).2 hroom hindex hfilter
    · rw [← hsame]
      exact canParticipate_eq_error.mp he

/-- Five assets (the most a holder may take part in) that account 2 has joined,
and a sixth, of account 3. -/
def busyHolder : State vault :=
  vaultAfter ((List.replicate 5 (registered defaultPolicy)) ++
    (List.range 5).map (fun id => signedBy 2 (.requestParticipation id [2])) ++
    [signedBy 3 (.registerAsset 9 defaultPolicy [])])

/-- The query lets account 2 join the sixth, and the call does not. -/
theorem participation_misjudged :
    Reachable (fun _ _ => True) busyHolder ∧
      canParticipate busyHolder 5 (2 : Nat) = .ok () ∧
      failure (requestParticipation busyHolder (.signed (2 : Nat)) 5 [2]) =
        some (vault.err .maxParticipationsPerHolderReached) ∧
      ¬ QueryAgrees busyHolder 5 (2 : Nat) := by
  obtain ⟨_, hok, _⟩ := succeedsWith_iff.mp (show succeedsWith
    (canParticipate busyHolder 5 (2 : Nat)) (fun _ => true) = true by
      decide +kernel)
  have hchecks : requestChecks busyHolder 5 [(2 : Nat)] =
      .error (vault.err .maxParticipationsPerHolderReached) :=
    failure_eq_some.mp (by decide +kernel)
  refine ⟨vaultAfter_reachable (fun _ _ _ => trivial) (by decide +kernel), hok,
    by decide +kernel, fun hagree => ?_⟩
  obtain ⟨x, hx⟩ := hagree.ok_iff.mp hok
  rw [hchecks] at hx
  cases hx

end Thxnet.Rwa
