import Thxnet.Rwa.Holders
import Thxnet.Rwa.Schedule

/-!
# The queue of requests

An asset whose policy asks for it keeps a queue of the participations that wait
for approval.  `Queued` says that the queue is exact: until the asset retires it
lists every waiting participation once and nothing else, and from then on it is
empty.

Two calls take entries out by refunding them: `reject_participation` one, and
`batch_reject_pending` all.  The batch does what the single calls would do one
after the other (`InStep.round`), so it keeps the queue exact as they do, and
`batch_equals_sequential` says so of every reachable state.
-/

namespace Thxnet.Rwa

open Thxnet.Lib Thxnet.Frame

variable {R : Config}

/-! ## The queue -/

/-- The participation waits for approval. -/
def Books.Waits (b : Books R) (id pid : Nat) : Prop :=
  ∃ p, (b.participations id).get pid = some p ∧ p.status = .pendingApproval

/-- The queues are exact. -/
structure Queued (b : Books R) : Prop where
  nodup : ∀ id, (b.pendingApprovals id).toList.Nodup
  mem : ∀ id pid, pid ∈ (b.pendingApprovals id).toList ↔
    b.Waits id pid ∧ b.status id ≠ some .retired

variable {b b' : Books R} {id pid : Nat} {p : Participation R}

theorem not_waits (hp : (b.participations id).get pid = some p)
    (hst : p.status ≠ .pendingApproval) : ¬ b.Waits id pid := by
  rintro ⟨p', hp', hpending⟩
  cases hp.symm.trans hp'
  exact hst hpending

theorem waits_insert
    (hpart : b'.participations = b.participations.insert id pid p)
    (hst : p.status ≠ .pendingApproval) (i q : Nat) :
    b'.Waits i q ↔ b.Waits i q ∧ ¬ (i = id ∧ q = pid) := by
  by_cases hi : i = id ∧ q = pid
  · obtain ⟨rfl, rfl⟩ := hi
    have hself : (b'.participations i).get q = some p := by
      rw [hpart, StorageDoubleMap.insert_self, StorageMap.get_insert_self]
    exact iff_of_false (not_waits hself hst) fun hand => hand.2 ⟨rfl, rfl⟩
  · unfold Books.Waits
    rw [hpart, StorageDoubleMap.get_insert_ne _ _ hi]
    exact (and_iff_left hi).symm

theorem waits_insert_pending
    (hpart : b'.participations = b.participations.insert id pid p)
    (hst : p.status = .pendingApproval) (i q : Nat) :
    b'.Waits i q ↔ b.Waits i q ∨ (i = id ∧ q = pid) := by
  by_cases hi : i = id ∧ q = pid
  · obtain ⟨rfl, rfl⟩ := hi
    refine iff_of_true ⟨p, ?_, hst⟩ (.inr ⟨rfl, rfl⟩)
    rw [hpart, StorageDoubleMap.insert_self, StorageMap.get_insert_self]
  · unfold Books.Waits
    rw [hpart, StorageDoubleMap.get_insert_ne _ _ hi]
    exact (or_iff_left hi).symm

theorem waits_remove
    (hpart : b'.participations = b.participations.remove id pid) (i q : Nat) :
    b'.Waits i q ↔ b.Waits i q ∧ ¬ (i = id ∧ q = pid) := by
  unfold Books.Waits
  by_cases hi : i = id ∧ q = pid
  · obtain ⟨rfl, rfl⟩ := hi
    rw [hpart, StorageDoubleMap.remove_self, StorageMap.get_remove_self]
    refine iff_of_false ?_ fun hand => hand.2 ⟨rfl, rfl⟩
    rintro ⟨_, hnone, _⟩
    cases hnone
  · rw [hpart, StorageDoubleMap.get_remove_ne _ hi]
    exact (and_iff_left hi).symm

theorem Sound.fresh (h : Sound b) (id : Nat) :
    ¬ b.Waits id (b.nextParticipationId id) := by
  rintro ⟨p, hp, _⟩
  have hnone := h.entries id _ (Nat.le_refl _)
  rw [Books.entry_of_get hp] at hnone
  cases hnone

theorem Participation.Running.not_pending {now : Nat} (h : p.Running now) :
    p.status ≠ .pendingApproval := by
  intro hst
  have hactive := h.1
  rw [hst] at hactive
  cases hactive

/-! ## What the other calls do to it -/

section Moves

variable {b b' : Books R}

theorem Queued.assets (h : Queued b)
    (hqueue : b'.pendingApprovals = b.pendingApprovals)
    (hpart : b'.participations = b.participations)
    (hretired : ∀ i, b'.status i = some .retired ↔
      b.status i = some .retired) : Queued b' := by
  refine ⟨fun i => hqueue ▸ h.nodup i, fun i q => ?_⟩
  rw [hqueue, h.mem i q, ne_eq, ne_eq, hretired i]
  unfold Books.Waits
  rw [hpart]

/-- Nothing that the queues depend on has changed. -/
theorem Queued.congr (h : Queued b)
    (hqueue : b'.pendingApprovals = b.pendingApprovals)
    (hpart : b'.participations = b.participations)
    (hstatus : ∀ i, b'.status i = b.status i) : Queued b' :=
  h.assets hqueue hpart fun i => by rw [hstatus i]

variable {a : Action R} {asset : AssetInfo R} {id pid : Nat}
    {p : Participation R}

/-- The status of one asset has been set, and it was not and is not retired. -/
theorem Queued.set (h : Queued b)
    (hqueue : b'.pendingApprovals = b.pendingApprovals)
    (hpart : b'.participations = b.participations)
    (hold : b.status id ≠ some .retired)
    (hself : b'.status id ≠ some .retired)
    (hne : ∀ i, i ≠ id → b'.status i = b.status i) : Queued b' := by
  refine h.assets hqueue hpart fun i => ?_
  by_cases hi : i = id
  · subst hi
    exact iff_of_false hself hold
  · rw [hne i hi]

/-- A participation is rewritten that does not wait, or no longer counts. -/
theorem Queued.rewritten (h : Queued b)
    (hqueue : b'.pendingApprovals = b.pendingApprovals)
    (hstatus : ∀ i, b'.status i = b.status i)
    (hpart : b'.participations = b.participations.insert id pid p)
    (hold : ¬ b.Waits id pid ∨ b.status id = some .retired)
    (hnew : p.status ≠ .pendingApproval) : Queued b' := by
  refine ⟨fun i => hqueue ▸ h.nodup i, fun i q => ?_⟩
  rw [hqueue, h.mem i q, hstatus i]
  refine and_congr_left fun hlive => ?_
  rw [waits_insert hpart hnew i q]
  refine (and_iff_left_of_imp fun hwaits hi => ?_).symm
  obtain ⟨rfl, rfl⟩ := hi
  exact hold.resolve_right hlive hwaits

/-- The queue of one asset is rewritten, and stays exact. -/
theorem Queued.requeued (h : Queued b)
    {queue : BoundedVec Nat R.maxPendingApprovals}
    (hqueue : b'.pendingApprovals = Function.update b.pendingApprovals id queue)
    (hnodup : queue.toList.Nodup)
    (hmem : ∀ q, q ∈ queue.toList ↔ b'.Waits id q ∧ b'.status id ≠ some
      .retired) (hwaits : ∀ i q, i ≠ id → (b'.Waits i q ↔ b.Waits i q))
    (hstatus : ∀ i, i ≠ id → b'.status i = b.status i) : Queued b' := by
  refine ⟨fun i => ?_, fun i q => ?_⟩
  · rw [hqueue]
    by_cases hi : i = id
    · rw [hi, Function.update_self]
      exact hnodup
    · rw [Function.update_of_ne hi]
      exact h.nodup i
  · rw [hqueue]
    by_cases hi : i = id
    · rw [hi, Function.update_self]
      exact hmem q
    · rw [Function.update_of_ne hi, h.mem i q, hwaits i q hi, hstatus i hi]

theorem Queued.markRetired (h : Queued b) (id : Nat) (asset : AssetInfo R) :
    Queued (b.markRetired id asset) := by
  have hself : (b.markRetired id asset).status id = some .retired :=
    status_insert_self rfl rfl
  apply h.requeued (rfl : (b.markRetired id asset).pendingApprovals =
    Function.update b.pendingApprovals id .empty) List.nodup_nil
  · intro q
    exact iff_of_false (fun hmem => by cases hmem) fun hand => hand.2 hself
  · exact fun _ _ _ => Iff.rfl
  · exact status_insert_ne rfl

theorem Queued.enqueued (h : Queued b) (hnew : ¬ b.Waits id pid)
    (hlive : b.status id ≠ some .retired)
    (hroom : (b.pendingApprovals id).toList.length < R.maxPendingApprovals)
    (hwaits : ∀ i q, b'.Waits i q ↔ b.Waits i q ∨ (i = id ∧ q = pid))
    (hstatus : ∀ i, b'.status i = b.status i)
    (hqueue : b'.pendingApprovals = Function.update b.pendingApprovals id
      ((b.pendingApprovals id).push pid)) : Queued b' := by
  have hpush : ((b.pendingApprovals id).push pid).toList =
      (b.pendingApprovals id).toList ++ [pid] := BoundedVec.toList_push hroom
  have hnot : pid ∉ (b.pendingApprovals id).toList :=
    fun hmem => hnew ((h.mem id pid).mp hmem).1
  apply h.requeued hqueue
  · rw [hpush]
    simpa using (h.nodup id).concat hnot
  · intro q
    rw [hpush, List.mem_append, List.mem_singleton, h.mem id q, hwaits id q,
      hstatus id]
    tauto
  · intro i q hi
    rw [hwaits i q]
    exact or_iff_left fun hself => hi hself.1
  · exact fun i _ => hstatus i

theorem Queued.dequeued (h : Queued b)
    (hwaits : ∀ i q, b'.Waits i q ↔ b.Waits i q ∧ ¬ (i = id ∧ q = pid))
    (hstatus : ∀ i, b'.status i = b.status i)
    (hqueue : b'.pendingApprovals = b.pendingApprovals) :
    Queued (b'.dequeued id pid) := by
  have hwaits' : ∀ i q, (b'.dequeued id pid).Waits i q ↔
      b.Waits i q ∧ ¬ (i = id ∧ q = pid) := hwaits
  have hstatus' : ∀ i, (b'.dequeued id pid).status i = b.status i := hstatus
  have hqueue' : (b'.dequeued id pid).pendingApprovals =
      Function.update b.pendingApprovals id
        ((b.pendingApprovals id).removeFirst pid) := by
    rw [← hqueue]
    rfl
  apply h.requeued hqueue'
  · exact (h.nodup id).erase pid
  · intro q
    rw [BoundedVec.toList_removeFirst, (h.nodup id).mem_erase_iff, h.mem id q,
      hwaits' id q, hstatus' id]
    tauto
  · intro i q hi
    rw [hwaits' i q]
    exact and_iff_left fun hself => hi hself.1
  · exact fun i _ => hstatus' i

/-- A new participation is queued exactly if it waits. -/
theorem Queued.requested (h : Queued b)
    (hfresh : ¬ b.Waits id (b.nextParticipationId id))
    (hget : b.rwaAssets.get id = some asset) (hst : asset.status = .active)
    (hpending : p.status = .pendingApproval ↔ asset.policy.requiresApproval =
      true)
    (hroom : asset.policy.requiresApproval = true → (b.pendingApprovals
      id).toList.length < R.maxPendingApprovals) :
    Queued (b.requested id asset p) := by
  have hstatus : ∀ i, (b.requested id asset p).status i = b.status i :=
    status_modify hget rfl rfl
  have hpart : (b.requested id asset p).participations =
      b.participations.insert id (b.nextParticipationId id) p := rfl
  by_cases hreq : asset.policy.requiresApproval = true
  · have hlive : b.status id ≠ some .retired := by
      rw [Books.status_of_get hget, hst]
      exact fun heq => by cases heq
    exact h.enqueued hfresh hlive (hroom hreq)
      (waits_insert_pending hpart (hpending.mpr hreq)) hstatus (if_pos hreq)
  · exact h.rewritten (if_neg hreq) hstatus hpart (.inl hfresh)
      fun hpend => hreq (hpending.mp hpend)

/-- Whether a call takes requests out of a queue with a refund. -/
def Action.rejects : Action R → Bool
  | .call _ _ (.rejectParticipation _ _) => true
  | .call _ _ (.batchRejectPending _) => true
  | _ => false

theorem Action.rejects_cases (h : a.rejects = true) :
    (∃ g o id pid, a = .call g o (.rejectParticipation id pid)) ∨
      ∃ g o id, a = .call g o (.batchRejectPending id) := by
  unfold Action.rejects at h
  split at h
  · next g o id pid => exact .inl ⟨g, o, id, pid, rfl⟩
  · next g o id => exact .inr ⟨g, o, id, rfl⟩
  · cases h

/-- What ends does not wait, unless the asset has retired. -/
theorem Ending.not_waiting {now amount : Nat} {status : ParticipationStatus}
    (h : Ending a now id pid p asset status amount) :
    status ≠ .pendingApproval ∧
      (p.status ≠ .pendingApproval ∨ asset.status = .retired) := by
  cases h with
  | expired _ hlapsed =>
      refine ⟨(fun heq => by cases heq), .inl fun hst => ?_⟩
      rw [Participation.lapsed, hst] at hlapsed
      cases hlapsed
  | exited _ hrun => exact ⟨(fun heq => by cases heq), .inl hrun.not_pending⟩
  | claimed _ hretired => exact ⟨(fun heq => by cases heq), .inr hretired⟩
  | revoked _ _ hrun => exact ⟨(fun heq => by cases heq), .inl hrun.not_pending⟩

theorem AssetPolicy.term_ne_pending (policy : AssetPolicy R) (now : Nat) :
    policy.term now ≠ .pendingApproval :=
  fun h => by cases h

private theorem ne_retired (hget : b.rwaAssets.get id = some asset)
    (hstay : asset.status.isLeaving = false) : b.status id ≠ some .retired := by
  rw [Books.status_of_get hget]
  intro heq
  cases heq' : asset.status <;> rw [heq'] at heq hstay <;> cases heq
  cases hstay

/-- Every move of another call keeps the queues exact. -/
theorem Queued.move {now : Nat} (h : Queued b) (hsound : Sound b)
    (hmove : Move a now b b') (ha : a.rejects = false) : Queued b' := by
  cases hmove with
  | outside | slashDistributionSet | ownerProposed | ownerCancelled =>
      exact h.congr rfl rfl fun _ => rfl
  | initialized =>
      refine Books.initialized_induct (I := Queued) ?_ ?_
      · exact h.congr rfl rfl fun _ => rfl
      · intro b₁ id asset _ hb₁ _ _
        exact hb₁.markRetired id asset
  | registered =>
      have hold : b.status b.nextRwaAssetId ≠ some .retired := by
        rw [hsound.status_next]
        exact fun heq => by cases heq
      refine h.set rfl rfl hold ?_ (status_insert_ne rfl)
      rw [status_insert_self rfl rfl]
      exact fun heq => by cases heq
  | policyUpdated _ hget | beneficiarySet _ hget | metadataSet _ hget =>
      exact h.congr rfl rfl (status_insert hget rfl rfl)
  | statusSet hget hmove =>
      refine h.set rfl rfl (ne_retired hget hmove.stays) ?_
        (status_insert_ne rfl)
      rw [status_insert_self rfl rfl]
      intro heq
      cases hmove <;> cases heq
  | sunset _ hget hst =>
      refine h.set rfl rfl (ne_retired hget ?_) ?_ (status_insert_ne rfl)
      · rcases hst with hst | hst <;> (rw [hst]; rfl)
      · rw [status_insert_self rfl rfl]
        exact fun heq => by cases heq
  | @retired _ _ id asset =>
      refine Queued.markRetired ?_ id asset
      unfold Books.dropSchedule
      split
      · exact h.congr rfl rfl fun _ => rfl
      · exact h
  | @requested _ payer id asset group w _ hget hst _ _ _ _ _ hroom =>
      have hb : Queued { b with world := w } := h.congr rfl rfl fun _ => rfl
      refine hb.requested (hsound.fresh id) hget hst ?_ hroom
      unfold AssetInfo.newParticipation
      by_cases hreq : asset.policy.requiresApproval = true
      · simp [hreq]
      · simp [hreq, AssetPolicy.term]
  | approved =>
      exact h.dequeued (waits_insert rfl (AssetPolicy.term_ne_pending _ _))
        (fun _ => rfl) rfl
  | rejected hcall => rcases hcall with rfl | rfl <;> cases ha
  | requeued hcall => rcases hcall with ⟨_, rfl⟩ | rfl <;> cases ha
  | closed hget hp hend =>
      obtain ⟨hnew, hold⟩ := hend.not_waiting
      refine h.rewritten rfl (status_modify hget rfl rfl) rfl ?_ hnew
      exact hold.imp (not_waits hp) fun hretired => by
        rw [Books.status_of_get hget, hretired]
  | leftLast _ hget hp hrun =>
      exact h.rewritten rfl (status_modify hget rfl rfl) rfl
        (.inl (not_waits hp hrun.not_pending)) fun heq => by cases heq
  | slashed _ _ _ hget hp hrun =>
      exact h.rewritten rfl (status_modify hget rfl rfl) rfl
        (.inl (not_waits hp hrun.not_pending)) fun heq => by cases heq
  | renewed _ hget _ hp hrun =>
      exact h.rewritten rfl (fun _ => rfl) rfl
        (.inl (not_waits hp hrun.not_pending)) (AssetPolicy.term_ne_pending _ _)
  | reopened _ hget _ hp hexpired =>
      refine h.rewritten rfl (status_modify hget rfl rfl) rfl
        (.inl (not_waits hp ?_)) (AssetPolicy.term_ne_pending _ _)
      rw [hexpired]
      exact fun heq => by cases heq
  | holderAdded _ hget hp hrun | holderDropped _ hget hp hrun =>
      exact h.rewritten rfl (fun _ => rfl) rfl
        (.inl (not_waits hp hrun.not_pending)) hrun.not_pending
  | ownerAccepted _ _ hget => exact h.congr rfl rfl (status_insert hget rfl rfl)
  | payerChanged _ hget _ hp hrun =>
      exact h.rewritten rfl (fun _ => rfl) rfl
        (.inl (not_waits hp hrun.not_pending)) hrun.not_pending

end Moves

/-! ## Rejections -/

variable {asset : AssetInfo R} {b : Books R} {id pid : Nat}
    {o : Origin R.AccountId} {s s' u : State R}

theorem ensureAssetOwnerOrAdmin_eq_ok {u : Unit} :
    ensureAssetOwnerOrAdmin s o id = .ok u ↔
      ∃ asset, s.rwaAssets.get id = some asset ∧
        (R.adminOrigin o = true ∨ o = .signed asset.owner) := by
  unfold ensureAssetOwnerOrAdmin
  by_cases hadmin : R.adminOrigin o = true
  · rw [if_pos hadmin, ensure_eq_ok, Option.isSome_iff_exists]
    simp only [hadmin, true_or, and_true]
  · rw [if_neg hadmin]
    simp only [do_eq_ok, ensureSigned_eq_ok]
    constructor
    · rintro ⟨_, hwho, asset, hget, rfl⟩
      exact ⟨asset, hget, .inr hwho⟩
    · rintro ⟨asset, hget, hwho⟩
      exact ⟨asset.owner, hwho.resolve_left hadmin, asset, hget, rfl⟩

/-- The books after one request has been refunded and dropped. -/
def Books.rejected (b : Books R) (w : R.World) (id pid : Nat)
    (p : Participation R) : Books R :=
  ({ b with world := w }.withoutPending id pid p).dequeued id pid

theorem rejectParticipation_eq_ok
    (h : rejectParticipation s o id pid = .ok s') :
    ∃ p asset w, (s.participations id).get pid = some p ∧
      p.status = .pendingApproval ∧ s.rwaAssets.get id = some asset ∧
      doTransfer s.world asset.policy.depositCurrency R.palletAccount p.payer
        p.pendingTotal = .ok w ∧
      s'.toBooks = s.toBooks.rejected w id pid p := by
  simp only [rejectParticipation, do_eq_ok] at h
  obtain ⟨_, _, p, hp, hpending, asset, hget, w, hpay, rfl⟩ := h
  exact ⟨p, asset, w, hp, hpending, hget, hpay, rfl⟩

theorem status_rejected (hget : b.rwaAssets.get id = some asset) (w : R.World)
    (pid : Nat) (p : Participation R) (i : Nat) :
    (b.rejected w id pid p).status i = b.status i :=
  status_modify hget rfl rfl i

theorem Queued.rejected (h : Queued b)
    (hget : b.rwaAssets.get id = some asset) (w : R.World) (pid : Nat)
    (p : Participation R) : Queued (b.rejected w id pid p) :=
  h.dequeued (waits_remove rfl) (status_rejected hget w pid p) rfl

/-- The single call that rejects a request. -/
def rejection (g : LifecycleGuard) (o : Origin R.AccountId) (id pid : Nat) :
    Action R :=
  .call g o (.rejectParticipation id pid)

/-- What the single call does to a request that waits depends on the refund
only. -/
theorem attempt_rejection (g : LifecycleGuard)
    (hget : u.rwaAssets.get id = some asset)
    (hwho : R.adminOrigin o = true ∨ o = .signed asset.owner)
    (hp : (u.participations id).get pid = some p)
    (hpending : p.status = .pendingApproval) :
    (Transition.attempt step u (rejection g o id pid)).toBooks =
      match doTransfer u.world asset.policy.depositCurrency R.palletAccount
          p.payer p.pendingTotal with
      | .ok w => u.toBooks.rejected w id pid p
      | .error _ => u.toBooks := by
  have hauth : ensureAssetOwnerOrAdmin u o id = .ok () :=
    ensureAssetOwnerOrAdmin_eq_ok.mpr ⟨asset, hget, hwho⟩
  have hcall : step u (rejection g o id pid) =
      (doTransfer u.world asset.policy.depositCurrency R.palletAccount p.payer
        p.pendingTotal).map fun w =>
          (u.put (u.toBooks.rejected w id pid p)).depositEvent
            (.participationRejected id pid p.depositHeld p.entryFeePaid) := by
    show rejectParticipation u o id pid = _
    unfold rejectParticipation
    rw [hauth, hp, hget]
    simp only [okOr, ensure_bind]
    show (if p.status = .pendingApproval then _ else _) = _
    rw [if_pos hpending]
    show (doTransfer u.world asset.policy.depositCurrency R.palletAccount
      p.payer p.pendingTotal >>= _) = _
    cases doTransfer u.world asset.policy.depositCurrency R.palletAccount
      p.payer p.pendingTotal with
    | ok w => rfl
    | error e => rfl
  unfold Transition.attempt
  rw [hcall]
  cases doTransfer u.world asset.policy.depositCurrency R.palletAccount p.payer
    p.pendingTotal with
  | ok w => rfl
  | error e => rfl

/-! ## The batch against the single calls -/

/-- The books with another queue. -/
def Books.withQueue (b : Books R) (id : Nat)
    (queue : BoundedVec Nat R.maxPendingApprovals) : Books R :=
  { b with pendingApprovals := Function.update b.pendingApprovals id queue }

theorem rejected_withQueue (b : Books R)
    (queue : BoundedVec Nat R.maxPendingApprovals) (w : R.World) (pid : Nat)
    (p : Participation R) :
    (b.withQueue id queue).rejected w id pid p =
      ({ b with world := w }.withoutPending id pid p).withQueue id
        (queue.removeFirst pid) := by
  simp only [Books.rejected, Books.dequeued, Books.withQueue,
    Books.withoutPending, Books.removeAllHolderIndexes,
    Books.decParticipantCount, Function.update_self, Function.update_idem]

/-- `rejectPending` has done to the books, for the requests before `rest`, what
single calls by `o` have done to the state `u`, but for the queue, which the
batch writes at the end. -/
structure InStep (o : Origin R.AccountId) (id : Nat)
    (currency : PaymentCurrency R.AssetId) (t : BatchState R)
    (rest : List Nat) (u : State R) : Prop where
  asset : ∃ asset, t.books.rwaAssets.get id = some asset ∧
    asset.policy.depositCurrency = currency ∧
    (R.adminOrigin o = true ∨ o = .signed asset.owner)
  queued : Queued u.toBooks
  books : ∃ queue : BoundedVec Nat R.maxPendingApprovals,
    queue.toList = t.retained ++ rest ∧ u.toBooks = t.books.withQueue id queue

variable {currency : PaymentCurrency R.AssetId}

/-- One round of the loop does what one call does. -/
theorem InStep.round {t : BatchState R} {rest : List Nat} (g : LifecycleGuard)
    (h : InStep o id currency t (pid :: rest) u) :
    InStep o id currency (rejectPending id currency t pid) rest
      (Transition.attempt step u (rejection g o id pid)) := by
  obtain ⟨asset, hget, hcurrency, hwho⟩ := h.asset
  obtain ⟨queue, hqueue, hbooks⟩ := h.books
  have hwrite : u.pendingApprovals id = queue := by
    rw [hbooks]
    exact Function.update_self ..
  have hnodup : (t.retained ++ pid :: rest).Nodup := by
    rw [← hqueue, ← hwrite]
    exact h.queued.nodup id
  have hmem : pid ∈ (u.pendingApprovals id).toList := by
    rw [hwrite, hqueue]
    simp
  obtain ⟨⟨p, hp, hpending⟩, _⟩ := (h.queued.mem id pid).mp hmem
  have hget' : u.rwaAssets.get id = some asset := by
    rw [hbooks]
    exact hget
  have hp' : (t.books.participations id).get pid = some p := by
    rw [hbooks] at hp
    exact hp
  have hworld : u.world = t.books.world := by
    rw [hbooks]
    rfl
  have hcall := attempt_rejection g hget' hwho hp hpending
  rw [hworld, hcurrency] at hcall
  unfold rejectPending
  rw [hp']
  dsimp only
  rw [if_neg (not_not.mpr hpending)]
  cases hpay : doTransfer t.books.world currency R.palletAccount p.payer
    p.pendingTotal with
  | ok w =>
      rw [hpay] at hcall
      refine ⟨⟨{ asset with participantCount := asset.participantCount - 1 },
        ?_, hcurrency, hwho⟩, ?_, queue.removeFirst pid, ?_, ?_⟩
      · show (t.books.rwaAssets.modify id _).get id = _
        rw [StorageMap.get_modify_self, hget]
        rfl
      · rw [hcall]
        exact h.queued.rejected hget' w pid p
      · have hnot : pid ∉ t.retained := fun hin =>
          (List.nodup_cons.mp (List.nodup_middle.mp hnodup)).1
            (List.mem_append_left _ hin)
        rw [BoundedVec.toList_removeFirst, hqueue,
          List.erase_append_right _ hnot, List.erase_cons_head]
      · rw [hcall, hbooks]
        exact rejected_withQueue t.books queue w pid p
  | error e =>
      rw [hpay] at hcall
      refine ⟨⟨asset, hget, hcurrency, hwho⟩, ?_, queue, ?_, ?_⟩
      · rw [hcall]
        exact h.queued
      · rw [hqueue]
        simp
      · rw [hcall, hbooks]

/-- So the loop has done to the requests before `rest` what the single calls
do one after the other. -/
theorem InStep.loop (g : LifecycleGuard) (pids rest : List Nat)
    {t : BatchState R} (h : InStep o id currency t (pids ++ rest) u) :
    InStep o id currency (pids.foldl (rejectPending id currency) t) rest
      (Transition.settle step u (pids.map (rejection g o id))) := by
  induction pids generalizing t u with
  | nil => exact h
  | cons pid pids ih => exact ih (h.round g)

theorem InStep.start (hq : Queued s.toBooks)
    (hget : s.rwaAssets.get id = some asset)
    (hwho : R.adminOrigin o = true ∨ o = .signed asset.owner) :
    InStep o id asset.policy.depositCurrency ⟨s.toBooks, 0, []⟩
      (s.pendingApprovals id).toList s := by
  refine ⟨⟨asset, hget, rfl, hwho⟩, hq, s.pendingApprovals id, rfl, ?_⟩
  unfold Books.withQueue
  rw [Function.update_eq_self]

/-- The batch call succeeds and leaves the books as the single calls do. -/
theorem batchRejectPending_settles (g : LifecycleGuard)
    (hq : Queued s.toBooks) (ho : ensureAssetOwnerOrAdmin s o id = .ok ()) :
    ∃ s', batchRejectPending s o id = .ok s' ∧ Queued s'.toBooks ∧
      s'.toBooks = (Transition.settle step s
        ((s.pendingApprovals id).toList.map (rejection g o id))).toBooks := by
  obtain ⟨asset, hget, hwho⟩ := ensureAssetOwnerOrAdmin_eq_ok.mp ho
  have hend := InStep.loop g (s.pendingApprovals id).toList []
    (by rw [List.append_nil]; exact .start hq hget hwho)
  obtain ⟨queue, hqueue, hbooks⟩ := hend.books
  rw [List.append_nil] at hqueue
  generalize ht : (s.pendingApprovals id).toList.foldl
    (rejectPending id asset.policy.depositCurrency) ⟨s.toBooks, 0, []⟩ = t
    at hqueue hbooks
  have hcall : batchRejectPending s o id =
      .ok ((s.put (t.books.withQueue id queue)).depositEvent
        (.batchPendingRejected id t.rejected)) := by
    unfold batchRejectPending
    rw [ho, hget]
    show (okOr (BoundedVec.tryFrom (BatchState.retained (List.foldl _ _ _))) _
      >>= _) = _
    rw [ht, ← hqueue, BoundedVec.tryFrom_toList]
    rfl
  refine ⟨_, hcall, ?_, hbooks.symm⟩
  show Queued (t.books.withQueue id queue)
  rw [← hbooks]
  exact hend.queued

theorem batchRejectPending_authorised (h : batchRejectPending s o id = .ok s') :
    ensureAssetOwnerOrAdmin s o id = .ok () := by
  simp only [batchRejectPending, bind_eq_ok] at h
  obtain ⟨_, hauth, _⟩ := h
  exact hauth

theorem queued_of_reachable {ok : State R → Action R → Prop}
    (h : Reachable ok s) : Queued s.toBooks := by
  refine Transition.Reach.invariant (I := fun s : State R => Queued s.toBooks)
    ?_ ?_ h
  · rintro s ⟨world, now, rfl⟩
    exact ⟨fun _ => List.nodup_nil, fun _ _ => iff_of_false
      (fun hmem => by cases hmem) (fun ⟨⟨_, hnone, _⟩, _⟩ => by cases hnone)⟩
  · intro s a s' hs hq _ hstep
    cases ha : a.rejects with
    | false =>
        refine (step_induct (J := fun b => Sound b ∧ Queued b) hstep ?_
          ⟨sound_of_reachable hs, hq⟩).2
        rintro b b' hmove ⟨hsound, hb⟩
        exact ⟨hsound.change hmove.change, hb.move hsound hmove ha⟩
    | true =>
        rcases Action.rejects_cases ha with ⟨g, o, id, pid, rfl⟩ |
          ⟨g, o, id, rfl⟩
        · obtain ⟨p, asset, w, _, _, hget, _, hbooks⟩ :=
            rejectParticipation_eq_ok hstep
          rw [hbooks]
          exact hq.rejected hget w pid p
        · have ho := batchRejectPending_authorised hstep
          obtain ⟨s₁, hbatch, hq₁, _⟩ := batchRejectPending_settles g hq ho
          cases hbatch.symm.trans hstep
          exact hq₁

theorem Queued.retired (h : Queued b) (hst : b.status id = some .retired) :
    (b.pendingApprovals id).toList = [] := by
  rw [List.eq_nil_iff_forall_not_mem]
  intro pid hmem
  exact ((h.mem id pid).mp hmem).2 hst

/-- The push of a request that waits succeeds, and the queue is what it
returns. -/
theorem requestParticipation_push {holders : List R.AccountId}
    (hget : s.rwaAssets.get id = some asset)
    (hreq : asset.policy.requiresApproval = true)
    (h : requestParticipation s o id holders = .ok s') :
    (s.pendingApprovals id).tryPush (s.nextParticipationId id) =
      some (s'.pendingApprovals id) := by
  simp only [requestParticipation, do_eq_ok] at h
  obtain ⟨payer, _, asset₁, hget₁, _, _, _, _, _, _, _, _, _, _, _, hroom, w, _,
    _, rfl⟩ := h
  cases hget.symm.trans hget₁
  obtain ⟨queue, hpush⟩ := BoundedVec.tryPush_isSome
    (s.nextParticipationId id) (hroom hreq)
  have hqueue : ((s.pendingApprovals id).push (s.nextParticipationId id)) =
      queue := by
    rw [BoundedVec.push, hpush, Option.getD_some]
  rw [if_pos hreq, hpush, ← hqueue]
  congr 1
  show _ = (if asset.policy.requiresApproval then
    Function.update s.pendingApprovals id
      ((s.pendingApprovals id).push (s.nextParticipationId id))
    else s.pendingApprovals) id
  rw [if_pos hreq, Function.update_self]

/-- In every reachable state the queue of an asset that is not retired lists,
without repetition, exactly its participations that wait for approval; the
queue of a retired asset is empty; and a request that has to wait finds room in
the queue. -/
theorem queue_exact {ok : State R → Action R → Prop} {s : State R}
    (h : Reachable ok s) (id : Nat) :
    (s.toBooks.status id ≠ some .retired →
      (s.pendingApprovals id).toList.Nodup ∧
      ∀ pid, pid ∈ (s.pendingApprovals id).toList ↔
        ∃ p, (s.participations id).get pid = some p ∧
          p.status = .pendingApproval) ∧
    (s.toBooks.status id = some .retired →
      (s.pendingApprovals id).toList = []) ∧
    ∀ g o holders asset s',
      s.rwaAssets.get id = some asset →
      asset.policy.requiresApproval = true →
      step s (.call g o (.requestParticipation id holders)) = .ok s' →
      (s.pendingApprovals id).tryPush (s.nextParticipationId id) =
        some (s'.pendingApprovals id) := by
  have hq := queued_of_reachable h
  refine ⟨fun hlive => ⟨hq.nodup id, fun pid => ?_⟩, hq.retired, ?_⟩
  · rw [hq.mem]
    exact ⟨fun hmem => hmem.1, fun hwaits => ⟨hwaits, hlive⟩⟩
  · intro g o holders asset s' hget hreq hstep
    exact requestParticipation_push hget hreq hstep

/-! ## Requests that cannot be refunded -/

/-- A participation that waits, with everything that is recorded of it. -/
structure Books.StillPending (b : Books R) (id pid : Nat)
    (p : Participation R) : Prop where
  record : (b.participations id).get pid = some p
  pending : p.status = .pendingApproval
  queued : pid ∈ (b.pendingApprovals id).toList
  indexed : ∀ h ∈ p.holders.toList, (b.holderIndex id).get h = some pid ∧
    id ∈ (b.holderAssets h).toList

/-- The rejection of another request does not touch a request. -/
theorem attempt_rejection_untouched {q : Nat} (g : LifecycleGuard)
    (hne : pid ≠ q) (u : State R) :
    let u' := Transition.attempt step u (rejection g o id q)
    (u'.participations id).get pid = (u.participations id).get pid ∧
      u'.status id = u.status id := by
  intro u'
  rcases Transition.attempt_cases step u (rejection g o id q) with
    hok | ⟨_, heq⟩
  · obtain ⟨p, asset, w, _, _, hget, _, hbooks⟩ := rejectParticipation_eq_ok hok
    rw [hbooks]
    exact ⟨StorageDoubleMap.get_remove_ne _ fun heq => hne heq.2,
      status_rejected hget w q p id⟩
  · have hsame : u' = u := heq
    rw [hsame]
    exact ⟨rfl, rfl⟩

theorem settle_rejections_untouched (g : LifecycleGuard) {pids : List Nat}
    (hpid : pid ∉ pids) (u : State R) :
    let u' := Transition.settle step u (pids.map (rejection g o id))
    (u'.participations id).get pid = (u.participations id).get pid ∧
      u'.status id = u.status id := by
  induction pids generalizing u with
  | nil => exact ⟨rfl, rfl⟩
  | cons q pids ih =>
      rw [List.mem_cons, not_or] at hpid
      obtain ⟨hrecord, hstatus⟩ := attempt_rejection_untouched g hpid.1 u
      obtain ⟨hrecord', hstatus'⟩ := ih hpid.2 _
      exact ⟨hrecord'.trans hrecord, hstatus'.trans hstatus⟩

/-- A request whose refund fails when its turn comes is kept by the single
calls. -/
theorem settle_rejections_kept {before after : List Nat} {e : DispatchError}
    (g : LifecycleGuard) (hq : Queued s.toBooks)
    (hqueue : (s.pendingApprovals id).toList = before ++ pid :: after)
    (hp : (s.participations id).get pid = some p)
    (hget : s.rwaAssets.get id = some asset)
    (hwho : R.adminOrigin o = true ∨ o = .signed asset.owner)
    (hfail : doTransfer (Transition.settle step s (before.map (rejection g o
      id))).world asset.policy.depositCurrency R.palletAccount p.payer
      p.pendingTotal = .error e) :
    let s' := Transition.settle step s
      ((s.pendingApprovals id).toList.map (rejection g o id))
    (s'.participations id).get pid = some p ∧ p.status = .pendingApproval ∧
      s'.status id ≠ some .retired := by
  have hnodup := hq.nodup id
  rw [hqueue] at hnodup
  have hnot := (List.nodup_cons.mp (List.nodup_middle.mp hnodup)).1
  rw [List.mem_append, not_or] at hnot
  obtain ⟨⟨p', hp', hpending⟩, hlive⟩ :=
    (hq.mem id pid).mp (by rw [hqueue]; simp)
  cases hp.symm.trans hp'
  have hturn := InStep.loop g before (pid :: after)
    (by rw [← hqueue]; exact .start hq hget hwho)
  obtain ⟨hrecord, hstatus⟩ :=
    @settle_rejections_untouched R id pid o g before hnot.1 s
  rw [hqueue, List.map_append, Transition.settle_append, List.map_cons]
  -- `u` is the state when the turn of the request comes.
  generalize Transition.settle step s (before.map (rejection g o id)) = u
    at hturn hrecord hstatus hfail
  obtain ⟨asset', hget', hcurrency, hwho'⟩ := hturn.asset
  obtain ⟨queue, _, hbooks⟩ := hturn.books
  have hasset : u.rwaAssets.get id = some asset' := by
    rw [hbooks]
    exact hget'
  have hkept := attempt_rejection g hasset hwho' (hrecord.trans hp) hpending
  rw [hcurrency, hfail] at hkept
  obtain ⟨hrecord', hstatus'⟩ := @settle_rejections_untouched R id pid o g after
    hnot.2 (Transition.attempt step u (rejection g o id pid))
  rw [hkept] at hrecord' hstatus'
  refine ⟨hrecord'.trans (hrecord.trans hp), hpending, ?_⟩
  intro hretired
  exact hlive (hstatus.symm.trans (hstatus'.symm.trans hretired))

/-- In every reachable state the batch call by the owner or an admin succeeds,
so that its conversion to a bounded vector does not fail, and leaves the books
as the single rejections of the queue do, one after the other and whether they
succeed or not.  A request whose refund fails when its turn comes is kept. -/
theorem batch_equals_sequential {s : State R}
    (hs : Reachable (fun _ _ => True) s) (g : LifecycleGuard)
    {o : Origin R.AccountId} {id : Nat}
    (ho : ensureAssetOwnerOrAdmin s o id = .ok ()) :
    ∃ s', step s (.call g o (.batchRejectPending id)) = .ok s' ∧
      s'.toBooks = (Transition.settle step s
        ((s.pendingApprovals id).toList.map (rejection g o id))).toBooks ∧
      ∀ before pid after p asset e,
        (s.pendingApprovals id).toList = before ++ pid :: after →
        (s.participations id).get pid = some p →
        s.rwaAssets.get id = some asset →
        doTransfer (Transition.settle step s
          (before.map (rejection g o id))).world
          asset.policy.depositCurrency R.palletAccount p.payer p.pendingTotal =
          .error e →
        s'.toBooks.StillPending id pid p := by
  have hq := queued_of_reachable hs
  obtain ⟨s', hbatch, hq', hbooks⟩ := batchRejectPending_settles g hq ho
  have hstep : step s (.call g o (.batchRejectPending id)) = .ok s' := hbatch
  have hindexed := (indexed_of_reachable (hs.step trivial hstep)).1
  refine ⟨s', hstep, hbooks, ?_⟩
  intro before pid after p asset e hqueue hp hget hfail
  obtain ⟨asset', hget', hwho⟩ := ensureAssetOwnerOrAdmin_eq_ok.mp ho
  cases hget.symm.trans hget'
  obtain ⟨hrecord, hpending, hlive⟩ :=
    settle_rejections_kept g hq hqueue hp hget hwho hfail
  rw [← hbooks] at hrecord hlive
  have hheld : s'.held id pid = p.holders.toList :=
    held_of_live hrecord (by rw [hpending]; rfl)
  refine ⟨hrecord, hpending, (hq'.mem id pid).mpr ⟨⟨p, hrecord, hpending⟩,
    hlive⟩, fun h hmem => ?_⟩
  have hindex : (s'.holderIndex id).get h = some pid := by
    rw [hindexed.index, hheld]
    exact hmem
  refine ⟨hindex, (hindexed.assets h id).mpr ?_⟩
  rw [hindex]
  rfl

/-- Two requests wait, and the pallet can refund only one of them. -/
def halfFunded : State vault :=
  vaultAfter
    [registered { defaultPolicy with requiresApproval := true },
      signedBy 2 (.requestParticipation 0 [2]),
      signedBy 3 (.requestParticipation 0 [3]),
      .outside ⟨⟨fun who => if who = 1000 then 60 else 0, fun _ _ => 0⟩,
        fun _ => 0⟩]

theorem halfFunded_reachable : Reachable (fun _ _ => True) halfFunded :=
  vaultAfter_reachable (fun _ _ _ => trivial) (by decide +kernel)

theorem queue_exact_half :
    (∀ pid, pid ∈ (halfFunded.pendingApprovals 0).toList ↔
      ∃ p, (halfFunded.participations 0).get pid = some p ∧
        p.status = .pendingApproval) ∧
      (halfFunded.pendingApprovals 0).toList = [0, 1] :=
  ⟨((queue_exact halfFunded_reachable 0).1 (by decide +kernel)).2,
    by decide +kernel⟩

/-- There the second request is kept. -/
theorem batch_equals_sequential_half :
    ∃ s' p, step halfFunded (signedBy 1 (.batchRejectPending 0)) = .ok s' ∧
      s'.toBooks.StillPending 0 1 p := by
  have hrun : ((halfFunded.participations 0).get 1).any (fun p =>
      (halfFunded.rwaAssets.get 0).any fun asset => (failure (doTransfer
        (Transition.settle step halfFunded
          [rejection .unguarded (.signed 1) 0 0]).world
        asset.policy.depositCurrency vault.palletAccount p.payer
        p.pendingTotal)).isSome) = true := by
    decide +kernel
  obtain ⟨p, hp, hrun⟩ := (Option.any_eq_true _ _).mp hrun
  obtain ⟨asset, hget, hrun⟩ := (Option.any_eq_true _ _).mp hrun
  obtain ⟨e, hfail⟩ := Option.isSome_iff_exists.mp hrun
  obtain ⟨s', hstep, _, hkept⟩ := @batch_equals_sequential vault halfFunded
    halfFunded_reachable .unguarded (.signed 1) 0 (by decide +kernel)
  exact ⟨s', p, hstep, hkept [0] 1 [] p asset e (by decide +kernel) hp hget
    (failure_eq_some.mp hfail)⟩

end Thxnet.Rwa
