import Thxnet.Rwa.Mock
import Thxnet.Rwa.Schedule

/-!
# Deactivation by the owner

The owner takes an asset out of use with `deactivate_asset` and back with
`reactivate_asset`; the admin pauses and unpauses it.  Both write the one
status field: `pause_asset` accepts an inactive asset, the paused status does
not remember that it was inactive, and `unpause_asset` makes it active.

`never_active_iff` says exactly when an execution after a deactivation, and
before the next reactivation, keeps the asset from being active: when no
`unpause_asset` follows a `pause_asset` that found it inactive.
-/

namespace Thxnet.Rwa

open Thxnet.Lib Thxnet.Frame

variable {R : Config}

/-! ## The calls -/

/-- A reactivation of the asset. -/
def Reactivates (id : Nat) (a : Action R) : Prop :=
  ∃ g o, a = .call g o (.reactivateAsset id)

/-- A pause of the asset. -/
def Pauses (id : Nat) (a : Action R) : Prop :=
  ∃ g o, a = .call g o (.pauseAsset id)

/-- An end of a pause of the asset. -/
def Unpauses (id : Nat) (a : Action R) : Prop :=
  ∃ g o, a = .call g o (.unpauseAsset id)

/-- A pause that finds the asset inactive. -/
def PausesInactive (id : Nat) (p : State R × Action R) : Prop :=
  Pauses id p.2 ∧ p.1.toBooks.status id = some .inactive

/-- The asset is not active in any state of the execution. -/
def NeverActive (id : Nat) (t : List (State R × Action R)) (s' : State R) :
    Prop :=
  (∀ p ∈ t, p.1.toBooks.status id ≠ some .active) ∧
    s'.toBooks.status id ≠ some .active

/-! ## One step -/

/-- The statuses an asset can have after the step `a` that does not reactivate
it, from a status other than active. -/
inductive StatusAfter (id : Nat) (a : Action R) (st : AssetStatus) :
    AssetStatus → Prop where
  | same (h : st ≠ .active) : StatusAfter id a st st
  | paused (h : st = .inactive) (ha : Pauses id a) : StatusAfter id a st .paused
  | unpaused (h : st = .paused) (ha : Unpauses id a) :
      StatusAfter id a st .active
  | left {st' : AssetStatus} (h : st'.isLeaving = true) :
      StatusAfter id a st st'

variable {a : Action R} {st : AssetStatus} {id : Nat} {s s' : State R}

private theorem not_pauses_of_unpauses (h : Unpauses id a) : ¬ Pauses id a := by
  obtain ⟨g, o, rfl⟩ := h
  rintro ⟨g', o', h⟩
  cases h

/-- What a status change of the asset does to a status the step can have. -/
private theorem StatusAfter.set {asset : AssetInfo R} {st' : AssetStatus}
    (hno : ¬ Reactivates id a) (h : StatusAfter id a st asset.status)
    (hmove : StatusMove a id asset st') : StatusAfter id a st st' := by
  cases hmove with
  | @deactivated g ha hst =>
      rw [hst] at h
      cases h with
      | same hne => exact absurd rfl hne
      | unpaused _ hun =>
          obtain ⟨g', o', ha'⟩ := hun
          cases ha.symm.trans ha'
      | left hl => cases hl
  | @reactivated g ha => exact absurd ⟨g, _, ha⟩ hno
  | @paused g o ha _ hst =>
      have hpauses : Pauses id a := ⟨g, o, ha⟩
      rcases hst with hst | hst <;> rw [hst] at h
      · cases h with
        | same hne => exact absurd rfl hne
        | unpaused _ hun => exact absurd hpauses (not_pauses_of_unpauses hun)
        | left hl => cases hl
      · cases h with
        | same => exact .paused rfl hpauses
        | left hl => cases hl
  | @unpaused g o ha _ hst =>
      have hunpauses : Unpauses id a := ⟨g, o, ha⟩
      rw [hst] at h
      cases h with
      | same => exact .unpaused rfl hunpauses
      | paused _ hp => exact absurd hp (not_pauses_of_unpauses hunpauses)
      | left hl => cases hl

private theorem StatusAfter.change {now : Nat} {b b' : Books R}
    {st₁ : AssetStatus} (hsound : Sound b) (hno : ¬ Reactivates id a)
    (hst : b.status id = some st₁) (h : StatusAfter id a st st₁)
    (hc : StatusChange a now b b') :
    ∃ st', b'.status id = some st' ∧ StatusAfter id a st st' := by
  cases hc with
  | kept hstatus => exact ⟨st₁, (hstatus id).trans hst, h⟩
  | initialized _ hb =>
      rw [hb, status_initialized, hst]
      by_cases hmem : id ∈ (b.sunsettingAssets now).toList
      · exact ⟨.retired, if_pos hmem, .left rfl⟩
      · exact ⟨st₁, if_neg hmem, h⟩
  | registered _ hne =>
      have hid : id ≠ b.nextRwaAssetId := by
        rintro rfl
        cases hsound.status_next.symm.trans hst
      exact ⟨st₁, (hne id hid).trans hst, h⟩
  | @set i asset st' hget hmove hself hne =>
      by_cases hid : id = i
      · subst hid
        cases (Books.status_of_get hget).symm.trans hst
        exact ⟨st', hself, h.set hno hmove⟩
      · exact ⟨st₁, (hne id hid).trans hst, h⟩
  | @sunset i expiryBlock asset _ _ _ _ hself hne =>
      by_cases hid : id = i
      · exact ⟨_, hid ▸ hself, .left rfl⟩
      · exact ⟨st₁, (hne id hid).trans hst, h⟩
  | @retired i asset _ _ _ hself hne =>
      by_cases hid : id = i
      · exact ⟨_, hid ▸ hself, .left rfl⟩
      · exact ⟨st₁, (hne id hid).trans hst, h⟩

/-- What a step that does not reactivate the asset can make of a status other
than active. -/
theorem step_statusAfter {ok : State R → Action R → Prop}
    (hs : Reachable ok s) (h : step s a = .ok s') (hno : ¬ Reactivates id a)
    (hst : s.toBooks.status id = some st) (hne : st ≠ .active) :
    ∃ st', s'.toBooks.status id = some st' ∧ StatusAfter id a st st' := by
  refine (step_induct (J := fun b => Sound b ∧
    ∃ st', b.status id = some st' ∧ StatusAfter id a st st') h ?_
    ⟨sound_of_reachable hs, st, hst, .same hne⟩).2
  rintro b b' hmove ⟨hsound, st₁, hst₁, hafter⟩
  exact ⟨hsound.change hmove.change,
    hafter.change hsound hno hst₁ hmove.statusChange⟩

theorem unpause_status (h : step s a = .ok s') (ha : Unpauses id a) :
    s.toBooks.status id = some .paused ∧
      s'.toBooks.status id = some .active := by
  obtain ⟨g, o, rfl⟩ := ha
  simp only [step, dispatch, unpauseAsset, setAssetStatus, do_eq_ok,
    decide_eq_true_eq] at h
  obtain ⟨_, _, asset, hget, _, hst, rfl⟩ := h
  exact ⟨by rw [Books.status_of_get hget, hst],
    by simp [Books.status, State.depositEvent]⟩

theorem pause_status (h : step s a = .ok s') (ha : Pauses id a) :
    s'.toBooks.status id = some .paused := by
  obtain ⟨g, o, rfl⟩ := ha
  simp only [step, dispatch, pauseAsset, setAssetStatus, do_eq_ok] at h
  obtain ⟨_, _, asset, hget, _, _, _, _, rfl⟩ := h
  simp [Books.status, State.depositEvent]

/-! ## Executions -/

section Executions

variable {s s' : State R} {id : Nat}
  {t : List (State R × Action R)}

/-- An asset that is leaving is not active any more, and not unpaused. -/
private theorem leaving_run (hrun : Transition.Run step s t s')
    (hs : Reachable (fun _ _ => True) s) (hno : ∀ p ∈ t, ¬ Reactivates id p.2)
    (hst : s.toBooks.status id = some st) (hleave : st.isLeaving = true) :
    NeverActive id t s' ∧ ∀ p ∈ t, ¬ Unpauses id p.2 := by
  induction hrun generalizing st with
  | nil =>
      refine ⟨⟨fun _ h => (List.not_mem_nil h).elim, ?_⟩,
        fun _ h => (List.not_mem_nil h).elim⟩
      intro hactive
      cases hst.symm.trans hactive
      cases hleave
  | @cons s s₁ s' a t h rest ih =>
      have hne : st ≠ .active := by
        rintro rfl
        cases hleave
      obtain ⟨st₁, hst₁, hafter⟩ :=
        step_statusAfter hs h (hno (s, a) (by simp)) hst hne
      have hleave₁ : st₁.isLeaving = true := by
        cases hafter with
        | same => exact hleave
        | paused hst | unpaused hst => rw [hst] at hleave; cases hleave
        | left hl => exact hl
      obtain ⟨⟨hnever, hlast⟩, hun⟩ := ih (.step hs trivial h)
        (fun p hp => hno p (by simp [hp])) hst₁ hleave₁
      refine ⟨⟨?_, hlast⟩, ?_⟩
      · intro p hp
        rcases List.mem_cons.mp hp with rfl | hp
        · rw [hst]
          simpa using hne
        · exact hnever p hp
      · intro p hp
        rcases List.mem_cons.mp hp with rfl | hp
        · intro hunpauses
          cases hst.symm.trans (unpause_status h hunpauses).1
          cases hleave
        · exact hun p hp

private theorem neverActive_cons (hst : s.toBooks.status id = some st)
    (hne : st ≠ .active) :
    NeverActive id ((s, a) :: t) s' ↔ NeverActive id t s' := by
  unfold NeverActive
  simp [hst, hne]

private theorem not_neverActive {s₁ : State R}
    (rest : Transition.Run step s₁ t s')
    (hactive : s₁.toBooks.status id = some .active) :
    ¬ NeverActive id t s' := by
  rintro ⟨hnever, hlast⟩
  cases rest with
  | nil => exact hlast hactive
  | cons => exact hnever _ List.mem_cons_self hactive

private theorem paused_run (hrun : Transition.Run step s t s')
    (hs : Reachable (fun _ _ => True) s) (hno : ∀ p ∈ t, ¬ Reactivates id p.2)
    (hst : s.toBooks.status id = some .paused) :
    NeverActive id t s' ↔ ∀ p ∈ t, ¬ Unpauses id p.2 := by
  induction hrun with
  | nil => simp [NeverActive, hst]
  | @cons s s₁ s' a t h rest ih =>
      have hrest : ∀ p ∈ t, ¬ Reactivates id p.2 := fun p hp =>
        hno p (by simp [hp])
      have hs₁ : Reachable (fun _ _ => True) s₁ := .step hs trivial h
      have hne : AssetStatus.paused ≠ .active := by decide
      rw [neverActive_cons hst hne, List.forall_mem_cons]
      obtain ⟨st₁, hst₁, hafter⟩ :=
        step_statusAfter hs h (hno (s, a) (by simp)) hst hne
      by_cases hun : Unpauses id a
      · have hactive := (unpause_status h hun).2
        exact iff_of_false (not_neverActive rest hactive) fun hall => hall.1 hun
      · rw [and_iff_right hun]
        cases hafter with
        | same => exact ih hs₁ hrest hst₁
        | paused hp => cases hp
        | unpaused _ ha => exact absurd ha hun
        | left hl =>
            obtain ⟨hnever, hquiet⟩ := leaving_run rest hs₁ hrest hst₁ hl
            exact iff_of_true hnever hquiet

private theorem pairwise_of_forall {P Q : State R × Action R → Prop}
    (h : ∀ q ∈ t, ¬ Q q) : t.Pairwise fun p q => ¬ (P p ∧ Q q) := by
  induction t with
  | nil => exact .nil
  | cons p t ih =>
      obtain ⟨_, hrest⟩ := List.forall_mem_cons.mp h
      exact .cons (fun q hq hpq => hrest q hq hpq.2) (ih hrest)

/-- An inactive asset becomes active exactly when it is paused and later
unpaused. -/
private theorem inactive_run (hrun : Transition.Run step s t s')
    (hs : Reachable (fun _ _ => True) s) (hno : ∀ p ∈ t, ¬ Reactivates id p.2)
    (hst : s.toBooks.status id = some .inactive) :
    NeverActive id t s' ↔
      t.Pairwise fun p q => ¬ (PausesInactive id p ∧ Unpauses id q.2) := by
  induction hrun with
  | nil => simp [NeverActive, hst]
  | @cons s s₁ s' a t h rest ih =>
      have hrest : ∀ p ∈ t, ¬ Reactivates id p.2 := fun p hp =>
        hno p (by simp [hp])
      have hs₁ : Reachable (fun _ _ => True) s₁ := .step hs trivial h
      have hne : AssetStatus.inactive ≠ .active := by decide
      rw [neverActive_cons hst hne, List.pairwise_cons]
      obtain ⟨st₁, hst₁, hafter⟩ :=
        step_statusAfter hs h (hno (s, a) (by simp)) hst hne
      by_cases hp : Pauses id a
      · have hpaused := pause_status h hp
        rw [paused_run rest hs₁ hrest hpaused]
        constructor
        · intro hall
          exact ⟨fun q hq hpq => hall q hq hpq.2, pairwise_of_forall hall⟩
        · rintro ⟨hfirst, _⟩ q hq hun
          exact hfirst q hq ⟨⟨hp, hst⟩, hun⟩
      · have hfirst : ∀ q ∈ t,
            ¬ (PausesInactive id (s, a) ∧ Unpauses id q.2) :=
          fun _ _ hpq => hp hpq.1.1
        rw [and_iff_right hfirst]
        cases hafter with
        | same => exact ih hs₁ hrest hst₁
        | paused _ ha => exact absurd ha hp
        | unpaused hst => cases hst
        | left hl =>
            obtain ⟨hnever, hquiet⟩ := leaving_run rest hs₁ hrest hst₁ hl
            exact iff_of_true hnever (pairwise_of_forall hquiet)

end Executions

/-! ## After a deactivation -/

/-- In an execution after a deactivation and before the next reactivation, the
asset is never active exactly when no unpause follows a pause that found it
inactive. -/
theorem never_active_iff {s s₁ s₂ : State R} {g : LifecycleGuard}
    {o : Origin R.AccountId} {id : Nat} {t : List (State R × Action R)}
    (hs : Reachable (fun _ _ => True) s)
    (h : step s (.call g o (.deactivateAsset id)) = .ok s₁)
    (hrun : Transition.Run step s₁ t s₂)
    (hno : ∀ p ∈ t, ¬ Reactivates id p.2) :
    NeverActive id t s₂ ↔
      t.Pairwise fun p q => ¬ (PausesInactive id p ∧ Unpauses id q.2) := by
  refine inactive_run hrun (.step hs trivial h) hno ?_
  simp only [step, dispatch, deactivateAsset, setAssetStatus, do_eq_ok] at h
  obtain ⟨_, _, asset, _, _, _, rfl⟩ := h
  simp [Books.status, State.depositEvent]

/-! ### Concrete executions

Account 1 deactivates its asset.  Afterwards it is paused and left so for a
block; or it is paused and unpaused, and is active again.
-/

/-- The state before the deactivation. -/
def beforeDeactivation : State vault := vaultAfter [registered defaultPolicy]

/-- The state after it. -/
def deactivatedState : State vault :=
  Transition.final step beforeDeactivation [signedBy 1 (.deactivateAsset 0)]

/-- The asset is paused for a block. -/
def pausedWhileInactive : List (Action vault) :=
  [byRoot (.pauseAsset 0), .nextBlock]

/-- The asset is paused and unpaused. -/
def pausedAndUnpaused : List (Action vault) :=
  [byRoot (.pauseAsset 0), byRoot (.unpauseAsset 0)]

private theorem beforeDeactivation_reachable :
    Reachable (fun _ _ => True) beforeDeactivation :=
  vaultAfter_reachable (fun _ _ _ => trivial) (by decide +kernel)

private theorem deactivated_step :
    step beforeDeactivation (signedBy 1 (.deactivateAsset 0)) =
      .ok deactivatedState :=
  Transition.step_final (by decide +kernel)

theorem never_active_paused :
    NeverActive 0
      (Transition.trace step deactivatedState pausedWhileInactive)
      (Transition.final step deactivatedState pausedWhileInactive) := by
  have hexec : Transition.exec step deactivatedState pausedWhileInactive =
      .ok (Transition.final step deactivatedState pausedWhileInactive) :=
    Transition.exec_final (by decide +kernel)
  refine (never_active_iff beforeDeactivation_reachable deactivated_step
    (Transition.run_of_exec hexec) ?_).mpr ?_
  · intro p hp
    have hmem := Transition.mem_of_mem_trace hp
    rintro ⟨g, o, ha⟩
    rw [ha] at hmem
    simp [pausedWhileInactive, byRoot] at hmem
  · refine pairwise_of_forall (Q := fun q => Unpauses 0 q.2) fun q hq => ?_
    have hmem := Transition.mem_of_mem_trace hq
    rintro ⟨g, o, ha⟩
    rw [ha] at hmem
    simp [pausedWhileInactive, byRoot] at hmem

/-- After pause and unpause the asset is active, though its owner has not
reactivated it. -/
theorem deactivation_undone :
    ∃ t s₂, step beforeDeactivation (signedBy 1 (.deactivateAsset 0)) =
        .ok deactivatedState ∧
      Transition.Run step deactivatedState t s₂ ∧
      (∀ p ∈ t, ¬ Reactivates 0 p.2) ∧
      s₂.toBooks.status 0 = some .active := by
  have hexec : Transition.exec step deactivatedState pausedAndUnpaused =
      .ok (Transition.final step deactivatedState pausedAndUnpaused) :=
    Transition.exec_final (by decide +kernel)
  refine ⟨_, _, deactivated_step, Transition.run_of_exec hexec, ?_,
    by decide +kernel⟩
  intro p hp
  have hmem := Transition.mem_of_mem_trace hp
  rintro ⟨g, o, ha⟩
  rw [ha] at hmem
  simp [pausedAndUnpaused, byRoot] at hmem

end Thxnet.Rwa
