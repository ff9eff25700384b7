import Thxnet.Rwa.Mock
import Thxnet.Rwa.Schedule

/-!
# Sunsets happen on time

`OnSchedule now b` says that at block `now` the schedule is exact: an asset that
is to retire at a block stands once in the slot of that block and in no other
slot, any other asset in none, and that block is yet to come.  Every call keeps
this (`OnSchedule.change`) and so does the hook that starts the next block
(`OnSchedule.initialized`).  As the hook retires what is in its slot, an asset
retires when the block comes that its owner has announced, unless it has been
retired by force before, and nothing is left for `retire_asset` to do
(`sunset_on_schedule`).
-/

namespace Thxnet.Rwa

open Thxnet.Lib Thxnet.Frame

variable {R : Config}

/-! ## The invariant -/

/-- The schedule is exact, and the blocks in use are still to come. -/
structure OnSchedule (now : Nat) (b : Books R) : Prop where
  listed : ∀ id n, (b.sunsettingAssets n).toList.count id =
    if b.status id = some (.sunsetting n) then 1 else 0
  later : ∀ id n, b.status id = some (.sunsetting n) → now < n

section Invariant

variable {a : Action R} {now : Nat} {b b' : Books R}

theorem OnSchedule.mem_iff (h : OnSchedule now b) (id n : Nat) :
    id ∈ (b.sunsettingAssets n).toList ↔
      b.status id = some (.sunsetting n) := by
  rw [← List.count_pos_iff, h.listed id n]
  by_cases hst : b.status id = some (.sunsetting n) <;> simp [hst]

private theorem OnSchedule.congr (h : OnSchedule now b)
    (hstatus : ∀ i, b'.status i = b.status i)
    (hschedule : b'.sunsettingAssets = b.sunsettingAssets) :
    OnSchedule now b' where
  listed := fun id n => by rw [hschedule, hstatus, h.listed]
  later := fun id n hst => h.later id n (hstatus id ▸ hst)

private theorem OnSchedule.set (h : OnSchedule now b) {id : Nat}
    (hold : ∀ n, b.status id ≠ some (.sunsetting n))
    (hself : ∀ n, b'.status id ≠ some (.sunsetting n))
    (hne : ∀ i, i ≠ id → b'.status i = b.status i)
    (hschedule : b'.sunsettingAssets = b.sunsettingAssets) :
    OnSchedule now b' := by
  have hiff : ∀ i n, b'.status i = some (.sunsetting n) ↔
      b.status i = some (.sunsetting n) := by
    intro i n
    by_cases hi : i = id
    · subst hi
      exact iff_of_false (hself n) (hold n)
    · rw [hne i hi]
  constructor
  · intro i n
    rw [hschedule, h.listed]
    exact if_congr (hiff i n).symm rfl rfl
  · intro i n hst
    exact h.later i n ((hiff i n).mp hst)

theorem AssetStatus.ne_sunsetting {st : AssetStatus}
    (h : st.isLeaving = false) (n : Nat) : some st ≠ some (.sunsetting n) := by
  intro heq
  cases heq
  cases h

private theorem OnSchedule.sunset (h : OnSchedule now b) {id expiryBlock : Nat}
    (hold : ∀ n, b.status id ≠ some (.sunsetting n))
    (hlater : now < expiryBlock)
    (hroom : (b.sunsettingAssets expiryBlock).toList.length <
      R.maxSunsettingPerBlock)
    (hself : b'.status id = some (.sunsetting expiryBlock))
    (hne : ∀ i, i ≠ id → b'.status i = b.status i)
    (hschedule : b'.sunsettingAssets = Function.update b.sunsettingAssets
      expiryBlock ((b.sunsettingAssets expiryBlock).push id)) :
    OnSchedule now b' := by
  refine ⟨fun i n => ?_, fun i n hst => ?_⟩
  · rw [hschedule]
    by_cases hi : i = id
    · subst hi
      have hnone := h.listed i
      simp only [hold, if_false] at hnone
      by_cases hn : n = expiryBlock
      · subst hn
        rw [Function.update_self, BoundedVec.toList_push hroom,
          List.count_append, hnone, hself]
        simp
      · rw [Function.update_of_ne hn, hnone, hself, if_neg]
        rintro ⟨⟩
        exact hn rfl
    · rw [hne i hi, ← h.listed i n]
      by_cases hn : n = expiryBlock
      · subst hn
        rw [Function.update_self, BoundedVec.toList_push hroom,
          List.count_append, List.count_singleton]
        simp [Ne.symm hi]
      · rw [Function.update_of_ne hn]
  · by_cases hi : i = id
    · subst hi
      cases hself.symm.trans hst
      exact hlater
    · exact h.later i n (hne i hi ▸ hst)

private theorem OnSchedule.count_dropSchedule (h : OnSchedule now b) {id : Nat}
    {asset : AssetInfo R} (hget : b.rwaAssets.get id = some asset)
    (i n : Nat) :
    ((b.dropSchedule id asset).sunsettingAssets n).toList.count i =
      if i = id then 0 else (b.sunsettingAssets n).toList.count i := by
  have hlisted := h.listed id
  rw [Books.status_of_get hget] at hlisted
  unfold Books.dropSchedule
  split
  · next expiryBlock hst =>
      rw [hst] at hlisted
      unfold Books.unscheduled
      dsimp only
      by_cases hn : n = expiryBlock
      · subst hn
        rw [Function.update_self, BoundedVec.toList_removeFirst]
        by_cases hi : i = id
        · rw [hi, if_pos rfl, List.count_erase_self, hlisted n, if_pos rfl]
        · rw [if_neg hi, List.count_erase_of_ne hi]
      · rw [Function.update_of_ne hn]
        by_cases hi : i = id
        · rw [hi, if_pos rfl, hlisted n, if_neg]
          rintro ⟨⟩
          exact hn rfl
        · rw [if_neg hi]
  · next hst =>
      by_cases hi : i = id
      · rw [hi, if_pos rfl, hlisted n, if_neg]
        intro heq
        exact hst n (Option.some.inj heq)
      · rw [if_neg hi]

private theorem OnSchedule.retired (h : OnSchedule now b) {id : Nat}
    {asset : AssetInfo R} (hget : b.rwaAssets.get id = some asset)
    (hself : b'.status id = some .retired)
    (hne : ∀ i, i ≠ id → b'.status i = b.status i)
    (hschedule : b'.sunsettingAssets =
      (b.dropSchedule id asset).sunsettingAssets) : OnSchedule now b' := by
  refine ⟨fun i n => ?_, fun i n hst => ?_⟩
  · rw [hschedule, h.count_dropSchedule hget]
    by_cases hi : i = id
    · rw [hi, if_pos rfl, hself, if_neg]
      exact fun heq => by cases heq
    · rw [if_neg hi, hne i hi, h.listed]
  · by_cases hi : i = id
    · subst hi
      cases hself.symm.trans hst
    · exact h.later i n (hne i hi ▸ hst)

theorem OnSchedule.change (h : OnSchedule now b) (hsound : Sound b)
    (hc : StatusChange a now b b') (ha : a ≠ .nextBlock) :
    OnSchedule now b' := by
  cases hc with
  | kept hstatus hschedule => exact h.congr hstatus hschedule
  | initialized hnext => exact absurd hnext ha
  | registered hself hne hschedule =>
      refine h.set (fun n => ?_) (fun n => ?_) hne hschedule
      · rw [hsound.status_next]
        exact fun heq => by cases heq
      · rw [hself]
        exact AssetStatus.ne_sunsetting rfl n
  | set hget hmove hself hne hschedule =>
      refine h.set (fun n => ?_) (fun n => ?_) hne hschedule
      · rw [Books.status_of_get hget]
        exact AssetStatus.ne_sunsetting hmove.stays n
      · rw [hself]
        refine AssetStatus.ne_sunsetting ?_ n
        cases hmove <;> rfl
  | sunset hget hst hlater hroom hself hne hschedule =>
      refine h.sunset (fun n => ?_) hlater hroom hself hne hschedule
      rw [Books.status_of_get hget]
      refine AssetStatus.ne_sunsetting ?_ n
      rcases hst with hst | hst <;> (rw [hst]; rfl)
  | retired _ hget _ hself hne hschedule =>
      exact h.retired hget hself hne hschedule

/-- The hook that starts the next block takes out what is due. -/
theorem OnSchedule.initialized (h : OnSchedule now b) :
    OnSchedule (now + 1) (b.initialized (now + 1)) := by
  have hstatus : ∀ i n, (b.initialized (now + 1)).status i =
      some (.sunsetting n) ↔
        b.status i = some (.sunsetting n) ∧ n ≠ now + 1 := by
    intro i n
    rw [status_initialized]
    by_cases hmem : i ∈ (b.sunsettingAssets (now + 1)).toList
    · have hst := (h.mem_iff i (now + 1)).mp hmem
      rw [if_pos hmem, hst]
      refine iff_of_false (fun heq => by cases heq) ?_
      rintro ⟨⟨⟩, hne⟩
      exact hne rfl
    · rw [if_neg hmem]
      refine (and_iff_left_of_imp ?_).symm
      rintro hst rfl
      exact hmem ((h.mem_iff i _).mpr hst)
  refine ⟨fun i n => ?_, fun i n hst => ?_⟩
  · rw [schedule_initialized]
    by_cases hn : n = now + 1
    · rw [hn, Function.update_self, if_neg]
      · rfl
      · exact fun hst => ((hstatus i _).mp hst).2 rfl
    · rw [Function.update_of_ne hn, h.listed i n]
      exact if_congr (((hstatus i n).trans (and_iff_left hn)).symm) rfl rfl
  · obtain ⟨hold, hne⟩ := (hstatus i n).mp hst
    have hlater := h.later i n hold
    omega

end Invariant

variable {a : Action R} {id n : Nat} {s s' : State R}

theorem step_now_of_ne (h : step s a = .ok s') (ha : a ≠ .nextBlock) :
    s'.now = s.now := by
  obtain ⟨hnow, _⟩ := step_moves h
  cases a with
  | nextBlock => exact absurd rfl ha
  | call | outside => exact hnow

theorem retireAsset_due {g : LifecycleGuard} {o : Origin R.AccountId}
    (h : step s (.call g o (.retireAsset id)) = .ok s') :
    ∃ asset n, s.rwaAssets.get id = some asset ∧
      asset.status = .sunsetting n ∧ n ≤ s.now := by
  have hcall : retireAsset s o id = .ok s' := h
  simp only [retireAsset, do_eq_ok] at hcall
  obtain ⟨_, _, asset, hget, n, hexpiry, hdue, _⟩ := hcall
  exact ⟨asset, n, hget, sunsetExpiry_eq_ok hexpiry, hdue⟩

theorem onSchedule_of_reachable {ok : State R → Action R → Prop}
    (h : Reachable ok s) : OnSchedule s.now s.toBooks := by
  refine Transition.Reach.invariant
    (I := fun s : State R => OnSchedule s.now s.toBooks) ?_ ?_ h
  · rintro s ⟨world, now, rfl⟩
    exact ⟨fun _ _ => rfl, fun _ _ hst => by cases hst⟩
  · intro s a s' hs hsched _ hstep
    by_cases ha : a = .nextBlock
    · subst ha
      cases hstep
      rw [nextBlock_toBooks, nextBlock_now]
      exact hsched.initialized
    · rw [← step_now_of_ne hstep ha] at hsched
      refine (step_induct (J := fun b => Sound b ∧ OnSchedule s'.now b) hstep ?_
        ⟨sound_of_reachable hs, hsched⟩).2
      rintro b b' hmove ⟨hsound, hb⟩
      exact ⟨hsound.change hmove.change, hb.change hsound hmove.statusChange ha⟩

/-! ## The block of retirement -/

/-- The asset is retired by force. -/
def ForceRetires (id : Nat) (a : Action R) : Prop :=
  ∃ g o, a = .call g o (.forceRetireAsset id)

/-- What the status of an asset is to be that retires at block `n`. -/
def statusBefore (n now : Nat) : AssetStatus :=
  if now < n then .sunsetting n else .retired

/-- No other call touches an asset that is leaving. -/
theorem StatusChange.leaving_kept {now : Nat} {b b' : Books R}
    (hc : StatusChange a now b b') (hsound : Sound b) (ha : a ≠ .nextBlock)
    (hforce : now < n → ¬ ForceRetires id a)
    (hst : b.status id = some (statusBefore n now)) :
    b'.status id = some (statusBefore n now) := by
  have hleaving : (statusBefore n now).isLeaving = true := by
    unfold statusBefore
    by_cases hn : now < n
    · rw [if_pos hn]
      rfl
    · rw [if_neg hn]
      rfl
  -- The other changes are of assets that are not leaving.
  have hother : ∀ i, (∀ st, b.status i = some st → st.isLeaving = false) →
      id ≠ i := by
    rintro i hstay rfl
    rw [hstay _ hst] at hleaving
    cases hleaving
  cases hc with
  | kept hstatus => rw [hstatus, hst]
  | initialized hnext => exact absurd hnext ha
  | registered _ hne =>
      rw [hne id (hother _ fun st hnone => ?_), hst]
      cases hsound.status_next.symm.trans hnone
  | set hget hmove _ hne =>
      rw [hne id (hother _ fun st hsome => ?_), hst]
      cases (Books.status_of_get hget).symm.trans hsome
      exact hmove.stays
  | sunset hget hactive _ _ _ hne =>
      rw [hne id (hother _ fun st hsome => ?_), hst]
      cases (Books.status_of_get hget).symm.trans hsome
      rcases hactive with h | h <;> (rw [h]; rfl)
  | @retired i asset hretire hget hlive _ hne =>
      by_cases hi : id = i
      · subst hi
        have hasset : asset.status = statusBefore n now :=
          Option.some.inj ((Books.status_of_get hget).symm.trans hst)
        unfold statusBefore at hasset
        by_cases hn : now < n
        · rw [if_pos hn] at hasset
          rcases hretire with hforced | ⟨expiry, hexpiry, hdue⟩
          · exact absurd hforced (hforce hn)
          · cases hasset.symm.trans hexpiry
            omega
        · rw [if_neg hn] at hasset
          exact absurd hasset hlive
      · rw [hne id hi, hst]

/-- The hook retires the asset when its block has come. -/
theorem OnSchedule.initialized_due {b : Books R} {now : Nat}
    (h : OnSchedule now b) (hst : b.status id = some (statusBefore n now)) :
    (b.initialized (now + 1)).status id = some (statusBefore n (now + 1)) := by
  rw [status_initialized, hst]
  unfold statusBefore at hst ⊢
  by_cases hn : now < n
  · rw [if_pos hn] at hst ⊢
    by_cases hdue : now + 1 = n
    · subst hdue
      rw [if_pos ((h.mem_iff id _).mpr hst), if_neg (Nat.lt_irrefl _)]
      rfl
    · rw [if_neg, if_pos (by omega)]
      intro hmem
      cases hst.symm.trans ((h.mem_iff id _).mp hmem)
      exact hdue rfl
  · rw [if_neg hn] at hst ⊢
    rw [if_neg (by omega : ¬ now + 1 < n)]
    by_cases hmem : id ∈ (b.sunsettingAssets (now + 1)).toList
    · rw [if_pos hmem]
      rfl
    · rw [if_neg hmem]

/-- One step towards the block of retirement, or after it. -/
theorem step_statusBefore {ok : State R → Action R → Prop}
    (hs : Reachable ok s) (hstep : step s a = .ok s')
    (hforce : s.now < n → ¬ ForceRetires id a)
    (hst : s.status id = some (statusBefore n s.now)) :
    s'.status id = some (statusBefore n s'.now) := by
  by_cases ha : a = .nextBlock
  · subst ha
    cases hstep
    show s.nextBlock.toBooks.status id = _
    rw [nextBlock_toBooks, nextBlock_now]
    exact (onSchedule_of_reachable hs).initialized_due hst
  · have hsame := step_now_of_ne hstep ha
    rw [← hsame] at hst hforce
    refine (step_induct (J := fun b => Sound b ∧
      b.status id = some (statusBefore n s'.now)) hstep ?_
      ⟨sound_of_reachable hs, hst⟩).2
    rintro b b' hmove ⟨hsound, hb⟩
    exact ⟨hsound.change hmove.change,
      hmove.statusChange.leaving_kept hsound ha hforce hb⟩

/-- In every reachable state the schedule is exact, `retire_asset` finds nothing
to do, and an asset that is to retire at block `n` is retired at the start of
that block and not before, along every run in which it is not retired by force
before. -/
theorem sunset_on_schedule {s : State R} (hs : Reachable (fun _ _ => True) s) :
    (∀ id n, (s.sunsettingAssets n).toList.count id =
      if s.status id = some (.sunsetting n) then 1 else 0) ∧
    (∀ id n, s.status id = some (.sunsetting n) → s.now < n) ∧
    (∀ g o id, (step s (.call g o (.retireAsset id))).isOk = false) ∧
    ∀ id n t s', s.status id = some (.sunsetting n) →
      Transition.Run step s t s' →
      (∀ p ∈ t, p.1.now < n → ¬ ForceRetires id p.2) →
      s'.status id =
        some (if s'.now < n then .sunsetting n else .retired) := by
  have hsched := onSchedule_of_reachable hs
  refine ⟨hsched.listed, hsched.later, fun g o id => ?_, ?_⟩
  · cases hretire : step s (.call g o (.retireAsset id)) with
    | error => rfl
    | ok =>
        obtain ⟨asset, n, hget, hst, hdue⟩ := retireAsset_due hretire
        have hlater := hsched.later id n (by rw [Books.status_of_get hget, hst])
        omega
  · intro id n t s' hst hrun hforce
    have hbefore : s.status id = some (statusBefore n s.now) := by
      unfold statusBefore
      rw [if_pos (hsched.later id n hst), hst]
    exact (hrun.keeps (A := fun s a => s.now < n → ¬ ForceRetires id a)
      (I := fun s => Reachable (fun _ _ => True) s ∧
        s.status id = some (statusBefore n s.now))
      (fun u a u' hok hu hstep => ⟨hu.1.step trivial hstep,
        step_statusBefore hu.1 hstep hok hu.2⟩) hforce ⟨hs, hbefore⟩).2

/-- An owner has announced the end of an asset for block 3. -/
def announced : State vault :=
  vaultAfter [registered defaultPolicy, signedBy 1 (.sunsetAsset 0 3)]

theorem announced_reachable : Reachable (fun _ _ => True) announced :=
  vaultAfter_reachable (fun _ _ _ => trivial) (by decide +kernel)

/-- The asset is in the schedule, and two blocks later it is retired. -/
theorem sunset_on_schedule_announced :
    (announced.sunsettingAssets 3).toList.count 0 = 1 ∧
      (Transition.final step announced [.nextBlock, .nextBlock]).status 0 =
        some .retired := by
  obtain ⟨hlisted, _, _, hrun⟩ := sunset_on_schedule announced_reachable
  have hst : announced.status 0 = some (.sunsetting 3) := by decide +kernel
  refine ⟨(hlisted 0 3).trans (if_pos hst), ?_⟩
  refine (hrun 0 3 _ _ hst (Transition.run_of_exec (Transition.exec_final
    (by decide +kernel))) ?_).trans (by decide +kernel)
  rintro p hp _ ⟨g, o, hforce⟩
  have hmem := Transition.mem_of_mem_trace hp
  rw [hforce] at hmem
  simp at hmem

end Thxnet.Rwa
