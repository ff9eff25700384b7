import Mathlib.Algebra.BigOperators.Fin
import Thxnet.Crowdfunding.BasisPoints
import Thxnet.Crowdfunding.Bookkeeping

/-!
# Paying out milestones

A milestone's share of the raised amount is rounded up and capped by what is
left.  In the milestone phase the disbursed total is therefore the sum of the
rounded shares of the claimed milestones, capped by the raised amount; which
milestones were claimed matters, their order does not.  When all are claimed
the rounded shares cover the raised amount, so the cap makes the two equal.
-/

namespace Thxnet.Crowdfunding

open Thxnet.Lib Thxnet.Frame

variable {T : Config}

/-! ## Shares -/

/-- The rounded share of a milestone, once it is claimed. -/
def shareOf (m : StorageMap Nat MilestoneStatus) (raised : Nat)
    (ms : List Milestone) (i : Fin ms.length) : Nat :=
  if m.get i.1 = some .claimed then bpsOf raised ms[i.1].releaseBps else 0

/-- The rounded shares of the claimed milestones. -/
def claimedShare (m : StorageMap Nat MilestoneStatus) (raised : Nat)
    (ms : List Milestone) : Nat :=
  ∑ i : Fin ms.length, shareOf m raised ms i

variable {a : Action T} {b b' : Books T} {c : Campaign T} {ms : List Milestone}
    {id index : Nat} {s : State T} {m : StorageMap Nat MilestoneStatus}

theorem claimedShare_of_none (raised : Nat)
    (h : ∀ i, i < ms.length → m.get i ≠ some .claimed) :
    claimedShare m raised ms = 0 :=
  Finset.sum_eq_zero fun i _ => if_neg (h i.1 i.2)

theorem claimedShare_congr {m' : StorageMap Nat MilestoneStatus}
    (raised : Nat) (ms : List Milestone)
    (h : ∀ i, m'.get i = some .claimed ↔ m.get i = some .claimed) :
    claimedShare m' raised ms = claimedShare m raised ms := by
  refine Finset.sum_congr rfl fun i _ => ?_
  unfold shareOf
  by_cases hi : m.get i.1 = some .claimed
  · rw [if_pos hi, if_pos ((h i.1).mpr hi)]
  · rw [if_neg hi, if_neg (fun hi' => hi ((h i.1).mp hi'))]

theorem claimedShare_insert (raised : Nat) {x : Milestone}
    (hx : ms[index]? = some x) (hold : m.get index ≠ some .claimed) :
    claimedShare (m.insert index .claimed) raised ms =
      claimedShare m raised ms + bpsOf raised x.releaseBps := by
  obtain ⟨hlt, hget⟩ := List.getElem?_eq_some_iff.mp hx
  let j : Fin ms.length := ⟨index, hlt⟩
  have hafter := Finset.add_sum_erase Finset.univ
    (shareOf (m.insert index .claimed) raised ms) (Finset.mem_univ j)
  have hbefore := Finset.add_sum_erase Finset.univ (shareOf m raised ms)
    (Finset.mem_univ j)
  have hrest : ∑ i ∈ Finset.univ.erase j,
        shareOf (m.insert index .claimed) raised ms i =
      ∑ i ∈ Finset.univ.erase j, shareOf m raised ms i := by
    refine Finset.sum_congr rfl fun i hi => ?_
    have hne : i.1 ≠ index := fun h => Finset.ne_of_mem_erase hi (Fin.ext h)
    rw [shareOf, StorageMap.get_insert_ne _ _ hne, shareOf]
  have hj : shareOf (m.insert index .claimed) raised ms j =
      bpsOf raised x.releaseBps := by
    rw [shareOf, StorageMap.get_insert_self, if_pos rfl, hget]
  have hj' : shareOf m raised ms j = 0 := if_neg hold
  unfold claimedShare
  omega

/-- All claimed, the rounded shares cover the raised amount. -/
theorem raised_le_claimedShare {raised : Nat}
    (hshares : (ms.map Milestone.releaseBps).sum = 10000)
    (hraised : raised ≤ maxValue 128 / 10000)
    (hall : ∀ i, i < ms.length → m.get i = some .claimed) :
    raised ≤ claimedShare m raised ms := by
  have hfull : claimedShare m raised ms =
      (ms.map fun x => bpsOf raised x.releaseBps).sum := by
    rw [← Fin.sum_univ_fun_getElem]
    exact Finset.sum_congr rfl fun i _ => if_pos (hall i.1 i.2)
  have hexact : ∀ x ∈ ms, bpsOf raised x.releaseBps =
      (raised * x.releaseBps) ⌈/⌉ 10000 := by
    intro x hx
    have hle : x.releaseBps ≤ 10000 := by
      rw [← hshares]
      exact List.single_le_sum (fun _ _ => Nat.zero_le _) _
        (List.mem_map_of_mem hx)
    have hmul : raised * x.releaseBps ≤ 10000 * raised := by
      rw [Nat.mul_comm 10000]
      exact Nat.mul_le_mul_left raised hle
    have hceil : (raised * x.releaseBps) ⌈/⌉ 10000 ≤ raised := by
      rw [ceilDiv_le_iff_le_mul (by decide)]
      exact hmul
    rw [bpsOf_eq, Nat.min_eq_left hle, Nat.min_eq_left (by omega)]
  have hsplit := ceilDiv_sum_le (by decide : 0 < 10000)
    (ms.map fun x => raised * x.releaseBps)
  rw [List.map_map, List.sum_map_mul_left, hshares] at hsplit
  rw [hfull, List.map_congr_left hexact]
  calc
    raised = (raised * 10000) ⌈/⌉ 10000 := by
      rw [Nat.ceilDiv_eq_add_pred_div]
      omega
    _ ≤ _ := hsplit

/-! ## The disbursed total -/

/-- What the statuses of the milestones say about the disbursed total. -/
structure Books.PaidAt (b : Books T) (id : Nat) : Prop where
  shares : ∀ c goal ms, b.campaigns.get id = some c →
    c.config.fundingModel = .milestoneBased goal ms →
    (ms.toList.map Milestone.releaseBps).sum = 10000
  phase : ∀ c goal ms, b.campaigns.get id = some c →
    c.config.fundingModel = .milestoneBased goal ms →
    c.status = .milestonePhase →
    c.totalDisbursed = min c.totalRaised
      (claimedShare (b.milestoneStatuses id) c.totalRaised ms.toList)
  completed : ∀ c, b.campaigns.get id = some c → c.status = .completed →
    c.totalRaised ≤ maxValue 128 / 10000 → c.totalDisbursed = c.totalRaised

theorem Books.PaidAt.sameAt (h : b.PaidAt id) (hsame : SameAt b b' id) :
    b'.PaidAt id where
  shares := by
    rw [hsame.campaign]
    exact h.shares
  phase := by
    rw [hsame.campaign, hsame.statuses]
    exact h.phase
  completed := by
    rw [hsame.campaign]
    exact h.completed

/-- A change that leaves the campaign outside the milestone phase, or its
totals and claimed milestones alone. -/
theorem Books.PaidAt.replace {c' : Campaign T} (h : b.PaidAt id)
    (hget : b.campaigns.get id = some c)
    (hget' : b'.campaigns.get id = some c')
    (hmodel : c'.config.fundingModel = c.config.fundingModel)
    (hphase : c'.status = .milestonePhase → c.status = .milestonePhase ∧
      c'.totalRaised = c.totalRaised ∧ c'.totalDisbursed = c.totalDisbursed ∧ ∀
      i, (b'.milestoneStatuses id).get i = some .claimed ↔ (b.milestoneStatuses
      id).get i = some .claimed)
    (hdone : c'.status = .completed → (c.status = .completed ∧ c'.totalDisbursed
      = c.totalDisbursed ∧ c'.totalRaised = c.totalRaised) ∨ c'.totalDisbursed =
      c'.totalRaised) : b'.PaidAt id where
  shares := by
    intro c₁ goal ms hc₁ hm
    cases hget'.symm.trans hc₁
    exact h.shares c goal ms hget (hmodel ▸ hm)
  phase := by
    intro c₁ goal ms hc₁ hm hst
    cases hget'.symm.trans hc₁
    obtain ⟨hst', hraised, hdisbursed, hclaimed⟩ := hphase hst
    rw [hraised, hdisbursed, claimedShare_congr _ _ hclaimed]
    exact h.phase c goal ms hget (hmodel ▸ hm) hst'
  completed := by
    intro c₁ hc₁ hst hle
    cases hget'.symm.trans hc₁
    rcases hdone hst with ⟨hst', hdisbursed, hraised⟩ | heq
    · rw [hraised] at hle ⊢
      rw [hdisbursed]
      exact h.completed c hget hst' hle
    · exact heq

/-- Finalising starts the milestone phase with nothing claimed. -/
theorem Books.PaidAt.finalize (h : b.PaidAt id) (ht : c.Totals)
    (hget : b.campaigns.get id = some c) (hstatus : c.status = .funding)
    (hstatuses : b'.milestoneStatuses = (doFinalize b.milestoneStatuses id c).2)
    (hget' : b'.campaigns.get id = some { c with status := (doFinalize
      b.milestoneStatuses id c).1 }) : b'.PaidAt id := by
  have hzero := ht.undisbursed (by rw [hstatus]; rfl)
  rcases doFinalize_cases b.milestoneStatuses id c with
    hfin | ⟨hfin, _⟩ | ⟨goal, ms, hmodel, hfin⟩
  · rw [hfin] at hget'
    exact h.replace hget hget' rfl (fun hst => by cases hst)
      (fun hst => by cases hst)
  · rw [hfin] at hget'
    exact h.replace hget hget' rfl (fun hst => by cases hst)
      (fun hst => by cases hst)
  · rw [hfin] at hget' hstatuses
    refine ⟨fun c₁ goal₁ ms₁ hc₁ hm₁ => ?_, fun c₁ goal₁ ms₁ hc₁ hm₁ _ => ?_,
      fun c₁ hc₁ hst => ?_⟩
    · cases hget'.symm.trans hc₁
      exact h.shares c goal₁ ms₁ hget hm₁
    · cases hget'.symm.trans hc₁
      cases hmodel.symm.trans hm₁
      rw [claimedShare_of_none, Nat.min_zero]
      · exact hzero
      · intro i hi
        rw [hstatuses,
          get_initMilestones (Nat.le_of_lt (milestones_length_lt ms)),
          if_pos hi]
        decide
    · cases hget'.symm.trans hc₁
      cases hst

theorem allClaimed_iff {m : StorageDoubleMap Nat Nat MilestoneStatus}
    {n : Nat} (hn : n < 256) :
    allClaimed m id n = true ↔ ∀ i, i < n → (m id).get i = some .claimed := by
  simp [allClaimed, Nat.mod_eq_of_lt hn]

theorem Books.PaidAt.claim {goal : Nat}
    {ms : BoundedVec Milestone T.maxMilestones} {x : Milestone}
    (h : b.PaidAt id) (ht : c.Totals) (hget : b.campaigns.get id = some c)
    (hstatus : c.status = .milestonePhase)
    (hentry : (b.milestoneStatuses id).get index = some .approved)
    (hmodel : c.config.fundingModel = .milestoneBased goal ms)
    (hx : ms.toList[index]? = some x)
    (hstatuses : b'.milestoneStatuses = b.milestoneStatuses.insert id index
      .claimed)
    (hget' : b'.campaigns.get id = some (c.released (c.milestoneRelease x)
      (allClaimed b'.milestoneStatuses id ms.toList.length))) :
    b'.PaidAt id := by
  have hold := h.phase c goal ms hget hmodel hstatus
  have hshare := claimedShare_insert c.totalRaised hx
    (by rw [hentry]; decide : (b.milestoneStatuses id).get index ≠ some .claimed)
  have hnew : c.totalDisbursed + c.milestoneRelease x = min c.totalRaised
      (claimedShare (b'.milestoneStatuses id) c.totalRaised ms.toList) := by
    rw [hstatuses, StorageDoubleMap.insert_self, hshare, hold]
    unfold Campaign.milestoneRelease
    omega
  refine ⟨fun c₁ goal₁ ms₁ hc₁ hm₁ => ?_, fun c₁ goal₁ ms₁ hc₁ hm₁ _ => ?_,
    fun c₁ hc₁ hst hle => ?_⟩
  · cases hget'.symm.trans hc₁
    exact h.shares c goal₁ ms₁ hget hm₁
  · cases hget'.symm.trans hc₁
    cases hmodel.symm.trans hm₁
    rw [ht.disbursed_released]
    exact hnew
  · cases hget'.symm.trans hc₁
    rw [ht.disbursed_released, hnew]
    have hdone : allClaimed b'.milestoneStatuses id ms.toList.length = true := by
      by_contra hopen
      simp [Campaign.released, hopen, hstatus] at hst
    have hcover := raised_le_claimedShare (h.shares c goal ms hget hmodel) hle
      ((allClaimed_iff (milestones_length_lt ms)).mp hdone)
    exact Nat.min_eq_left hcover

private theorem reviewEdge_not_claimed {st st' : MilestoneStatus}
    (h : ReviewEdge st st') : st ≠ .claimed ∧ st' ≠ .claimed := by
  rcases h with ⟨rfl | rfl, rfl⟩ | ⟨rfl, rfl | rfl⟩ <;> decide

private theorem claimed_insert_iff {st st' : MilestoneStatus}
    (hentry : m.get index = some st) (hst : st ≠ .claimed)
    (hst' : st' ≠ .claimed) (i : Nat) :
    (m.insert index st').get i = some .claimed ↔ m.get i = some .claimed := by
  by_cases hi : i = index
  · subst hi
    simp [hentry, hst, hst']
  · rw [StorageMap.get_insert_ne _ _ hi]

private theorem shares_of_checkFundingModel {config : CampaignConfig T}
    (h : checkFundingModel config = .ok ()) {goal : Nat}
    {ms : BoundedVec Milestone T.maxMilestones}
    (hmodel : config.fundingModel = .milestoneBased goal ms) :
    (ms.toList.map Milestone.releaseBps).sum = 10000 := by
  simp only [checkFundingModel, hmodel, do_eq_ok] at h
  exact h.2

/-- Every step keeps the disbursed total in line with the statuses. -/
theorem Effect.paidAt (h : Effect b a b')
    (htot : ∀ c, b.campaigns.get id = some c → c.Totals) (hI : b.PaidAt id) :
    b'.PaidAt id := by
  by_cases ht : a.target b = some id
  swap
  · exact hI.sameAt (h.sameAt ht)
  cases h with
  | quiet => exact hI
  | outside => cases ht
  | created hnew hmodel =>
      cases ht
      refine ⟨fun c goal ms hc hm => ?_, fun c goal ms hc _ hst => ?_,
        fun c hc hst => ?_⟩ <;>
        cases (StorageMap.get_insert_self ..).symm.trans hc
      · exact shares_of_checkFundingModel hmodel (hnew.config ▸ hm)
      · cases hnew.status.symm.trans hst
      · cases hnew.status.symm.trans hst
  | invested hget hstatus =>
      cases ht
      exact hI.replace hget (StorageMap.get_insert_self ..) rfl
        (fun hst => by cases hstatus.symm.trans hst)
        (fun hst => by cases hstatus.symm.trans hst)
  | withdrawn hget hstatus | refunded hget hstatus =>
      cases ht
      exact hI.replace hget (StorageMap.get_insert_self ..) rfl
        (fun hst => by
          rcases hstatus with hs | hs <;> cases hs.symm.trans hst)
        (fun hst => by
          rcases hstatus with hs | hs <;> cases hs.symm.trans hst)
  | finalized hcall hget hstatus =>
      rcases hcall with rfl | rfl <;> cases ht <;>
        exact hI.finalize (htot _ hget) hget hstatus rfl
          (StorageMap.get_insert_self ..)
  | paused hcall hget hedge =>
      rcases hcall with rfl | rfl <;> cases ht <;>
        exact hI.replace hget (StorageMap.get_insert_self ..) rfl
          (fun hst => by
            rcases hedge with ⟨_, hs⟩ | ⟨_, hs⟩ <;> cases hs.symm.trans hst)
          (fun hst => by
            rcases hedge with ⟨_, hs⟩ | ⟨_, hs⟩ <;> cases hs.symm.trans hst)
  | cancelled hcall hget =>
      rcases hcall with rfl | rfl <;> cases ht <;>
        exact hI.replace hget (StorageMap.get_insert_self ..) rfl
          (fun hst => by cases hst) (fun hst => by cases hst)
  | reviewed hcall hget hstatus hentry hedge =>
      obtain ⟨hst, hst'⟩ := reviewEdge_not_claimed hedge
      rcases hcall with rfl | rfl | rfl <;> cases ht <;>
        refine hI.replace hget hget rfl
          (fun _ => ⟨hstatus, rfl, rfl, fun i => ?_⟩)
          (fun hdone => by cases hstatus.symm.trans hdone) <;>
        simpa using claimed_insert_iff hentry hst hst' i
  | fundsClaimed hget =>
      cases ht
      exact hI.replace hget (StorageMap.get_insert_self ..) rfl
        (fun hst => by cases hst) (fun _ => .inr rfl)
  | milestoneClaimed hget hcreator hstatus hentry hmodel hm =>
      cases ht
      exact hI.claim (htot _ hget) hget hstatus hentry hmodel hm rfl
        (StorageMap.get_insert_self ..)
  | depositClaimed hget hcreator hstatus =>
      cases ht
      refine hI.replace hget (StorageMap.get_insert_self ..) rfl
        (fun hst => ?_) (fun hst => .inl ⟨hst, rfl, rfl⟩)
      rcases hstatus with hs | hs | hs <;> cases hs.symm.trans hst

theorem paidAt_of_reachable {ok : State T → Action T → Prop}
    (h : Reachable ok s) (id : Nat) : s.toBooks.PaidAt id := by
  refine books_invariant (I := fun b => b.PaidAt id) (fun _ _ => ?_)
    (fun _ _ _ hs hI _ he => he.paidAt (fun _ => totals_of_reachable hs) hI) h
  refine ⟨fun c _ _ hc => ?_, fun c _ _ hc => ?_, fun c hc => ?_⟩ <;>
    simp [State.genesis] at hc

/-! ## A milestone is paid once -/

/-- Whether an action claims this milestone. -/
def isMilestoneClaim (id index : Nat) : Action T → Bool
  | .call _ (.claimMilestoneFunds i j) => decide (i = id ∧ j = index)
  | _ => false

theorem isMilestoneClaim_iff :
    isMilestoneClaim id index a = true ↔
      ∃ o, a = .call o (.claimMilestoneFunds id index) := by
  constructor
  · intro h
    unfold isMilestoneClaim at h
    split at h
    · obtain ⟨rfl, rfl⟩ := of_decide_eq_true h
      exact ⟨_, rfl⟩
    · cases h
  · rintro ⟨o, rfl⟩
    simp [isMilestoneClaim]

/-- The milestone has been claimed, or the campaign is over. -/
def Books.Spent (b : Books T) (id index : Nat) : Prop :=
  ∃ c, b.campaigns.get id = some c ∧
    (c.status = .completed ∨ c.status = .cancelled ∨
      (c.status = .milestonePhase ∧
        (b.milestoneStatuses id).get index = some .claimed))

/-- An accepted claim spends its milestone, which was not spent before. -/
theorem Effect.claim_spends {o : Origin T.AccountId}
    (h : Effect b (.call o (.claimMilestoneFunds id index)) b') :
    ¬ b.Spent id index ∧ b'.Spent id index := by
  cases h with
  | quiet hquiet => cases hquiet
  | finalized hcall | paused hcall | cancelled hcall =>
      rcases hcall with hcall | hcall <;> cases hcall
  | reviewed hcall => rcases hcall with hcall | hcall | hcall <;> cases hcall
  | milestoneClaimed hget hcreator hstatus hentry =>
      constructor
      · rintro ⟨c', hget', hspent⟩
        cases hget.symm.trans hget'
        rw [hstatus, hentry] at hspent
        simp at hspent
      · refine ⟨_, StorageMap.get_insert_self .., ?_⟩
        unfold Campaign.released
        dsimp only
        split
        · exact .inl rfl
        · exact .inr (.inr ⟨hstatus, by simp⟩)

/-- A claimed milestone stays claimed as long as its campaign stays in the
milestone phase. -/
theorem Effect.claimed_stays (h : Effect b a b') {c' : Campaign T}
    (hget : b.campaigns.get id = some c)
    (hget' : b'.campaigns.get id = some c') (hst : c.status = .milestonePhase)
    (hst' : c'.status = .milestonePhase)
    (hclaimed : (b.milestoneStatuses id).get index = some .claimed) :
    (b'.milestoneStatuses id).get index = some .claimed := by
  by_cases ht : a.target b = some id
  swap
  · rw [(h.sameAt ht).statuses]
    exact hclaimed
  cases h with
  | finalized hcall hget₀ hstatus =>
      rcases hcall with rfl | rfl <;> cases ht <;>
        cases hget₀.symm.trans hget <;> cases hstatus.symm.trans hst
  | cancelled hcall =>
      rcases hcall with rfl | rfl <;> cases ht <;>
        cases (StorageMap.get_insert_self ..).symm.trans hget' <;> cases hst'
  | reviewed hcall hget₀ hstatus hentry hedge =>
      obtain ⟨hne, hne'⟩ := reviewEdge_not_claimed hedge
      rcases hcall with rfl | rfl | rfl <;> cases ht <;>
        simpa using (claimed_insert_iff hentry hne hne' index).mpr hclaimed
  | milestoneClaimed =>
      cases ht
      dsimp only
      rw [StorageDoubleMap.insert_self, StorageMap.get_insert]
      split
      · rfl
      · exact hclaimed
  | _ => exact hclaimed

theorem Effect.spent (h : Effect b a b') (hf : b.Fresh)
    (hspent : b.Spent id index) : b'.Spent id index := by
  obtain ⟨c, hget, hcases⟩ := hspent
  obtain ⟨c', hget', hev⟩ := h.evolves hf hget
  refine ⟨c', hget', ?_⟩
  rcases hcases with hst | hst | ⟨hst, hclaimed⟩
  · rcases hev.status with heq | hedge
    · exact .inl (heq.trans hst)
    · rw [hst] at hedge
      cases hnew : c'.status <;> rw [hnew] at hedge <;> cases hedge
  · rcases hev.status with heq | hedge
    · exact .inr (.inl (heq.trans hst))
    · rw [hst] at hedge
      cases hnew : c'.status <;> rw [hnew] at hedge <;> cases hedge
  · rcases hev.status with heq | hedge
    · exact .inr (.inr ⟨heq.trans hst,
        h.claimed_stays hget hget' hst (heq.trans hst) hclaimed⟩)
    · rw [hst] at hedge
      cases hnew : c'.status <;> rw [hnew] at hedge <;> simp_all [StatusEdge]

/-- Over any run, each milestone is claimed at most once. -/
theorem claims_le_one {s' : State T} {t : List (State T × Action T)}
    (hrun : Transition.Run step s t s') (hf : s.toBooks.Fresh)
    (id index : Nat) :
    t.countP (fun p => isMilestoneClaim id index p.2) ≤ 1 := by
  refine hrun.countP_le_one (I := fun s => s.toBooks.Fresh)
    (P := fun s => s.toBooks.Spent id index) (p := isMilestoneClaim id index)
    (fun s a s' hf h => (step_effect h).fresh hf)
    (fun s a s' hf hspent h => (step_effect h).spent hf hspent)
    (fun s a s' _ hspent h => ?_) (fun s a s' _ h hclaim => ?_) hf
  · by_contra hclaim
    obtain ⟨o, rfl⟩ := isMilestoneClaim_iff.mp (by simpa using hclaim)
    exact (step_effect h).claim_spends.1 hspent
  · obtain ⟨o, rfl⟩ := isMilestoneClaim_iff.mp hclaim
    exact (step_effect h).claim_spends.2

/-! ## Each claim pays what it books -/

/-- The step pays a fee to the fee recipient and the rest to the creator, and
adds exactly their sum to the disbursed total. -/
def ClaimPays (s s' : State T) (id : Nat) : Prop :=
  ∃ c c' fee creatorAmount,
    s.campaigns.get id = some c ∧ s'.campaigns.get id = some c' ∧
    PaidOut s.world s'.world id c.config.fundingCurrency
      (effectiveProtocolFeeRecipient s) c.creator fee creatorAmount ∧
    c'.totalDisbursed = c.totalDisbursed + (fee + creatorAmount)

theorem claim_pays {s' : State T} {o : Origin T.AccountId}
    (htot : ∀ c, s.campaigns.get id = some c → c.Totals)
    (h : claimMilestoneFunds s o id index = .ok s') : ClaimPays s s' id := by
  simp only [claimMilestoneFunds, do_eq_ok, ensureSigned_eq_ok] at h
  obtain ⟨who, rfl, c, hget, rfl, _, _, _, _, l, _, m, _, s₁, hpay, rfl⟩ := h
  obtain ⟨w, _, hpaid, rfl⟩ := payOut_eq_ok hpay
  have hle := bpsOf_le (c.milestoneRelease m) c.protocolFeeBps
  refine ⟨c, _, _, _, hget, StorageMap.get_insert_self .., hpaid, ?_⟩
  rw [(htot c hget).disbursed_released]
  omega

/-- Over every run from genesis: each milestone is claimed at most once; no
campaign disburses more than it raised; each claim pays a fee and the creator's
share that add up to what it books; and a completed campaign has disbursed
exactly what it raised, if that is at most `(2 ^ 128 - 1) / 10000`. -/
theorem milestone_payout_exact {s₀ s : State T} (hg : Genesis s₀)
    {t : List (State T × Action T)} (hrun : Transition.Run step s₀ t s)
    (id : Nat) :
    (∀ index, t.countP (fun p => isMilestoneClaim id index p.2) ≤ 1) ∧
    (∀ c, s.campaigns.get id = some c → c.totalDisbursed ≤ c.totalRaised) ∧
    (∀ p ∈ t, ∀ o index s', p.2 = .call o (.claimMilestoneFunds id index) →
      step p.1 p.2 = .ok s' → ClaimPays p.1 s' id) ∧
    (∀ c, s.campaigns.get id = some c → c.status = .completed →
      c.totalRaised ≤ (2 ^ 128 - 1) / 10000 →
      c.totalDisbursed = c.totalRaised) := by
  have hstart : Reachable (fun _ _ => True) s₀ := .init hg
  have hend := hstart.run hrun (fun _ _ => trivial)
  refine ⟨claims_le_one hrun (fresh_of_reachable hstart) id,
    fun c hget => (totals_of_reachable hend hget).disbursed_le, ?_,
    (paidAt_of_reachable hend id).completed⟩
  rintro ⟨s₁, a⟩ hp o index s' rfl hstep
  have hs₁ := (hstart.mem_run hrun (fun _ _ => trivial) _ hp).1
  exact claim_pays (fun _ => totals_of_reachable hs₁) hstep

/-- The milestones of `milestoneRequests` claimed, the second one first. -/
def claimAll : List (Action purse) :=
  milestoneRequests ++
    [ signedBy 1 (.submitMilestone 0 1),
      byRoot (.rejectMilestone 0 1),
      signedBy 1 (.submitMilestone 0 1),
      byRoot (.approveMilestone 0 1),
      signedBy 1 (.claimMilestoneFunds 0 1),
      signedBy 1 (.claimMilestoneFunds 0 0) ]

theorem milestone_payout_exact_two :
    ∃ c, (purseAfter claimAll).campaigns.get 0 = some c ∧
      c.status = .completed ∧ c.totalRaised = 100 ∧
      c.totalDisbursed = c.totalRaised := by
  have hview : ((purseAfter claimAll).campaigns.get 0).map
      (fun c => (c.status, c.totalRaised)) = some (.completed, 100) := by
    decide +kernel
  obtain ⟨c, hget, hc⟩ := Option.map_eq_some_iff.mp hview
  obtain ⟨hstatus, hraised⟩ := Prod.mk.inj hc
  have hrun := @purseAfter_run claimAll (by decide +kernel)
  refine ⟨c, hget, hstatus, hraised, ?_⟩
  exact (milestone_payout_exact ⟨_, _, rfl⟩ hrun 0).2.2.2 c hget hstatus
    (by rw [hraised]; decide)

end Thxnet.Crowdfunding
