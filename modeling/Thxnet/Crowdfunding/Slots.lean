import Thxnet.Crowdfunding.Ledger

/-!
# The slots of an investor

An investor can be listed in a bounded number of campaigns.  A full withdrawal
and a refund take the campaign off the list; completing it does not.  So the
lists are free of completed campaigns all along a run exactly when every step
that completes a campaign finds nobody listed in it.
-/

namespace Thxnet.Crowdfunding

open Thxnet.Lib Thxnet.Frame

variable {T : Config}

/-! ## One step -/

/-- Whoever is listed in a campaign is listed in one that is not completed. -/
def Books.ReleasedAt (b : Books T) (id : Nat) : Prop :=
  ∀ who, b.listings id who ≠ 0 →
    ∃ c, b.campaigns.get id = some c ∧ c.status ≠ .completed

/-- Whether claiming this milestone leaves no other one to claim. -/
def Books.finishes (b : Books T) (id index : Nat) : Bool :=
  (b.campaigns.get id).any fun c =>
    allClaimed (b.milestoneStatuses.insert id index .claimed) id
      c.config.fundingModel.milestones.length

/-- A step that completes a campaign finds nobody listed in it. -/
def FreesSlots (b : Books T) : Action T → Prop
  | .call _ (.claimFunds id) => ∀ who, b.listings id who = 0
  | .call _ (.claimMilestoneFunds id index) =>
      b.finishes id index = true → ∀ who, b.listings id who = 0
  | .call _ _ => True
  | .nextBlock => True
  | .outside _ => True

variable {a : Action T} {b b' : Books T} {c : Campaign T} {id : Nat}

theorem Books.ReleasedAt.sameAt (h : b.ReleasedAt id) (hsame : SameAt b b' id) :
    b'.ReleasedAt id := by
  intro who hlisted
  rw [hsame.listings] at hlisted
  rw [hsame.campaign]
  exact h who hlisted

/-- What is stored under the campaign is not completed, whoever is listed. -/
theorem releasedAt_of_status (hget : b.campaigns.get id = some c)
    (hst : c.status ≠ .completed) : b.ReleasedAt id :=
  fun _ _ => ⟨c, hget, hst⟩

private theorem releasedAt_insert (hb : b'.campaigns = b.campaigns.insert id c)
    (hst : c.status ≠ .completed) : b'.ReleasedAt id ↔ True :=
  iff_true_intro (releasedAt_of_status
    (hb ▸ StorageMap.get_insert_self ..) hst)

theorem releasedAt_of_completed (hget : b.campaigns.get id = some c)
    (hst : c.status = .completed) :
    b.ReleasedAt id ↔ ∀ who, b.listings id who = 0 := by
  constructor
  · intro h who
    by_contra hlisted
    obtain ⟨c', hget', hst'⟩ := h who hlisted
    cases hget.symm.trans hget'
    exact hst' hst
  · intro h who hlisted
    exact absurd (h who) hlisted

theorem doFinalize_ne_completed (m : StorageDoubleMap Nat Nat MilestoneStatus)
    (id : Nat) (c : Campaign T) : (doFinalize m id c).1 ≠ .completed := by
  unfold doFinalize
  cases c.config.fundingModel with
  | allOrNothing | milestoneBased =>
      dsimp only
      split <;> exact fun h => by cases h
  | keepWhatYouRaise softCap =>
      cases softCap with
      | none => exact fun h => by cases h
      | some =>
          dsimp only
          split <;> exact fun h => by cases h

theorem freesSlots_of_quiet (h : a.isQuiet = true) : FreesSlots b a := by
  cases a with
  | nextBlock | outside => trivial
  | call o c =>
      cases c with
      | claimFunds | claimMilestoneFunds => cases h
      | _ => trivial

theorem freesSlots_of_target_none (ht : a.target b = none) :
    FreesSlots b a := by
  cases a with
  | nextBlock | outside => trivial
  | call o c =>
      cases c with
      | claimFunds | claimMilestoneFunds => cases ht
      | _ => trivial

theorem Effect.releasedAt_iff (h : Effect b a b') (hI : b.ReleasedAt id)
    (ht : a.target b = some id) : b'.ReleasedAt id ↔ FreesSlots b a := by
  cases h with
  | quiet hquiet => exact iff_of_true hI (freesSlots_of_quiet hquiet)
  | outside => cases ht
  | created hnew =>
      cases ht
      refine releasedAt_insert rfl ?_
      rw [hnew.status]
      exact fun h => by cases h
  | invested _ hstatus =>
      cases ht
      refine releasedAt_insert rfl ?_
      simp [Campaign.invested, hstatus]
  | withdrawn _ hstatus =>
      cases ht
      refine releasedAt_insert rfl ?_
      rcases hstatus with hst | hst <;> simp [Campaign.withdrawn, hst]
  | refunded _ hstatus =>
      cases ht
      refine releasedAt_insert rfl ?_
      rcases hstatus with hst | hst <;> simp [hst]
  | finalized hcall =>
      rcases hcall with rfl | rfl <;> cases ht <;>
        exact releasedAt_insert rfl (doFinalize_ne_completed _ _ _)
  | paused hcall _ hedge =>
      rcases hcall with rfl | rfl <;> cases ht <;>
        refine releasedAt_insert rfl ?_ <;>
        rcases hedge with ⟨_, rfl⟩ | ⟨_, rfl⟩ <;> exact fun h => by cases h
  | cancelled hcall =>
      rcases hcall with rfl | rfl <;> cases ht <;>
        exact releasedAt_insert rfl (fun h => by cases h)
  | reviewed hcall =>
      rcases hcall with rfl | rfl | rfl <;> exact iff_of_true hI trivial
  | fundsClaimed =>
      cases ht
      exact releasedAt_of_completed (StorageMap.get_insert_self ..) rfl
  | @milestoneClaimed _ _ _ index _ c ms _ _ hget _ hstatus _ hmodel =>
      cases ht
      have hfinishes : b.finishes id index =
          allClaimed (b.milestoneStatuses.insert id index .claimed) id
            ms.toList.length := by
        simp [Books.finishes, hget, hmodel, FundingModel.milestones]
      show _ ↔ (b.finishes id index = true → ∀ who, b.listings id who = 0)
      rw [hfinishes]
      by_cases hall : allClaimed (b.milestoneStatuses.insert id index .claimed)
          id ms.toList.length = true
      · rw [releasedAt_of_completed (StorageMap.get_insert_self ..)
          (by simp [Campaign.released, hall])]
        exact ⟨fun h _ => h, fun h => h hall⟩
      · refine iff_of_true (releasedAt_of_status
          (StorageMap.get_insert_self ..) ?_) (fun h => absurd h hall)
        simp [Campaign.released, hall, hstatus]
  | depositClaimed hget =>
      cases ht
      refine iff_of_true (fun who hlisted => ?_) trivial
      obtain ⟨c', hget', hst⟩ := hI who hlisted
      cases hget.symm.trans hget'
      exact ⟨_, StorageMap.get_insert_self .., hst⟩

/-- A step keeps the lists free of completed campaigns exactly when it frees
the slots of the campaign it completes. -/
theorem Effect.released_iff (h : Effect b a b') (hI : ∀ id, b.ReleasedAt id) :
    (∀ id, b'.ReleasedAt id) ↔ FreesSlots b a := by
  cases ht : a.target b with
  | none =>
      refine iff_of_true (fun id => (hI id).sameAt (h.sameAt ?_)) ?_
      · rw [ht]
        exact fun h => by cases h
      · exact freesSlots_of_target_none ht
  | some id =>
      constructor
      · intro hall
        exact (h.releasedAt_iff (hI id) ht).mp (hall id)
      · intro hfrees i
        by_cases hi : i = id
        · subst hi
          exact (h.releasedAt_iff (hI i) ht).mpr hfrees
        · refine (hI i).sameAt (h.sameAt ?_)
          rw [ht]
          exact fun heq => hi (Option.some.inj heq).symm

/-! ## Investing again -/

/-- Everything `invest` asks for but a free slot. -/
structure Investable (s : State T) (who : T.AccountId) (id amount : Nat)
    (c : Campaign T) (w : T.World) : Prop where
  campaign : s.campaigns.get id = some c
  status : c.status = .funding
  time : s.now ≤ c.config.deadline
  positive : amount ≠ 0
  eligible : checkEligibilityInner s who id c.eligibilityRules.toList = .ok ()
  least : ∀ n, c.config.minInvestment = some n → n ≤ amount
  cap : ∀ n, c.config.hardCap = some n →
    saturatingAdd 128 c.totalRaised amount ≤ n
  most : ∀ n, c.config.maxInvestmentPerInvestor = some n →
    saturatingAdd 128 (s.investment id who).net amount ≤ n
  paid : doTransfer s.world c.config.fundingCurrency who (T.campaignAccount id)
    amount .keepAlive = .ok w

theorem Investable.invest {s : State T} {who : T.AccountId} {amount : Nat}
    {w : T.World} (h : Investable s who id amount c w)
    (hroom : (s.investorCampaigns who).toList.length <
      T.maxInvestmentsPerInvestor) :
    ∃ s', invest s (.signed who) id amount = .ok s' := by
  have hpush : ∃ ids, s.pushNew id who = some ids := by
    unfold Books.pushNew
    split
    · exact BoundedVec.tryPush_isSome id hroom
    · exact ⟨_, rfl⟩
  obtain ⟨ids, hids⟩ := hpush
  simp only [Crowdfunding.invest, do_eq_ok, ensureSigned_eq_ok, whenSome_eq_ok]
  exact ⟨_, who, rfl, c, h.campaign, h.status, h.time, h.positive, (),
    h.eligible, h.least, h.cap, h.most, fun _ => hroom, w, h.paid, ids, hids, rfl⟩

/-- **Slots.**  All along a run from genesis nobody is listed in a completed
campaign exactly when every step that completes a campaign finds nobody listed
in it.  After such a run, somebody all of whose campaigns have been completed
has every slot free. -/
theorem slots_released_iff {s₀ s : State T} (hg : Genesis s₀)
    {t : List (State T × Action T)} (hrun : Transition.Run step s₀ t s) :
    ((∀ past m, past <+: t → Transition.Run step s₀ past m →
        ∀ who, ∀ id ∈ (m.investorCampaigns who).toList,
          ∃ c, m.campaigns.get id = some c ∧ c.status ≠ .completed) ↔
      ∀ p ∈ t, FreesSlots p.1.toBooks p.2) ∧
    ((∀ p ∈ t, FreesSlots p.1.toBooks p.2) → 0 < T.maxInvestmentsPerInvestor →
      ∀ who, (∀ id ∈ (s.investorCampaigns who).toList, ∀ c,
          s.campaigns.get id = some c → c.status = .completed) →
        ∀ id amount c w, Investable s who id amount c w →
          ∃ s', invest s (.signed who) id amount = .ok s') := by
  have hreleased : ∀ m : State T, (∀ id, m.ReleasedAt id) ↔
      ∀ who, ∀ id ∈ (m.investorCampaigns who).toList,
        ∃ c, m.campaigns.get id = some c ∧ c.status ≠ .completed := by
    intro m
    unfold Books.ReleasedAt Books.listings
    simp only [ne_eq, List.count_eq_zero, not_not]
    exact forall_comm
  have hstart : ∀ id, s₀.ReleasedAt id := by
    obtain ⟨world, now, rfl⟩ := hg
    exact fun id who hlisted => absurd rfl hlisted
  have hiff := hrun.throughout_iff (J := fun m => ∀ id, m.ReleasedAt id)
    (fun _ _ _ hI h => (step_effect h).released_iff hI) hstart
  simp only [hreleased] at hiff
  refine ⟨hiff, fun hfrees hmax who hdone id amount c w hinvestable => ?_⟩
  have hend := hiff.mpr hfrees t s List.prefix_rfl hrun who
  have hempty : (s.investorCampaigns who).toList = [] := by
    refine List.eq_nil_iff_forall_not_mem.mpr fun i hi => ?_
    obtain ⟨c', hget, hst⟩ := hend i hi
    exact hst (hdone i hi c' hget)
  refine hinvestable.invest ?_
  rw [hempty]
  exact hmax

/-! ## Completed and cancelled campaigns -/

/-- The calls that can complete a campaign. -/
def Action.completes : Action T → Bool
  | .call _ (.claimFunds _) => true
  | .call _ (.claimMilestoneFunds _ _) => true
  | .call _ _ => false
  | .nextBlock => false
  | .outside _ => false

theorem freesSlots_of_not_completes (h : a.completes = false) :
    FreesSlots b a := by
  cases a with
  | nextBlock | outside => trivial
  | call o c =>
      cases c with
      | claimFunds | claimMilestoneFunds => cases h
      | _ => trivial

/-- Account 1 opens a campaign, account 2 invests in it, and then what is left
to be done happens. -/
def campaignRun (id : Nat) (rest : List (Action purse)) :
    List (Action purse) :=
  openCampaign :: signedBy 2 (.invest id 100) :: rest

/-- Five campaigns that succeed and are completed, then one more. -/
def completedFive : List (Action purse) :=
  (List.range 5).flatMap (fun id => campaignRun id
    [byRoot (.forceFinalizeCampaign id), signedBy 1 (.claimFunds id)]) ++
  [signedBy 3 (.createCampaign
    (mockConfig (.keepWhatYouRaise none) .native 50) none none)]

/-- Five campaigns that are cancelled and refunded, then one more. -/
def cancelledFive : List (Action purse) :=
  (List.range 5).flatMap (fun id => campaignRun id
    [byRoot (.cancelCampaign id), signedBy 2 (.claimRefund id)]) ++
  [signedBy 3 (.createCampaign
    (mockConfig (.keepWhatYouRaise none) .native 50) none none)]

/-- Five completed campaigns take up all slots of their investor, who is refused
in the next one. -/
theorem completed_keeps_slots :
    Reachable (fun _ _ => True) (purseAfter completedFive) ∧
      ((purseAfter completedFive).investorCampaigns (2 : Nat)).toList =
        [0, 1, 2, 3, 4] ∧
      (∀ id ∈ [0, 1, 2, 3, 4],
        ((purseAfter completedFive).campaigns.get id).map Campaign.status =
          some .completed) ∧
      failure (invest (purseAfter completedFive) (.signed (2 : Nat)) 5 100) =
        some (purse.err .maxInvestmentsPerInvestorReached) :=
  ⟨purseAfter_reachable (fun _ _ _ => trivial) (by decide +kernel),
    by decide +kernel, by decide +kernel, by decide +kernel⟩

/-- A campaign over a purse that asks for nothing and is still open. -/
def plainlyOpen (s : State purse) (c : Campaign purse) : Bool :=
  decide (c.status = .funding ∧ s.now ≤ c.config.deadline ∧
    c.eligibilityRules.toList.length = 0 ∧ c.config.minInvestment = none ∧
    c.config.hardCap = none ∧ c.config.maxInvestmentPerInvestor = none ∧
    c.config.fundingCurrency = .native)

theorem investable_of_plainlyOpen {s : State purse} {c : Campaign purse}
    (hget : s.campaigns.get id = some c) (hopen : plainlyOpen s c = true)
    (who : Nat) {amount : Nat} (hpos : amount ≠ 0)
    (hle : amount ≤ s.world.native who) :
    ∃ w, Investable s who id amount c w := by
  obtain ⟨hst, htime, hrules, hleast, hcap, hmost, hcurrency⟩ :=
    of_decide_eq_true hopen
  have hpay : ∃ w, doTransfer (T := purse) s.world .native who
      (purse.campaignAccount id) amount .keepAlive = .ok w := by
    simp [doTransfer, transferWith, hpos, purseCurrency, moveUnits, takeUnits,
      hle]
  obtain ⟨w, hpay⟩ := hpay
  refine ⟨w, hget, hst, htime, hpos, ?_, ?_, ?_, ?_, ?_⟩
  · rw [List.eq_nil_of_length_eq_zero hrules]
    rfl
  · simp [hleast]
  · simp [hcap]
  · simp [hmost]
  · rw [hcurrency]
    exact hpay

/-- After five cancelled and refunded campaigns the investor can go on. -/
theorem slots_released_iff_cancelled :
    ∃ s', invest (purseAfter cancelledFive) (.signed (2 : Nat)) 5 100 =
      .ok s' := by
  have hrun : Transition.Run step purseGenesis
      (Transition.trace step purseGenesis cancelledFive)
      (purseAfter cancelledFive) := purseAfter_run (by decide +kernel)
  have hfrees : ∀ a ∈ cancelledFive, a.completes = false := by decide
  have hempty : ((purseAfter cancelledFive).investorCampaigns (2 : Nat)).toList
      = [] := by decide +kernel
  have hsome : ((purseAfter cancelledFive).campaigns.get 5).any
      (plainlyOpen (purseAfter cancelledFive)) = true := by decide +kernel
  obtain ⟨c, hget, hopen⟩ := (Option.any_eq_true _ _).mp hsome
  have hhas : 100 ≤ (purseAfter cancelledFive).world.native 2 := by
    decide +kernel
  obtain ⟨w, hinvestable⟩ := investable_of_plainlyOpen hget hopen 2
    (by decide) hhas
  refine (slots_released_iff ⟨_, _, rfl⟩ hrun).2 (fun p hp => ?_) (by decide) 2
    (fun id hid => ?_) 5 100 c w hinvestable
  · exact freesSlots_of_not_completes
      (hfrees p.2 (Transition.mem_of_mem_trace hp))
  · rw [hempty] at hid
    cases hid

end Thxnet.Crowdfunding
