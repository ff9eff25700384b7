import Thxnet.Crowdfunding.Calls

/-!
# What a step can do to the books

`Effect b a b'` lists every way an accepted step `a` can change the books `b`
into `b'`, with the checks the step has passed.  `step_effect` is the only
place where the dispatchables are unfolded for this; an invariant of the books
is proved by going through the constructors of `Effect`.
-/

namespace Thxnet.Crowdfunding

open Thxnet.Lib Thxnet.Frame

variable {T : Config}

/-! ## The vocabulary of effects -/

/-- Steps that leave the books alone. -/
def Action.isQuiet : Action T → Bool
  | .nextBlock => true
  | .outside _ => false
  | .call _ c =>
      match c with
      | .setDefaultEligibility _ => true
      | .addToWhitelist _ _ => true
      | .removeFromWhitelist _ _ => true
      | .setProtocolConfig _ _ => true
      | _ => false

/-- The campaign that `create_campaign` stores. -/
structure Campaign.IsNew (c : Campaign T) (creator : T.AccountId)
    (config : CampaignConfig T) : Prop where
  creator : c.creator = creator
  status : c.status = .funding
  config : c.config = config
  raised : c.totalRaised = 0
  disbursed : c.totalDisbursed = 0
  count : c.investorCount = 0
  deposit : c.creationDeposit = T.campaignCreationDeposit

/-- The status changes of `pause_campaign` and `resume_campaign`. -/
def PauseEdge (st st' : CampaignStatus) : Prop :=
  (st = .funding ∧ st' = .paused) ∨ (st = .paused ∧ st' = .funding)

/-- The milestone status changes that move no money. -/
def ReviewEdge (st st' : MilestoneStatus) : Prop :=
  ((st = .pending ∨ st = .rejected) ∧ st' = .submitted) ∨
    (st = .submitted ∧ (st' = .approved ∨ st' = .rejected))

/-- A fee went from the sub-account to `recipient`, and then an amount to
`who`. -/
def PaidOut (w w' : T.World) (id : Nat) (currency : PaymentCurrency T.AssetId)
    (recipient who : T.AccountId) (fee amount : Nat) : Prop :=
  ∃ w₁,
    doTransfer w currency (T.campaignAccount id) recipient fee .allowDeath
      = .ok w₁ ∧
    doTransfer w₁ currency (T.campaignAccount id) who amount .allowDeath
      = .ok w'

/-- The effects of accepted steps. -/
inductive Effect (b : Books T) : Action T → Books T → Prop where
  | quiet {a : Action T} (hquiet : a.isQuiet = true) : Effect b a b
  | outside (w : T.World) : Effect b (.outside w) { b with world := w }
  | created {creator : T.AccountId} {config : CampaignConfig T}
      {rules : Option (BoundedVec (EligibilityRule T) T.maxEligibilityRules)}
      {license : Option (Nat × Nat)} {c : Campaign T} {w : T.World}
      (hnew : c.IsNew creator config)
      (hmodel : checkFundingModel config = .ok ())
      (hmin : T.nativeCurrency.minimumBalance ≤ T.campaignCreationDeposit)
      (hfits : b.nextCampaignId + 1 < 2 ^ 32)
      (hpay : T.nativeCurrency.transfer b.world creator
        (T.campaignAccount b.nextCampaignId) T.campaignCreationDeposit
        .keepAlive = .ok w) :
      Effect b (.call (.signed creator) (.createCampaign config rules license))
        { b with
          world := w
          nextCampaignId := b.nextCampaignId + 1
          campaigns := b.campaigns.insert b.nextCampaignId c }
  | invested {who : T.AccountId} {id amount : Nat} {c : Campaign T}
      {w : T.World} {ids : BoundedVec Nat T.maxInvestmentsPerInvestor}
      (hget : b.campaigns.get id = some c) (hstatus : c.status = .funding)
      (hamount : amount ≠ 0)
      (hpay : doTransfer b.world c.config.fundingCurrency who
        (T.campaignAccount id) amount .keepAlive = .ok w)
      (hids : b.pushNew id who = some ids) :
      Effect b (.call (.signed who) (.invest id amount))
        { b with
          world := w
          investments := b.investments.insert id who
            ((b.investment id who).invested amount)
          campaigns := b.campaigns.insert id
            (c.invested amount (b.isNew id who))
          investorCampaigns := Function.update b.investorCampaigns who ids }
  | withdrawn {who : T.AccountId} {id amount : Nat} {c : Campaign T}
      {inv : Investment} {w₁ w : T.World}
      (hget : b.campaigns.get id = some c)
      (hstatus : c.status = .funding ∨ c.status = .paused)
      (hamount : amount ≠ 0) (hinv : (b.investments id).get who = some inv)
      (hle : amount ≤ inv.net)
      (hpay : doTransfer b.world c.config.fundingCurrency
        (T.campaignAccount id) who (c.withdrawalNet amount) .allowDeath
        = .ok w₁)
      (hburn : doBurn w₁ c.config.fundingCurrency (T.campaignAccount id)
        (bpsOf amount c.penaltyBps) .allowDeath = .ok w) :
      Effect b (.call (.signed who) (.withdrawInvestment id amount))
        { b with
          world := w
          investments :=
            b.investments.insert id who (inv.withdrawn amount)
          investorCampaigns :=
            if (inv.withdrawn amount).fullyWithdrawn then b.dropCampaign id who
            else b.investorCampaigns
          campaigns := b.campaigns.insert id
            (c.withdrawn amount (inv.withdrawn amount).fullyWithdrawn) }
  | refunded {who : T.AccountId} {id : Nat} {c : Campaign T}
      {inv : Investment} {w : T.World}
      (hget : b.campaigns.get id = some c)
      (hstatus : c.status = .failed ∨ c.status = .cancelled)
      (hinv : (b.investments id).get who = some inv) (hnet : inv.net ≠ 0)
      (hrefund : c.refund inv ≠ 0)
      (hpay : doTransfer b.world c.config.fundingCurrency
        (T.campaignAccount id) who (c.refund inv) .allowDeath = .ok w) :
      Effect b (.call (.signed who) (.claimRefund id))
        { b with
          world := w
          investments := b.investments.remove id who
          investorCampaigns := b.dropCampaign id who
          campaigns := b.campaigns.insert id
            { c with investorCount := c.investorCount - 1 } }
  | finalized {o : Origin T.AccountId} {call : Call T} {id : Nat}
      {c : Campaign T}
      (hcall : call = .finalizeCampaign id ∨ call = .forceFinalizeCampaign id)
      (hget : b.campaigns.get id = some c) (hstatus : c.status = .funding) :
      Effect b (.call o call)
        { b with
          milestoneStatuses := (doFinalize b.milestoneStatuses id c).2
          campaigns := b.campaigns.insert id
            { c with status := (doFinalize b.milestoneStatuses id c).1 } }
  | paused {o : Origin T.AccountId} {call : Call T} {id : Nat}
      {c : Campaign T} {status : CampaignStatus} {deadline : Nat}
      {pausedAt : Option Nat}
      (hcall : call = .pauseCampaign id ∨ call = .resumeCampaign id)
      (hget : b.campaigns.get id = some c) (hedge : PauseEdge c.status status) :
      Effect b (.call o call)
        { b with
          campaigns := b.campaigns.insert id
            { c with
              config := { c.config with deadline := deadline }
              pausedAt := pausedAt
              status := status } }
  | cancelled {o : Origin T.AccountId} {call : Call T} {id : Nat}
      {c : Campaign T}
      (hcall : call = .cancelCampaign id ∨ call = .reportLicenseRevoked id)
      (hget : b.campaigns.get id = some c)
      (hstatus : ¬ (c.status = .cancelled ∨ c.status = .completed ∨
        c.status = .succeeded)) :
      Effect b (.call o call)
        { b with
          campaigns := b.campaigns.insert id { c with status := .cancelled }
          milestoneStatuses := b.withoutMilestones id c }
  | reviewed {o : Origin T.AccountId} {call : Call T} {id index : Nat}
      {c : Campaign T} {st st' : MilestoneStatus}
      (hcall : call = .submitMilestone id index ∨
        call = .approveMilestone id index ∨ call = .rejectMilestone id index)
      (hget : b.campaigns.get id = some c)
      (hstatus : c.status = .milestonePhase)
      (hentry : (b.milestoneStatuses id).get index = some st)
      (hedge : ReviewEdge st st') :
      Effect b (.call o call)
        { b with
          milestoneStatuses := b.milestoneStatuses.insert id index st' }
  | fundsClaimed {recipient who : T.AccountId} {id : Nat} {c : Campaign T}
      {w : T.World}
      (hget : b.campaigns.get id = some c) (hcreator : c.creator = who)
      (hstatus : c.status = .succeeded)
      (hclaim : c.totalRaised - c.totalDisbursed ≠ 0)
      (hpay : PaidOut b.world w id c.config.fundingCurrency recipient who
        (bpsOf (c.totalRaised - c.totalDisbursed) c.protocolFeeBps)
        (c.totalRaised - c.totalDisbursed
          - bpsOf (c.totalRaised - c.totalDisbursed) c.protocolFeeBps)) :
      Effect b (.call (.signed who) (.claimFunds id))
        { b with
          world := w
          campaigns := b.campaigns.insert id
            { c with totalDisbursed := c.totalRaised, status := .completed } }
  | milestoneClaimed {recipient who : T.AccountId} {id index goal : Nat}
      {c : Campaign T} {ms : BoundedVec Milestone T.maxMilestones}
      {m : Milestone} {w : T.World}
      (hget : b.campaigns.get id = some c) (hcreator : c.creator = who)
      (hstatus : c.status = .milestonePhase)
      (hentry : (b.milestoneStatuses id).get index = some .approved)
      (hmodel : c.config.fundingModel = .milestoneBased goal ms)
      (hm : ms.toList[index]? = some m)
      (hpay : PaidOut b.world w id c.config.fundingCurrency recipient who
        (bpsOf (c.milestoneRelease m) c.protocolFeeBps)
        (c.milestoneRelease m
          - bpsOf (c.milestoneRelease m) c.protocolFeeBps)) :
      Effect b (.call (.signed who) (.claimMilestoneFunds id index))
        { b with
          world := w
          milestoneStatuses := b.milestoneStatuses.insert id index .claimed
          campaigns := b.campaigns.insert id
            (c.released (c.milestoneRelease m)
              (allClaimed (b.milestoneStatuses.insert id index .claimed) id
                ms.toList.length)) }
  | depositClaimed {who : T.AccountId} {id : Nat} {c : Campaign T}
      {w : T.World}
      (hget : b.campaigns.get id = some c) (hcreator : c.creator = who)
      (hstatus : c.status = .completed ∨ c.status = .failed ∨
        c.status = .cancelled)
      (hdeposit : c.creationDeposit ≠ 0)
      (hpay : T.nativeCurrency.transfer b.world (T.campaignAccount id) who
        c.creationDeposit (depositRequirement c) = .ok w) :
      Effect b (.call (.signed who) (.claimCreationDeposit id))
        { b with
          world := w
          campaigns := b.campaigns.insert id { c with creationDeposit := 0 } }

/-! ## Beside the books -/

/-- The campaign whose whitelist a call clears. -/
def Call.clears : Call T → Option Nat
  | .cancelCampaign id => some id
  | .claimCreationDeposit id => some id
  | .reportLicenseRevoked id => some id
  | _ => none

/-- Whether an account is on the whitelist of a campaign. -/
def State.listed (s : State T) (id : Nat) (account : T.AccountId) : Bool :=
  ((s.campaignWhitelist id).get account).getD false

/-- What a call can do to the whitelists. -/
inductive WhitelistMove (call : Call T) (s s' : State T) : Prop where
  | kept (hcall : call.clears = none)
      (hlist : s'.campaignWhitelist = s.campaignWhitelist)
      (hcount : s'.campaignWhitelistCount = s.campaignWhitelistCount)
  | cleared {id : Nat} (hcall : call.clears = some id)
      (hlist : s'.campaignWhitelist = s.campaignWhitelist.clearPrefix id)
      (hcount : s'.campaignWhitelistCount =
        Function.update s.campaignWhitelistCount id 0)
  | added {id : Nat} {account : T.AccountId} {c : Campaign T}
      (hcall : call.clears = none) (hget : s.campaigns.get id = some c)
      (hstatus : c.status = .funding ∨ c.status = .paused)
      (hroom : s.listed id account = false →
        s.campaignWhitelistCount id < T.maxWhitelistSize)
      (hlist : s'.campaignWhitelist =
        s.campaignWhitelist.insert id account true)
      (hcount : s'.campaignWhitelistCount =
        if s.listed id account then s.campaignWhitelistCount
        else Function.update s.campaignWhitelistCount id
          (s.campaignWhitelistCount id + 1))
  | removed {id : Nat} {account : T.AccountId} {c : Campaign T}
      (hcall : call.clears = none) (hget : s.campaigns.get id = some c)
      (hstatus : c.status = .funding ∨ c.status = .paused)
      (hlist : s'.campaignWhitelist = s.campaignWhitelist.remove id account)
      (hcount : s'.campaignWhitelistCount =
        if s.listed id account then
          Function.update s.campaignWhitelistCount id
            (s.campaignWhitelistCount id - 1)
        else s.campaignWhitelistCount)

/-- What a call does beside the books. -/
structure Beside (call : Call T) (s s' : State T) : Prop where
  now : s'.now = s.now
  whitelist : WhitelistMove call s s'

/-- What an accepted call does to the state. -/
structure Dispatched (o : Origin T.AccountId) (call : Call T) (s s' : State T) :
    Prop where
  effect : Effect s.toBooks (.call o call) s'.toBooks
  beside : Beside call s s'

/-! ## The effect of each dispatchable -/

variable {b : Books T} {amount id id' index : Nat} {o : Origin T.AccountId}
    {s s' : State T} {m : StorageDoubleMap Nat Nat MilestoneStatus}
    {who : T.AccountId}

theorem createCampaign_effect {config : CampaignConfig T}
    {rules : Option (BoundedVec (EligibilityRule T) T.maxEligibilityRules)}
    {license : Option (Nat × Nat)}
    (h : createCampaign s o config rules license = .ok s') :
    Dispatched o (.createCampaign config rules license) s s' := by
  simp only [createCampaign, do_eq_ok, ensureSigned_eq_ok] at h
  obtain ⟨creator, rfl, _, _, _, _, _, _, _, _, hmodel, _, _, _, _, _, hmin,
    hfits, w, hpay, ids, _, rfl⟩ := h
  exact ⟨.created ⟨rfl, rfl, rfl, rfl, rfl, rfl, rfl⟩ hmodel hmin hfits hpay,
    rfl, .kept rfl rfl rfl⟩

theorem invest_effect (h : invest s o id amount = .ok s') :
    Dispatched o (.invest id amount) s s' := by
  simp only [invest, do_eq_ok, ensureSigned_eq_ok] at h
  obtain ⟨who, rfl, c, hget, hstatus, _, hamount, _, _, _, _, _, _, _, _, _,
    w, hpay, ids, hids, rfl⟩ := h
  exact ⟨.invested hget hstatus hamount hpay hids, rfl, .kept rfl rfl rfl⟩

theorem withdrawInvestment_effect
    (h : withdrawInvestment s o id amount = .ok s') :
    Dispatched o (.withdrawInvestment id amount) s s' := by
  simp only [withdrawInvestment, do_eq_ok, ensureSigned_eq_ok] at h
  obtain ⟨who, rfl, c, hget, hstatus, hamount, inv, hinv, hle, w₁, hpay, w,
    hburn, rfl⟩ := h
  refine ⟨.withdrawn hget hstatus hamount hinv hle hpay ?_, rfl,
    .kept rfl rfl rfl⟩
  by_cases hpenalty : bpsOf amount c.penaltyBps = 0
  · simpa [hpenalty, doBurn, burnWith] using hburn
  · simpa [hpenalty] using hburn

theorem claimRefund_effect (h : claimRefund s o id = .ok s') :
    Dispatched o (.claimRefund id) s s' := by
  simp only [claimRefund, do_eq_ok, ensureSigned_eq_ok] at h
  obtain ⟨who, rfl, c, hget, hstatus, inv, hinv, hnet, hrefund, w, hpay,
    rfl⟩ := h
  exact ⟨.refunded hget hstatus hinv hnet hrefund hpay, rfl,
    .kept rfl rfl rfl⟩

theorem finalizeCampaign_effect (h : finalizeCampaign s o id = .ok s') :
    Dispatched o (.finalizeCampaign id) s s' := by
  simp only [finalizeCampaign, do_eq_ok] at h
  obtain ⟨_, _, c, hget, hstatus, _, rfl⟩ := h
  exact ⟨.finalized (.inl rfl) hget hstatus, rfl, .kept rfl rfl rfl⟩

theorem forceFinalizeCampaign_effect
    (h : forceFinalizeCampaign s o id = .ok s') :
    Dispatched o (.forceFinalizeCampaign id) s s' := by
  simp only [forceFinalizeCampaign, ensureOrigin, do_eq_ok] at h
  obtain ⟨_, c, hget, hstatus, rfl⟩ := h
  exact ⟨.finalized (.inr rfl) hget hstatus, rfl, .kept rfl rfl rfl⟩

theorem cancelCampaign_effect (h : cancelCampaign s o id = .ok s') :
    Dispatched o (.cancelCampaign id) s s' := by
  simp only [cancelCampaign, ensureOrigin, do_eq_ok] at h
  obtain ⟨_, c, hget, hstatus, rfl⟩ := h
  exact ⟨.cancelled (.inl rfl) hget hstatus, rfl, .cleared rfl rfl rfl⟩

theorem reportLicenseRevoked_effect (h : reportLicenseRevoked s o id = .ok s') :
    Dispatched o (.reportLicenseRevoked id) s s' := by
  simp only [reportLicenseRevoked, do_eq_ok] at h
  obtain ⟨_, _, c, hget, _, _, hstatus, _, rfl⟩ := h
  refine ⟨.cancelled (.inr rfl) hget ?_, rfl, .cleared rfl rfl rfl⟩
  rcases hstatus with hst | hst | hst <;> simp [hst]

theorem pauseCampaign_effect (h : pauseCampaign s o id = .ok s') :
    Dispatched o (.pauseCampaign id) s s' := by
  simp only [pauseCampaign, ensureOrigin, do_eq_ok] at h
  obtain ⟨_, c, hget, hstatus, rfl⟩ := h
  exact ⟨.paused (.inl rfl) hget (.inl ⟨hstatus, rfl⟩), rfl,
    .kept rfl rfl rfl⟩

theorem resumeCampaign_effect (h : resumeCampaign s o id = .ok s') :
    Dispatched o (.resumeCampaign id) s s' := by
  simp only [resumeCampaign, ensureOrigin, do_eq_ok] at h
  obtain ⟨_, c, hget, hstatus, _, _, rfl⟩ := h
  exact ⟨.paused (.inr rfl) hget (.inr ⟨hstatus, rfl⟩), rfl,
    .kept rfl rfl rfl⟩

private theorem moveMilestone_eq_ok {accepts : MilestoneStatus → Bool}
    {target : MilestoneStatus} :
    moveMilestone s id index accepts target = .ok s' ↔
      ∃ st, (s.milestoneStatuses id).get index = some st ∧
        accepts st = true ∧
        { s with
          milestoneStatuses := s.milestoneStatuses.insert id index target
          : State T } = s' := by
  simp only [moveMilestone, do_eq_ok]

theorem submitMilestone_effect (h : submitMilestone s o id index = .ok s') :
    Dispatched o (.submitMilestone id index) s s' := by
  simp only [submitMilestone, do_eq_ok, moveMilestone_eq_ok,
    decide_eq_true_eq] at h
  obtain ⟨_, _, c, hget, _, hstatus, _, ⟨st, hentry, hst, rfl⟩, rfl⟩ := h
  exact ⟨.reviewed (.inl rfl) hget hstatus hentry (.inl ⟨hst, rfl⟩), rfl,
    .kept rfl rfl rfl⟩

private theorem reviewMilestone_eq_ok {verdict : MilestoneStatus}
    {event : Event T}
    (h : reviewMilestone s o id index verdict event = .ok s') :
    ∃ c events, s.campaigns.get id = some c ∧ c.status = .milestonePhase ∧
      (s.milestoneStatuses id).get index = some .submitted ∧
      s' =
        { s with
          milestoneStatuses := s.milestoneStatuses.insert id index verdict
          events := events } := by
  simp only [reviewMilestone, ensureOrigin, do_eq_ok, moveMilestone_eq_ok,
    decide_eq_true_eq] at h
  obtain ⟨_, c, hget, hstatus, _, ⟨st, hentry, rfl, rfl⟩, rfl⟩ := h
  exact ⟨c, _, hget, hstatus, hentry, rfl⟩

theorem approveMilestone_effect (h : approveMilestone s o id index = .ok s') :
    Dispatched o (.approveMilestone id index) s s' := by
  obtain ⟨c, _, hget, hstatus, hentry, rfl⟩ := reviewMilestone_eq_ok h
  exact ⟨.reviewed (.inr (.inl rfl)) hget hstatus hentry
    (.inr ⟨rfl, .inl rfl⟩), rfl, .kept rfl rfl rfl⟩

theorem rejectMilestone_effect (h : rejectMilestone s o id index = .ok s') :
    Dispatched o (.rejectMilestone id index) s s' := by
  obtain ⟨c, _, hget, hstatus, hentry, rfl⟩ := reviewMilestone_eq_ok h
  exact ⟨.reviewed (.inr (.inr rfl)) hget hstatus hentry
    (.inr ⟨rfl, .inr rfl⟩), rfl, .kept rfl rfl rfl⟩

/-- A successful pay-out changes the world and the events only. -/
theorem payOut_eq_ok {currency : PaymentCurrency T.AssetId} {fee : Nat}
    (h : payOut s id currency who fee amount = .ok s') :
    ∃ w events, PaidOut s.world w id currency (effectiveProtocolFeeRecipient s)
        who fee amount ∧ s' = { s with world := w, events := events } := by
  simp only [payOut, collectFee, do_eq_ok] at h
  obtain ⟨s₁, hfee, w, hpay, rfl⟩ := h
  by_cases hzero : fee = 0
  · rw [if_pos hzero] at hfee
    cases hfee
    exact ⟨w, _, ⟨s.world, by simp [doTransfer, transferWith, hzero], hpay⟩,
      rfl⟩
  · rw [if_neg hzero] at hfee
    simp only [do_eq_ok] at hfee
    obtain ⟨w₁, hcollect, rfl⟩ := hfee
    exact ⟨w, _, ⟨w₁, hcollect, hpay⟩, rfl⟩

theorem claimFunds_effect (h : claimFunds s o id = .ok s') :
    Dispatched o (.claimFunds id) s s' := by
  simp only [claimFunds, do_eq_ok, ensureSigned_eq_ok] at h
  obtain ⟨who, rfl, c, hget, hcreator, hstatus, hclaim, s₁, hpay, rfl⟩ := h
  obtain ⟨w, _, hpaid, rfl⟩ := payOut_eq_ok hpay
  exact ⟨.fundsClaimed hget hcreator hstatus hclaim hpaid, rfl,
    .kept rfl rfl rfl⟩

private theorem milestonesOf_eq_ok {c : Campaign T} {l : List Milestone}
    (h : milestonesOf c = .ok l) :
    ∃ goal ms, c.config.fundingModel = .milestoneBased goal ms ∧
      l = ms.toList := by
  unfold milestonesOf at h
  cases hmodel : c.config.fundingModel with
  | allOrNothing | keepWhatYouRaise => simp [hmodel] at h
  | milestoneBased goal ms =>
      rw [hmodel] at h
      cases h
      exact ⟨goal, ms, rfl, rfl⟩

theorem claimMilestoneFunds_effect
    (h : claimMilestoneFunds s o id index = .ok s') :
    Dispatched o (.claimMilestoneFunds id index) s s' := by
  simp only [claimMilestoneFunds, do_eq_ok, ensureSigned_eq_ok] at h
  obtain ⟨who, rfl, c, hget, hcreator, hstatus, st, hentry, rfl, l, hl, m, hm,
    s₁, hpay, rfl⟩ := h
  obtain ⟨goal, ms, hmodel, rfl⟩ := milestonesOf_eq_ok hl
  obtain ⟨w, _, hpaid, rfl⟩ := payOut_eq_ok hpay
  exact ⟨.milestoneClaimed hget hcreator hstatus hentry hmodel hm hpaid, rfl,
    .kept rfl rfl rfl⟩

theorem claimCreationDeposit_effect (h : claimCreationDeposit s o id = .ok s') :
    Dispatched o (.claimCreationDeposit id) s s' := by
  simp only [claimCreationDeposit, do_eq_ok, ensureSigned_eq_ok] at h
  obtain ⟨who, rfl, c, hget, hcreator, hstatus, hdeposit, w, hpay, rfl⟩ := h
  exact ⟨.depositClaimed hget hcreator hstatus hdeposit hpay, rfl,
    .cleared rfl rfl rfl⟩

theorem setDefaultEligibility_effect
    {rules : BoundedVec (EligibilityRule T) T.maxEligibilityRules}
    (h : setDefaultEligibility s o rules = .ok s') :
    Dispatched o (.setDefaultEligibility rules) s s' := by
  simp only [setDefaultEligibility, ensureOrigin, do_eq_ok] at h
  obtain ⟨_, rfl⟩ := h
  exact ⟨.quiet rfl, rfl, .kept rfl rfl rfl⟩

theorem addToWhitelist_effect (h : addToWhitelist s o id who = .ok s') :
    Dispatched o (.addToWhitelist id who) s s' := by
  simp only [addToWhitelist, do_eq_ok] at h
  obtain ⟨_, _, c, hget, _, hstatus, hroom, rfl⟩ := h
  exact ⟨.quiet rfl, rfl, .added rfl hget hstatus hroom rfl rfl⟩

theorem removeFromWhitelist_effect
    (h : removeFromWhitelist s o id who = .ok s') :
    Dispatched o (.removeFromWhitelist id who) s s' := by
  simp only [removeFromWhitelist, do_eq_ok] at h
  obtain ⟨_, _, c, hget, _, hstatus, rfl⟩ := h
  exact ⟨.quiet rfl, rfl, .removed rfl hget hstatus rfl rfl⟩

theorem setProtocolConfig_effect {bps : Nat} {recipient : T.AccountId}
    (h : setProtocolConfig s o bps recipient = .ok s') :
    Dispatched o (.setProtocolConfig bps recipient) s s' := by
  simp only [setProtocolConfig, ensureOrigin, do_eq_ok] at h
  obtain ⟨_, _, rfl⟩ := h
  exact ⟨.quiet rfl, rfl, .kept rfl rfl rfl⟩

theorem dispatch_effect {call : Call T} (h : dispatch s o call = .ok s') :
    Dispatched o call s s' := by
  cases call with
  | createCampaign => exact createCampaign_effect h
  | cancelCampaign => exact cancelCampaign_effect h
  | setDefaultEligibility => exact setDefaultEligibility_effect h
  | invest => exact invest_effect h
  | withdrawInvestment => exact withdrawInvestment_effect h
  | claimRefund => exact claimRefund_effect h
  | finalizeCampaign => exact finalizeCampaign_effect h
  | claimFunds => exact claimFunds_effect h
  | claimCreationDeposit => exact claimCreationDeposit_effect h
  | submitMilestone => exact submitMilestone_effect h
  | approveMilestone => exact approveMilestone_effect h
  | rejectMilestone => exact rejectMilestone_effect h
  | claimMilestoneFunds => exact claimMilestoneFunds_effect h
  | pauseCampaign => exact pauseCampaign_effect h
  | resumeCampaign => exact resumeCampaign_effect h
  | addToWhitelist => exact addToWhitelist_effect h
  | removeFromWhitelist => exact removeFromWhitelist_effect h
  | setProtocolConfig => exact setProtocolConfig_effect h
  | reportLicenseRevoked => exact reportLicenseRevoked_effect h
  | forceFinalizeCampaign => exact forceFinalizeCampaign_effect h

variable {a : Action T} {ids : BoundedVec Nat T.maxInvestmentsPerInvestor}

/-- Every accepted step has one of the listed effects on the books. -/
theorem step_effect (h : step s a = .ok s') :
    Effect s.toBooks a s'.toBooks := by
  cases a with
  | nextBlock =>
      cases h
      exact .quiet rfl
  | outside w =>
      cases h
      exact .outside w
  | call => exact (dispatch_effect h).effect

/-! ## What a step leaves alone -/

/-- The campaign an action is about. -/
def Action.target (b : Books T) : Action T → Option Nat
  | .nextBlock => none
  | .outside _ => none
  | .call _ c =>
      match c with
      | .createCampaign _ _ _ => some b.nextCampaignId
      | .setDefaultEligibility _ => none
      | .setProtocolConfig _ _ => none
      | .cancelCampaign id => some id
      | .invest id _ => some id
      | .withdrawInvestment id _ => some id
      | .claimRefund id => some id
      | .finalizeCampaign id => some id
      | .claimFunds id => some id
      | .claimCreationDeposit id => some id
      | .submitMilestone id _ => some id
      | .approveMilestone id _ => some id
      | .rejectMilestone id _ => some id
      | .claimMilestoneFunds id _ => some id
      | .pauseCampaign id => some id
      | .resumeCampaign id => some id
      | .addToWhitelist id _ => some id
      | .removeFromWhitelist id _ => some id
      | .reportLicenseRevoked id => some id
      | .forceFinalizeCampaign id => some id

/-- How often a campaign is listed for an investor. -/
def Books.listings (b : Books T) (id : Nat) (who : T.AccountId) : Nat :=
  (b.investorCampaigns who).toList.count id

/-- Two books that agree on everything recorded under one campaign. -/
structure SameAt (b b' : Books T) (id : Nat) : Prop where
  campaign : b'.campaigns.get id = b.campaigns.get id
  records : b'.investments id = b.investments id
  statuses : b'.milestoneStatuses id = b.milestoneStatuses id
  listings : ∀ who, b'.listings id who = b.listings id who

theorem initMilestones_ne (hne : id' ≠ id) (n : Nat) :
    initMilestones m id n id' = m id' := by
  unfold initMilestones
  induction n with
  | zero => rfl
  | succ n ih =>
      rw [List.range_succ, List.foldl_append]
      simpa [hne] using ih

theorem clearMilestones_ne (hne : id' ≠ id) (n : Nat) :
    clearMilestones m id n id' = m id' := by
  unfold clearMilestones
  induction n % 256 with
  | zero => rfl
  | succ n ih =>
      rw [List.range_succ, List.foldl_append]
      simpa [hne] using ih

private theorem doFinalize_ne (hne : id' ≠ id) (c : Campaign T) :
    (doFinalize m id c).2 id' = m id' := by
  unfold doFinalize
  split
  · split <;> rfl
  · split
    · split <;> rfl
    · rfl
  · split
    · exact initMilestones_ne hne _
    · rfl

private theorem withoutMilestones_ne (hne : id' ≠ id) (c : Campaign T) :
    b.withoutMilestones id c id' = b.milestoneStatuses id' := by
  unfold Books.withoutMilestones
  cases c.config.fundingModel with
  | milestoneBased => exact clearMilestones_ne hne _
  | allOrNothing | keepWhatYouRaise => rfl

private theorem count_update
    (hcount : ids.toList.count id' = (b.investorCampaigns who).toList.count id')
    (x : T.AccountId) :
    (Function.update b.investorCampaigns who ids x).toList.count id' =
      b.listings id' x := by
  unfold Books.listings
  by_cases hx : x = who
  · subst hx
    rw [Function.update_self, hcount]
  · rw [Function.update_of_ne hx]

private theorem count_pushNew (hne : id' ≠ id)
    (hids : b.pushNew id who = some ids) :
    ids.toList.count id' = (b.investorCampaigns who).toList.count id' := by
  unfold Books.pushNew at hids
  split at hids
  · rw [BoundedVec.toList_of_tryPush hids, List.count_append]
    simp [Ne.symm hne]
  · cases hids
    rfl

private theorem count_dropCampaign (hne : id' ≠ id) (who x : T.AccountId) :
    (b.dropCampaign id who x).toList.count id' = b.listings id' x := by
  refine count_update ?_ x
  rw [BoundedVec.toList_removeFirst, List.count_erase_of_ne hne]

/-- A step changes nothing recorded under a campaign it is not about. -/
theorem Effect.sameAt {b' : Books T} (h : Effect b a b')
    (hid : a.target b ≠ some id) : SameAt b b' id := by
  cases h with
  | quiet | outside => exact ⟨rfl, rfl, rfl, fun _ => rfl⟩
  | created =>
      have hne : id ≠ b.nextCampaignId := fun h => hid (congrArg some h.symm)
      exact ⟨by simp [hne], rfl, rfl, fun _ => rfl⟩
  | @invested who id₀ _ _ _ _ _ _ _ _ hids =>
      have hne : id ≠ id₀ := fun h => hid (congrArg some h.symm)
      exact ⟨by simp [hne], by simp [hne], rfl,
        count_update (count_pushNew hne hids)⟩
  | @withdrawn who id₀ =>
      have hne : id ≠ id₀ := fun h => hid (congrArg some h.symm)
      refine ⟨by simp [hne], by simp [hne], rfl, fun x => ?_⟩
      dsimp only [Books.listings]
      split
      · exact count_dropCampaign hne who x
      · rfl
  | @refunded who id₀ =>
      have hne : id ≠ id₀ := fun h => hid (congrArg some h.symm)
      exact ⟨by simp [hne], by simp [hne], rfl, count_dropCampaign hne who⟩
  | @finalized _ _ id₀ c hcall =>
      have hne : id ≠ id₀ := by
        rintro rfl
        rcases hcall with rfl | rfl <;> exact hid rfl
      exact ⟨by simp [hne], rfl, doFinalize_ne hne c, fun _ => rfl⟩
  | @paused _ _ id₀ _ _ _ _ hcall =>
      have hne : id ≠ id₀ := by
        rintro rfl
        rcases hcall with rfl | rfl <;> exact hid rfl
      exact ⟨by simp [hne], rfl, rfl, fun _ => rfl⟩
  | @cancelled _ _ id₀ c hcall =>
      have hne : id ≠ id₀ := by
        rintro rfl
        rcases hcall with rfl | rfl <;> exact hid rfl
      exact ⟨by simp [hne], rfl, withoutMilestones_ne hne c, fun _ => rfl⟩
  | @reviewed _ _ id₀ _ _ _ _ hcall =>
      have hne : id ≠ id₀ := by
        rintro rfl
        rcases hcall with rfl | rfl | rfl <;> exact hid rfl
      exact ⟨rfl, rfl, by simp [hne], fun _ => rfl⟩
  | @fundsClaimed _ _ id₀ =>
      have hne : id ≠ id₀ := fun h => hid (congrArg some h.symm)
      exact ⟨by simp [hne], rfl, rfl, fun _ => rfl⟩
  | @milestoneClaimed _ _ id₀ =>
      have hne : id ≠ id₀ := fun h => hid (congrArg some h.symm)
      exact ⟨by simp [hne], rfl, by simp [hne], fun _ => rfl⟩
  | @depositClaimed _ id₀ =>
      have hne : id ≠ id₀ := fun h => hid (congrArg some h.symm)
      exact ⟨by simp [hne], rfl, rfl, fun _ => rfl⟩

/-! ## The campaign a step is about -/

/-- What a step does to the record of the campaign it is about. -/
inductive Campaign.Step (id : Nat) (c : Campaign T) :
    Action T → Campaign T → Prop where
  | invested {who : T.AccountId} {amount : Nat} {isNew : Bool}
      (hstatus : c.status = .funding) :
      Step id c (.call (.signed who) (.invest id amount))
        (c.invested amount isNew)
  | withdrawn {who : T.AccountId} {amount : Nat} {fully : Bool}
      (hstatus : c.status = .funding ∨ c.status = .paused) :
      Step id c (.call (.signed who) (.withdrawInvestment id amount))
        (c.withdrawn amount fully)
  | refunded {who : T.AccountId}
      (hstatus : c.status = .failed ∨ c.status = .cancelled) :
      Step id c (.call (.signed who) (.claimRefund id))
        { c with investorCount := c.investorCount - 1 }
  | finalized {o : Origin T.AccountId} {call : Call T}
      {m : StorageDoubleMap Nat Nat MilestoneStatus}
      (hcall : call = .finalizeCampaign id ∨ call = .forceFinalizeCampaign id)
      (hstatus : c.status = .funding) :
      Step id c (.call o call) { c with status := (doFinalize m id c).1 }
  | paused {o : Origin T.AccountId} {call : Call T} {status : CampaignStatus}
      {deadline : Nat} {pausedAt : Option Nat}
      (hcall : call = .pauseCampaign id ∨ call = .resumeCampaign id)
      (hedge : PauseEdge c.status status) :
      Step id c (.call o call)
        { c with
          config := { c.config with deadline := deadline }
          pausedAt := pausedAt
          status := status }
  | cancelled {o : Origin T.AccountId} {call : Call T}
      (hcall : call = .cancelCampaign id ∨ call = .reportLicenseRevoked id)
      (hstatus : ¬ (c.status = .cancelled ∨ c.status = .completed ∨
        c.status = .succeeded)) :
      Step id c (.call o call) { c with status := .cancelled }
  | reviewed {o : Origin T.AccountId} {call : Call T} {index : Nat}
      (hcall : call = .submitMilestone id index ∨
        call = .approveMilestone id index ∨ call = .rejectMilestone id index)
      (hstatus : c.status = .milestonePhase) : Step id c (.call o call) c
  | fundsClaimed (hstatus : c.status = .succeeded)
      (hclaim : c.totalRaised - c.totalDisbursed ≠ 0) :
      Step id c (.call (.signed c.creator) (.claimFunds id))
        { c with totalDisbursed := c.totalRaised, status := .completed }
  | released {index : Nat} {m : Milestone} {finished : Bool}
      (hstatus : c.status = .milestonePhase) :
      Step id c (.call (.signed c.creator) (.claimMilestoneFunds id index))
        (c.released (c.milestoneRelease m) finished)
  | depositClaimed
      (hstatus : c.status = .completed ∨ c.status = .failed ∨
        c.status = .cancelled) :
      Step id c (.call (.signed c.creator) (.claimCreationDeposit id))
        { c with creationDeposit := 0 }

/-- What a step does to what is stored under one id. -/
inductive ChangeAt (b : Books T) (a : Action T) (b' : Books T) (id : Nat) :
    Prop where
  | kept (hidle : a.target b ≠ some id ∨ a.isQuiet = true)
      (hsame : SameAt b b' id)
  | created {creator : T.AccountId} {config : CampaignConfig T}
      {rules : Option (BoundedVec (EligibilityRule T) T.maxEligibilityRules)}
      {license : Option (Nat × Nat)} {c : Campaign T}
      (hcall : a = .call (.signed creator)
        (.createCampaign config rules license))
      (hid : id = b.nextCampaignId)
      (hnext : b'.nextCampaignId = b.nextCampaignId + 1)
      (hnew : c.IsNew creator config)
      (hmin : T.nativeCurrency.minimumBalance ≤ T.campaignCreationDeposit)
      (hget' : b'.campaigns.get id = some c)
  | changed {c c' : Campaign T} (hget : b.campaigns.get id = some c)
      (hget' : b'.campaigns.get id = some c') (hstep : c.Step id a c')

theorem Effect.changeAt {b' : Books T} (h : Effect b a b') (id : Nat) :
    ChangeAt b a b' id := by
  by_cases ht : a.target b = some id
  swap
  · exact .kept (.inl ht) (h.sameAt ht)
  cases h with
  | quiet hquiet => exact .kept (.inr hquiet) ⟨rfl, rfl, rfl, fun _ => rfl⟩
  | outside => cases ht
  | created hnew _ hmin =>
      cases ht
      exact .created rfl rfl rfl hnew hmin (StorageMap.get_insert_self ..)
  | invested hget hstatus =>
      cases ht
      exact .changed hget (StorageMap.get_insert_self ..) (.invested hstatus)
  | withdrawn hget hstatus =>
      cases ht
      exact .changed hget (StorageMap.get_insert_self ..) (.withdrawn hstatus)
  | refunded hget hstatus =>
      cases ht
      exact .changed hget (StorageMap.get_insert_self ..) (.refunded hstatus)
  | finalized hcall hget hstatus =>
      rcases hcall with rfl | rfl <;> cases ht <;>
        exact .changed hget (StorageMap.get_insert_self ..)
          (.finalized (by simp) hstatus)
  | paused hcall hget hedge =>
      rcases hcall with rfl | rfl <;> cases ht <;>
        exact .changed hget (StorageMap.get_insert_self ..)
          (.paused (by simp) hedge)
  | cancelled hcall hget hstatus =>
      rcases hcall with rfl | rfl <;> cases ht <;>
        exact .changed hget (StorageMap.get_insert_self ..)
          (.cancelled (by simp) hstatus)
  | @reviewed _ _ _ index _ _ _ hcall hget hstatus =>
      rcases hcall with rfl | rfl | rfl <;> cases ht <;>
        exact .changed hget hget
          (@Campaign.Step.reviewed T id _ _ _ index (by simp) hstatus)
  | fundsClaimed hget hcreator hstatus hclaim =>
      cases ht
      subst hcreator
      exact .changed hget (StorageMap.get_insert_self ..)
        (.fundsClaimed hstatus hclaim)
  | milestoneClaimed hget hcreator hstatus =>
      cases ht
      subst hcreator
      exact .changed hget (StorageMap.get_insert_self ..) (.released hstatus)
  | depositClaimed hget hcreator hstatus =>
      cases ht
      subst hcreator
      exact .changed hget (StorageMap.get_insert_self ..)
        (.depositClaimed hstatus)

/-! ## The foreign storage -/

/-- A relation between foreign storages that the token operations respect. -/
structure TokenRelation (Q : T.World → T.World → Prop) : Prop extends
    LedgerRule T.nativeCurrency T.fungibles (fun _ _ _ _ => Q)
      (fun _ _ _ => Q) where
  trans : ∀ {w w₁ w₂}, Q w w₁ → Q w₁ w₂ → Q w w₂

section World

variable {Q : T.World → T.World → Prop}

/-- The pallet reaches the foreign storage through token operations only. -/
theorem Effect.world (hQ : TokenRelation Q) {b' : Books T} (h : Effect b a b')
    (ha : ∀ w, a ≠ .outside w) : Q b.world b'.world := by
  cases h with
  | quiet | finalized | paused | cancelled | reviewed =>
      exact hQ.burned_zero .native (T.campaignAccount 0) _
  | outside w => exact absurd rfl (ha w)
  | created _ _ _ _ hpay | depositClaimed _ _ _ _ hpay =>
      exact hQ.native_transfer hpay
  | invested _ _ _ hpay => exact hQ.transfer hpay
  | withdrawn _ _ _ _ _ hpay hburn =>
      exact hQ.trans (hQ.transfer hpay) (hQ.burn hburn)
  | refunded _ _ _ _ _ hpay => exact hQ.transfer hpay
  | fundsClaimed _ _ _ _ hpay =>
      obtain ⟨w₁, hfee, hrest⟩ := hpay
      exact hQ.trans (hQ.transfer hfee) (hQ.transfer hrest)
  | milestoneClaimed _ _ _ _ _ _ hpay =>
      obtain ⟨w₁, hfee, hrest⟩ := hpay
      exact hQ.trans (hQ.transfer hfee) (hQ.transfer hrest)

end World

end Thxnet.Crowdfunding
