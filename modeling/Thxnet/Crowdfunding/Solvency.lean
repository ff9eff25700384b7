import Thxnet.Crowdfunding.BasisPoints
import Thxnet.Crowdfunding.Bookkeeping

/-!
# Campaigns can pay what they owe

Over an exact ledger, in runs in which outsiders can only add to sub-accounts,
a sub-account always holds what its campaign still owes.  Two debts are carried
through the run: as long as nothing has been disbursed, what the investors'
records add up to; and until refunds start, what has been raised and not yet
disbursed.  Each comes on top of the creation deposit when that is held in the
funding currency.
-/

namespace Thxnet.Crowdfunding

open Thxnet.Lib Thxnet.Frame

variable {T : Config}

/-- The part of the creation deposit held in the funding currency. -/
def Campaign.nativeDeposit (c : Campaign T) : Nat :=
  if c.config.fundingCurrency = .native then c.creationDeposit else 0

/-- The statuses in which the raised amount is still due to the creator, or
has been paid. -/
def CampaignStatus.payable : CampaignStatus → Bool
  | .funding => true
  | .paused => true
  | .succeeded => true
  | .milestonePhase => true
  | .completed => true
  | .failed => false
  | .cancelled => false

/-- The two debts of a campaign are covered. -/
structure Books.SolventAt (b : Books T) (id : Nat) (c : Campaign T) :
    Prop where
  refunds : c.totalDisbursed = 0 →
    (b.investments id).sum Investment.net + c.nativeDeposit
      ≤ holding b.world c.config.fundingCurrency id
  payouts : c.status.payable = true →
    c.totalRaised - c.totalDisbursed + c.nativeDeposit
      ≤ holding b.world c.config.fundingCurrency id

/-! ## Sub-accounts a step is not about -/

variable {b b' : Books T} {c : Campaign T} {amount id : Nat} {who : T.AccountId}
    {w w' : T.World}

theorem withdrawal_losesAtMost (hl : ExactLedger T) (hd : DistinctAccounts T)
    {w₁ : T.World} (hid : id < 2 ^ 32)
    (hpay : doTransfer w c.config.fundingCurrency (T.campaignAccount id) who
      (c.withdrawalNet amount) .allowDeath = .ok w₁)
    (hburn : doBurn w₁ c.config.fundingCurrency (T.campaignAccount id) (bpsOf
      amount c.penaltyBps) .allowDeath = .ok w') :
    LosesAtMost w w' id c.config.fundingCurrency amount := by
  have hsum : c.withdrawalNet amount + bpsOf amount c.penaltyBps = amount := by
    have hle := bpsOf_le amount c.penaltyBps
    unfold Campaign.withdrawalNet
    omega
  rw [← hsum]
  exact (losesAtMost_of_transferred hd hid (hl.transfer hpay)).trans
    (losesAtMost_of_burned hd hid (hl.burn hburn))

/-- The pay-out of `amount`, split into fee and the creator's share. -/
theorem payout_losesAtMost (hl : ExactLedger T) (hd : DistinctAccounts T)
    {bps : Nat} (hid : id < 2 ^ 32) {currency : PaymentCurrency T.AssetId}
    {recipient : T.AccountId}
    (hpay : PaidOut w w' id currency recipient who (bpsOf amount bps) (amount -
      bpsOf amount bps)) : LosesAtMost w w' id currency amount := by
  have hsum : bpsOf amount bps + (amount - bpsOf amount bps) = amount := by
    have hle := bpsOf_le amount bps
    omega
  have hlose := hpay.losesAtMost hl hd hid
  rwa [hsum] at hlose

/-- A step takes nothing from the sub-account of a campaign it is not about. -/
theorem Effect.holding_le (hl : ExactLedger T) (hd : DistinctAccounts T)
    {a : Action T} (h : Effect b a b') (hf : b.Fresh) (hadm : Admitted b a)
    (hid : id < 2 ^ 32) (ht : a.target b ≠ some id)
    (cur : PaymentCurrency T.AssetId) :
    holding b.world cur id ≤ holding b'.world cur id := by
  cases h with
  | quiet | finalized | paused | cancelled | reviewed => exact Nat.le_refl _
  | outside => exact hadm id cur hid
  | created hnew hmodel hmin hfits hpay =>
      exact (incoming_of_transferred hadm (hl.native_transfer hpay)).1 id cur
        hid
  | invested hget hstatus hamount hpay =>
      exact (incoming_of_transferred hadm (hl.transfer hpay)).1 id cur hid
  | @withdrawn _ id₀ _ _ _ _ _ hget hstatus hamount hinv hle hpay hburn =>
      have hne : id ≠ id₀ := fun h => ht (congrArg some h.symm)
      exact (withdrawal_losesAtMost hl hd (hf.id_lt hget) hpay hburn).other hid
        hne cur
  | @refunded _ id₀ _ _ _ hget hstatus hinv hnet hrefund hpay =>
      have hne : id ≠ id₀ := fun h => ht (congrArg some h.symm)
      exact (losesAtMost_of_transferred hd (hf.id_lt hget)
        (hl.transfer hpay)).other hid hne cur
  | @fundsClaimed _ _ id₀ _ _ hget hcreator hstatus hclaim hpay =>
      have hne : id ≠ id₀ := fun h => ht (congrArg some h.symm)
      exact (payout_losesAtMost hl hd (hf.id_lt hget) hpay).other hid hne cur
  | @milestoneClaimed _ _ id₀ _ _ _ _ _ _ hget hcreator hstatus hentry hmodel hm
      hpay =>
      have hne : id ≠ id₀ := fun h => ht (congrArg some h.symm)
      exact (payout_losesAtMost hl hd (hf.id_lt hget) hpay).other hid hne cur
  | @depositClaimed _ id₀ _ _ hget hcreator hstatus hdeposit hpay =>
      have hne : id ≠ id₀ := fun h => ht (congrArg some h.symm)
      exact (losesAtMost_of_transferred hd (hf.id_lt hget)
        (hl.native_transfer hpay)).other hid hne cur

/-! ## The campaign a step is about -/

theorem Books.SolventAt.restatus {c' : Campaign T} (h : b.SolventAt id c)
    (hworld : b'.world = b.world) (hrecords : b'.investments = b.investments)
    (hcurrency : c'.config.fundingCurrency = c.config.fundingCurrency)
    (hraised : c'.totalRaised = c.totalRaised)
    (hdisbursed : c'.totalDisbursed = c.totalDisbursed)
    (hdeposit : c'.creationDeposit = c.creationDeposit)
    (hpayable : c'.status.payable = true → c.status.payable = true) :
    b'.SolventAt id c' where
  refunds := by
    intro hzero
    rw [hworld, hrecords, hcurrency, Campaign.nativeDeposit, hcurrency,
      hdeposit]
    exact h.refunds (hdisbursed ▸ hzero)
  payouts := by
    intro hst
    rw [hworld, hraised, hdisbursed, hcurrency, Campaign.nativeDeposit,
      hcurrency, hdeposit]
    exact h.payouts (hpayable hst)

theorem Books.SolventAt.invest (isNew : Bool) (h : b.SolventAt id c)
    (ht : c.Totals) (hstatus : c.status = .funding)
    (hgain : holding b'.world c.config.fundingCurrency id = holding b.world
      c.config.fundingCurrency id + amount)
    (hrecords : b'.investments = b.investments.insert id who ((b.investment id
      who).invested amount)) :
    b'.SolventAt id (c.invested amount isNew) where
  refunds := by
    intro _
    have hzero := ht.undisbursed (by rw [hstatus]; rfl)
    have hold := h.refunds hzero
    have hsum := sum_net_insert b id who ((b.investment id who).invested amount)
    have hnet := (b.investment id who).net_invested_le amount
    rw [← hrecords] at hsum
    show _ + c.nativeDeposit ≤ holding b'.world c.config.fundingCurrency id
    omega
  payouts := by
    intro _
    have hold := h.payouts (by rw [hstatus]; rfl)
    have hraised := saturatingAdd_le 128 c.totalRaised amount
    show saturatingAdd 128 c.totalRaised amount - c.totalDisbursed
      + c.nativeDeposit ≤ holding b'.world c.config.fundingCurrency id
    omega

theorem Books.SolventAt.withdraw {inv : Investment} (fully : Bool)
    (h : b.SolventAt id c) (ht : c.Totals) (hb : b.BoundedAt id)
    (hstatus : c.status = .funding ∨ c.status = .paused)
    (hinv : (b.investments id).get who = some inv) (hle : amount ≤ inv.net)
    (hloss : holding b.world c.config.fundingCurrency id ≤ holding b'.world
      c.config.fundingCurrency id + amount)
    (hrecords : b'.investments = b.investments.insert id who (inv.withdrawn
      amount)) : b'.SolventAt id (c.withdrawn amount fully) := by
  have hzero := ht.undisbursed (by
    rcases hstatus with hst | hst <;> rw [hst] <;> rfl)
  have hpayable : c.status.payable = true := by
    rcases hstatus with hst | hst <;> rw [hst] <;> rfl
  have hrec := investment_eq hinv
  have hsum := sum_net_insert b id who (inv.withdrawn amount)
  have hnet := (hb who inv hinv).net_withdrawn hle
  rw [← hrecords, hrec] at hsum
  have hrefunds := h.refunds hzero
  have hpayouts := h.payouts hpayable
  refine ⟨fun _ => ?_, fun _ => ?_⟩
  · show _ + c.nativeDeposit ≤ holding b'.world c.config.fundingCurrency id
    omega
  · show c.totalRaised - amount - c.totalDisbursed + c.nativeDeposit
      ≤ holding b'.world c.config.fundingCurrency id
    omega

theorem Books.SolventAt.refund {count : Nat} {inv : Investment}
    (h : b.SolventAt id c)
    (hstatus : c.status = .failed ∨ c.status = .cancelled)
    (hinv : (b.investments id).get who = some inv)
    (hloss : holding b.world c.config.fundingCurrency id ≤ holding b'.world
      c.config.fundingCurrency id + c.refund inv)
    (hrecords : b'.investments = b.investments.remove id who) :
    b'.SolventAt id { c with investorCount := count } where
  refunds := by
    intro hzero
    have hzero' : c.totalDisbursed = 0 := hzero
    have hold := h.refunds hzero'
    have hsum := sum_net_remove b id who
    have hrec := investment_eq hinv
    have hfull : c.refund inv = inv.net := by
      simp [Campaign.refund, hzero']
    rw [← hrecords, hrec] at hsum
    show _ + c.nativeDeposit ≤ holding b'.world c.config.fundingCurrency id
    omega
  payouts := by
    intro hst
    rcases hstatus with hs | hs <;> simp only [hs] at hst <;> cases hst

theorem Books.SolventAt.claimFunds (h : b.SolventAt id c)
    (hstatus : c.status = .succeeded)
    (hclaim : c.totalRaised - c.totalDisbursed ≠ 0)
    (hloss : holding b.world c.config.fundingCurrency id ≤ holding b'.world
      c.config.fundingCurrency id + (c.totalRaised - c.totalDisbursed)) :
    b'.SolventAt id
      { c with totalDisbursed := c.totalRaised, status := .completed } where
  refunds := by
    intro hzero
    have hzero' : c.totalRaised = 0 := hzero
    omega
  payouts := by
    intro _
    have hold := h.payouts (by rw [hstatus]; rfl)
    show c.totalRaised - c.totalRaised + c.nativeDeposit
      ≤ holding b'.world c.config.fundingCurrency id
    omega

theorem Books.SolventAt.claimMilestone (m : Milestone) (finished : Bool)
    (h : b.SolventAt id c) (ht : c.Totals)
    (hstatus : c.status = .milestonePhase)
    (hrecords : b'.investments = b.investments)
    (hloss : holding b.world c.config.fundingCurrency id ≤ holding b'.world
      c.config.fundingCurrency id + c.milestoneRelease m) :
    b'.SolventAt id (c.released (c.milestoneRelease m) finished) where
  refunds := by
    intro hzero
    rw [ht.disbursed_released] at hzero
    have hold := h.refunds (by omega)
    rw [hrecords]
    show _ + c.nativeDeposit ≤ holding b'.world c.config.fundingCurrency id
    omega
  payouts := by
    intro _
    rw [ht.disbursed_released]
    have hold := h.payouts (by rw [hstatus]; rfl)
    have hle := c.milestoneRelease_le m
    show c.totalRaised - _ + c.nativeDeposit
      ≤ holding b'.world c.config.fundingCurrency id
    omega

theorem Books.SolventAt.claimDeposit (h : b.SolventAt id c)
    (hrecords : b'.investments = b.investments)
    (hloss : holding b.world c.config.fundingCurrency id ≤ holding b'.world
      c.config.fundingCurrency id + c.nativeDeposit) :
    b'.SolventAt id { c with creationDeposit := 0 } := by
  have hnone : ({ c with creationDeposit := 0 } : Campaign T).nativeDeposit
      = 0 := by
    simp [Campaign.nativeDeposit]
  refine ⟨fun hzero => ?_, fun hst => ?_⟩
  · have hold := h.refunds hzero
    rw [hnone, hrecords]
    show _ ≤ holding b'.world c.config.fundingCurrency id
    omega
  · have hold := h.payouts hst
    rw [hnone]
    show c.totalRaised - c.totalDisbursed + 0
      ≤ holding b'.world c.config.fundingCurrency id
    omega

private theorem deposit_loss (hid : id < 2 ^ 32)
    (h : LosesAtMost w w' id .native c.creationDeposit) :
    holding w c.config.fundingCurrency id ≤
      holding w' c.config.fundingCurrency id + c.nativeDeposit := by
  have hle := h id c.config.fundingCurrency hid
  simpa [Campaign.nativeDeposit] using hle

/-- A campaign that has just been created holds its deposit and owes nothing
else. -/
theorem solventAt_created (hraised : c.totalRaised = 0)
    (hdeposit : c.creationDeposit = T.campaignCreationDeposit)
    (hnone : ∀ who, (b'.investments id).get who = none)
    (hgain : T.campaignCreationDeposit ≤ holding b'.world .native id) :
    b'.SolventAt id c := by
  have hheld :
      c.nativeDeposit ≤ holding b'.world c.config.fundingCurrency id := by
    unfold Campaign.nativeDeposit
    split
    · next hcur =>
        rw [hcur, hdeposit]
        exact hgain
    · exact Nat.zero_le _
  have hsum : (b'.investments id).sum Investment.net = 0 := by
    rw [StorageMap.sum_eq_zero_iff]
    intro who inv hinv
    rw [hnone] at hinv
    cases hinv
  refine ⟨fun _ => ?_, fun _ => ?_⟩
  · rw [hsum, Nat.zero_add]
    exact hheld
  · rw [hraised, Nat.zero_sub, Nat.zero_add]
    exact hheld

/-- Every admitted step keeps every campaign solvent. -/
theorem Effect.solventAt (hl : ExactLedger T) (hd : DistinctAccounts T)
    {a : Action T} (h : Effect b a b') (hf : b.Fresh) (hadm : Admitted b a)
    (hb : b.BoundedAt id) (htot : ∀ c, b.campaigns.get id = some c → c.Totals)
    (hI : ∀ c, b.campaigns.get id = some c → b.SolventAt id c) :
    ∀ c, b'.campaigns.get id = some c → b'.SolventAt id c := by
  intro c' hget'
  have hid := (h.fresh hf).id_lt hget'
  by_cases ht : a.target b = some id
  swap
  · have hsame := h.sameAt ht
    have hold := hI c' (hsame.campaign ▸ hget')
    have hle := h.holding_le hl hd hf hadm hid ht c'.config.fundingCurrency
    refine ⟨fun hz => ?_, fun hst => ?_⟩
    · rw [hsame.records]
      exact Nat.le_trans (hold.refunds hz) hle
    · exact Nat.le_trans (hold.payouts hst) hle
  cases h with
  | quiet => exact hI c' hget'
  | outside => cases ht
  | created hnew hmodel hmin hfits hpay =>
      cases ht
      cases (StorageMap.get_insert_self ..).symm.trans hget'
      have hgain :=
        (incoming_of_transferred hadm (hl.native_transfer hpay)).2 hid
      exact solventAt_created hnew.raised hnew.deposit
        (hf.untouched _ (Nat.le_refl _)).records
        (by dsimp only; omega)
  | invested hget hstatus hamount hpay =>
      cases ht
      cases (StorageMap.get_insert_self ..).symm.trans hget'
      exact (hI _ hget).invest _ (htot _ hget) hstatus
        ((incoming_of_transferred hadm (hl.transfer hpay)).2 hid) rfl
  | withdrawn hget hstatus hamount hinv hle hpay hburn =>
      cases ht
      cases (StorageMap.get_insert_self ..).symm.trans hget'
      exact (hI _ hget).withdraw _ (htot _ hget) hb hstatus hinv hle
        ((withdrawal_losesAtMost hl hd hid hpay hburn).self hid) rfl
  | refunded hget hstatus hinv hnet hrefund hpay =>
      cases ht
      cases (StorageMap.get_insert_self ..).symm.trans hget'
      exact (hI _ hget).refund hstatus hinv
        ((losesAtMost_of_transferred hd hid (hl.transfer hpay)).self hid) rfl
  | finalized hcall hget hstatus =>
      rcases hcall with rfl | rfl <;> cases ht <;>
        cases (StorageMap.get_insert_self ..).symm.trans hget' <;>
        exact (hI _ hget).restatus rfl rfl rfl rfl rfl rfl
          (fun _ => by rw [hstatus]; rfl)
  | @paused _ _ _ c _ _ _ hcall hget hedge =>
      have hpayable : c.status.payable = true := by
        rcases hedge with ⟨hst, _⟩ | ⟨hst, _⟩ <;> rw [hst] <;> rfl
      rcases hcall with rfl | rfl <;> cases ht <;>
        cases (StorageMap.get_insert_self ..).symm.trans hget' <;>
        exact (hI _ hget).restatus rfl rfl rfl rfl rfl rfl
          (fun _ => hpayable)
  | cancelled hcall hget =>
      rcases hcall with rfl | rfl <;> cases ht <;>
        cases (StorageMap.get_insert_self ..).symm.trans hget' <;>
        exact (hI _ hget).restatus rfl rfl rfl rfl rfl rfl
          (fun hst => by cases hst)
  | reviewed =>
      exact (hI _ hget').restatus rfl rfl rfl rfl rfl rfl (fun hst => hst)
  | fundsClaimed hget hcreator hstatus hclaim hpay =>
      cases ht
      cases (StorageMap.get_insert_self ..).symm.trans hget'
      exact (hI _ hget).claimFunds hstatus hclaim
        ((payout_losesAtMost hl hd hid hpay).self hid)
  | milestoneClaimed hget hcreator hstatus hentry hmodel hm hpay =>
      cases ht
      cases (StorageMap.get_insert_self ..).symm.trans hget'
      exact (hI _ hget).claimMilestone _ _ (htot _ hget) hstatus rfl
        ((payout_losesAtMost hl hd hid hpay).self hid)
  | depositClaimed hget hcreator hstatus hdeposit hpay =>
      cases ht
      cases (StorageMap.get_insert_self ..).symm.trans hget'
      exact (hI _ hget).claimDeposit rfl
        (deposit_loss hid
          (losesAtMost_of_transferred hd hid (hl.native_transfer hpay)))

theorem solventAt_of_reachable (hl : ExactLedger T) (hd : DistinctAccounts T)
    {s : State T} (h : AdmittedReachable s)
    (hget : s.campaigns.get id = some c) : s.toBooks.SolventAt id c := by
  refine books_invariant
    (I := fun b => ∀ c, b.campaigns.get id = some c → b.SolventAt id c)
    (fun _ _ c hc => ?_) (fun s a b' hs hI hok he => ?_) h c hget
  · simp [State.genesis] at hc
  · exact he.solventAt hl hd (fresh_of_reachable hs) hok
      (boundedAt_of_reachable hs id) (fun _ => totals_of_reachable hs) hI

/-! ## Solvency -/

/-- What a campaign owes, in the funding currency. -/
def Books.owed (b : Books T) (id : Nat) (c : Campaign T) : Nat :=
  match c.status with
  | .funding => (b.investments id).sum Investment.net + c.nativeDeposit
  | .paused => (b.investments id).sum Investment.net + c.nativeDeposit
  | .failed => (b.investments id).sum Investment.net + c.nativeDeposit
  | .cancelled =>
      if c.totalDisbursed = 0 then
        (b.investments id).sum Investment.net + c.nativeDeposit
      else 0
  | .succeeded => c.totalRaised - c.totalDisbursed + c.nativeDeposit
  | .milestonePhase => c.totalRaised - c.totalDisbursed + c.nativeDeposit
  | .completed => c.nativeDeposit

/-- Over an exact ledger whose sub-accounts are distinct and can only be added
to from outside, every campaign holds at least what it owes. -/
theorem campaign_solvent (hl : ExactLedger T) (hd : DistinctAccounts T)
    {s : State T} (h : AdmittedReachable s) {id : Nat} {c : Campaign T}
    (hget : s.campaigns.get id = some c) :
    s.toBooks.owed id c ≤
      balanceOf s.world c.config.fundingCurrency (T.campaignAccount id) := by
  have hsolvent := solventAt_of_reachable hl hd h hget
  have htotals := totals_of_reachable h hget
  have hrefunds := hsolvent.refunds
  have hpayouts := hsolvent.payouts
  have hzero := htotals.undisbursed
  unfold Books.owed
  unfold holding at hrefunds hpayouts
  cases hst : c.status with
  | funding | paused | failed => exact hrefunds (hzero (by rw [hst]; rfl))
  | succeeded | milestonePhase => exact hpayouts (by rw [hst]; rfl)
  | completed =>
      exact Nat.le_trans (Nat.le_add_left _ _) (hpayouts (by rw [hst]; rfl))
  | cancelled =>
      dsimp only
      split
      · next hnone => exact hrefunds hnone
      · exact Nat.zero_le _

theorem campaign_solvent_milestones :
    ∃ c, (purseAfter milestoneRequests).campaigns.get 0 = some c ∧
      (purseAfter milestoneRequests).toBooks.owed 0 c ≤
        balanceOf (purseAfter milestoneRequests).world
          c.config.fundingCurrency (purse.campaignAccount 0) := by
  have hsome :
      ((purseAfter milestoneRequests).campaigns.get 0).isSome = true := by
    decide +kernel
  obtain ⟨c, hget⟩ := Option.isSome_iff_exists.mp hsome
  exact ⟨c, hget, campaign_solvent purse_exact purse_distinct
    (purseAfter_reachable (mock_admitted (by decide +kernel))
      (by decide +kernel)) hget⟩

end Thxnet.Crowdfunding
