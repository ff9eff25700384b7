import Thxnet.Crowdfunding.Backed

/-!
# Getting the creation deposit back

When a campaign is over and everybody has been paid, its sub-account holds the
creation deposit and nothing else.  Returning it empties the account, which the
balances pallet allows only in a transfer that may kill it.  For an asset-funded
campaign `claim_creation_deposit` asks for that only when `investor_count` is
zero, to protect the assets that investors have still to claim back.  Claiming
the funds or the milestones of a campaign does not lower that counter, so the
deposit of a completed asset-funded campaign stays where it is.
-/

namespace Thxnet.Crowdfunding

open Thxnet.Lib Thxnet.Frame

variable {T : Config}

theorem depositRequirement_iff (c : Campaign T) :
    depositRequirement c = .allowDeath ↔
      c.config.fundingCurrency = .native ∨ c.investorCount = 0 := by
  unfold depositRequirement
  cases c.config.fundingCurrency with
  | native => simp
  | asset =>
      by_cases hzero : c.investorCount = 0
      · simp [hzero]
      · simp [hzero, Nat.pos_of_ne_zero hzero]

/-- The creator's claim goes through exactly when the transfer of the deposit
does, and its world is the one the transfer leaves. -/
theorem claimCreationDeposit_eq_ok {s : State T} {id : Nat} {c : Campaign T}
    (hget : s.campaigns.get id = some c)
    (hst : c.status = .completed ∨ c.status = .failed ∨
      c.status = .cancelled) (hdeposit : c.creationDeposit ≠ 0)
    (w : T.World) :
    (∃ s', claimCreationDeposit s (.signed c.creator) id = .ok s' ∧
      s'.world = w) ↔
      T.nativeCurrency.transfer s.world (T.campaignAccount id) c.creator
        c.creationDeposit (depositRequirement c) = .ok w := by
  simp only [claimCreationDeposit, do_eq_ok, ensureSigned_eq_ok]
  constructor
  · rintro ⟨s', ⟨who, hwho, c₁, hget₁, _, _, _, w₁, hpay, rfl⟩, rfl⟩
    cases hget.symm.trans hget₁
    cases hwho
    exact hpay
  · intro hpay
    exact ⟨_, ⟨c.creator, rfl, c, hget, rfl, hst, hdeposit, w, hpay, rfl⟩, rfl⟩

/-- Over the balances pallet, the creator of a campaign that is over gets the
deposit back from a sub-account that holds nothing else, exactly when the
campaign is funded in the native currency or counts no investors, and nothing
pins the sub-account. -/
theorem deposit_recoverable_iff (B : BalancesBacked T) {s : State T}
    (hs : AdmittedReachable s) (hsound : (B.get s.world).Sound B.rules)
    {id : Nat} {c : Campaign T} (hget : s.campaigns.get id = some c)
    (hst : c.status = .completed ∨ c.status = .failed ∨
      c.status = .cancelled) (hdeposit : c.creationDeposit ≠ 0)
    (hheld : T.nativeCurrency.freeBalance s.world (T.campaignAccount id) =
      c.creationDeposit) :
    (∃ s', claimCreationDeposit s (.signed c.creator) id = .ok s' ∧
      T.nativeCurrency.freeBalance s'.world c.creator =
        T.nativeCurrency.freeBalance s.world c.creator + c.creationDeposit) ↔
      (c.config.fundingCurrency = .native ∨ c.investorCount = 0) ∧
        (B.get s.world).Unpinned (T.campaignAccount id) := by
  have hne : T.campaignAccount id ≠ c.creator :=
    (creator_outsider hs hget id ((fresh_of_reachable hs).id_lt hget)).symm
  have hmin := minimum_le_deposit hs hget hdeposit
  rw [B.minimum] at hmin
  rw [B.free] at hheld
  have hall := Balances.transfer_all_iff hsound hne (by omega) (by omega)
    (depositRequirement c)
  rw [hheld] at hall
  rw [← depositRequirement_iff, ← hall]
  constructor
  · rintro ⟨s', hclaim, hfree⟩
    obtain ⟨x, hx, hput⟩ := B.transfer_eq_ok.mp
      ((claimCreationDeposit_eq_ok hget hst hdeposit _).mp ⟨s', hclaim, rfl⟩)
    rw [B.free, B.free, ← hput, B.get_put] at hfree
    exact ⟨x, hx, hfree⟩
  · rintro ⟨x, hx, hfree⟩
    obtain ⟨s', hclaim, hworld⟩ :=
      (claimCreationDeposit_eq_ok hget hst hdeposit _).mpr
        (B.transfer_eq_ok.mpr ⟨x, hx, rfl⟩)
    refine ⟨s', hclaim, ?_⟩
    rw [B.free, B.free, hworld, B.get_put]
    exact hfree

/-! ## Two campaigns -/

/-- Nothing of a completed campaign can be refunded or withdrawn. -/
theorem completed_no_refund {s : State T} {id : Nat} {c : Campaign T}
    (hget : s.campaigns.get id = some c) (hst : c.status = .completed)
    (o : Origin T.AccountId) :
    (∀ s', claimRefund s o id ≠ .ok s') ∧
      ∀ amount s', withdrawInvestment s o id amount ≠ .ok s' := by
  constructor
  · intro s' h
    simp only [claimRefund, do_eq_ok] at h
    obtain ⟨_, _, c₁, hget₁, hstatus, _⟩ := h
    cases hget.symm.trans hget₁
    rw [hst] at hstatus
    rcases hstatus with hs | hs <;> cases hs
  · intro amount s' h
    simp only [withdrawInvestment, do_eq_ok] at h
    obtain ⟨_, _, c₁, hget₁, hstatus, _⟩ := h
    cases hget.symm.trans hget₁
    rw [hst] at hstatus
    rcases hstatus with hs | hs <;> cases hs

/-- A campaign in the given currency raises 500, succeeds and is paid out. -/
def paidOut (currency : PaymentCurrency Nat) : List (Action bank) :=
  [ signedBy 1 (.createCampaign (mockConfig (.keepWhatYouRaise none) currency 50)
      none none),
    signedBy 2 (.invest 0 500),
    byRoot (.forceFinalizeCampaign 0),
    signedBy 1 (.claimFunds 0) ]

/-- The asset-funded campaign is completed, so that no record of it can be
refunded or withdrawn any more; its sub-account holds exactly the deposit, and
the creator's claim is refused. -/
theorem asset_deposit_stuck :
    ∃ c : Campaign bank,
      (bankAfter (paidOut (.asset 7))).campaigns.get 0 = some c ∧
      AdmittedReachable (bankAfter (paidOut (.asset 7))) ∧
      c.status = .completed ∧ c.creationDeposit = 100 ∧
      bank.nativeCurrency.freeBalance (bankAfter (paidOut (.asset 7))).world
        (bank.campaignAccount 0) = 100 ∧
      (∀ who,
        (∀ s', claimRefund (bankAfter (paidOut (.asset 7))) (.signed who) 0
          ≠ .ok s') ∧
        ∀ amount s', withdrawInvestment (bankAfter (paidOut (.asset 7)))
          (.signed who) 0 amount ≠ .ok s') ∧
      failure (claimCreationDeposit (bankAfter (paidOut (.asset 7)))
        (.signed c.creator) 0) = some (.token .notExpendable) := by
  obtain ⟨c, hget, hst, hdeposit, hheld, hrefused⟩ :
      ∃ c : Campaign bank,
        (bankAfter (paidOut (.asset 7))).campaigns.get 0 = some c ∧
        c.status = .completed ∧ c.creationDeposit = 100 ∧
        bank.nativeCurrency.freeBalance (bankAfter (paidOut (.asset 7))).world
          (bank.campaignAccount 0) = 100 ∧
        failure (claimCreationDeposit (bankAfter (paidOut (.asset 7)))
          (.signed c.creator) 0) = some (.token .notExpendable) :=
    exists_campaign (by decide +kernel)
  have hs : AdmittedReachable (bankAfter (paidOut (.asset 7))) :=
    reachable_final ⟨_, _, rfl⟩ (mock_admitted (by decide +kernel))
      (by decide +kernel)
  exact ⟨c, hget, hs, hst, hdeposit, hheld,
    fun who => completed_no_refund hget hst (.signed who), hrefused⟩

/-- The same campaign in the native currency gives the deposit back. -/
theorem deposit_recoverable_iff_native :
    ∃ (c : Campaign bank) (s' : State bank),
      (bankAfter (paidOut .native)).campaigns.get 0 = some c ∧
      claimCreationDeposit (bankAfter (paidOut .native)) (.signed c.creator) 0
        = .ok s' ∧
      bank.nativeCurrency.freeBalance s'.world c.creator =
        bank.nativeCurrency.freeBalance (bankAfter (paidOut .native)).world
          c.creator + c.creationDeposit := by
  obtain ⟨c, hget, hst, hcurrency, hdeposit, hheld⟩ :
      ∃ c : Campaign bank,
        (bankAfter (paidOut .native)).campaigns.get 0 = some c ∧
        c.status = .completed ∧ c.config.fundingCurrency = .native ∧
        c.creationDeposit ≠ 0 ∧
        bank.nativeCurrency.freeBalance (bankAfter (paidOut .native)).world
          (bank.campaignAccount 0) = c.creationDeposit :=
    exists_campaign (by decide +kernel)
  have hs : AdmittedReachable (bankAfter (paidOut .native)) :=
    reachable_final ⟨_, _, rfl⟩ (mock_admitted (by decide +kernel))
      (by decide +kernel)
  have hsound : (bankAfter (paidOut .native)).world.native.Sound bankRules :=
    Balances.sound_of_keys (by decide +kernel) (by decide +kernel)
      (by decide +kernel)
  obtain ⟨s', hclaim, hfree⟩ :=
    (deposit_recoverable_iff bankBacked hs hsound hget (.inl hst) hdeposit
      hheld).mpr ⟨.inl hcurrency, by decide +kernel, by decide +kernel⟩
  exact ⟨c, s', hget, hclaim, hfree⟩

end Thxnet.Crowdfunding
