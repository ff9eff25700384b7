import Thxnet.Crowdfunding.BasisPoints
import Thxnet.Crowdfunding.Counters

/-!
# Withdrawals and the minimum balance

A withdrawal makes two payments out of the sub-account: the net amount to the
investor, then the penalty to nobody.  Over `pallet_assets` both may kill the
sub-account, and a payment that leaves less than the minimum balance takes the
rest along.  If the first one does, the penalty can no longer be burnt and the
withdrawal fails; if there is no penalty, what the other investors had left is
gone.

`withdrawal_settles_iff` says exactly when a withdrawal pays and burns what it
should.
-/

namespace Thxnet.Crowdfunding

open Thxnet.Lib Thxnet.Frame

variable {T : Config}

/-- The two payments of a withdrawal are those of the assets pallet. -/
theorem LedgerBacked.payThenBurn (L : LedgerBacked T) {w : T.World}
    {asset : T.AssetId} {source dest : T.AccountId} {paid burned : Nat}
    {P : Ledger T.AccountId T.AssetId → Prop} :
    (∃ w', (∃ w₁, doTransfer w (.asset asset) source dest paid .allowDeath
        = .ok w₁ ∧
      doBurn w₁ (.asset asset) source burned .allowDeath = .ok w') ∧
      P (L.get w')) ↔
    ∃ x, (L.get w).payThenBurn L.rules asset source dest paid burned = .ok x ∧
      P x := by
  simp only [doTransfer, transferWith, doBurn, burnWith, Ledger.payThenBurn,
    bind_eq_ok, L.asset_transfer, L.asset_burn]
  by_cases hpaid : paid = 0 <;> by_cases hburned : burned = 0
  · simp [hpaid, hburned]
  · simp [hpaid, hburned, map_eq_ok, L.get_put]
  · simp [hpaid, hburned, map_eq_ok, L.get_put]
  · simp only [if_neg hpaid, if_neg hburned, map_eq_ok]
    constructor
    · rintro ⟨_, ⟨_, ⟨x₁, hpay, rfl⟩, x, hburn, rfl⟩, hP⟩
      rw [L.get_put] at hburn hP
      exact ⟨x, ⟨x₁, hpay, hburn⟩, hP⟩
    · rintro ⟨x, ⟨x₁, hpay, hburn⟩, hP⟩
      refine ⟨_, ⟨_, ⟨x₁, hpay, rfl⟩, x, ?_, rfl⟩, ?_⟩
      · rwa [L.get_put]
      · rwa [L.get_put]

/-- **Withdrawals.**  In every reachable state and for every amount up to the
net contribution, a withdrawal from an open campaign funded in an asset pays the
amount less penalty, burns the penalty and takes nothing else exactly when the
sub-account can release both. -/
theorem withdrawal_settles_iff (L : LedgerBacked T) {s : State T}
    (hs : L.Reachable s) {id amount : Nat} {c : Campaign T}
    (hget : s.campaigns.get id = some c)
    (hstatus : c.status = .funding ∨ c.status = .paused) {asset : T.AssetId}
    (hcurrency : c.config.fundingCurrency = .asset asset) {who : T.AccountId}
    (hwho : who ≠ T.campaignAccount id) {inv : Investment}
    (hinv : (s.investments id).get who = some inv) (hpos : 0 < amount)
    (hle : amount ≤ inv.totalInvested - inv.totalWithdrawn)
    {receiver : Assets.Account T.AccountId}
    (hreceiver : ((L.get s.world).account asset).get who = some receiver) :
    (∃ s', withdrawInvestment s (.signed who) id amount = .ok s' ∧
      (L.get s.world).Settled (L.get s'.world) asset (T.campaignAccount id) who
        (amount - bpsOf amount c.penaltyBps) (bpsOf amount c.penaltyBps)) ↔
    ∃ d a, (L.get s.world).Releases asset (T.campaignAccount id) receiver
      (amount - bpsOf amount c.penaltyBps) (bpsOf amount c.penaltyBps) d a := by
  have hpenalty := bpsOf_le amount c.penaltyBps
  rw [← Ledger.payThenBurn_iff (C := L.rules) (L.supplied_of_reachable hs)
    hwho.symm hreceiver (by omega), ← L.payThenBurn]
  have hnet : amount ≤ (s.investment id who).net := by
    rwa [investment_eq hinv]
  have hiff := fun w => withdrawInvestment_iff hget hstatus (Nat.ne_of_gt hpos)
    hnet (w := w)
  rw [hcurrency] at hiff
  constructor
  · rintro ⟨s', h, hsettled⟩
    exact ⟨s'.world, (hiff s'.world).mp ⟨s', h, rfl⟩, hsettled⟩
  · rintro ⟨w, hpay, hsettled⟩
    obtain ⟨s', h, rfl⟩ := (hiff w).mpr hpay
    exact ⟨s', h, hsettled⟩

/-! ## Withdrawals from a vault -/

/-- The first state of runs over a vault in which asset 7 has a minimum balance
of 10. -/
def vaultGenesis : State vault :=
  State.genesis vault (vaultEndowed 10 1000) 0

/-- The state after some requests over that vault. -/
def vaultAfter (requests : List (Action vault)) : State vault :=
  Transition.final step vaultGenesis requests

/-- A campaign for asset 7 with a given penalty, and what is put into it. -/
def funded (penaltyBps : Option Nat) (investments : List (Nat × Nat)) :
    List (Action vault) :=
  signedBy 1 (.createCampaign
    { mockConfig (.keepWhatYouRaise none) (.asset 7) 50 with
      earlyWithdrawalPenaltyBps := penaltyBps } none none) ::
  investments.map fun p => signedBy p.1 (.invest 0 p.2)

theorem vaultAfter_reachable {requests : List (Action vault)}
    (hok : ∀ a ∈ requests, vaultBacked.Orderly a)
    (h : (Transition.exec step vaultGenesis requests).isOk = true) :
    vaultBacked.Reachable (vaultAfter requests) :=
  .exec (.init ⟨⟨_, _, rfl⟩, vaultEndowed_supplied (by decide)⟩)
    (fun a ha _ => hok a ha) (Transition.exec_final h)

theorem funded_orderly (penaltyBps : Option Nat)
    (investments : List (Nat × Nat)) :
    ∀ a ∈ funded penaltyBps investments, vaultBacked.Orderly a := by
  intro a ha
  rcases List.mem_cons.mp ha with rfl | ha
  · trivial
  · obtain ⟨p, _, rfl⟩ := List.mem_map.mp ha
    trivial

/-- One investor of 100. -/
def lone : List (Action vault) := funded none [(2, 100)]

/-- One investor withdraws 100 without penalty, another one has 5 left. -/
def shared : List (Action vault) :=
  funded (some 0) [(2, 100), (3, 5)] ++
    [signedBy 2 (.withdrawInvestment 0 100)]

/-- The only investor cannot withdraw everything: the payment leaves 1, which is
below the minimum balance and lost, so that nothing is left for the penalty.
If they withdraw 91, the penalty of 1 takes 9 more along.  And where there is no
penalty, an investor who leaves takes along what another one had left. -/
theorem dust_strands :
    (vaultBacked.Reachable (vaultAfter lone) ∧
      ((vaultAfter lone).investments 0).get (2 : Nat) = some ⟨100, 0⟩ ∧
      failure (withdrawInvestment (vaultAfter lone) (.signed (2 : Nat)) 0 100)
        = some (.token .fundsUnavailable) ∧
      ∃ s', withdrawInvestment (vaultAfter lone) (.signed (2 : Nat)) 0 91
          = .ok s' ∧
        Ledger.totalIssuance s'.world 7 + 10 =
          Ledger.totalIssuance (vaultAfter lone).world 7) ∧
    vaultBacked.Reachable (vaultAfter shared) ∧
      ((vaultAfter shared).investments 0).get (3 : Nat) = some ⟨5, 0⟩ ∧
      failure (withdrawInvestment (vaultAfter shared) (.signed (3 : Nat)) 0 5)
        = some (.token .fundsUnavailable) := by
  refine ⟨⟨?_, by decide +kernel, by decide +kernel, ?_⟩, ?_,
    by decide +kernel, by decide +kernel⟩
  · exact vaultAfter_reachable (funded_orderly _ _) (by decide +kernel)
  · obtain ⟨s', h, hburnt⟩ := succeedsWith_iff.mp
      (show succeedsWith (withdrawInvestment (vaultAfter lone)
          (.signed (2 : Nat)) 0 91)
        (fun s' => decide (Ledger.totalIssuance s'.world 7 + 10 =
          Ledger.totalIssuance (vaultAfter lone).world 7)) = true
        by decide +kernel)
    exact ⟨s', h, of_decide_eq_true hburnt⟩
  · refine vaultAfter_reachable (fun a ha => ?_) (by decide +kernel)
    rcases List.mem_append.mp ha with ha | ha
    · exact funded_orderly _ _ a ha
    · cases List.mem_singleton.mp ha
      trivial

/-- Two investors of 100, one of whom withdraws half. -/
theorem withdrawal_settles_iff_half :
    ∃ (s s' : State vault) (c : Campaign vault),
      s.campaigns.get 0 = some c ∧ bpsOf 50 c.penaltyBps = 1 ∧
      withdrawInvestment s (.signed (2 : Nat)) 0 50 = .ok s' ∧
      Ledger.Settled s.world s'.world 7 (vault.campaignAccount 0) (2 : Nat) 49
        1 := by
  obtain ⟨c, hget, hstatus, hcurrency, hpenalty⟩ := exists_campaign
    (s := vaultAfter (funded none [(2, 100), (3, 100)]))
    (p := fun c => c.status = .funding ∧ c.config.fundingCurrency = .asset 7 ∧
      bpsOf 50 c.penaltyBps = 1)
    (by decide +kernel)
  have hiff := @withdrawal_settles_iff vault vaultBacked
    (vaultAfter (funded none [(2, 100), (3, 100)]))
    (vaultAfter_reachable (funded_orderly _ _) (by decide +kernel)) 0 50 c hget
    (.inl hstatus) 7 hcurrency 2 (by decide) ⟨100, 0⟩ (by decide +kernel)
    (by decide) (by decide) ⟨900, .liquid, .sufficient⟩ (by decide +kernel)
  rw [hpenalty] at hiff
  obtain ⟨s', h, hsettled⟩ := hiff.mpr
    ⟨⟨4000, 10, true, 5, 5, .live⟩, ⟨200, .liquid, .sufficient⟩,
      ⟨by decide +kernel, rfl, by decide +kernel, rfl, by decide⟩,
      .inl (by decide), fun _ => ⟨rfl, by decide⟩⟩
  exact ⟨_, s', c, hget, hpenalty, h, hsettled⟩

end Thxnet.Crowdfunding
