import Thxnet.Crowdfunding.BasisPoints
import Thxnet.Crowdfunding.Ledger
import Thxnet.Crowdfunding.Lifecycle

/-!
# Early withdrawals

An early withdrawal pays its investor the amount less a penalty that is rounded
up.  This module compares a run in which an investor withdraws in pieces, with
anything else happening in between, to a single withdrawal of the total.
-/

namespace Thxnet.Crowdfunding

open Thxnet.Lib Thxnet.Frame

variable {T : Config}

/-- The amount, if the action is a withdrawal by `who` from the campaign. -/
def withdrawalOf (id : Nat) (who : T.AccountId) : Action T → Option Nat
  | .call (.signed x) (.withdrawInvestment i amount) =>
      if x = who ∧ i = id then some amount else none
  | _ => none

/-- The amounts an investor withdraws from a campaign over a run. -/
def withdrawals (id : Nat) (who : T.AccountId) (t : List (State T × Action T)) :
    List Nat :=
  t.filterMap fun p => withdrawalOf id who p.2

/-- By how much a step raises a balance. -/
def received (currency : PaymentCurrency T.AssetId) (who : T.AccountId)
    (p : State T × Action T) : Nat :=
  match step p.1 p.2 with
  | .ok s' =>
      balanceOf s'.world currency who - balanceOf p.1.world currency who
  | .error _ => 0

/-- What an investor receives by their withdrawals from a campaign over a
run. -/
def receipts (id : Nat) (currency : PaymentCurrency T.AssetId)
    (who : T.AccountId) (t : List (State T × Action T)) : Nat :=
  ((t.filter fun p => (withdrawalOf id who p.2).isSome).map
    (received currency who)).sum

variable {who : T.AccountId} {c : Campaign T}

theorem withdrawalOf_eq_some {id amount : Nat} {a : Action T}
    (h : withdrawalOf id who a = some amount) :
    a = .call (.signed who) (.withdrawInvestment id amount) := by
  unfold withdrawalOf at h
  split at h
  · split at h
    · next heq =>
        obtain ⟨rfl, rfl⟩ := heq
        cases h
        rfl
    · cases h
  · cases h

/-- A withdrawal raises its investor's balance by the amount less penalty, or
by at most that if the ledger is lossy. -/
theorem received_withdrawal {r : Nat → Nat → Prop}
    (hl : LedgerRule T.nativeCurrency T.fungibles
      (Transferred r (balanceOf (T := T))) (Burned r balanceOf))
    (htrans : ∀ l m n, r l m → r m n → r l n) {s s' : State T} {id amount : Nat}
    (hwho : who ≠ T.campaignAccount id) (hget : s.campaigns.get id = some c)
    (h : step s (.call (.signed who) (.withdrawInvestment id amount))
      = .ok s') :
    r (balanceOf s'.world c.config.fundingCurrency who)
      (balanceOf s.world c.config.fundingCurrency who
        + c.withdrawalNet amount) := by
  have heff := step_effect h
  generalize s'.toBooks = b' at heff ⊢
  cases heff with
  | quiet hquiet => cases hquiet
  | @withdrawn _ _ _ c₀ _ w₁ w hget₀ _ _ _ _ hpay hburn =>
      cases hget₀.symm.trans hget
      have hmoved := hl.transfer hpay c.config.fundingCurrency who
      have hburned := hl.burn hburn c.config.fundingCurrency who
      simp only [hwho, and_false, if_false, and_true, if_true, Nat.add_zero]
        at hmoved hburned
      exact htrans _ _ _ hburned hmoved
  | finalized hcall | paused hcall | cancelled hcall =>
      rcases hcall with hcall | hcall <;> cases hcall
  | reviewed hcall => rcases hcall with hcall | hcall | hcall <;> cases hcall

theorem Campaign.Evolves.withdrawalNet {c' : Campaign T} (h : c.Evolves c')
    (amount : Nat) : c'.withdrawalNet amount = c.withdrawalNet amount := by
  have hpenalty : c'.penaltyBps = c.penaltyBps := by
    unfold Campaign.penaltyBps
    rw [h.config]
  unfold Campaign.withdrawalNet
  rw [hpenalty]

/-- Over a run, an investor receives at most the net of each withdrawal. -/
theorem receipts_le (hl : LossyLedger T) {s s' : State T}
    {t : List (State T × Action T)} (hrun : Transition.Run step s t s')
    (hf : s.toBooks.Fresh) {id : Nat} (hwho : who ≠ T.campaignAccount id)
    (hget : s.campaigns.get id = some c) :
    receipts id c.config.fundingCurrency who t ≤
      ((withdrawals id who t).map c.withdrawalNet).sum := by
  induction hrun generalizing c with
  | nil => exact Nat.le_refl _
  | @cons s s₁ _ a t hstep _ ih =>
      have heff := step_effect hstep
      obtain ⟨c₁, hget₁, hev⟩ := heff.evolves hf hget
      have hrest := ih (heff.fresh hf) hget₁
      have hcurrency : c₁.config.fundingCurrency = c.config.fundingCurrency := by
        rw [hev.config]
      rw [hcurrency, funext hev.withdrawalNet] at hrest
      unfold receipts withdrawals at hrest ⊢
      cases hw : withdrawalOf id who a with
      | none => simpa [List.filter_cons, List.filterMap_cons, hw] using hrest
      | some amount =>
          have ha := withdrawalOf_eq_some hw
          have hrec : received c.config.fundingCurrency who (s, a)
              ≤ c.withdrawalNet amount := by
            have hbal := received_withdrawal hl (fun _ _ _ => Nat.le_trans)
              hwho hget (ha ▸ hstep)
            unfold received
            dsimp only
            rw [hstep]
            dsimp only
            omega
          simp only [List.filter_cons, List.filterMap_cons, hw,
            Option.isSome_some, if_true, List.map_cons, List.sum_cons]
          exact Nat.add_le_add hrec hrest

/-- Splitting an amount never raises what its pieces pay. -/
theorem withdrawalNet_sum_le (c : Campaign T) (pieces : List Nat) :
    (pieces.map c.withdrawalNet).sum ≤ c.withdrawalNet pieces.sum := by
  have hsplit := bpsOf_sum_le pieces c.penaltyBps
  have hsum : (pieces.map c.withdrawalNet).sum
      + (pieces.map (bpsOf · c.penaltyBps)).sum = pieces.sum := by
    clear hsplit
    induction pieces with
    | nil => rfl
    | cons a rest ih =>
        have hle := bpsOf_le a c.penaltyBps
        simp only [List.map_cons, List.sum_cons, Campaign.withdrawalNet]
          at ih ⊢
        omega
  unfold Campaign.withdrawalNet at hsum ⊢
  omega

/-- The shares of the pieces of any amount add up to at least its own share,
which never exceeds it; and an investor who withdraws in pieces, over a run of
any length with anything in between, receives at most what the total pays in
one withdrawal.  If nothing is lost on the way, that is what one withdrawal
adds to the investor's balance. -/
theorem splitting_never_saves_penalty (hl : LossyLedger T)
    {ok : State T → Action T → Prop} {s s' : State T} (hs : Reachable ok s)
    {t : List (State T × Action T)} (hrun : Transition.Run step s t s')
    {id : Nat} {who : T.AccountId} (hwho : who ≠ T.campaignAccount id)
    {c : Campaign T} (hget : s.campaigns.get id = some c) :
    (∀ (pieces : List Nat) (bps : Nat),
      bpsOf pieces.sum bps ≤ (pieces.map (bpsOf · bps)).sum ∧
      bpsOf pieces.sum bps ≤ pieces.sum) ∧
    receipts id c.config.fundingCurrency who t
      ≤ c.withdrawalNet (withdrawals id who t).sum ∧
    (ExactLedger T → ∀ s₁, step s (.call (.signed who)
        (.withdrawInvestment id (withdrawals id who t).sum)) = .ok s₁ →
      balanceOf s.world c.config.fundingCurrency who
        + receipts id c.config.fundingCurrency who t
          ≤ balanceOf s₁.world c.config.fundingCurrency who) := by
  have hle : receipts id c.config.fundingCurrency who t
      ≤ c.withdrawalNet (withdrawals id who t).sum :=
    (receipts_le hl hrun (fresh_of_reachable hs) hwho hget).trans
      (withdrawalNet_sum_le c _)
  refine ⟨fun pieces bps => ⟨bpsOf_sum_le pieces bps, bpsOf_le _ _⟩, hle,
    fun hexact s₁ hsingle => ?_⟩
  rw [received_withdrawal hexact (fun _ _ _ => Eq.trans) hwho hget hsingle]
  omega

/-- A campaign with one investor of 100 units. -/
def investHundred : List (Action purse) :=
  [openCampaign, signedBy 2 (.invest 0 100)]

/-- 90 of them withdrawn in three pieces. -/
def withdrawThrice : List (Action purse) :=
  List.replicate 3 (signedBy 2 (.withdrawInvestment 0 30))

theorem splitting_never_saves_penalty_thrice :
    ∃ c, (purseAfter investHundred).campaigns.get 0 = some c ∧
      withdrawals 0 (2 : Nat) (Transition.trace step (purseAfter investHundred)
        withdrawThrice) = [30, 30, 30] ∧
      receipts 0 c.config.fundingCurrency (2 : Nat)
          (Transition.trace step (purseAfter investHundred) withdrawThrice)
        ≤ c.withdrawalNet (withdrawals 0 (2 : Nat)
            (Transition.trace step (purseAfter investHundred)
              withdrawThrice)).sum := by
  have hsome : ((purseAfter investHundred).campaigns.get 0).isSome = true := by
    decide +kernel
  obtain ⟨c, hget⟩ := Option.isSome_iff_exists.mp hsome
  refine ⟨c, hget, by decide +kernel, ?_⟩
  exact (@splitting_never_saves_penalty purse purse_exact.lossy
    (fun _ _ => True) _ _
    (purseAfter_reachable (fun _ _ _ => trivial) (by decide +kernel)) _
    (Transition.run_of_exec (Transition.exec_final (by decide +kernel))) 0 2
    (by decide) c hget).2.1

end Thxnet.Crowdfunding
