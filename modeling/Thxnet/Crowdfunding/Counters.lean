import Thxnet.Crowdfunding.Bookkeeping
import Thxnet.Crowdfunding.Vault

/-!
# Gross counters

The record of an investor counts everything they have ever put into a campaign
and everything they have taken out of it.  Both counters are saturating
`u128`s, and what the investor has in the campaign is their difference.  It is
bounded by what the ledger can hold, the counters are not: an investor who
takes the same tokens in and out often enough fills them.

`Flow` is what the counters stand for, with numbers that do not saturate.  The
record agrees with it all along a run exactly when no investment overflows the
first counter; the second one stays below the first.
-/

namespace Thxnet.Crowdfunding

open Thxnet.Lib Thxnet.Frame

variable {T : Config}

/-! ## What the counters stand for -/

/-- What has gone from an investor into a campaign and back, gross, since the
campaign has last refunded them. -/
structure Flow where
  deposited : Nat
  withdrawn : Nat
  deriving DecidableEq, Repr

/-- The flow of `who` through a campaign after one more step. -/
def Flow.after (id : Nat) (who : T.AccountId) (f : Flow) : Action T → Flow
  | .call o (.invest i amount) =>
      if o = .signed who ∧ i = id then
        { f with deposited := f.deposited + amount }
      else f
  | .call o (.withdrawInvestment i amount) =>
      if o = .signed who ∧ i = id then
        { f with withdrawn := f.withdrawn + amount }
      else f
  | .call o (.claimRefund i) =>
      if o = .signed who ∧ i = id then ⟨0, 0⟩ else f
  | .call _ _ => f
  | .nextBlock => f
  | .outside _ => f

/-- The flow of `who` through a campaign over a run. -/
def flow (id : Nat) (who : T.AccountId) (t : List (State T × Action T)) :
    Flow :=
  t.foldl (fun f p => f.after id who p.2) ⟨0, 0⟩

/-- The record says what the flow says. -/
def Books.Tallies (b : Books T) (id : Nat) (who : T.AccountId) (f : Flow) :
    Prop :=
  (b.investment id who).net + f.withdrawn = f.deposited

/-- What `who` puts into the campaign fits the counter. -/
def CounterFits (id : Nat) (who : T.AccountId) (b : Books T) : Action T → Prop
  | .call o (.invest i amount) =>
      o = .signed who ∧ i = id →
        (b.investment id who).totalInvested + amount < 2 ^ 128
  | .call _ _ => True
  | .nextBlock => True
  | .outside _ => True

variable {a : Action T} {b : Books T} {id : Nat} {who : T.AccountId}

theorem Flow.after_of_target_ne (ht : a.target b ≠ some id)
    (who : T.AccountId) (f : Flow) :
    f.after id who a = f ∧ CounterFits id who b a := by
  cases a with
  | nextBlock | outside => exact ⟨rfl, trivial⟩
  | call o c =>
      cases c with
      | invest i =>
          have hne : ¬ (o = .signed who ∧ i = id) := fun h =>
            ht (congrArg some h.2)
          exact ⟨if_neg hne, fun h => absurd h hne⟩
      | withdrawInvestment | claimRefund =>
          exact ⟨if_neg fun h => ht (congrArg some h.2), trivial⟩
      | _ => exact ⟨rfl, trivial⟩

theorem Flow.after_of_quiet (hquiet : a.isQuiet = true) (id : Nat)
    (who : T.AccountId) (f : Flow) :
    f.after id who a = f ∧ CounterFits id who b a := by
  cases a with
  | nextBlock => exact ⟨rfl, trivial⟩
  | outside => cases hquiet
  | call o c =>
      cases c with
      | invest | withdrawInvestment | claimRefund => cases hquiet
      | _ => exact ⟨rfl, trivial⟩

/-! ## One step -/

/-- An investment is counted in full exactly when it fits. -/
theorem Investment.Bounded.net_invested_iff {inv : Investment}
    (h : inv.Bounded) (amount : Nat) :
    (inv.invested amount).net = inv.net + amount ↔
      inv.totalInvested + amount < 2 ^ 128 := by
  constructor
  · intro heq
    have h₁ := h.withdrawn_le
    have h₂ := h.invested_lt
    unfold Investment.invested Investment.net saturatingAdd maxValue at heq
    dsimp only at heq
    omega
  · exact h.net_invested

theorem Effect.tallies_iff {b' : Books T} (h : Effect b a b')
    (hbounded : b.BoundedAt id) {f : Flow} (hf : b.Tallies id who f) :
    b'.Tallies id who (f.after id who a) ↔ CounterFits id who b a := by
  by_cases ht : a.target b = some id
  swap
  · obtain ⟨hafter, hfits⟩ := Flow.after_of_target_ne ht who f
    rw [hafter]
    refine iff_of_true ?_ hfits
    rw [Books.Tallies, Books.investment, (h.sameAt ht).records]
    exact hf
  unfold Books.Tallies at hf ⊢
  cases h with
  | quiet hquiet =>
      obtain ⟨hafter, hfits⟩ := Flow.after_of_quiet (b := b) hquiet id who f
      rw [hafter]
      exact iff_of_true hf hfits
  | @invested x _ amount =>
      cases ht
      show (((b.investments.insert id x _ id).get who).getD default).net + _
        = _ ↔ _
      rw [investment_insert]
      by_cases hx : who = x
      · subst hx
        have hiff := (hbounded.investment who).net_invested_iff amount
        rw [if_pos rfl, Flow.after, if_pos ⟨rfl, rfl⟩, CounterFits]
        dsimp only
        constructor
        · intro heq _
          exact hiff.mp (by omega)
        · intro hfits
          have hnet := hiff.mpr (hfits ⟨rfl, rfl⟩)
          omega
      · have hne : ¬ ((.signed x : Origin T.AccountId) = .signed who ∧
            id = id) := fun h => hx (Origin.signed.inj h.1).symm
        rw [if_neg hx, Flow.after, if_neg hne]
        exact iff_of_true hf fun h => absurd h hne
  | @withdrawn x _ amount _ inv _ _ _ _ _ hinv hle =>
      cases ht
      refine iff_of_true ?_ trivial
      show (((b.investments.insert id x _ id).get who).getD default).net + _
        = _
      rw [investment_insert]
      by_cases hx : who = x
      · subst hx
        have hnet := (hbounded who inv hinv).net_withdrawn hle
        rw [investment_eq hinv] at hf
        rw [if_pos rfl, Flow.after, if_pos ⟨rfl, rfl⟩]
        dsimp only
        omega
      · rw [if_neg hx, Flow.after,
          if_neg fun h => hx (Origin.signed.inj h.1).symm]
        exact hf
  | @refunded x =>
      cases ht
      refine iff_of_true ?_ trivial
      show (((b.investments.remove id x id).get who).getD default).net + _ = _
      rw [investment_remove]
      by_cases hx : who = x
      · subst hx
        rw [if_pos rfl, Flow.after, if_pos ⟨rfl, rfl⟩]
        rfl
      · rw [if_neg hx, Flow.after,
          if_neg fun h => hx (Origin.signed.inj h.1).symm]
        exact hf
  | finalized hcall | paused hcall | cancelled hcall =>
      rcases hcall with rfl | rfl <;> exact iff_of_true hf trivial
  | reviewed hcall =>
      rcases hcall with rfl | rfl | rfl <;> exact iff_of_true hf trivial
  | _ => exact iff_of_true hf trivial

/-! ## Taking out what is there -/

theorem Books.exists_record (h : (b.investment id who).net ≠ 0) :
    (b.investments id).get who = some (b.investment id who) := by
  unfold Books.investment at h ⊢
  cases hget : (b.investments id).get who with
  | none =>
      rw [hget] at h
      exact absurd rfl h
  | some => rfl

/-- A withdrawal within the record does what its two payments do. -/
theorem withdrawInvestment_iff {s : State T} {amount : Nat} {c : Campaign T}
    (hget : s.campaigns.get id = some c)
    (hstatus : c.status = .funding ∨ c.status = .paused) (hpos : amount ≠ 0)
    (hle : amount ≤ (s.investment id who).net) {w : T.World} :
    (∃ s', withdrawInvestment s (.signed who) id amount = .ok s' ∧
      s'.world = w) ↔
    ∃ w₁, doTransfer s.world c.config.fundingCurrency (T.campaignAccount id)
        who (c.withdrawalNet amount) .allowDeath = .ok w₁ ∧
      doBurn w₁ c.config.fundingCurrency (T.campaignAccount id)
        (bpsOf amount c.penaltyBps) .allowDeath = .ok w := by
  constructor
  · rintro ⟨s', h, rfl⟩
    have heff := (withdrawInvestment_effect h).effect
    generalize s'.toBooks = b' at heff ⊢
    cases heff with
    | quiet hquiet => cases hquiet
    | withdrawn hget' _ _ _ _ hpay hburn =>
        cases hget'.symm.trans hget
        exact ⟨_, hpay, hburn⟩
    | finalized hcall | paused hcall | cancelled hcall =>
        rcases hcall with hcall | hcall <;> cases hcall
    | reviewed hcall => rcases hcall with hcall | hcall | hcall <;> cases hcall
  · rintro ⟨w₁, hpay, hburn⟩
    have hnet : (s.investment id who).net ≠ 0 := by omega
    have hinv := s.exists_record hnet
    have hburn' : (if bpsOf amount c.penaltyBps ≠ 0 then
        doBurn w₁ c.config.fundingCurrency (T.campaignAccount id)
          (bpsOf amount c.penaltyBps) .allowDeath
        else .ok w₁) = .ok w := by
      by_cases hpenalty : bpsOf amount c.penaltyBps = 0
      · simpa [hpenalty, doBurn, burnWith] using hburn
      · rwa [if_pos hpenalty]
    simp only [withdrawInvestment, do_eq_ok, ensureSigned_eq_ok]
    exact ⟨_, ⟨who, rfl, c, hget, hstatus, hpos, _, hinv, hle, w₁, hpay, w,
      hburn', rfl⟩, rfl⟩

/-- A refund from a campaign that has paid nothing out succeeds if the ledger
pays what the record says. -/
theorem claimRefund_ok {s : State T} {c : Campaign T}
    (hget : s.campaigns.get id = some c)
    (hstatus : c.status = .failed ∨ c.status = .cancelled)
    (hdisbursed : c.totalDisbursed = 0) (hnet : (s.investment id who).net ≠ 0)
    {w : T.World}
    (hpay : doTransfer s.world c.config.fundingCurrency (T.campaignAccount id)
      who (s.investment id who).net .allowDeath = .ok w) :
    ∃ s', claimRefund s (.signed who) id = .ok s' := by
  have hinv := s.exists_record hnet
  have hrefund : c.refund (s.investment id who) = (s.investment id who).net :=
    if_neg fun h => h.1 hdisbursed
  simp only [claimRefund, do_eq_ok, ensureSigned_eq_ok]
  exact ⟨_, who, rfl, c, hget, hstatus, _, hinv, hnet, by rwa [hrefund], w,
    by rwa [hrefund], rfl⟩

/-- While the campaign is open the investor can withdraw any part of `left`,
and once it has failed or been cancelled with nothing paid out they can have it
refunded, whenever the ledger makes the payments. -/
structure Recoverable (s : State T) (id : Nat) (who : T.AccountId)
    (left : Nat) : Prop where
  withdrawal : ∀ c amount w₁ w, s.campaigns.get id = some c →
    c.status = .funding ∨ c.status = .paused → amount ≠ 0 → amount ≤ left →
    doTransfer s.world c.config.fundingCurrency (T.campaignAccount id) who
      (c.withdrawalNet amount) .allowDeath = .ok w₁ →
    doBurn w₁ c.config.fundingCurrency (T.campaignAccount id)
      (bpsOf amount c.penaltyBps) .allowDeath = .ok w →
    ∃ s', withdrawInvestment s (.signed who) id amount = .ok s'
  refund : ∀ c w, s.campaigns.get id = some c →
    c.status = .failed ∨ c.status = .cancelled → c.totalDisbursed = 0 →
    left ≠ 0 →
    doTransfer s.world c.config.fundingCurrency (T.campaignAccount id) who left
      .allowDeath = .ok w →
    ∃ s', claimRefund s (.signed who) id = .ok s'

theorem recoverable_net (s : State T) (id : Nat) (who : T.AccountId) :
    Recoverable s id who (s.investment id who).net where
  withdrawal := by
    intro c amount w₁ w hget hstatus hpos hle hpay hburn
    obtain ⟨s', h, _⟩ := (withdrawInvestment_iff hget hstatus hpos hle).mpr
      ⟨w₁, hpay, hburn⟩
    exact ⟨s', h⟩
  refund := by
    intro c w hget hstatus hdisbursed hnet hpay
    exact claimRefund_ok hget hstatus hdisbursed hnet hpay

/-! ## Whole runs -/

/-- **Counters.**  All along a run from genesis, what the record of an investor
says is what they have put in less what they have taken out, gross, exactly
when everything they put in fits the counter.  In such a run they can take out
what they have left. -/
theorem counters_exact_iff {s₀ s : State T} (hg : Genesis s₀)
    {t : List (State T × Action T)} (hrun : Transition.Run step s₀ t s)
    (id : Nat) (who : T.AccountId) :
    ((∀ past m, past <+: t → Transition.Run step s₀ past m →
        (m.investment id who).totalInvested
            - (m.investment id who).totalWithdrawn
            + (flow id who past).withdrawn
          = (flow id who past).deposited) ↔
      ∀ p ∈ t, CounterFits id who p.1.toBooks p.2) ∧
    ((∀ p ∈ t, CounterFits id who p.1.toBooks p.2) →
      Recoverable s id who
        ((flow id who t).deposited - (flow id who t).withdrawn)) := by
  have hstart : s₀.BoundedAt id ∧ s₀.Tallies id who ⟨0, 0⟩ := by
    obtain ⟨world, now, rfl⟩ := hg
    refine ⟨fun who inv hget => ?_, rfl⟩
    simp [State.genesis] at hget
  have hiff := hrun.always_iff
    (f := fun (f : Flow) p => f.after id who p.2)
    (I := fun s => s.BoundedAt id)
    (J := fun s f => s.Tallies id who f)
    (fun _ _ _ hI h => (step_effect h).boundedAt hI)
    (fun _ _ _ _ hI hJ h => (step_effect h).tallies_iff hI hJ)
    hstart.1 hstart.2
  refine ⟨hiff, fun hfits => ?_⟩
  have hend : s.Tallies id who (flow id who t) :=
    hiff.mpr hfits t s List.prefix_rfl hrun
  have hleft : (flow id who t).deposited - (flow id who t).withdrawn
      = (s.investment id who).net := by
    unfold Books.Tallies at hend
    omega
  rw [hleft]
  exact recoverable_net s id who

/-! ## In and out of a campaign -/

theorem counterFits_of_sumsFit (h : SumsFit b a) (id : Nat)
    (who : T.AccountId) : CounterFits id who b a := by
  cases a with
  | nextBlock | outside => trivial
  | call o c =>
      cases c with
      | invest =>
          rintro ⟨rfl, rfl⟩
          exact h.1
      | _ => trivial

/-- The first state of runs over a vault with `2 ^ 125 + 1` of asset 7 in each
of four accounts. -/
def richGenesis : State vault :=
  State.genesis vault (vaultEndowed 1 (2 ^ 125 + 1)) 0

/-- Account 2 takes `2 ^ 125` in and out of a campaign without penalty, `n`
times, and once more in. -/
def rounds (n : Nat) : List (Action vault) :=
  signedBy 1 (.createCampaign
    { mockConfig (.keepWhatYouRaise none) (.asset 7) 50 with
      earlyWithdrawalPenaltyBps := some 0 } none none) ::
  (List.replicate n [signedBy 2 (.invest 0 (2 ^ 125)),
    signedBy 2 (.withdrawInvestment 0 (2 ^ 125))]).flatten ++
  [signedBy 2 (.invest 0 (2 ^ 125))]

/-- The steps of that run. -/
def roundTrace (n : Nat) : List (State vault × Action vault) :=
  Transition.trace step richGenesis (rounds n)

/-- The state it ends in. -/
def roundsEnd (n : Nat) : State vault :=
  Transition.final step richGenesis (rounds n)

/-- The eighth time, the counter saturates: the sub-account holds everything
that has not been taken out, but the record is short of one unit and the
investor is refused what they have put in. -/
theorem counter_saturates :
    Genesis richGenesis ∧
      Transition.Run step richGenesis (roundTrace 7) (roundsEnd 7) ∧
      flow 0 (2 : Nat) (roundTrace 7) = ⟨8 * 2 ^ 125, 7 * 2 ^ 125⟩ ∧
      (roundsEnd 7).investment 0 (2 : Nat) =
        ⟨2 ^ 128 - 1, 7 * 2 ^ 125⟩ ∧
      Ledger.balance (roundsEnd 7).world 7 (vault.campaignAccount 0) =
        2 ^ 125 ∧
      failure (withdrawInvestment (roundsEnd 7) (.signed (2 : Nat)) 0
        (2 ^ 125)) = some (vault.err .insufficientInvestment) := by
  refine ⟨⟨_, _, rfl⟩, ?_, by decide +kernel, by decide +kernel,
    by decide +kernel, by decide +kernel⟩
  exact Transition.run_of_exec (Transition.exec_final (by decide +kernel))

/-- After three rounds the investor can have back what they have in the
campaign. -/
theorem counters_exact_iff_rounds :
    (flow 0 (2 : Nat) (roundTrace 3)).deposited
        - (flow 0 (2 : Nat) (roundTrace 3)).withdrawn = 2 ^ 125 ∧
      Recoverable (roundsEnd 3) 0 (2 : Nat) (2 ^ 125) := by
  have hleft : (flow 0 (2 : Nat) (roundTrace 3)).deposited
      - (flow 0 (2 : Nat) (roundTrace 3)).withdrawn = 2 ^ 125 := by
    decide +kernel
  have hfits : ∀ p ∈ roundTrace 3, fits p.1 p.2 = true :=
    List.all_eq_true.mp (by decide +kernel)
  have hrun : Transition.Run step richGenesis (roundTrace 3) (roundsEnd 3) :=
    Transition.run_of_exec (Transition.exec_final (by decide +kernel))
  refine ⟨hleft, hleft ▸ (counters_exact_iff ⟨_, _, rfl⟩ hrun 0 (2 : Nat)).2
    fun p hp => ?_⟩
  exact counterFits_of_sumsFit (sumsFit_of_fits (hfits p hp)) 0 2

end Thxnet.Crowdfunding
