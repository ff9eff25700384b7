import Thxnet.Crowdfunding.Solvency
import Thxnet.Lib.Pot

/-!
# Pro-rata refunds

A campaign cancelled out of the milestone phase refunds each investor a share
of what has not been disbursed.  The ratio is floored to parts per million and
the product with the net contribution is rounded to the nearest unit, so the
refunds can add up to more than is left, and can leave something behind.

`refunds_covered_iff` is the exact condition for the first not to happen.
`refunds_strand_at_most` bounds the second, over every run after the
cancellation: half a unit for each investor and a millionth of the raised
amount.  Both go through the abstract pot that the sub-account of a cancelled
campaign refines (`pot_moves`).
-/

namespace Thxnet.Crowdfunding

open Thxnet.Lib Thxnet.Frame

variable {T : Config}

/-! ## The computed refund -/

/-- What is left of each raised unit, in whole millionths. -/
def Campaign.leftPerUnit (c : Campaign T) : Nat :=
  1000000 * (c.totalRaised - c.totalDisbursed) / c.totalRaised

theorem remainingRatio_eq (c : Campaign T) (hpos : 0 < c.totalRaised) :
    c.remainingRatio = c.leftPerUnit :=
  permill.fromRational_eq hpos (Nat.sub_le _ _) (by decide)

/-- Without a raised amount there is no contribution the ratio applies to. -/
theorem remainingRatio_mul_net (c : Campaign T) {net : Nat}
    (hnet : net ≤ c.totalRaised) :
    c.remainingRatio * net = c.leftPerUnit * net := by
  rcases Nat.eq_zero_or_pos c.totalRaised with hzero | hpos
  · have hnone : net = 0 := by omega
    rw [hnone, Nat.mul_zero, Nat.mul_zero]
  · rw [remainingRatio_eq c hpos]

theorem remainingRatio_le (c : Campaign T)
    (hle : c.totalDisbursed ≤ c.totalRaised) :
    c.remainingRatio ≤ 1000000 := by
  rcases Nat.eq_zero_or_pos c.totalRaised with hzero | hpos
  · have hnone : c.totalDisbursed = 0 := by omega
    unfold Campaign.remainingRatio
    rw [hzero, hnone]
    decide
  · rw [remainingRatio_eq c hpos]
    refine Nat.div_le_of_le_mul ?_
    rw [Nat.mul_comm c.totalRaised]
    exact Nat.mul_le_mul_left _ (Nat.sub_le _ _)

theorem leftPerUnit_mul (c : Campaign T) :
    c.leftPerUnit * c.totalRaised
      + 1000000 * (c.totalRaised - c.totalDisbursed) % c.totalRaised =
        1000000 * (c.totalRaised - c.totalDisbursed) :=
  Nat.div_add_mod' _ _

/-- Whether or not anything has been disbursed, a refund is the rounded product
of the ratio and the net contribution. -/
theorem refund_eq (c : Campaign T) (hle : c.totalDisbursed ≤ c.totalRaised)
    (inv : Investment) :
    c.refund inv = roundNearest 1000000 (c.remainingRatio * inv.net) := by
  unfold Campaign.refund
  split
  · exact permill.mul_eq (remainingRatio_le c hle) inv.net
  · next hnone =>
      have hzero : c.totalDisbursed = 0 := by omega
      have hone : c.remainingRatio = 1000000 := by
        unfold Campaign.remainingRatio
        rw [hzero, Nat.sub_zero]
        exact permill.fromRational_self _ (by decide)
      rw [hone, roundNearest, Nat.mul_div_cancel_left _ (by decide),
        Nat.mul_mod_right]
      rfl

/-- The refund falls short of the true share by at most half a unit, and not at
all for an investor without a net contribution. -/
theorem worth_le_refund (c : Campaign T)
    (hle : c.totalDisbursed ≤ c.totalRaised) (inv : Investment) :
    c.remainingRatio * inv.net ≤
      1000000 * c.refund inv + 500000 * (if inv.active then 1 else 0) := by
  have hround := mul_roundNearest (d := 1000000) (by decide)
    (c.remainingRatio * inv.net)
  have hloss := roundLoss_le 1000000 (c.remainingRatio * inv.net)
  rw [refund_eq c hle]
  by_cases hact : inv.active = true
  · rw [if_pos hact]
    omega
  · rw [Bool.not_eq_true, Investment.active_eq_false] at hact
    rw [hact]
    simp

/-! ## When the refunds are covered -/

/-- The refunds of investors whose net contributions add up to the raised
amount are covered by what has not been disbursed, exactly when what the upward
roundings gain is at most what the downward ones and the flooring of the ratio
lose, counted in millionths of a unit. -/
theorem refunds_covered_iff (c : Campaign T)
    (hle : c.totalDisbursed ≤ c.totalRaised) (l : List Investment)
    (hsum : (l.map Investment.net).sum = c.totalRaised) :
    (l.map c.refund).sum ≤ c.totalRaised - c.totalDisbursed ↔
      (l.map fun inv => roundGain 1000000 (c.leftPerUnit * inv.net)).sum ≤
        (l.map fun inv => roundLoss 1000000 (c.leftPerUnit * inv.net)).sum
          + 1000000 * (c.totalRaised - c.totalDisbursed) % c.totalRaised := by
  have hfloor := leftPerUnit_mul c
  have hround := sum_roundNearest (d := 1000000) (by decide)
    (l.map fun inv => c.leftPerUnit * inv.net)
  have hworth : (l.map fun inv => c.leftPerUnit * inv.net).sum =
      c.leftPerUnit * c.totalRaised := by
    rw [← hsum, List.sum_map_mul_left]
  have hrefund : (l.map c.refund) =
      l.map fun inv => roundNearest 1000000 (c.leftPerUnit * inv.net) := by
    refine List.map_congr_left fun inv hinv => ?_
    have hnet : inv.net ≤ c.totalRaised := by
      rw [← hsum]
      exact List.le_sum_of_mem (List.mem_map_of_mem hinv)
    rw [refund_eq c hle, remainingRatio_mul_net c hnet]
  rw [hworth, List.map_map, List.map_map, List.map_map] at hround
  rw [hrefund]
  simp only [Function.comp_def] at hround
  omega

/-- A milestone campaign with these investments, by accounts 2, 3 and so on,
whose first milestone is paid out. -/
def firstPaidOut (milestones : BoundedVec Milestone 5)
    (amounts : List Nat) : List (Action purse) :=
  signedBy 1 (.createCampaign
      (mockConfig (.milestoneBased 1 milestones) .native 50) none none) ::
    (amounts.zipIdx 2).map (fun p => signedBy p.2 (.invest 0 p.1)) ++
    [ byRoot (.forceFinalizeCampaign 0),
      signedBy 1 (.submitMilestone 0 0),
      byRoot (.approveMilestone 0 0),
      signedBy 1 (.claimMilestoneFunds 0 0) ]

/-- The cancellation. -/
def cancelIt : Action purse := byRoot (.cancelCampaign 0)

/-- The refund claims of these accounts. -/
def refundClaims (accounts : List Nat) : List (Action purse) :=
  accounts.map fun who => signedBy who (.claimRefund 0)

/-- Three investors of one unit; a third is paid out, the rest cancelled. -/
def thirds : List (Action purse) :=
  firstPaidOut thirdThenRest [1, 1, 1] ++ [cancelIt]

/-- Two units are left for three investors, and each is refunded one.  The
third refund comes out of the creation deposit, which then cannot be
returned. -/
theorem refunds_exceed_remaining :
    ∃ c : Campaign purse, (purseAfter thirds).campaigns.get 0 = some c ∧
      c.status = .cancelled ∧ c.totalDisbursed ≤ c.totalRaised ∧
      (([2, 3, 4] : List Nat).map fun who =>
          ((purseAfter thirds).investments 0).get who) =
        [some ⟨1, 0⟩, some ⟨1, 0⟩, some ⟨1, 0⟩] ∧
      (([⟨1, 0⟩, ⟨1, 0⟩, ⟨1, 0⟩] : List Investment).map
        Investment.net).sum = c.totalRaised ∧
      ¬ ([⟨1, 0⟩, ⟨1, 0⟩, ⟨1, 0⟩].map c.refund).sum ≤
        c.totalRaised - c.totalDisbursed ∧
      (step (purseAfter (thirds ++ refundClaims [2, 3, 4]))
        (signedBy 1 (.claimCreationDeposit 0))).isOk = false := by
  exact exists_campaign (by decide +kernel)

/-- Investors of 60 and 40 units; a third of it, rounded up, is paid out. -/
def sixtyForty : List (Action purse) :=
  firstPaidOut thirdThenRest [60, 40]

/-- Of 100 units 34 are paid out; the refunds of 40 and 26 are covered. -/
theorem refunds_covered_iff_two :
    ∃ c : Campaign purse,
      (purseAfter (sixtyForty ++ [cancelIt])).campaigns.get 0 = some c ∧
      c.totalRaised - c.totalDisbursed = 66 ∧
      ([⟨60, 0⟩, ⟨40, 0⟩].map c.refund).sum ≤
        c.totalRaised - c.totalDisbursed := by
  obtain ⟨c, hget, hraised, hdisbursed⟩ :
      ∃ c : Campaign purse,
        (purseAfter (sixtyForty ++ [cancelIt])).campaigns.get 0 = some c ∧
        c.totalRaised = 100 ∧ c.totalDisbursed = 34 :=
    exists_campaign (by decide +kernel)
  refine ⟨c, hget, by rw [hraised, hdisbursed], ?_⟩
  rw [refunds_covered_iff c (by omega) _ (by rw [hraised]; rfl)]
  unfold Campaign.leftPerUnit
  rw [hraised, hdisbursed]
  decide +kernel

/-! ## The sub-account of a cancelled campaign is a pot -/

/-- What a campaign holds, against its records and its deposit. -/
def Books.pot (b : Books T) (id : Nat) (c : Campaign T) :
    Pot T.AccountId Investment where
  records := b.investments id
  deposit := c.nativeDeposit
  held := holding b.world c.config.fundingCurrency id

/-- What no step changes once a campaign is cancelled. -/
structure Campaign.WindsDown (c c' : Campaign T) : Prop where
  status : c'.status = .cancelled
  raised : c'.totalRaised = c.totalRaised
  disbursed : c'.totalDisbursed = c.totalDisbursed
  currency : c'.config.fundingCurrency = c.config.fundingCurrency

variable {b : Books T} {c : Campaign T} {id : Nat} {s s' : State T}

theorem Campaign.WindsDown.refund {c' : Campaign T} (h : c.WindsDown c') :
    c'.refund = c.refund := by
  funext inv
  unfold Campaign.refund Campaign.remainingRatio
  rw [h.raised, h.disbursed]

theorem Campaign.WindsDown.trans {c' c'' : Campaign T} (h : c.WindsDown c')
    (h' : c'.WindsDown c'') : c.WindsDown c'' where
  status := h'.status
  raised := h'.raised.trans h.raised
  disbursed := h'.disbursed.trans h.disbursed
  currency := h'.currency.trans h.currency

private theorem pot_rest {b' : Books T}
    (hrecords : b'.investments id = b.investments id)
    (hle : holding b'.world c.config.fundingCurrency id ≤ holding b.world
      c.config.fundingCurrency id) :
    (b.pot id c).Move c.refund (b'.pot id c) := by
  have hmove : (b.pot id c).Move c.refund _ := .rest hle
  unfold Books.pot at hmove ⊢
  rwa [hrecords]

/-- Every admitted step that does not add to the sub-account of a cancelled
campaign is a move of its pot. -/
theorem Effect.pot_move (hl : LossyLedger T) {b' : Books T} {a : Action T}
    (h : Effect b a b') (hf : b.Fresh) (hadm : Admitted b a)
    (hget : b.campaigns.get id = some c) (hst : c.status = .cancelled)
    (hsealed : holding b'.world c.config.fundingCurrency id ≤ holding b.world
      c.config.fundingCurrency id) :
    ∃ c', b'.campaigns.get id = some c' ∧ c.WindsDown c' ∧
      (b.pot id c).Move c.refund (b'.pot id c') := by
  have hid := hf.id_lt hget
  have hself : c.WindsDown c := ⟨hst, rfl, rfl, rfl⟩
  by_cases ht : a.target b = some id
  swap
  · have hsame := h.sameAt ht
    exact ⟨c, hsame.campaign.trans hget, hself,
      pot_rest hsame.records hsealed⟩
  have hacc := h.accepts hf ht hget
  rw [hst] at hacc
  cases h with
  | quiet => exact ⟨c, hget, hself, pot_rest rfl hsealed⟩
  | outside => cases ht
  | @refunded who _ c₁ inv w hget₁ hstatus hinv hnet hrefund hpay =>
      cases ht
      cases hget.symm.trans hget₁
      have hout := outgoing_of_transferred hadm hid (hl.transfer hpay)
        c.config.fundingCurrency
      rw [if_pos rfl] at hout
      refine ⟨_, StorageMap.get_insert_self .., ⟨hst, rfl, rfl, rfl⟩, ?_⟩
      have hmove : (b.pot id c).Move c.refund _ := .pay hinv hout
      simpa [Books.pot, Campaign.nativeDeposit] using hmove
  | @depositClaimed who _ c₁ w hget₁ hcreator hstatus hdeposit hpay =>
      cases ht
      cases hget.symm.trans hget₁
      have hout := outgoing_of_transferred hadm hid (hl.native_transfer hpay)
        c.config.fundingCurrency
      refine ⟨_, StorageMap.get_insert_self .., ⟨hst, rfl, rfl, rfl⟩, ?_⟩
      have hmove : (b.pot id c).Move c.refund _ := .settle hout
      simpa [Books.pot, Campaign.nativeDeposit] using hmove
  | finalized hcall | paused hcall | cancelled hcall =>
      rcases hcall with rfl | rfl <;> cases hacc
  | reviewed hcall => rcases hcall with rfl | rfl | rfl <;> cases hacc
  | _ => cases hacc

/-- No step adds to what a campaign holds of a currency. -/
def Sealed (id : Nat) (currency : PaymentCurrency T.AssetId) (s : State T)
    (a : Action T) : Prop :=
  ∀ s', step s a = .ok s' →
    holding s'.world currency id ≤ holding s.world currency id

instance (id : Nat) (currency : PaymentCurrency T.AssetId) (s : State T)
    (a : Action T) : Decidable (Sealed id currency s a) :=
  match h : step s a with
  | .ok s' =>
      decidable_of_iff
        (holding s'.world currency id ≤ holding s.world currency id)
        ⟨fun hle s₁ h₁ => by cases h.symm.trans h₁; exact hle,
          fun hs => hs s' h⟩
  | .error _ => .isTrue fun s₁ h₁ => by cases h.symm.trans h₁

/-- A run after the cancellation is a sequence of moves of the pot. -/
theorem pot_moves (hl : LossyLedger T) {t : List (State T × Action T)}
    (hrun : Transition.Run step s t s') (hf : s.toBooks.Fresh)
    (hget : s.campaigns.get id = some c) (hst : c.status = .cancelled)
    (hok : ∀ p ∈ t, Admitted p.1.toBooks p.2 ∧
      Sealed id c.config.fundingCurrency p.1 p.2) :
    ∃ c', s'.campaigns.get id = some c' ∧ c.WindsDown c' ∧
      Pot.Moves c.refund (s.toBooks.pot id c) (s'.toBooks.pot id c') := by
  induction hrun generalizing c with
  | nil => exact ⟨c, hget, ⟨hst, rfl, rfl, rfl⟩, .refl⟩
  | @cons s s₁ s₂ a t h _ ih =>
      have heff := step_effect h
      obtain ⟨hadm, hsealed⟩ := hok (s, a) List.mem_cons_self
      obtain ⟨c₁, hget₁, hwind, hmove⟩ :=
        heff.pot_move hl hf hadm hget hst (hsealed s₁ h)
      obtain ⟨c₂, hget₂, hwind₂, hmoves⟩ := ih (heff.fresh hf) hget₁
        hwind.status fun p hp => by
          rw [hwind.currency]
          exact hok p (List.mem_cons_of_mem _ hp)
      rw [hwind.refund] at hmoves
      exact ⟨c₂, hget₂, hwind.trans hwind₂, .head hmove hmoves⟩

/-! ## What is stranded -/

private theorem cancel_books {o : Origin T.AccountId} {call : Call T}
    (hcall : call = .cancelCampaign id ∨ call = .reportLicenseRevoked id)
    (h : step s (.call o call) = .ok s') (hget : s.campaigns.get id = some c) :
    s'.campaigns.get id = some { c with status := .cancelled } ∧
      s'.investments = s.investments ∧ s'.world = s.world := by
  rcases hcall with rfl | rfl
  · simp only [step, dispatch, cancelCampaign, ensureOrigin, do_eq_ok] at h
    obtain ⟨_, c₁, hget₁, _, rfl⟩ := h
    cases hget.symm.trans hget₁
    exact ⟨StorageMap.get_insert_self .., rfl, rfl⟩
  · simp only [step, dispatch, reportLicenseRevoked, do_eq_ok] at h
    obtain ⟨_, _, c₁, hget₁, _, _, _, _, rfl⟩ := h
    cases hget.symm.trans hget₁
    exact ⟨StorageMap.get_insert_self .., rfl, rfl⟩

/-- The pot of a campaign that holds at most what it has not disbursed: its
excess over the worth of the records is what the flooring of the ratio lost. -/
private theorem pot_slack
    (hsum : c.totalRaised = (b.investments id).sum Investment.net)
    (hheld : holding b.world c.config.fundingCurrency id ≤ c.totalRaised -
      c.totalDisbursed + c.nativeDeposit) :
    (b.pot id c).Slack (fun inv => c.remainingRatio * inv.net)
      (fun inv => 500000 * if inv.active then 1 else 0) 1000000
      (500000 * (b.investments id).count Investment.active
        + c.totalRaised) := by
  have hfloor := leftPerUnit_mul c
  rw [← remainingRatio_mul_net c (Nat.le_refl _)] at hfloor
  have hmod : 1000000 * (c.totalRaised - c.totalDisbursed) % c.totalRaised ≤
      c.totalRaised := by
    rcases Nat.eq_zero_or_pos c.totalRaised with hzero | hpos
    · rw [hzero]
      simp
    · exact Nat.le_of_lt (Nat.mod_lt _ hpos)
  show 1000000 * holding b.world c.config.fundingCurrency id
      + (b.investments id).sum _ ≤
    _ + 1000000 * c.nativeDeposit + (b.investments id).sum _
  rw [StorageMap.sum_mul_left, StorageMap.sum_mul_left, ← hsum]
  have hle := Nat.mul_le_mul_left 1000000 hheld
  rw [Nat.mul_add] at hle
  show _ + 500000 * (b.investments id).count Investment.active ≤ _
  omega

/-- A campaign in the milestone phase whose sub-account holds nothing that does
not belong to it is cancelled; afterwards nobody adds to the sub-account.  Once
every refund that is not computed as zero has been claimed, what is left beyond
the deposit is at most half a unit for each investor with a positive net
contribution and a millionth of the raised amount. -/
theorem refunds_strand_at_most (hl : LossyLedger T) {s₀ s₁ s₂ : State T}
    (hs : Reachable (fun s a => SumsFit s.toBooks a) s₀) {id : Nat}
    {c₀ c₂ : Campaign T} (hget : s₀.campaigns.get id = some c₀)
    (hphase : c₀.status = .milestonePhase)
    (hheld : holding s₀.world c₀.config.fundingCurrency id ≤
      c₀.totalRaised - c₀.totalDisbursed + c₀.nativeDeposit)
    {o : Origin T.AccountId} {call : Call T}
    (hcall : call = .cancelCampaign id ∨ call = .reportLicenseRevoked id)
    (hcancel : step s₀ (.call o call) = .ok s₁)
    {t : List (State T × Action T)} (hrun : Transition.Run step s₁ t s₂)
    (hok : ∀ p ∈ t, Admitted p.1.toBooks p.2 ∧
      Sealed id c₀.config.fundingCurrency p.1 p.2)
    (hget₂ : s₂.campaigns.get id = some c₂)
    (hdone : ∀ who inv, (s₂.investments id).get who = some inv →
      c₂.refund inv = 0) :
    1000000 * balanceOf s₂.world c₀.config.fundingCurrency
        (T.campaignAccount id) ≤
      1000000 * c₂.nativeDeposit
        + 500000 * (s₀.investments id).count Investment.active
        + c₀.totalRaised := by
  have hle := (totals_of_reachable hs hget).disbursed_le
  have hexact : s₀.toBooks.ExactAt id False :=
    exactAt_of_reachable (fun _ _ hok => ⟨hok, False.elim⟩) hs id
  have hsum := hexact.raised c₀ hget (by rw [hphase]; rfl)
  obtain ⟨hget₁, hrecords, hworld⟩ := cancel_books hcall hcancel hget
  obtain ⟨c, hget', hwind, hmoves⟩ := pot_moves hl hrun
    ((step_effect hcancel).fresh (fresh_of_reachable hs)) hget₁ rfl hok
  cases hget₂.symm.trans hget'
  have hpot : s₁.toBooks.pot id { c₀ with status := .cancelled } =
      s₀.toBooks.pot id c₀ := by
    unfold Books.pot
    rw [hrecords, hworld]
    rfl
  rw [hpot] at hmoves
  have hslack := (pot_slack hsum hheld).moves (worth_le_refund c₀ hle)
    hmoves
  have hleft := hslack.held_le (worth_le_refund c₀ hle) fun who inv hinv => by
    rw [← hdone who inv hinv, hwind.refund]
    rfl
  have hheld₂ : (s₂.toBooks.pot id c₂).held =
      balanceOf s₂.world c₀.config.fundingCurrency (T.campaignAccount id) := by
    show balanceOf s₂.world c₂.config.fundingCurrency _ = _
    rw [hwind.currency]
  rw [hheld₂] at hleft
  show _ ≤ 1000000 * (s₂.toBooks.pot id c₂).deposit + _ + _
  omega

/-- An investor of `3 * 10 ^ 17 + 1` units; half is paid out, the rest
cancelled. -/
def halves : List (Action purse) :=
  firstPaidOut ⟨[⟨5000⟩, ⟨5000⟩], by decide⟩ [3 * 10 ^ 17 + 1] ++ [cancelIt]

/-- The only investor has claimed the refund, and `3 * 10 ^ 11` units are left
beyond the creation deposit. -/
theorem truncation_strands :
    ∃ c : Campaign purse,
      (purseAfter (halves ++ refundClaims [2])).campaigns.get 0 = some c ∧
      c.status = .cancelled ∧
      ((purseAfter halves).investments 0).count Investment.active = 1 ∧
      ((purseAfter (halves ++ refundClaims [2])).investments 0).keys = ∅ ∧
      ¬ balanceOf (purseAfter (halves ++ refundClaims [2])).world
          c.config.fundingCurrency (purse.campaignAccount 0) ≤
        c.nativeDeposit + 1 :=
  exists_campaign (by decide +kernel)

/-- The campaign of `sixtyForty` cancelled. -/
def sixtyFortyCancelled : State purse :=
  Transition.final step (purseAfter sixtyForty) [cancelIt]

/-- Its investors refunded. -/
def sixtyFortyRefunded : State purse :=
  Transition.final step sixtyFortyCancelled (refundClaims [2, 3])

theorem refunds_strand_at_most_two :
    ∃ c : Campaign purse, sixtyFortyRefunded.campaigns.get 0 = some c ∧
      1000000 * balanceOf sixtyFortyRefunded.world .native
          (purse.campaignAccount 0) ≤
        1000000 * c.nativeDeposit + 500000 * 2 + 100 := by
  obtain ⟨c₀, hget, hphase, hcur, hraised, hheld⟩ :
      ∃ c : Campaign purse, (purseAfter sixtyForty).campaigns.get 0 = some c ∧
        c.status = .milestonePhase ∧ c.config.fundingCurrency = .native ∧
        c.totalRaised = 100 ∧
        holding (purseAfter sixtyForty).world c.config.fundingCurrency 0 =
          c.totalRaised - c.totalDisbursed + c.nativeDeposit :=
    exists_campaign (by decide +kernel)
  obtain ⟨c₂, hget₂, -⟩ :
      ∃ c : Campaign purse, sixtyFortyRefunded.campaigns.get 0 = some c ∧ True :=
    exists_campaign (by decide +kernel)
  have hfits : ∀ p ∈ Transition.trace step purseGenesis sixtyForty,
      fits p.1 p.2 = true := by decide +kernel
  have hs : Reachable (fun s a => SumsFit s.toBooks a) (purseAfter sixtyForty) :=
    (Transition.Reach.init ⟨_, _, rfl⟩).run (purseAfter_run (by decide +kernel))
      fun p hp => sumsFit_of_fits (hfits p hp)
  have hsealed : ∀ p ∈ Transition.trace step sixtyFortyCancelled
      (refundClaims [2, 3]), Sealed 0 .native p.1 p.2 := by decide +kernel
  have hempty : (sixtyFortyRefunded.investments 0).keys = ∅ := by
    decide +kernel
  have hleft := @refunds_strand_at_most purse purse_exact.lossy
    (purseAfter sixtyForty) sixtyFortyCancelled sixtyFortyRefunded hs 0 c₀ c₂
    hget hphase hheld.le .root _ (.inl rfl)
    (Transition.step_final (a := cancelIt) (by decide +kernel)) _
    (Transition.run_of_exec (Transition.exec_final (by decide +kernel)))
    (fun p hp => ⟨mock_admitted (by decide +kernel) p.2
        (Transition.mem_of_mem_trace hp) p.1,
      by rw [hcur]; exact hsealed p hp⟩)
    hget₂ (fun who inv hinv => by
      have hkey := ((sixtyFortyRefunded.investments 0).mem_keys who).mpr
        (by rw [hinv]; rfl)
      rw [hempty] at hkey
      cases hkey)
  have hcount : ((purseAfter sixtyForty).investments 0).count
      Investment.active = 2 := by decide +kernel
  rw [hcur, hraised, hcount] at hleft
  exact ⟨c₂, hget₂, hleft⟩

end Thxnet.Crowdfunding
