import Thxnet.Crowdfunding.Bookkeeping

/-!
# Caps

`invest` compares the total of the campaign and the net contribution of the
investor with their caps, as they are after the investment.  Nothing else
raises them, and no call changes a cap, so the caps hold in every reachable
state.  The sums saturate where they no longer fit a `u128`, which a cap that
is one itself does not notice.
-/

namespace Thxnet.Crowdfunding

open Thxnet.Lib Thxnet.Frame

variable {T : Config}

/-! ## What `invest` checks -/

/-- An investment stays within the caps of its campaign. -/
def WithinCaps (b : Books T) : Action T → Prop
  | .call (.signed who) (.invest id amount) =>
      ∀ c, b.campaigns.get id = some c →
        (∀ cap, c.config.hardCap = some cap →
          saturatingAdd 128 c.totalRaised amount ≤ cap) ∧
        (∀ maxPer, c.config.maxInvestmentPerInvestor = some maxPer →
          saturatingAdd 128 (b.investment id who).net amount ≤ maxPer)
  | _ => True

theorem invest_withinCaps {s s' : State T} {o : Origin T.AccountId}
    {id amount : Nat} (h : invest s o id amount = .ok s') :
    WithinCaps s.toBooks (.call o (.invest id amount)) := by
  simp only [invest, do_eq_ok, ensureSigned_eq_ok, whenSome_eq_ok] at h
  obtain ⟨who, rfl, c, hget, _, _, _, _, _, _, hcap, hmax, _⟩ := h
  intro c' hget'
  cases hget.symm.trans hget'
  exact ⟨hcap, hmax⟩

theorem step_withinCaps {s s' : State T} {a : Action T}
    (h : step s a = .ok s') : WithinCaps s.toBooks a := by
  cases a with
  | nextBlock | outside => trivial
  | call o c =>
      cases c with
      | invest => exact invest_withinCaps h
      | _ => cases o <;> trivial

/-! ## The caps over a run -/

/-- The totals of a campaign and of its investors are within its caps. -/
structure Books.CappedAt (b : Books T) (id : Nat) : Prop where
  raised : ∀ c cap, b.campaigns.get id = some c →
    c.config.hardCap = some cap → c.totalRaised ≤ cap
  net : ∀ c maxPer, b.campaigns.get id = some c →
    c.config.maxInvestmentPerInvestor = some maxPer →
    ∀ who, (b.investment id who).net ≤ maxPer

theorem Books.CappedAt.sameAt {b b' : Books T} {id : Nat}
    (h : b.CappedAt id) (hsame : SameAt b b' id) : b'.CappedAt id where
  raised := by
    intro c cap hget
    exact h.raised c cap (hsame.campaign ▸ hget)
  net := by
    intro c maxPer hget hmax who
    rw [Books.investment, hsame.records]
    exact h.net c maxPer (hsame.campaign ▸ hget) hmax who

/-- A step that keeps the caps and raises neither the total nor the
contribution of anybody. -/
theorem Books.CappedAt.lower {b b' : Books T} {id : Nat} {c c' : Campaign T}
    (h : b.CappedAt id) (hget : b.campaigns.get id = some c)
    (hget' : b'.campaigns.get id = some c')
    (hcap : c'.config.hardCap = c.config.hardCap)
    (hmax : c'.config.maxInvestmentPerInvestor =
      c.config.maxInvestmentPerInvestor)
    (hraised : c'.totalRaised ≤ c.totalRaised)
    (hnet : ∀ who, (b'.investment id who).net ≤ (b.investment id who).net) :
    b'.CappedAt id where
  raised := by
    intro c₁ cap hc₁ hc
    cases hget'.symm.trans hc₁
    exact hraised.trans (h.raised c cap hget (hcap ▸ hc))
  net := by
    intro c₁ maxPer hc₁ hm who
    cases hget'.symm.trans hc₁
    exact (hnet who).trans (h.net c maxPer hget (hmax ▸ hm) who)

/-- The contribution after an investment is within a cap that the saturating
sum is within. -/
theorem Investment.Bounded.net_invested_le {inv : Investment}
    (h : inv.Bounded) {amount cap : Nat}
    (hcap : saturatingAdd 128 inv.net amount ≤ cap) :
    (inv.invested amount).net ≤ cap := by
  have hle := inv.net_invested_le amount
  have hlt := (h.invested amount).invested_lt
  unfold saturatingAdd maxValue at hcap
  have hnet : (inv.invested amount).net ≤ (inv.invested amount).totalInvested :=
    Nat.sub_le _ _
  omega

theorem Effect.cappedAt {b b' : Books T} {a : Action T} (h : Effect b a b')
    (hf : b.Fresh) {id : Nat} (hbounded : b.BoundedAt id)
    (hwithin : WithinCaps b a) (hI : b.CappedAt id) : b'.CappedAt id := by
  by_cases ht : a.target b = some id
  swap
  · exact hI.sameAt (h.sameAt ht)
  cases h with
  | quiet => exact hI
  | outside | reviewed => exact ⟨hI.raised, hI.net⟩
  | created hnew =>
      cases ht
      have huntouched := hf.untouched _ (Nat.le_refl _)
      constructor
      · intro c cap hget _
        cases (StorageMap.get_insert_self ..).symm.trans hget
        rw [hnew.raised]
        exact Nat.zero_le _
      · intro c maxPer _ _ who
        show (((b.investments _).get who).getD default).net ≤ _
        rw [huntouched.records]
        exact Nat.zero_le _
  | @invested who _ amount c _ _ hget =>
      cases ht
      obtain ⟨hcap, hmax⟩ := hwithin c hget
      constructor
      · intro c' cap hget' hc'
        cases (StorageMap.get_insert_self ..).symm.trans hget'
        exact hcap cap hc'
      · intro c' maxPer hget' hm x
        cases (StorageMap.get_insert_self ..).symm.trans hget'
        show (((b.investments.insert id who _ id).get x).getD default).net ≤ _
        rw [investment_insert]
        by_cases hx : x = who
        · rw [if_pos hx]
          exact (hbounded.investment who).net_invested_le (hmax maxPer hm)
        · rw [if_neg hx]
          exact hI.net c maxPer hget hm x
  | @withdrawn who _ amount c inv _ _ hget _ _ hinv hle =>
      cases ht
      refine hI.lower hget (StorageMap.get_insert_self ..) rfl rfl
        (Nat.sub_le _ _) fun x => ?_
      show (((b.investments.insert id who _ id).get x).getD default).net ≤ _
      rw [investment_insert]
      by_cases hx : x = who
      · have hnet := (hbounded who inv hinv).net_withdrawn hle
        rw [if_pos hx, hx, investment_eq hinv]
        omega
      · rw [if_neg hx]
  | @refunded who _ _ _ _ hget =>
      cases ht
      refine hI.lower hget (StorageMap.get_insert_self ..) rfl rfl
        (Nat.le_refl _) fun x => ?_
      show (((b.investments.remove id who id).get x).getD default).net ≤ _
      rw [investment_remove]
      by_cases hx : x = who
      · rw [if_pos hx]
        exact Nat.zero_le _
      · rw [if_neg hx]
  | finalized hcall hget | paused hcall hget | cancelled hcall hget =>
      rcases hcall with rfl | rfl <;> cases ht <;>
        exact hI.lower hget (StorageMap.get_insert_self ..) rfl rfl
          (Nat.le_refl _) fun _ => Nat.le_refl _
  | fundsClaimed hget | milestoneClaimed hget | depositClaimed hget =>
      cases ht
      exact hI.lower hget (StorageMap.get_insert_self ..) rfl rfl
        (Nat.le_refl _) fun _ => Nat.le_refl _

theorem cappedAt_of_reachable {ok : State T → Action T → Prop} {s : State T}
    (h : Reachable ok s) (id : Nat) : s.toBooks.CappedAt id := by
  refine Transition.Reach.invariant
    (I := fun s : State T => s.toBooks.CappedAt id) ?_ ?_ h
  · rintro s ⟨world, now, rfl⟩
    constructor <;> intro c _ hget <;> simp [State.genesis] at hget
  · intro s a s' hs hI _ hstep
    exact (step_effect hstep).cappedAt (fresh_of_reachable hs)
      (boundedAt_of_reachable hs id) (step_withinCaps hstep) hI

/-- **Caps.**  In every reachable state the total of a campaign is within its
hard cap, what an investor has in it is within the cap for one investor, and
nobody takes part in more campaigns than the runtime allows. -/
theorem caps_hold {ok : State T → Action T → Prop} {s : State T}
    (h : Reachable ok s) {id : Nat} {c : Campaign T}
    (hget : s.campaigns.get id = some c) :
    (∀ cap, c.config.hardCap = some cap → c.totalRaised ≤ cap) ∧
    (∀ maxPer, c.config.maxInvestmentPerInvestor = some maxPer →
      ∀ who inv, (s.investments id).get who = some inv →
        inv.totalInvested - inv.totalWithdrawn ≤ maxPer) ∧
    ∀ who, (s.investorCampaigns who).toList.length ≤
      T.maxInvestmentsPerInvestor := by
  have hcapped := cappedAt_of_reachable h id
  refine ⟨fun cap => hcapped.raised c cap hget, ?_, fun who =>
    (s.investorCampaigns who).length_le⟩
  intro maxPer hmax who inv hinv
  have hnet := hcapped.net c maxPer hget hmax who
  rwa [investment_eq hinv] at hnet

/-- A campaign with a hard cap of 1000 and 600 for each investor, filled,
emptied in part and filled again. -/
def reinvestments : List (Action purse) :=
  [signedBy 1 (.createCampaign
      { mockConfig (.keepWhatYouRaise none) .native 50 with
        hardCap := some 1000
        maxInvestmentPerInvestor := some 600 } none none),
    signedBy 2 (.invest 0 600), signedBy 3 (.invest 0 400),
    signedBy 2 (.withdrawInvestment 0 600), signedBy 3 (.invest 0 200),
    signedBy 3 (.withdrawInvestment 0 100), signedBy 2 (.invest 0 500)]

/-- The hard cap is reached in that run, and not passed. -/
theorem caps_hold_reinvested :
    ∃ c, (purseAfter reinvestments).campaigns.get 0 = some c ∧
      c.config.hardCap = some 1000 ∧ c.totalRaised ≤ 1000 ∧
      c.totalRaised = 1000 := by
  obtain ⟨c, hget, hcap, hraised⟩ := exists_campaign
    (s := purseAfter reinvestments)
    (p := fun c => c.config.hardCap = some 1000 ∧ c.totalRaised = 1000)
    (by decide +kernel)
  have hreach : Reachable (fun _ _ => True) (purseAfter reinvestments) :=
    purseAfter_reachable (fun _ _ _ => trivial) (by decide +kernel)
  exact ⟨c, hget, hcap, (caps_hold hreach hget).1 1000 hcap, hraised⟩

end Thxnet.Crowdfunding
