import Thxnet.Crowdfunding.Timing

/-!
# The outcome after the deadline

Once the deadline has passed anybody can finalise a campaign.  This module
follows the status that `finalize_campaign` would assign while accounts without
special rights make other calls.  Investments are closed, so the raised total
can only fall, and only by withdrawals: the outcome can be turned from a success
into a failure that way, never from a failure into a success.
-/

namespace Thxnet.Crowdfunding

open Thxnet.Lib Thxnet.Frame

variable {T : Config}

/-- The status `finalize_campaign` would assign if `who` called it now. -/
def wouldFinalize (s : State T) (who : T.AccountId) (id : Nat) :
    Option CampaignStatus :=
  match finalizeCampaign s (.signed who) id with
  | .ok s' => (s'.campaigns.get id).map Campaign.status
  | .error _ => none

/-- Steps that no privileged account takes, other than finalising the campaign
or reporting its license: signed calls, new blocks, changes elsewhere. -/
def Action.Ordinary (id : Nat) : Action T → Prop
  | .nextBlock => True
  | .outside _ => True
  | .call o c =>
      (∃ who, o = .signed who) ∧ T.adminOrigin o = false ∧
        T.forceOrigin o = false ∧ c ≠ .finalizeCampaign id ∧
        c ≠ .reportLicenseRevoked id

/-- What an action withdraws from a campaign. -/
def withdrawnBy (id : Nat) : Action T → Nat
  | .call _ (.withdrawInvestment i amount) => if i = id then amount else 0
  | _ => 0

/-- What is withdrawn from a campaign over a run, by whomever. -/
def withdrawnFrom (id : Nat) (t : List (State T × Action T)) : Nat :=
  t.foldl (fun n p => n + withdrawnBy id p.2) 0

/-! ## The outcome as a function of the raised total -/

variable {c : Campaign T} {id : Nat} {o : Origin T.AccountId} {s s' : State T}

/-- The outcome depends on the funding model and the raised total alone, and a
smaller total can only make it a failure. -/
theorem doFinalize_outcome (m m' : StorageDoubleMap Nat Nat MilestoneStatus)
    (id : Nat) {c' : Campaign T} (hconfig : c'.config = c.config)
    (hle : c'.totalRaised ≤ c.totalRaised) :
    (c'.totalRaised = c.totalRaised →
      (doFinalize m' id c').1 = (doFinalize m id c).1) ∧
    ((doFinalize m' id c').1 = (doFinalize m id c).1 ∨
      (doFinalize m' id c').1 = .failed) := by
  unfold doFinalize
  rw [hconfig]
  cases c.config.fundingModel with
  | allOrNothing goal | milestoneBased goal =>
      by_cases h : goal ≤ c.totalRaised <;>
        by_cases h' : goal ≤ c'.totalRaised <;> simp [h, h'] <;> omega
  | keepWhatYouRaise softCap =>
      cases softCap with
      | none => simp
      | some cap =>
          by_cases h : c.totalRaised < cap <;>
            by_cases h' : c'.totalRaised < cap <;> simp [h, h'] <;> omega

theorem wouldFinalize_eq (hget : s.campaigns.get id = some c)
    (hstatus : c.status = .funding) (hlate : c.config.deadline < s.now)
    (who : T.AccountId) :
    wouldFinalize s who id =
      some (doFinalize s.milestoneStatuses id c).1 := by
  simp [wouldFinalize, finalizeCampaign, ensureSigned, hget, okOr, ensure,
    hstatus, hlate, finalizeWith, bind, Except.bind, pure, Except.pure]

/-! ## What ordinary steps do to a campaign past its deadline -/

theorem invest_deadline {amount : Nat} (h : invest s o id amount = .ok s')
    (hget : s.campaigns.get id = some c) : s.now ≤ c.config.deadline := by
  simp only [invest, do_eq_ok] at h
  obtain ⟨_, _, c₀, hget₀, _, hnow, _⟩ := h
  cases hget₀.symm.trans hget
  exact hnow

theorem cancelCampaign_force (h : cancelCampaign s o id = .ok s') :
    T.forceOrigin o = true := by
  simp only [cancelCampaign, ensureOrigin, do_eq_ok] at h
  exact h.1

theorem forceFinalizeCampaign_force
    (h : forceFinalizeCampaign s o id = .ok s') : T.forceOrigin o = true := by
  simp only [forceFinalizeCampaign, ensureOrigin, do_eq_ok] at h
  exact h.1

/-- A campaign past its deadline that has been left as it was but for
withdrawals of `n` in total. -/
structure PastDeadline (id : Nat) (c : Campaign T) (s : State T) (n : Nat) :
    Prop where
  fresh : s.toBooks.Fresh
  late : c.config.deadline < s.now
  campaign : ∃ c', s.campaigns.get id = some c' ∧ c'.status = .funding ∧
    c'.config = c.config ∧ c'.totalRaised = c.totalRaised - n

private theorem withdrawnBy_of_idle {a : Action T}
    (h : a.target s.toBooks ≠ some id ∨ a.isQuiet = true) :
    withdrawnBy id a = 0 := by
  unfold withdrawnBy
  split
  · refine if_neg ?_
    rintro rfl
    rcases h with h | h
    · exact h rfl
    · cases h
  · rfl

theorem PastDeadline.step {n : Nat} {a : Action T} (h : PastDeadline id c s n)
    (hord : a.Ordinary id) (hstep : step s a = .ok s') :
    PastDeadline id c s' (n + withdrawnBy id a) := by
  have heff := step_effect hstep
  have hnow : s.now ≤ s'.now := by
    rw [step_now hstep]
    exact Nat.le_add_right _ _
  refine ⟨heff.fresh h.fresh, Nat.lt_of_lt_of_le h.late hnow, ?_⟩
  obtain ⟨c₁, hget₁, hst₁, hconfig₁, hraised₁⟩ := h.campaign
  cases heff.changeAt id with
  | kept hidle hsame =>
      rw [withdrawnBy_of_idle hidle, hsame.campaign]
      exact h.campaign
  | created => exact absurd (h.fresh.lt_next hget₁) (by omega)
  | changed hget₀ hget' hchange =>
      cases hget₀.symm.trans hget₁
      -- a funding campaign takes five of the calls; ordinary ones withdraw
      cases hchange with
      | withdrawn =>
          refine ⟨_, hget', hst₁, hconfig₁, ?_⟩
          simp only [Campaign.withdrawn, withdrawnBy, if_true]
          omega
      | invested =>
          have hopen := invest_deadline hstep hget₁
          have hlate := h.late
          rw [hconfig₁] at hopen
          omega
      | finalized hcall =>
          obtain ⟨_, _, hforce, hfin, _⟩ := hord
          rcases hcall with rfl | rfl
          · exact absurd rfl hfin
          · cases (forceFinalizeCampaign_force hstep).symm.trans hforce
      | paused hcall =>
          obtain ⟨_, hadmin, _⟩ := hord
          rcases hcall with rfl | rfl
          · obtain ⟨_, hadmin', _⟩ := pauseCampaign_eq_ok hstep
            cases hadmin'.symm.trans hadmin
          · obtain ⟨_, hadmin', _⟩ := resumeCampaign_eq_ok hstep
            cases hadmin'.symm.trans hadmin
      | cancelled hcall =>
          obtain ⟨_, _, hforce, _, hreport⟩ := hord
          rcases hcall with rfl | rfl
          · cases (cancelCampaign_force hstep).symm.trans hforce
          · exact absurd rfl hreport
      | reviewed _ hstatus => cases hst₁.symm.trans hstatus
      | fundsClaimed hstatus | released hstatus => cases hst₁.symm.trans hstatus
      | refunded hstatus | depositClaimed hstatus => simp [hst₁] at hstatus

theorem PastDeadline.run {t : List (State T × Action T)}
    (h : PastDeadline id c s 0)
    (hrun : Transition.Run Crowdfunding.step s t s')
    (hord : ∀ p ∈ t, p.2.Ordinary id) :
    PastDeadline id c s' (withdrawnFrom id t) :=
  hrun.history (fun _ a _ _ (ha : a.Ordinary id) hI hstep => hI.step ha hstep)
    hord h

/-! ## The outcome -/

/-- Past the deadline of a funding campaign, steps that no privileged account
takes leave the status `finalize_campaign` would assign as it is if they
withdraw nothing from the campaign; if they do, the status is the same or a
failure. -/
theorem outcome_settled_but_for_withdrawals
    {ok : State T → Action T → Prop} {s s' : State T} (hs : Reachable ok s)
    {id : Nat} {c : Campaign T} (hget : s.campaigns.get id = some c)
    (hstatus : c.status = .funding) (hlate : c.config.deadline < s.now)
    {t : List (State T × Action T)} (hrun : Transition.Run step s t s')
    (hord : ∀ p ∈ t, p.2.Ordinary id) (who who' : T.AccountId) :
    ∃ st st', wouldFinalize s who id = some st ∧
      wouldFinalize s' who' id = some st' ∧
      (withdrawnFrom id t = 0 → st' = st) ∧ (st' = st ∨ st' = .failed) := by
  have h0 : PastDeadline id c s 0 :=
    ⟨fresh_of_reachable hs, hlate, c, hget, hstatus, rfl, rfl⟩
  have hend := h0.run hrun hord
  obtain ⟨c', hget', hst', hconfig, hraised⟩ := hend.campaign
  have hlate' := hend.late
  rw [← hconfig] at hlate'
  obtain ⟨hsame, hor⟩ := doFinalize_outcome s.milestoneStatuses
    s'.milestoneStatuses id hconfig (by omega)
  exact ⟨_, _, wouldFinalize_eq hget hstatus hlate who,
    wouldFinalize_eq hget' hst' hlate' who', fun h => hsame (by omega), hor⟩

/-- A campaign for 100 units, its investor, and the first block after its
deadline. -/
def goalReached : List (Action purse) :=
  [ signedBy 1 (.createCampaign (mockConfig (.allOrNothing 100) .native 50)
      none none),
    signedBy 2 (.invest 0 100) ] ++ List.replicate 51 .nextBlock

/-- The investor takes one unit out after the deadline. -/
def lateWithdrawal : List (Action purse) :=
  [signedBy 2 (.withdrawInvestment 0 1)]

private theorem goalReached_late :
    ∃ c, (purseAfter goalReached).campaigns.get 0 = some c ∧
      c.status = .funding ∧
      c.config.deadline < (purseAfter goalReached).now :=
  exists_campaign (by decide +kernel)

private theorem lateWithdrawal_run :
    Transition.Run step (purseAfter goalReached)
      (Transition.trace step (purseAfter goalReached) lateWithdrawal)
      (Transition.final step (purseAfter goalReached) lateWithdrawal) :=
  Transition.run_of_exec (Transition.exec_final (by decide +kernel))

private theorem lateWithdrawal_ordinary :
    ∀ p ∈ Transition.trace step (purseAfter goalReached) lateWithdrawal,
      p.2.Ordinary 0 := by
  intro p hp
  rw [List.mem_singleton.mp (Transition.mem_of_mem_trace hp)]
  exact ⟨⟨2, rfl⟩, rfl, rfl, by simp, by simp⟩

private theorem goalReached_reachable :
    Reachable (fun _ _ => True) (purseAfter goalReached) :=
  purseAfter_reachable (fun _ _ _ => trivial) (by decide +kernel)

/-- The goal was met at the deadline, and is missed after the withdrawal. -/
theorem outcome_flipped_by_withdrawal :
    ∃ (s s' : State purse) (c : Campaign purse)
      (t : List (State purse × Action purse)),
      Reachable (fun _ _ => True) s ∧ s.campaigns.get 0 = some c ∧
      c.status = .funding ∧ c.config.deadline < s.now ∧
      Transition.Run step s t s' ∧ (∀ p ∈ t, p.2.Ordinary 0) ∧
      wouldFinalize s 3 0 = some .succeeded ∧
      wouldFinalize s' 3 0 = some .failed := by
  obtain ⟨c, hget, hstatus, hlate⟩ := goalReached_late
  exact ⟨purseAfter goalReached, _, c, _, goalReached_reachable, hget, hstatus,
    hlate, lateWithdrawal_run, lateWithdrawal_ordinary, by decide +kernel,
    by decide +kernel⟩

theorem outcome_settled_but_for_withdrawals_goal :
    ∃ st st', wouldFinalize (purseAfter goalReached) 3 0 = some st ∧
      wouldFinalize (Transition.final step (purseAfter goalReached)
        lateWithdrawal) 4 0 = some st' ∧
      (withdrawnFrom 0 (Transition.trace step (purseAfter goalReached)
        lateWithdrawal) = 0 → st' = st) ∧ (st' = st ∨ st' = .failed) := by
  obtain ⟨c, hget, hstatus, hlate⟩ := goalReached_late
  exact outcome_settled_but_for_withdrawals goalReached_reachable hget hstatus
    hlate lateWithdrawal_run lateWithdrawal_ordinary 3 4

end Thxnet.Crowdfunding
