import Mathlib.Data.Int.Cast.Basic
import Thxnet.Crowdfunding.Timing

/-!
# Pausing preserves the funding window

A paused campaign takes no investments, and its deadline moves by the blocks
the pause took when it is resumed.  `PauseLog` reads the pauses off the trace
of a run, without looking at what the pallet stores about them; the results of
this module compare the stored deadline to it.
-/

namespace Thxnet.Crowdfunding

open Thxnet.Lib Thxnet.Frame

variable {T : Config}

/-! ## The pauses of a run -/

/-- What the pauses of a campaign amount to: the blocks spent in the completed
ones, and the state in which the one still open began. -/
structure PauseLog (T : Config) where
  completed : Nat
  openSince : Option (State T)

/-- The log extended by an accepted step, given with the state it started
from. -/
def PauseLog.record (id : Nat) (log : PauseLog T) (p : State T × Action T) :
    PauseLog T :=
  match p.2 with
  | .call _ (.pauseCampaign i) =>
      if i = id then { log with openSince := some p.1 } else log
  | .call _ (.resumeCampaign i) =>
      if i = id then
        { completed := log.completed +
            (p.1.now - (log.openSince.map State.now).getD p.1.now)
          openSince := none }
      else log
  | _ => log

/-- The pauses of a campaign over a run. -/
def pauseLog (id : Nat) (t : List (State T × Action T)) : PauseLog T :=
  t.foldl (PauseLog.record id) ⟨0, none⟩

variable {c : Campaign T} {first id now : Nat} {log : PauseLog T}
    {s s' : State T}

theorem PauseLog.record_kept {a : Action T} (h : a.isPausing id = false) :
    log.record id (s, a) = log := by
  cases a with
  | call o c =>
      cases c with
      | pauseCampaign | resumeCampaign => exact if_neg (of_decide_eq_false h)
      | _ => rfl
  | _ => rfl

/-! ## The deadline follows the log -/

/-- A campaign whose clock agrees with the log: its deadline is the first one
plus the completed pauses, and while it is paused, the stored start of the
pause is that of the log. -/
structure Campaign.Follows (c : Campaign T) (id first now : Nat)
    (log : PauseLog T) : Prop where
  funding : c.status = .funding → c.config.deadline = first + log.completed
  paused : c.status = .paused → ∃ sp cp, log.openSince = some sp ∧
    sp.campaigns.get id = some cp ∧ c.pausedAt = some sp.now ∧ sp.now ≤ now ∧
    c.config.deadline = cp.config.deadline ∧
    c.config.deadline = first + log.completed

theorem Campaign.Follows.kept {c' : Campaign T} {now' : Nat}
    (h : c.Follows id first now log) (hnow : now ≤ now')
    (hsame : c.SameClock c') : c'.Follows id first now' log where
  funding := by
    intro hst
    rcases hsame.status with heq | ⟨hne, _⟩
    · rw [hsame.deadline]
      exact h.funding (heq ▸ hst)
    · exact absurd hst hne
  paused := by
    intro hst
    rcases hsame.status with heq | ⟨_, hne⟩
    · rw [hsame.deadline, hsame.pausedAt]
      obtain ⟨sp, cp, hopen, hcp, hat, hle, hd⟩ := h.paused (heq ▸ hst)
      exact ⟨sp, cp, hopen, hcp, hat, Nat.le_trans hle hnow, hd⟩
    · exact absurd hst hne

/-- Without saturation, resuming adds the length of the pause. -/
theorem extendedDeadline_eq {pausedAt : Nat}
    (hat : c.pausedAt = some pausedAt)
    (hfits : c.config.deadline + (now - pausedAt) < 2 ^ 32) :
    extendedDeadline c now = c.config.deadline + (now - pausedAt) := by
  unfold extendedDeadline
  rw [hat]
  exact Nat.min_eq_left (by unfold maxValue; omega)

/-- The invariant of a run: the campaign follows the log, as long as the
deadlines it calls for fit a `u32`. -/
structure WindowKept (id first : Nat) (s : State T) (log : PauseLog T) :
    Prop where
  fresh : s.toBooks.Fresh
  follows : ∃ c, s.campaigns.get id = some c ∧
    (first + log.completed < 2 ^ 32 → c.Follows id first s.now log)

theorem WindowKept.record {a : Action T} (h : WindowKept id first s log)
    (hstep : step s a = .ok s') :
    WindowKept id first s' (log.record id (s, a)) := by
  refine ⟨(step_effect hstep).fresh h.fresh, ?_⟩
  obtain ⟨c, hget, hfollows⟩ := h.follows
  obtain ⟨c', hget', hclock⟩ := step_clock hstep h.fresh hget
  refine ⟨c', hget', fun hfits => ?_⟩
  have hnow := step_now hstep
  cases hclock with
  | kept hpause hsame =>
      rw [PauseLog.record_kept hpause] at hfits ⊢
      exact (hfollows hfits).kept (by omega) hsame
  | paused hadmin hstatus =>
      simp only [PauseLog.record, if_true] at hfits ⊢
      have hd := (hfollows hfits).funding hstatus
      refine ⟨fun hst => ?_, fun _ => ?_⟩
      · cases hst
      · exact ⟨s, c, rfl, hget, rfl, by omega, rfl, hd⟩
  | resumed hadmin hstatus =>
      simp only [PauseLog.record, if_true] at hfits ⊢
      obtain ⟨sp, cp, hopen, _, hat, _, _, hd⟩ :=
        (hfollows (by omega)).paused hstatus
      simp only [hopen, Option.map_some, Option.getD_some] at hfits ⊢
      refine ⟨fun _ => ?_, fun hst => ?_⟩
      · show extendedDeadline c s.now = first + (log.completed + _)
        rw [extendedDeadline_eq hat (by omega), hd, Nat.add_assoc]
      · cases hst

theorem WindowKept.run {t : List (State T × Action T)}
    (hrun : Transition.Run step s t s') (h : WindowKept id first s ⟨0, none⟩) :
    WindowKept id first s' (pauseLog id t) :=
  hrun.history (fun _ _ _ _ (_ : True) hI hstep => hI.record hstep)
    (fun _ _ => trivial) h

theorem windowKept_created (hf : s.toBooks.Fresh) {o : Origin T.AccountId}
    {config : CampaignConfig T}
    {rules : Option (BoundedVec (EligibilityRule T) T.maxEligibilityRules)}
    {license : Option (Nat × Nat)}
    (h : step s (.call o (.createCampaign config rules license)) = .ok s') :
    WindowKept s.nextCampaignId config.deadline s' ⟨0, none⟩ := by
  obtain ⟨creator, c, _, _, _, hget, hnew, _⟩ := createCampaign_clock h
  refine ⟨(step_effect h).fresh hf, c, hget, fun _ => ⟨fun _ => ?_, ?_⟩⟩
  · rw [hnew.config]
    rfl
  · rw [hnew.status]
    intro hst
    cases hst

/-- Resuming leaves as many blocks to the deadline as there were when the pause
began. -/
theorem Campaign.Follows.window (h : c.Follows id first now log)
    (hstatus : c.status = .paused)
    (hfits : first + log.completed + (now - (log.openSince.map State.now).getD
      now) < 2 ^ 32) :
    ∃ sp cp, log.openSince = some sp ∧ sp.campaigns.get id = some cp ∧
      ((c.resumed now).config.deadline : Int) - now =
        cp.config.deadline - sp.now := by
  obtain ⟨sp, cp, hopen, hcp, hat, hle, hcd, hd⟩ := h.paused hstatus
  simp only [hopen, Option.map_some, Option.getD_some] at hfits
  refine ⟨sp, cp, hopen, hcp, ?_⟩
  show (extendedDeadline c now : Int) - now = _
  rw [extendedDeadline_eq hat (by omega)]
  omega

/-! ## The two deadline guards -/

/-- `invest` stops at its deadline guard or before it, or `finalize_campaign`
stops at its own. -/
theorem invest_or_finalize_stops (s : State T) (id amount : Nat)
    (who who' : T.AccountId) :
    (∃ e ∈ [Error.campaignNotFound, .invalidCampaignStatus, .deadlinePassed],
      invest s (.signed who) id amount = .error (T.err e)) ∨
    finalizeCampaign s (.signed who') id
      = .error (T.err .campaignStillFunding) := by
  cases hget : s.campaigns.get id with
  | none =>
      refine .inl ⟨.campaignNotFound, by simp, ?_⟩
      simp [invest, ensureSigned, hget, okOr, bind, Except.bind]
  | some c =>
      by_cases hst : c.status = .funding
      swap
      · refine .inl ⟨.invalidCampaignStatus, by simp, ?_⟩
        simp [invest, ensureSigned, hget, okOr, ensure, hst, bind, Except.bind]
      by_cases hlate : s.now ≤ c.config.deadline
      · refine .inr ?_
        have hearly : ¬ c.config.deadline < s.now := by omega
        simp [finalizeCampaign, ensureSigned, hget, okOr, ensure, hst, hearly,
          bind, Except.bind]
      · refine .inl ⟨.deadlinePassed, by simp, ?_⟩
        simp [invest, ensureSigned, hget, okOr, ensure, hst, hlate, bind,
          Except.bind]

/-! ## The funding window -/

/-- Over every run that starts by creating a campaign, and as long as the
extended deadline fits a `u32`: a funding campaign's deadline is the one given
at creation plus the blocks spent in completed pauses; a resumption ends the
pause that is open in the log and leaves the deadline as far from the present
block as it was when that pause began; and in no state at all do `invest` and
`finalize_campaign` both get past their deadline guards. -/
theorem pausing_preserves_window {ok : State T → Action T → Prop}
    {s₀ s₁ s₂ : State T} (hs : Reachable ok s₀) {o : Origin T.AccountId}
    {config : CampaignConfig T}
    {rules : Option (BoundedVec (EligibilityRule T) T.maxEligibilityRules)}
    {license : Option (Nat × Nat)}
    (hcreate : step s₀ (.call o (.createCampaign config rules license))
      = .ok s₁)
    {t : List (State T × Action T)} (hrun : Transition.Run step s₁ t s₂)
    (hfits : config.deadline +
      (pauseLog s₀.nextCampaignId t).completed < 2 ^ 32) :
    (∃ c, s₂.campaigns.get s₀.nextCampaignId = some c ∧
      (c.status = .funding → c.config.deadline =
        config.deadline + (pauseLog s₀.nextCampaignId t).completed)) ∧
    (∀ o' s₃, step s₂ (.call o' (.resumeCampaign s₀.nextCampaignId)) = .ok s₃ →
      config.deadline + (pauseLog s₀.nextCampaignId (t ++
        [(s₂, .call o' (.resumeCampaign s₀.nextCampaignId))])).completed
          < 2 ^ 32 →
      ∃ sp cp cr, (pauseLog s₀.nextCampaignId t).openSince = some sp ∧
        sp.campaigns.get s₀.nextCampaignId = some cp ∧
        s₃.campaigns.get s₀.nextCampaignId = some cr ∧
        (cr.config.deadline : Int) - s₃.now = cp.config.deadline - sp.now) ∧
    (∀ (s : State T) id amount who who',
      (∃ e ∈ [Error.campaignNotFound, .invalidCampaignStatus, .deadlinePassed],
        invest s (.signed who) id amount = .error (T.err e)) ∨
      finalizeCampaign s (.signed who') id
        = .error (T.err .campaignStillFunding)) := by
  have hkept := (windowKept_created (fresh_of_reachable hs) hcreate).run hrun
  obtain ⟨c, hget, hfollows⟩ := hkept.follows
  refine ⟨⟨c, hget, (hfollows hfits).funding⟩, ?_, invest_or_finalize_stops⟩
  intro o' s₃ hresume hfits'
  obtain ⟨c₀, _, hget₀, hstatus, _, hget₃⟩ := resumeCampaign_eq_ok hresume
  cases hget₀.symm.trans hget
  have hnow := step_now hresume
  obtain ⟨sp, cp, hopen, hcp, hwindow⟩ := (hfollows hfits).window hstatus (by
    simpa [pauseLog, PauseLog.record, List.foldl_append, Nat.add_assoc]
      using hfits')
  refine ⟨sp, cp, _, hopen, hcp, hget₃, ?_⟩
  rw [hnow]
  exact hwindow

/-- A pause of three blocks that ends after the deadline, in a run over a
purse. -/
def pauseRequests : List (Action purse) :=
  List.replicate 49 .nextBlock ++
    [byRoot (.pauseCampaign 0), .nextBlock, .nextBlock, .nextBlock,
      byRoot (.resumeCampaign 0)]

theorem pausing_preserves_window_resumed :
    ∃ c, (Transition.final step (purseAfter [openCampaign])
        pauseRequests).campaigns.get 0 = some c ∧
      (c.status = .funding → c.config.deadline = 53) :=
  (pausing_preserves_window
    (.init ⟨_, _, rfl⟩ : Reachable (fun _ _ => True) purseGenesis)
    (Transition.step_final (by decide +kernel))
    (Transition.run_of_exec (Transition.exec_final (by decide +kernel)))
    (by decide +kernel)).1

end Thxnet.Crowdfunding
