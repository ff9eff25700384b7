import Thxnet.Crowdfunding.Lifecycle

/-!
# What a step does to the clock of a campaign

A campaign's deadline, the block at which it was paused and its license are set
when it is created.  `step_clock` says what an accepted step can do to them
afterwards: `pause_campaign` and `resume_campaign` change them in the one way
written there, and every other step leaves them alone.  `step_now` says the
same about the block number.
-/

namespace Thxnet.Crowdfunding

open Thxnet.Lib Thxnet.Frame

variable {T : Config}

/-! ## The block number -/

/-- The blocks that pass with an action. -/
def Action.elapsed : Action T → Nat
  | .nextBlock => 1
  | .outside _ => 0
  | .call _ _ => 0

variable {a : Action T} {id : Nat} {o : Origin T.AccountId} {s s' : State T}

theorem dispatch_now {call : Call T} (h : dispatch s o call = .ok s') :
    s'.now = s.now :=
  (dispatch_effect h).beside.now

theorem step_now (h : step s a = .ok s') : s'.now = s.now + a.elapsed := by
  cases a with
  | call => exact dispatch_now h
  | nextBlock | outside =>
      cases h
      rfl

/-! ## Pausing and resuming -/

/-- Whether an action pauses or resumes a campaign. -/
def Action.isPausing (id : Nat) : Action T → Bool
  | .call _ (.pauseCampaign i) => i = id
  | .call _ (.resumeCampaign i) => i = id
  | _ => false

/-- The campaign a pause leaves. -/
def Campaign.paused (c : Campaign T) (now : Nat) : Campaign T :=
  { c with pausedAt := some now, status := .paused }

/-- The campaign a resumption leaves. -/
def Campaign.resumed (c : Campaign T) (now : Nat) : Campaign T :=
  { c with
    config := { c.config with deadline := extendedDeadline c now }
    pausedAt := none
    status := .funding }

theorem pauseCampaign_eq_ok (h : pauseCampaign s o id = .ok s') :
    ∃ c, T.adminOrigin o = true ∧ s.campaigns.get id = some c ∧
      c.status = .funding ∧ s'.campaigns.get id = some (c.paused s.now) := by
  simp only [pauseCampaign, ensureOrigin, do_eq_ok] at h
  obtain ⟨hadmin, c, hget, hstatus, rfl⟩ := h
  exact ⟨c, hadmin, hget, hstatus, StorageMap.get_insert_self ..⟩

theorem resumeCampaign_eq_ok (h : resumeCampaign s o id = .ok s') :
    ∃ c, T.adminOrigin o = true ∧ s.campaigns.get id = some c ∧
      c.status = .paused ∧
      checkLinkedExpiry s c (extendedDeadline c s.now) = .ok () ∧
      s'.campaigns.get id = some (c.resumed s.now) := by
  simp only [resumeCampaign, ensureOrigin, do_eq_ok] at h
  obtain ⟨hadmin, c, hget, hstatus, _, hexpiry, rfl⟩ := h
  exact ⟨c, hadmin, hget, hstatus, hexpiry, StorageMap.get_insert_self ..⟩

/-! ## Everything else -/

/-- The clock and the license of a campaign are as before, and it has not
started to be open or paused. -/
structure Campaign.SameClock (c c' : Campaign T) : Prop where
  deadline : c'.config.deadline = c.config.deadline
  pausedAt : c'.pausedAt = c.pausedAt
  asset : c'.rwaAssetId = c.rwaAssetId
  participation : c'.participationId = c.participationId
  status : c'.status = c.status ∨
    (c'.status ≠ .funding ∧ c'.status ≠ .paused)

theorem Campaign.SameClock.refl (c : Campaign T) : c.SameClock c :=
  ⟨rfl, rfl, rfl, rfl, .inl rfl⟩

private theorem doFinalize_closed (m : StorageDoubleMap Nat Nat MilestoneStatus)
    (id : Nat) (c : Campaign T) :
    (doFinalize m id c).1 ≠ .funding ∧ (doFinalize m id c).1 ≠ .paused := by
  rcases doFinalize_cases m id c with h | ⟨h, _⟩ | ⟨_, _, _, h⟩ <;> simp [h]

theorem Effect.sameClock {b b' : Books T} (h : Effect b a b') (hf : b.Fresh)
    (hpause : a.isPausing id = false) {c : Campaign T}
    (hget : b.campaigns.get id = some c) :
    ∃ c', b'.campaigns.get id = some c' ∧ c.SameClock c' := by
  obtain ⟨c', hget', rfl | hstep⟩ := h.follows hf hget
  · exact ⟨c', hget', .refl c'⟩
  refine ⟨c', hget', ?_⟩
  cases hstep with
  | finalized => exact ⟨rfl, rfl, rfl, rfl, .inr (doFinalize_closed ..)⟩
  | paused hcall =>
      rcases hcall with rfl | rfl <;> simp [Action.isPausing] at hpause
  | cancelled | fundsClaimed =>
      exact ⟨rfl, rfl, rfl, rfl, .inr ⟨by simp, by simp⟩⟩
  | @released _ _ finished =>
      refine ⟨rfl, rfl, rfl, rfl, ?_⟩
      cases finished with
      | true => exact .inr ⟨by simp [Campaign.released], by
          simp [Campaign.released]⟩
      | false => exact .inl rfl
  | _ => exact ⟨rfl, rfl, rfl, rfl, .inl rfl⟩

/-- What a step does to the clock of a campaign. -/
inductive ClockEffect (s : State T) (id : Nat) (c : Campaign T) :
    Action T → Campaign T → Prop where
  | kept {a : Action T} {c' : Campaign T} (hpause : a.isPausing id = false)
      (hsame : c.SameClock c') : ClockEffect s id c a c'
  | paused {o : Origin T.AccountId} (hadmin : T.adminOrigin o = true)
      (hstatus : c.status = .funding) :
      ClockEffect s id c (.call o (.pauseCampaign id)) (c.paused s.now)
  | resumed {o : Origin T.AccountId} (hadmin : T.adminOrigin o = true)
      (hstatus : c.status = .paused)
      (hexpiry : checkLinkedExpiry s c (extendedDeadline c s.now) = .ok ()) :
      ClockEffect s id c (.call o (.resumeCampaign id)) (c.resumed s.now)

theorem step_clock (h : step s a = .ok s') (hf : s.toBooks.Fresh)
    {c : Campaign T} (hget : s.campaigns.get id = some c) :
    ∃ c', s'.campaigns.get id = some c' ∧ ClockEffect s id c a c' := by
  cases hpause : a.isPausing id with
  | false =>
      obtain ⟨c', hget', hsame⟩ := (step_effect h).sameClock hf hpause hget
      exact ⟨c', hget', .kept hpause hsame⟩
  | true =>
      unfold Action.isPausing at hpause
      split at hpause
      · obtain rfl := of_decide_eq_true hpause
        obtain ⟨c₀, hadmin, hget₀, hstatus, hget'⟩ := pauseCampaign_eq_ok h
        cases hget₀.symm.trans hget
        exact ⟨_, hget', .paused hadmin hstatus⟩
      · obtain rfl := of_decide_eq_true hpause
        obtain ⟨c₀, hadmin, hget₀, hstatus, hexpiry, hget'⟩ :=
          resumeCampaign_eq_ok h
        cases hget₀.symm.trans hget
        exact ⟨_, hget', .resumed hadmin hstatus hexpiry⟩
      · cases hpause

/-! ## Creation -/

/-- What `create_campaign` has checked about the clock and the license, and the
campaign it stores. -/
theorem createCampaign_clock {config : CampaignConfig T}
    {rules : Option (BoundedVec (EligibilityRule T) T.maxEligibilityRules)}
    {license : Option (Nat × Nat)}
    (h : createCampaign s o config rules license = .ok s') :
    ∃ creator c, o = .signed creator ∧
      checkLicense s creator config.deadline license = .ok () ∧
      s.now < config.deadline ∧
      s'.campaigns.get s.nextCampaignId = some c ∧
      c.IsNew creator config ∧ c.pausedAt = none ∧
      c.rwaAssetId = license.map Prod.fst ∧
      c.participationId = license.map Prod.snd := by
  simp only [createCampaign, do_eq_ok, ensureSigned_eq_ok] at h
  obtain ⟨creator, rfl, _, hlicense, hnow, _, _, _, _, _, _, _, _, _, _, _, _,
    _, w, _, ids, _, rfl⟩ := h
  exact ⟨creator, _, rfl, hlicense, hnow, StorageMap.get_insert_self ..,
    ⟨rfl, rfl, rfl, rfl, rfl, rfl, rfl⟩, rfl, rfl, rfl⟩

/-! ## Finalisation -/

theorem finalizeCampaign_isOk {who : T.AccountId} :
    (finalizeCampaign s (.signed who) id).isOk = true ↔
      ∃ c, s.campaigns.get id = some c ∧ c.status = .funding ∧
        c.config.deadline < s.now := by
  simp only [isOk_iff_exists, finalizeCampaign, do_eq_ok, ensureSigned_eq_ok]
  constructor
  · rintro ⟨s', _, _, c, hget, hst, hlt, _⟩
    exact ⟨c, hget, hst, hlt⟩
  · rintro ⟨c, hget, hst, hlt⟩
    exact ⟨_, who, rfl, c, hget, hst, hlt, rfl⟩

end Thxnet.Crowdfunding
