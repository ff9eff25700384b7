import Thxnet.Runtime.Mock
import Thxnet.Runtime.Projection
import Thxnet.Rwa.Schedule

/-!
# Campaigns and their licenses

A campaign may be linked to a participation, its license.  This module says for
how long the license lasts when nothing is done to it: from the creation of the
campaign to its deadline, but not always one block more (`finalize_first_iff`),
and from a resumption to the extended deadline only if it was in force when the
campaign was resumed (`license_live_iff`).
-/

namespace Thxnet.Runtime

open Thxnet.Lib Thxnet.Frame

variable {C : Config}

/-! ## Licenses on record -/

section Record

variable {R : Rwa.Config} {st st' : Rwa.Store R} {id pid : Nat}

/-- Asset and participation are stored as active. -/
def ActiveOnRecord (st : Rwa.Store R) (id pid : Nat) : Prop :=
  ∃ asset p, st.rwaAssets.get id = some asset ∧ asset.status = .active ∧
    (st.participations id).get pid = some p ∧ p.status.isActive = true

theorem isLicenseActive_iff (st : Rwa.Store R) (now id pid : Nat) :
    isLicenseActive st now id pid = true ↔ ActiveOnRecord st id pid ∧
      ∀ e, licenseExpiry st id pid = some e → now < e := by
  unfold isLicenseActive ActiveOnRecord licenseExpiry
  cases hget : st.rwaAssets.get id with
  | none => simp
  | some asset =>
      by_cases hst : asset.status = .active
      · cases hp : (st.participations id).get pid with
        | none => simp
        | some p =>
            cases hps : p.status with
            | active start expiry =>
                cases expiry <;>
                  simp [hst, hps, Rwa.ParticipationStatus.isActive]
            | _ => simp [hst, hps, Rwa.ParticipationStatus.isActive]
      · simp [hst]

theorem activeOnRecord_of_ensure {who : R.AccountId}
    (h : ensureActiveLicense st id pid who = .ok ()) :
    ActiveOnRecord st id pid := by
  simp only [ensureActiveLicense, do_eq_ok] at h
  obtain ⟨asset, hget, hst, p, hp, hactive, _⟩ := h
  exact ⟨asset, p, hget, hst, hp, hactive⟩

/-- The records of the license are the same. -/
structure SameLicense (id pid : Nat) (st st' : Rwa.Store R) : Prop where
  asset : st'.rwaAssets.get id = st.rwaAssets.get id
  participation : (st'.participations id).get pid =
    (st.participations id).get pid

theorem SameLicense.refl (id pid : Nat) (st : Rwa.Store R) :
    SameLicense id pid st st :=
  ⟨rfl, rfl⟩

theorem SameLicense.trans {st₁ : Rwa.Store R} (h : SameLicense id pid st st₁)
    (h' : SameLicense id pid st₁ st') : SameLicense id pid st st' :=
  ⟨h'.asset.trans h.asset, h'.participation.trans h.participation⟩

theorem SameLicense.symm (h : SameLicense id pid st st') :
    SameLicense id pid st' st :=
  ⟨h.asset.symm, h.participation.symm⟩

theorem SameLicense.activeOnRecord (h : SameLicense id pid st st')
    (hactive : ActiveOnRecord st id pid) : ActiveOnRecord st' id pid := by
  unfold ActiveOnRecord
  rwa [h.asset, h.participation]

theorem SameLicense.licenseExpiry (h : SameLicense id pid st st') :
    licenseExpiry st' id pid = licenseExpiry st id pid := by
  unfold Runtime.licenseExpiry
  rw [h.participation]

theorem SameStore.sameLicense (h : SameStore st st') (id pid : Nat) :
    SameLicense id pid st st' := by
  unfold SameStore at h
  rw [h]
  exact ⟨rfl, rfl⟩

end Record

/-! ## What the crowdfunding pallet checks -/

variable {c : Crowdfunding.Campaign C.crowdfunding} {cid deadline id pid : Nat}
    {s s' : State C}

theorem checkLicense_eq_ok {creator : C.AccountId}
    (h : Crowdfunding.checkLicense s creator deadline (some (id, pid)) =
      .ok ()) :
    ActiveOnRecord s.world id pid ∧
      ∀ e, licenseExpiry s.world id pid = some e → deadline < e := by
  simp only [Crowdfunding.checkLicense, whenSome, do_eq_ok] at h
  obtain ⟨hlicense, hexpiry⟩ := h
  refine ⟨activeOnRecord_of_ensure hlicense, fun e he => ?_⟩
  simp only [rwaLicenseVerifier, he, ensure_eq_ok] at hexpiry
  exact hexpiry

theorem checkLinkedExpiry_eq_ok (hlink : LinkedTo id pid c)
    (h : Crowdfunding.checkLinkedExpiry s c deadline = .ok ()) :
    ∀ e, licenseExpiry s.world id pid = some e → deadline < e := by
  intro e he
  simp only [Crowdfunding.checkLinkedExpiry, hlink.1, hlink.2, whenSome,
    rwaLicenseVerifier, he, ensure_eq_ok] at h
  exact h

/-! ## Runs that leave a license alone -/

/-- The step is not a call of the RWA pallet that changes the records. -/
def Spares (id pid : Nat) (s : State C) (a : Action C) : Prop :=
  ∀ o call s', a = .rwa o call → step s a = .ok s' →
    SameLicense id pid s.world s'.world

/-- Nothing but a call of the RWA pallet ends a license in force. -/
theorem sameLicense_of_step {a : Action C}
    (hs : Reachable (fun _ _ => True) s)
    (hactive : ActiveOnRecord s.world id pid) (hspare : Spares id pid s a)
    (h : step s a = .ok s') : SameLicense id pid s.world s'.world := by
  cases a with
  | crowdfunding => exact (crowdfunding_sameStore h).sameLicense id pid
  | rwa o call => exact hspare o call s' rfl h
  | nextBlock =>
      cases h
      obtain ⟨asset, p, hget, hst, _⟩ := hactive
      have hsched := Rwa.scheduled_of_reachable (reachable_rwa hs)
      have hbooks := Rwa.nextBlock_toBooks (rwaState s)
      constructor
      · dsimp only
        rw [hbooks, hsched.initialized_active hget hst, hget]
      · dsimp only
        rw [hbooks, Rwa.initialized_participations]
        rfl
  | outside =>
      cases h
      exact ⟨rfl, rfl⟩

theorem sameLicense_of_run {t : List (State C × Action C)}
    (hs : Reachable (fun _ _ => True) s)
    (hactive : ActiveOnRecord s.world id pid)
    (hrun : Transition.Run step s t s')
    (hspare : ∀ p ∈ t, Spares id pid p.1 p.2) :
    SameLicense id pid s.world s'.world := by
  refine (hrun.keeps (I := fun s₁ => Reachable (fun _ _ => True) s₁ ∧
    SameLicense id pid s.world s₁.world) ?_ hspare
    ⟨hs, .refl id pid _⟩).2
  rintro s₁ a s₂ hok ⟨hs₁, hsame⟩ hstep
  have hactive₁ := hsame.activeOnRecord hactive
  exact ⟨.step hs₁ trivial hstep,
    hsame.trans (sameLicense_of_step hs₁ hactive₁ hok hstep)⟩

/-! ## Creation and resumption -/

/-- The license is in force now, and as long as no call of the RWA pallet
changes its records, in every block up to the given one. -/
def LicensedUntil (s : State C) (id pid deadline : Nat) : Prop :=
  isLicenseActive s.world s.now id pid = true ∧
    ∀ t s', Transition.Run step s t s' →
      (∀ p ∈ t, Spares id pid p.1 p.2) → s'.now ≤ deadline →
      isLicenseActive s'.world s'.now id pid = true

theorem licensedUntil_of_active (hs : Reachable (fun _ _ => True) s)
    (hactive : ActiveOnRecord s.world id pid)
    (hnow : ∀ e, licenseExpiry s.world id pid = some e → s.now < e)
    (hlast : ∀ e, licenseExpiry s.world id pid = some e → deadline < e) :
    LicensedUntil s id pid deadline := by
  refine ⟨(isLicenseActive_iff ..).mpr ⟨hactive, hnow⟩, ?_⟩
  intro t s' hrun hspare hle
  have hsame := sameLicense_of_run hs hactive hrun hspare
  refine (isLicenseActive_iff ..).mpr ⟨hsame.activeOnRecord hactive, ?_⟩
  intro e he
  rw [hsame.licenseExpiry] at he
  exact Nat.lt_of_le_of_lt hle (hlast e he)

/-- When a campaign is resumed, its license is on record as active, and either
has not run out or the campaign was paused by its deadline. -/
structure LicenseStands (s : State C)
    (c : Crowdfunding.Campaign C.crowdfunding) (id pid : Nat) : Prop where
  onRecord : ActiveOnRecord s.world id pid
  inTime : ∀ e, licenseExpiry s.world id pid = some e →
    s.now < e ∨ ∃ at₀, c.pausedAt = some at₀ ∧ at₀ ≤ c.config.deadline

/-- A campaign paused by its deadline has not passed the extended one. -/
theorem now_le_extendedDeadline {now at₀ : Nat} (hnow : now < 2 ^ 32)
    (hat : c.pausedAt = some at₀) (hle : at₀ ≤ c.config.deadline) :
    now ≤ Crowdfunding.extendedDeadline c now := by
  unfold Crowdfunding.extendedDeadline
  rw [hat]
  refine Nat.le_min.mpr ⟨by omega, ?_⟩
  unfold maxValue
  omega

/-- A created campaign is licensed up to its deadline.  A resumed one is so
exactly when its license stands at that moment. -/
theorem license_live_iff {s s' : State C} (hs : Reachable (fun _ _ => True) s)
    (hnow : s.now < 2 ^ 32) (o : Origin C.AccountId) (id pid : Nat) :
    (∀ config rules,
      step s (.crowdfunding o
        (.createCampaign config rules (some (id, pid)))) = .ok s' →
      ∃ c', s'.campaigns.get s.nextCampaignId = some c' ∧
        LinkedTo id pid c' ∧ LicensedUntil s' id pid c'.config.deadline) ∧
    (∀ cid c, s.campaigns.get cid = some c → LinkedTo id pid c →
      step s (.crowdfunding o (.resumeCampaign cid)) = .ok s' →
      ∃ c', s'.campaigns.get cid = some c' ∧
        (LicensedUntil s' id pid c'.config.deadline ↔
          LicenseStands s c id pid)) := by
  constructor
  · intro config rules h
    have hcall : Crowdfunding.createCampaign s o config rules (some (id, pid)) =
        .ok s' := h
    obtain ⟨creator, c', _, hlicense, hdeadline, hget, hnew, _, hasset,
      hpart⟩ := Crowdfunding.createCampaign_clock hcall
    obtain ⟨hactive, hlast⟩ := checkLicense_eq_ok hlicense
    have hsame := (crowdfunding_sameStore h).sameLicense id pid
    have hs' : Reachable (fun _ _ => True) s' := .step hs trivial h
    have hnow' : s'.now = s.now := step_now h
    refine ⟨c', hget, ⟨hasset, hpart⟩, ?_⟩
    rw [hnew.config]
    refine licensedUntil_of_active hs' (hsame.activeOnRecord hactive) ?_ ?_
    · intro e he
      rw [hsame.licenseExpiry] at he
      rw [hnow']
      exact Nat.lt_trans hdeadline (hlast e he)
    · intro e he
      rw [hsame.licenseExpiry] at he
      exact hlast e he
  · intro cid c hget hlink h
    have hcall : Crowdfunding.resumeCampaign s o cid = .ok s' := h
    obtain ⟨c₀, _, hget₀, _, hexpiry, hget'⟩ :=
      Crowdfunding.resumeCampaign_eq_ok hcall
    cases hget₀.symm.trans hget
    have hlast := checkLinkedExpiry_eq_ok hlink hexpiry
    have hsame := (crowdfunding_sameStore h).sameLicense id pid
    have hs' : Reachable (fun _ _ => True) s' := .step hs trivial h
    have hnow' : s'.now = s.now := step_now h
    refine ⟨_, hget', ⟨fun hlic => ?_, fun hstands => ?_⟩⟩
    · obtain ⟨hactive, hlater⟩ := (isLicenseActive_iff ..).mp hlic.1
      refine ⟨hsame.symm.activeOnRecord hactive, fun e he => .inl ?_⟩
      rw [← hsame.licenseExpiry] at he
      rw [← hnow']
      exact hlater e he
    · refine licensedUntil_of_active hs' (hsame.activeOnRecord hstands.onRecord)
        ?_ ?_
      · intro e he
        rw [hsame.licenseExpiry] at he
        rw [hnow']
        rcases hstands.inTime e he with hlt | ⟨at₀, hat, hle⟩
        · exact hlt
        · exact Nat.lt_of_le_of_lt (now_le_extendedDeadline hnow hat hle)
            (hlast e he)
      · intro e he
        rw [hsame.licenseExpiry] at he
        exact hlast e he

/-- The campaign of an account with an unlimited license is paused, and
`requests` follow. -/
def pausedCampaign (requests : List (Action chain)) : State chain :=
  chainAfter (license none ++ licensedCampaign 2 0 50 ::
    crowdfundingByRoot (.pauseCampaign 0) :: requests)

/-- The first campaign is resumed. -/
def resumed (s : State chain) : State chain :=
  Transition.final step s [crowdfundingByRoot (.resumeCampaign 0)]

/-- A campaign resumed under an unlimited license. -/
theorem license_live_resumed :
    ∃ c', (resumed (pausedCampaign [.nextBlock])).campaigns.get 0 = some c' ∧
      LicensedUntil (resumed (pausedCampaign [.nextBlock])) 0 0
        c'.config.deadline := by
  have hreach : Reachable (fun _ _ => True) (pausedCampaign [.nextBlock]) :=
    chainAfter_reachable (fun _ _ _ => trivial) (by decide +kernel)
  obtain ⟨c, hget, hlink⟩ := Crowdfunding.exists_campaign
    (s := pausedCampaign [.nextBlock]) (p := LinkedTo 0 0) (by decide +kernel)
  obtain ⟨hactive, hlater⟩ := (isLicenseActive_iff
    (pausedCampaign [.nextBlock]).world 2 0 0).mp (by decide +kernel)
  obtain ⟨c', hget', hiff⟩ := (license_live_iff hreach (by decide +kernel) .root
    0 0).2 0 c hget hlink (Transition.step_final (by decide +kernel))
  exact ⟨c', hget', hiff.mpr ⟨hactive, fun e he => .inl (hlater e he)⟩⟩

/-- A campaign whose license was revoked during the pause is resumed all the
same. -/
theorem resumed_without_license :
    ∃ (s s' : State chain) (c : Crowdfunding.Campaign chain.crowdfunding),
      Reachable (fun _ _ => True) s ∧ s.now < 2 ^ 32 ∧
      s.campaigns.get 0 = some c ∧ LinkedTo 0 0 c ∧
      step s (crowdfundingByRoot (.resumeCampaign 0)) = .ok s' ∧
      isLicenseActive s'.world s'.now 0 0 = false := by
  obtain ⟨c, hget, hlink⟩ := Crowdfunding.exists_campaign
    (s := pausedCampaign [.rwa .root (.revokeParticipation 0 0)])
    (p := LinkedTo 0 0) (by decide +kernel)
  exact ⟨_, _, c, chainAfter_reachable (fun _ _ _ => trivial)
    (by decide +kernel), by decide +kernel, hget, hlink,
    Transition.step_final (by decide +kernel), by decide +kernel⟩

/-! ## Finalisation and expiry -/

/-- Somebody can finalise the campaign, and a block earlier nobody could. -/
def FirstFinalizable (s : State C) (cid : Nat) : Prop :=
  (∃ who, (Crowdfunding.finalizeCampaign s (.signed who) cid).isOk = true) ∧
    ∀ who, (Crowdfunding.finalizeCampaign
      { s with now := s.now - 1 : State C } (.signed who) cid).isOk = false

/-- An open campaign can be finalised from the block after its deadline on. -/
theorem FirstFinalizable.now_eq (h : FirstFinalizable s cid)
    (hget : s.campaigns.get cid = some c) :
    c.status = .funding ∧ s.now = c.config.deadline + 1 := by
  obtain ⟨⟨who, hok⟩, hearlier⟩ := h
  obtain ⟨c₀, hget₀, hst, hlt⟩ := Crowdfunding.finalizeCampaign_isOk.mp hok
  cases hget₀.symm.trans hget
  have hnot : ¬ c.config.deadline < s.now - 1 := by
    intro hlt'
    have hok' : (Crowdfunding.finalizeCampaign { s with now := s.now - 1 }
        (.signed who) cid).isOk = true :=
      Crowdfunding.finalizeCampaign_isOk.mpr ⟨c, hget, hst, hlt'⟩
    rw [hearlier who] at hok'
    cases hok'
  exact ⟨hst, by omega⟩

theorem firstFinalizable_of_now_eq (who : C.AccountId)
    (hget : s.campaigns.get cid = some c) (hst : c.status = .funding)
    (hnow : s.now = c.config.deadline + 1) : FirstFinalizable s cid := by
  refine ⟨⟨who, Crowdfunding.finalizeCampaign_isOk.mpr
    ⟨c, hget, hst, by omega⟩⟩, fun who' => ?_⟩
  rw [← Bool.not_eq_true, Crowdfunding.finalizeCampaign_isOk]
  rintro ⟨c', hget', _, hlt⟩
  cases hget.symm.trans hget'
  dsimp only at hlt
  omega

theorem reportLicenseRevoked_iff {who : C.AccountId}
    (hget : s.campaigns.get cid = some c) (hst : c.status = .funding)
    (hlink : LinkedTo id pid c) :
    Crowdfunding.reportLicenseRevoked s (.signed who) cid =
        .error (C.crowdfunding.err .licenseNotActive) ↔
      isLicenseActive s.world s.now id pid = true := by
  have hlinked : Crowdfunding.linkedLicense c = some (id, pid) := by
    unfold Crowdfunding.linkedLicense
    rw [hlink.1, hlink.2]
  cases hactive : isLicenseActive s.world s.now id pid <;>
    simp [Crowdfunding.reportLicenseRevoked, ensureSigned, hget, okOr, hlinked,
      hst, ensure, rwaLicenseVerifier, hactive, bind, Except.bind, pure,
      Except.pure]

/-- The campaign is as it was created, as far as time and license go. -/
structure Untouched (id pid cid deadline : Nat) (st : Rwa.Store C.toConfig)
    (s : State C) : Prop where
  reachable : Reachable (fun _ _ => True) s
  license : SameLicense id pid st s.world
  campaign : ∃ c, s.campaigns.get cid = some c ∧ LinkedTo id pid c ∧
    c.config.deadline = deadline ∧ c.status ≠ .paused

/-- The step does not pause the campaign. -/
def NotPausing (cid : Nat) (a : Action C) : Prop :=
  ∀ o, a ≠ .crowdfunding o (.pauseCampaign cid)

theorem Untouched.step {st : Rwa.Store C.toConfig} {a : Action C}
    (h : Untouched id pid cid deadline st s)
    (hactive : ActiveOnRecord st id pid) (hspare : Spares id pid s a)
    (hpause : NotPausing cid a) (hstep : step s a = .ok s') :
    Untouched id pid cid deadline st s' := by
  obtain ⟨c, hget, hlink, hdeadline, hst⟩ := h.campaign
  have hf := Crowdfunding.fresh_of_reachable
    (reachable_crowdfunding h.reachable)
  refine ⟨.step h.reachable trivial hstep, h.license.trans
    (sameLicense_of_step h.reachable (h.license.activeOnRecord hactive) hspare
      hstep), ?_⟩
  have hkept : ∀ c', c.SameClock c' → LinkedTo id pid c' ∧
      c'.config.deadline = deadline ∧ c'.status ≠ .paused := by
    intro c' hsame
    refine ⟨⟨hsame.asset.trans hlink.1, hsame.participation.trans hlink.2⟩,
      hsame.deadline.trans hdeadline, ?_⟩
    rcases hsame.status with heq | ⟨_, hne⟩
    · rwa [heq]
    · exact hne
  obtain ⟨c', hget', hsame | ⟨o, call, rfl, hclock⟩⟩ := step_clock hstep hf hget
  · exact ⟨c', hget', hkept c' hsame⟩
  · refine ⟨c', hget', ?_⟩
    cases hclock with
    | kept _ hsame => exact hkept c' hsame
    | paused => exact absurd rfl (hpause o)
    | resumed _ hpaused => exact absurd hpaused hst

/-- In a run that neither pauses a new campaign nor changes the records of its
license, which expires at `e`, a report fails in the first block in which the
campaign can be finalised exactly when that block is before `e`. -/
theorem finalize_first_iff {s₀ s₁ s₂ : State C} {o : Origin C.AccountId}
    {config : Crowdfunding.CampaignConfig C.crowdfunding}
    {rules : Option (BoundedVec (Crowdfunding.EligibilityRule C.crowdfunding)
      C.maxEligibilityRules)}
    {id pid e : Nat} {t : List (State C × Action C)}
    (hs : Reachable (fun _ _ => True) s₀)
    (hcreate : step s₀ (.crowdfunding o
      (.createCampaign config rules (some (id, pid)))) = .ok s₁)
    (hexpiry : licenseExpiry s₀.world id pid = some e)
    (hrun : Transition.Run step s₁ t s₂)
    (hspare : ∀ p ∈ t, Spares id pid p.1 p.2)
    (hpause : ∀ p ∈ t, NotPausing s₀.nextCampaignId p.2)
    (hfirst : FirstFinalizable s₂ s₀.nextCampaignId) (who : C.AccountId) :
    Crowdfunding.reportLicenseRevoked s₂ (.signed who) s₀.nextCampaignId =
        .error (C.crowdfunding.err .licenseNotActive) ↔
      config.deadline + 1 < e := by
  have hcall : Crowdfunding.createCampaign s₀ o config rules (some (id, pid)) =
      .ok s₁ := hcreate
  obtain ⟨creator, c₁, _, hlicense, _, hget₁, hnew, _, hasset, hpart⟩ :=
    Crowdfunding.createCampaign_clock hcall
  obtain ⟨hactive, _⟩ := checkLicense_eq_ok hlicense
  have h₁ : Untouched id pid s₀.nextCampaignId config.deadline s₀.world s₁ :=
    ⟨.step hs trivial hcreate,
      (crowdfunding_sameStore hcreate).sameLicense id pid,
      c₁, hget₁, ⟨hasset, hpart⟩, by rw [hnew.config],
      by rw [hnew.status]; nofun⟩
  obtain ⟨_, hsame, c₂, hget₂, hlink, hdeadline, _⟩ :=
    hrun.keeps (fun s a _ (hok : Spares id pid s a ∧
        NotPausing s₀.nextCampaignId a) h hstep =>
        h.step hactive hok.1 hok.2 hstep)
      (fun p hp => ⟨hspare p hp, hpause p hp⟩) h₁
  obtain ⟨hst, hnow⟩ := hfirst.now_eq hget₂
  rw [reportLicenseRevoked_iff hget₂ hst hlink, isLicenseActive_iff,
    hsame.licenseExpiry, hexpiry, hnow, hdeadline]
  constructor
  · rintro ⟨_, hlt⟩
    exact hlt e rfl
  · intro hlt
    refine ⟨hsame.activeOnRecord hactive, fun e' he' => ?_⟩
    cases he'
    exact hlt

/-- Account 2 has a license until block 16. -/
def licensed : State chain :=
  chainAfter (license (some 15))

/-- It opens a campaign with the given deadline. -/
def opened (deadline : Nat) : State chain :=
  Transition.final step licensed [licensedCampaign 2 0 deadline]

/-- The deadline has just passed. -/
def awaited (deadline : Nat) : State chain :=
  Transition.final step (opened deadline) (List.replicate deadline .nextBlock)

private theorem replicate_spares {s : State chain} {n : Nat} :
    ∀ p ∈ Transition.trace step s (List.replicate n .nextBlock),
      Spares 0 0 p.1 p.2 ∧ NotPausing 0 p.2 := by
  intro p hp
  have ha := List.eq_of_mem_replicate (Transition.mem_of_mem_trace hp)
  rw [ha]
  constructor
  · intro o call s' hcall
    cases hcall
  · intro o hcall
    cases hcall

private theorem awaited_first
    (h : ((awaited deadline).campaigns.get 0).any (fun c => decide (c.status =
      .funding ∧ (awaited deadline).now = c.config.deadline + 1)) = true) :
    FirstFinalizable (awaited deadline) 0 := by
  obtain ⟨c, hget, hst, hnow⟩ := Crowdfunding.exists_campaign h
  exact firstFinalizable_of_now_eq 5 hget hst hnow

private theorem licensed_reachable : Reachable (fun _ _ => True) licensed :=
  chainAfter_reachable (fun _ _ _ => trivial) (by decide +kernel)

/-- With a block to spare, a report cannot forestall the finalisation. -/
theorem finalize_first_in_time :
    Crowdfunding.reportLicenseRevoked (awaited 14) (.signed 5)
        licensed.nextCampaignId =
      .error (chain.crowdfunding.err .licenseNotActive) :=
  (finalize_first_iff licensed_reachable
    (Transition.step_final (s := licensed) (a := licensedCampaign 2 0 14)
      (by decide +kernel))
    (e := 16) (by decide +kernel)
    (Transition.run_of_exec (Transition.exec_final (by decide +kernel)))
    (fun p hp => (replicate_spares p hp).1)
    (fun p hp => (replicate_spares p hp).2)
    (awaited_first (by decide +kernel)) 5).mpr (by decide)

/-- A campaign whose deadline is the last block of its license can be reported
before anybody could have finalised it. -/
theorem finalize_first_too_late :
    ∃ (s₀ s₁ s₂ : State chain) (t : List (State chain × Action chain)),
      Reachable (fun _ _ => True) s₀ ∧
      step s₀ (licensedCampaign 2 0 15) = .ok s₁ ∧
      licenseExpiry s₀.world 0 0 = some 16 ∧
      Transition.Run step s₁ t s₂ ∧
      (∀ p ∈ t, Spares 0 0 p.1 p.2 ∧ NotPausing s₀.nextCampaignId p.2) ∧
      FirstFinalizable s₂ s₀.nextCampaignId ∧
      (Crowdfunding.reportLicenseRevoked s₂ (.signed 5)
        s₀.nextCampaignId).isOk = true :=
  ⟨licensed, opened 15, awaited 15, _, licensed_reachable,
    Transition.step_final (by decide +kernel), by decide +kernel,
    Transition.run_of_exec (Transition.exec_final (by decide +kernel)),
    replicate_spares, awaited_first (by decide +kernel), by decide +kernel⟩

end Thxnet.Runtime
