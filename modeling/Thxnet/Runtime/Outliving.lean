import Thxnet.Runtime.License
import Thxnet.Rwa.Durations

/-!
# Licenses outlive open campaigns

The deadline of an open campaign lies before the expiry of its license.  Created
campaigns are checked for it, renewals do not shorten terms, and a campaign
that is resumed is checked again; but that check is skipped while the license is
stored as expired, and such a license can be renewed under a shorter term later.
So the property holds along the runs in which no campaign is resumed under an
expired license (`license_outlives_campaign`).
-/

namespace Thxnet.Runtime

open Thxnet.Lib Thxnet.Frame

variable {C : Config}

/-! ## The invariant -/

/-- The license of the campaign has been approved, and outlives it while it is
open. -/
def Covered (s : State C) (c : Crowdfunding.Campaign C.crowdfunding) : Prop :=
  ∀ id pid, LinkedTo id pid c → ∃ en, s.world.toBooks.entry id pid = some en ∧
    en.status ≠ .pendingApproval ∧
    (c.status = .funding → Rwa.Outlives s.now c.config.deadline en.status)

/-- No campaign is resumed while its license is stored as expired. -/
def ResumesUnexpired (s : State C) (a : Action C) : Prop :=
  ∀ o cid c id pid p, a = .crowdfunding o (.resumeCampaign cid) →
    s.campaigns.get cid = some c → LinkedTo id pid c →
    (s.world.participations id).get pid = some p → p.status ≠ .expired

/-! ## Checks -/

section Checks

variable {s : State C} {id pid deadline : Nat} {en : Rwa.Entry}

theorem licenseExpiry_of_entry {start : Nat} {expiry : Option Nat}
    (he : s.world.toBooks.entry id pid = some en)
    (hst : en.status = .active start expiry) :
    licenseExpiry s.world id pid = expiry := by
  unfold Rwa.Books.entry at he
  obtain ⟨p, hp, rfl⟩ := Option.map_eq_some_iff.mp he
  have hps : p.status = .active start expiry := hst
  unfold licenseExpiry
  simp only [hp, hps]

/-- A deadline that has been checked comes before the end of a license that has
not expired. -/
theorem outlives_of_checked (now : Nat)
    (he : s.world.toBooks.entry id pid = some en)
    (hst : en.status ≠ .expired)
    (hlast : ∀ e, licenseExpiry s.world id pid = some e → deadline < e) :
    Rwa.Outlives now deadline en.status := by
  cases hstatus : en.status with
  | active start expiry =>
      cases expiry with
      | none => trivial
      | some e => exact hlast e (licenseExpiry_of_entry he hstatus)
  | expired => exact absurd hstatus hst
  | _ => trivial

end Checks

/-! ## Steps -/

theorem covered_of_created {s s' : State C} {creator : C.AccountId}
    {config : Crowdfunding.CampaignConfig C.crowdfunding}
    {license : Option (Nat × Nat)}
    {c : Crowdfunding.Campaign C.crowdfunding}
    (hentry : ∀ id pid, s'.world.toBooks.entry id pid =
      s.world.toBooks.entry id pid)
    (hlicense : Crowdfunding.checkLicense s creator config.deadline license =
      .ok ())
    (hconfig : c.config = config)
    (hasset : c.rwaAssetId = license.map Prod.fst)
    (hpart : c.participationId = license.map Prod.snd) : Covered s' c := by
  rintro id pid ⟨hid, hpid⟩
  rw [hasset] at hid
  rw [hpart] at hpid
  obtain ⟨⟨i, q⟩, rfl, hi⟩ := Option.map_eq_some_iff.mp hid
  obtain rfl : i = id := hi
  obtain rfl : q = pid := Option.some.inj hpid
  obtain ⟨hactive, hlast⟩ := checkLicense_eq_ok hlicense
  obtain ⟨_, p, _, _, hp, hstatus⟩ := hactive
  have he : s.world.toBooks.entry i q = some p.entry :=
    Rwa.Books.entry_of_get hp
  refine ⟨p.entry, (hentry i q).trans he, ?_, fun _ => ?_⟩
  · intro hpending
    have hps : p.status = .pendingApproval := hpending
    rw [hps] at hstatus
    cases hstatus
  · rw [hconfig]
    refine outlives_of_checked _ he (fun hexpired => ?_) hlast
    have hps : p.status = .expired := hexpired
    rw [hps] at hstatus
    cases hstatus

/-- A covered campaign stays so through a call of its pallet. -/
theorem Covered.clock {s s' : State C} {a : Action C} {cid : Nat}
    {c c' : Crowdfunding.Campaign C.crowdfunding} (h : Covered s c)
    (hentry : ∀ id pid, s'.world.toBooks.entry id pid =
      s.world.toBooks.entry id pid)
    (hnow : s'.now = s.now) (hok : ResumesUnexpired s a)
    (hget : s.campaigns.get cid = some c)
    (hclock : c.SameClock c' ∨ ∃ o call, a = .crowdfunding o call ∧
      Crowdfunding.ClockEffect s cid c (.call o call) c') : Covered s' c' := by
  have hkept : c.SameClock c' → Covered s' c' := by
    intro hsame id pid hlink
    obtain ⟨en, he, happroved, hout⟩ := h id pid
      ⟨hsame.asset.symm.trans hlink.1, hsame.participation.symm.trans hlink.2⟩
    refine ⟨en, (hentry id pid).trans he, happroved, fun hst => ?_⟩
    rw [hnow, hsame.deadline]
    rcases hsame.status with heq | ⟨hne, _⟩
    · exact hout (heq ▸ hst)
    · exact absurd hst hne
  rcases hclock with hsame | ⟨o, call, rfl, hclock⟩
  · exact hkept hsame
  · cases hclock with
    | kept _ hsame => exact hkept hsame
    | paused =>
        intro id pid hlink
        obtain ⟨en, he, happroved, _⟩ := h id pid hlink
        exact ⟨en, (hentry id pid).trans he, happroved, nofun⟩
    | resumed _ _ hexpiry =>
        intro id pid hlink
        obtain ⟨en, he, happroved, _⟩ := h id pid hlink
        refine ⟨en, (hentry id pid).trans he, happroved, fun _ => ?_⟩
        refine outlives_of_checked _ he ?_
          (checkLinkedExpiry_eq_ok hlink hexpiry)
        unfold Rwa.Books.entry at he
        obtain ⟨p, hp, rfl⟩ := Option.map_eq_some_iff.mp he
        exact hok o cid c id pid p rfl hget hlink hp

/-- Every step that does not resume a campaign under an expired license keeps
all campaigns covered. -/
theorem covered_step {ok : State C → Action C → Prop} {s s' : State C}
    {a : Action C} (hs : Reachable ok s) (h : step s a = .ok s')
    (hok : ResumesUnexpired s a) (hnow : s'.now < 2 ^ 32)
    (hcov : ∀ cid c, s.campaigns.get cid = some c → Covered s c) :
    ∀ cid c, s'.campaigns.get cid = some c → Covered s' c := by
  intro cid c' hget'
  by_cases ha : ∃ o call, a = .crowdfunding o call
  · obtain ⟨o, call, rfl⟩ := ha
    have hstore := crowdfunding_sameStore h
    have hentry : ∀ id pid, s'.world.toBooks.entry id pid =
        s.world.toBooks.entry id pid := by
      intro id pid
      rw [show s'.world = _ from hstore]
      rfl
    cases hget : s.campaigns.get cid with
    | some c =>
        have hf := Crowdfunding.fresh_of_reachable (reachable_crowdfunding hs)
        obtain ⟨c₁, hget₁, hclock⟩ := step_clock h hf hget
        cases hget₁.symm.trans hget'
        exact (hcov cid c hget).clock hentry (step_now h) hok hget hclock
    | none =>
        have hstep : Crowdfunding.step s (.call o call) = .ok s' := h
        have heffect := Crowdfunding.step_effect hstep
        obtain ⟨creator, config, rules, license, hcall, _⟩ :=
          heffect.born hget hget'
        cases hcall
        obtain ⟨creator', c₁, _, hlicense, _, hget₁, hnew, _, hasset, hpart⟩ :=
          Crowdfunding.createCampaign_clock hstep
        have hcid : cid = s.nextCampaignId := by
          by_contra hne
          have hsame : Crowdfunding.SameAt s.toBooks s'.toBooks cid :=
            heffect.sameAt fun htarget => hne (Option.some.inj htarget).symm
          rw [hsame.campaign, hget] at hget'
          cases hget'
        subst hcid
        cases hget₁.symm.trans hget'
        exact covered_of_created hentry hlicense hnew.config hasset hpart
  · rw [campaigns_eq h fun o call hc => ha ⟨o, call, hc⟩] at hget'
    intro id pid hlink
    obtain ⟨en, he, happroved, hout⟩ := hcov cid c' hget' id pid hlink
    obtain ⟨en', he', happroved', hlater⟩ := Rwa.step_outlives
      (reachable_rwa hs) (step_rwa h) hnow he happroved
    exact ⟨en', he', happroved', fun hst => hlater _ (hout hst)⟩

/-- In a run in which no campaign is resumed while its license is stored as
expired, the deadline of every open campaign lies before the expiry of its
active license. -/
theorem license_outlives_campaign {s : State C}
    (h : Reachable ResumesUnexpired s) (hnow : s.now < 2 ^ 32)
    {cid id pid start e : Nat} {c : Crowdfunding.Campaign C.crowdfunding}
    {p : Rwa.Participation C.toConfig} (hget : s.campaigns.get cid = some c)
    (hst : c.status = .funding) (hlink : LinkedTo id pid c)
    (hp : (s.world.participations id).get pid = some p)
    (hactive : p.status = .active start (some e)) :
    c.config.deadline < e := by
  have hcov : s.now < 2 ^ 32 →
      ∀ cid c, s.campaigns.get cid = some c → Covered s c := by
    refine Transition.Reach.invariant (I := fun s : State C => s.now < 2 ^ 32 →
      ∀ cid c, s.campaigns.get cid = some c → Covered s c) ?_ ?_ h
    · rintro s ⟨world, now, rfl⟩ _ cid c hget
      cases hget
    · intro s a s' hs hI hok hstep hnow'
      have hle := step_now hstep
      exact covered_step hs hstep hok hnow' (hI (by omega))
  obtain ⟨en, he, _, hout⟩ := hcov hnow cid c hget id pid hlink
  cases (Rwa.Books.entry_of_get hp).symm.trans he
  have hlast := hout hst
  rw [show p.entry.status = _ from hactive] at hlast
  exact hlast

/-- Whether the step resumes a campaign. -/
def Action.isResuming : Action C → Bool
  | .crowdfunding _ (.resumeCampaign _) => true
  | _ => false

private theorem resumesUnexpired_of_not {a : Action C}
    (h : (!a.isResuming) = true) (s : State C) : ResumesUnexpired s a := by
  intro o cid c id pid p hcall
  rw [hcall] at h
  cases h

/-- The campaign of an account with a license until block 16 is paused, and
`requests` follow. -/
def pausedUntil (requests : List (Action chain)) : State chain :=
  chainAfter (license (some 15) ++ licensedCampaign 2 0 14 ::
    crowdfundingByRoot (.pauseCampaign 0) :: requests)

/-- A campaign resumed under a license that lasts until block 16. -/
theorem license_outlives_resumed :
    ∃ c, (resumed (pausedUntil [])).campaigns.get 0 = some c ∧
      c.config.deadline < 16 := by
  have hquiet : (license (some 15) ++ [licensedCampaign 2 0 14,
      crowdfundingByRoot (.pauseCampaign 0)]).all
        (fun a => !a.isResuming) = true := by
    decide +kernel
  have hreach : Reachable ResumesUnexpired (pausedUntil []) :=
    chainAfter_reachable (fun a ha => resumesUnexpired_of_not
      (List.all_eq_true.mp hquiet a ha)) (by decide +kernel)
  obtain ⟨c₀, hget₀, hlink₀⟩ := Crowdfunding.exists_campaign
    (s := pausedUntil []) (p := LinkedTo 0 0) (by decide +kernel)
  obtain ⟨p₀, hp₀, hst₀⟩ := Rwa.exists_participation
    (s := rwaState (pausedUntil [])) (p := fun p => p.status ≠ .expired)
    (by decide +kernel)
  have hok : ResumesUnexpired (pausedUntil [])
      (crowdfundingByRoot (.resumeCampaign 0)) := by
    rintro o cid c id pid p ⟨⟩ hget ⟨hid, hpid⟩ hp
    cases hget₀.symm.trans hget
    cases hlink₀.1.symm.trans hid
    cases hlink₀.2.symm.trans hpid
    cases hp₀.symm.trans hp
    exact hst₀
  obtain ⟨c, hget, hst, hlink⟩ := Crowdfunding.exists_campaign
    (s := resumed (pausedUntil []))
    (p := fun c => c.status = .funding ∧ LinkedTo 0 0 c) (by decide +kernel)
  obtain ⟨p, hp, hactive⟩ := Rwa.exists_participation
    (s := rwaState (resumed (pausedUntil [])))
    (p := fun p => p.status = .active 1 (some 16)) (by decide +kernel)
  exact ⟨c, hget, license_outlives_campaign
    (.step hreach hok (Transition.step_final (by decide +kernel)))
    (by decide +kernel) hget hst hlink hp hactive⟩

/-- The license expires during the pause, the campaign is resumed, and the
license renewed under a policy that has been tightened in between. -/
def renewedShorter : List (Action chain) :=
  List.replicate 15 .nextBlock ++
    [ rwaBy 5 (.settleExpiredParticipation 0 0),
      rwaBy 1 (.updateAssetPolicy 0
        { Rwa.defaultPolicy with maxDuration := some 5 }),
      crowdfundingByRoot (.resumeCampaign 0),
      rwaBy 2 (.renewParticipation 0 0) ]

/-- The campaign is then open until block 29, on a license until block 21. -/
theorem license_outlived_after_renewal :
    ∃ (s : State chain) (c : Crowdfunding.Campaign chain.crowdfunding)
      (p : Rwa.Participation chain.toConfig),
      Reachable (fun _ _ => True) s ∧ s.now < 2 ^ 32 ∧
      s.campaigns.get 0 = some c ∧ c.status = .funding ∧ LinkedTo 0 0 c ∧
      (s.world.participations 0).get 0 = some p ∧
      p.status = .active 16 (some 21) ∧ c.config.deadline = 29 := by
  obtain ⟨c, hget, hst, hlink, hdeadline⟩ := Crowdfunding.exists_campaign
    (s := pausedUntil renewedShorter) (p := fun c => c.status = .funding ∧
      LinkedTo 0 0 c ∧ c.config.deadline = 29) (by decide +kernel)
  obtain ⟨p, hp, hactive⟩ := Rwa.exists_participation
    (s := rwaState (pausedUntil renewedShorter))
    (p := fun p => p.status = .active 16 (some 21)) (by decide +kernel)
  exact ⟨pausedUntil renewedShorter, c, p,
    chainAfter_reachable (fun _ _ _ => trivial) (by decide +kernel),
    by decide +kernel, hget, hst, hlink, hp, hactive, hdeadline⟩

end Thxnet.Runtime
