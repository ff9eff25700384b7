import Thxnet.Runtime.Mock
import Thxnet.Runtime.Projection

/-!
# What the guard lets through

`slash_participation` asks `CrowdfundingLifecycleGuard` about an asset and a
participation, and the guard looks at the asset alone.  So a slash is isolated
from the campaigns of the other participations exactly when there is nothing to
isolate it from (`slash_isolated_iff`).
-/

namespace Thxnet.Runtime

open Thxnet.Lib Thxnet.Frame

variable {C : Config}

/-! ## A call and its guard -/

section Call

variable {g : Rwa.LifecycleGuard} {r : Rwa.State C.toConfig}
  {o : Origin C.AccountId} {id pid amount : Nat}
  {reporter : Option C.AccountId}

/-- A guard that agrees might as well not be there. -/
theorem slash_of_agreed (hg : g.canSlashParticipation id pid = .ok ()) :
    Rwa.slashParticipation g r o id pid amount reporter =
      Rwa.slashParticipation .unguarded r o id pid amount reporter := by
  simp only [Rwa.slashParticipation, hg, Rwa.LifecycleGuard.unguarded]

/-- A guard that refuses stops a call nothing else would stop. -/
theorem slash_of_refused (hg : g.canSlashParticipation id pid ≠ .ok ())
    {r' : Rwa.State C.toConfig}
    (h : Rwa.slashParticipation .unguarded r o id pid amount reporter =
      .ok r') :
    Rwa.slashParticipation g r o id pid amount reporter =
      .error (C.err .blockedByLifecycleGuard) := by
  simp only [Rwa.slashParticipation, do_eq_ok] at h
  obtain ⟨_, horigin, asset, hget, p, hp, ⟨r₁, p₁, settled⟩, hinner, hfalse,
    _⟩ := h
  have hsettled : settled = false := hfalse
  subst hsettled
  simp only [Rwa.slashParticipation, bind, Except.bind, horigin, hget, hp, okOr,
    hinner, ensure, if_neg hg, if_true]

theorem slash_of_guarded
    (h : (Rwa.slashParticipation .unguarded r o id pid amount reporter).isOk =
      false) :
    (Rwa.slashParticipation g r o id pid amount reporter).isOk = false := by
  cases hcall : Rwa.slashParticipation g r o id pid amount reporter with
  | error => rfl
  | ok =>
      have hg : g.canSlashParticipation id pid = .ok () := by
        simp only [Rwa.slashParticipation, do_eq_ok] at hcall
        obtain ⟨_, _, _, _, _, _, _, _, _, hg, _⟩ := hcall
        exact hg
      rw [slash_of_agreed hg] at hcall
      rw [hcall] at h
      cases h

end Call

/-! ## Campaigns that can stand in the way -/

/-- The campaign is linked to the asset through another participation. -/
def LinkedElsewhere (id pid : Nat)
    (c : Crowdfunding.Campaign C.crowdfunding) : Prop :=
  c.rwaAssetId = some id ∧ c.participationId ≠ some pid

/-- Some active campaign satisfies `p`. -/
def HasActive (s : State C)
    (p : Crowdfunding.Campaign C.crowdfunding → Prop) : Prop :=
  ∃ cid c, s.campaigns.get cid = some c ∧ p c ∧ isActiveCampaign c = true

instance (id pid : Nat) :
    DecidablePred (LinkedElsewhere (C := C) id pid) :=
  fun _ => inferInstanceAs (Decidable (_ ∧ _))

theorem hasActive_iff_any (s : State C)
    (p : Crowdfunding.Campaign C.crowdfunding → Prop) [DecidablePred p] :
    HasActive s p ↔
      s.campaigns.any (fun c => p c ∧ isActiveCampaign c = true) = true := by
  simp only [HasActive, StorageMap.any_eq_true, decide_eq_true_eq]

theorem hasActiveCampaign_iff (s : State C) (id pid : Nat) :
    hasActiveCampaign s id = true ↔
      HasActive s (LinkedTo id pid) ∨ HasActive s (LinkedElsewhere id pid) := by
  unfold hasActiveCampaign
  rw [← hasActive_iff_any s fun c => c.rwaAssetId = some id]
  constructor
  · rintro ⟨cid, c, hget, hasset, hactive⟩
    by_cases hpid : c.participationId = some pid
    · exact .inl ⟨cid, c, hget, ⟨hasset, hpid⟩, hactive⟩
    · exact .inr ⟨cid, c, hget, ⟨hasset, hpid⟩, hactive⟩
  · rintro (⟨cid, c, hget, hlink, hactive⟩ | ⟨cid, c, hget, hlink, hactive⟩)
    · exact ⟨cid, c, hget, hlink.1, hactive⟩
    · exact ⟨cid, c, hget, hlink.1, hactive⟩

theorem canSlashParticipation_iff (s : State C) (id pid : Nat) :
    (crowdfundingLifecycleGuard s).canSlashParticipation id pid = .ok () ↔
      ¬ HasActive s (LinkedTo id pid) ∧
        ¬ HasActive s (LinkedElsewhere id pid) := by
  rw [← not_or, ← hasActiveCampaign_iff]
  unfold crowdfundingLifecycleGuard
  by_cases h : hasActiveCampaign s id = true <;> simp [h]

/-! ## Isolation -/

/-- The two states differ only in campaigns linked to the asset through other
participations. -/
structure DiffersElsewhere (id pid : Nat) (s₁ s₂ : State C) : Prop where
  rwa : rwaState s₂ = rwaState s₁
  campaigns : ∀ cid, s₁.campaigns.get cid = s₂.campaigns.get cid ∨
    (∀ c, s₁.campaigns.get cid = some c → LinkedElsewhere id pid c) ∧
      ∀ c, s₂.campaigns.get cid = some c → LinkedElsewhere id pid c

theorem DiffersElsewhere.symm {id pid : Nat} {s₁ s₂ : State C}
    (h : DiffersElsewhere id pid s₁ s₂) : DiffersElsewhere id pid s₂ s₁ :=
  ⟨h.rwa.symm, fun cid => (h.campaigns cid).imp Eq.symm And.symm⟩

/-- The campaigns of the participation itself are the same. -/
theorem DiffersElsewhere.linkedTo {id pid : Nat} {s₁ s₂ : State C}
    (h : DiffersElsewhere id pid s₁ s₂)
    (hown : HasActive s₁ (LinkedTo id pid)) :
    HasActive s₂ (LinkedTo id pid) := by
  obtain ⟨cid, c, hget, hlink, hactive⟩ := hown
  rcases h.campaigns cid with heq | ⟨helse, _⟩
  · exact ⟨cid, c, heq ▸ hget, hlink, hactive⟩
  · exact absurd hlink.2 (helse c hget).2

theorem differsElsewhere_of_cancel {s s' : State C} {o : Origin C.AccountId}
    {id pid cid : Nat} {c : Crowdfunding.Campaign C.crowdfunding}
    (h : step s (.crowdfunding o (.cancelCampaign cid)) = .ok s')
    (hget : s.campaigns.get cid = some c) (hlink : LinkedElsewhere id pid c) :
    DiffersElsewhere id pid s s' := by
  simp only [step, Crowdfunding.dispatch, Crowdfunding.cancelCampaign,
    do_eq_ok] at h
  obtain ⟨_, _, c', hget', _, rfl⟩ := h
  cases hget.symm.trans hget'
  refine ⟨rfl, fun cid' => ?_⟩
  by_cases hcid : cid' = cid
  · subst hcid
    refine .inr ⟨fun c₁ h₁ => ?_, fun c₁ h₁ => ?_⟩
    · cases hget.symm.trans h₁
      exact hlink
    · cases (StorageMap.get_insert_self _ _ _).symm.trans h₁
      exact hlink
  · exact .inl (StorageMap.get_insert_ne _ _ hcid).symm

/-- `slash_participation` as the runtime runs it. -/
def slashParticipation (s : State C) (o : Origin C.AccountId)
    (id pid amount : Nat) (reporter : Option C.AccountId) :
    Except DispatchError (Rwa.State C.toConfig) :=
  Rwa.slashParticipation (crowdfundingLifecycleGuard s) (rwaState s) o id pid
    amount reporter

section Slash

variable {s : State C} {r₀ r : Rwa.State C.toConfig} {o : Origin C.AccountId}
  {id pid amount : Nat} {reporter : Option C.AccountId}

/-- Of a call that no guard would stop, any active campaign of the asset
does. -/
private theorem slash_blocked (hrwa : rwaState s = r₀)
    (hr : Rwa.slashParticipation .unguarded r₀ o id pid amount reporter = .ok r)
    (hactive : HasActive s (LinkedTo id pid) ∨
      HasActive s (LinkedElsewhere id pid)) :
    slashParticipation s o id pid amount reporter =
      .error (C.err .blockedByLifecycleGuard) := by
  unfold slashParticipation
  rw [hrwa]
  refine slash_of_refused (fun hg => ?_) hr
  obtain ⟨hown, helse⟩ := (canSlashParticipation_iff s id pid).mp hg
  exact hactive.elim hown helse

private theorem slash_unblocked (hrwa : rwaState s = r₀)
    (hr : Rwa.slashParticipation .unguarded r₀ o id pid amount reporter = .ok r)
    (hown : ¬ HasActive s (LinkedTo id pid))
    (helse : ¬ HasActive s (LinkedElsewhere id pid)) :
    slashParticipation s o id pid amount reporter = .ok r := by
  unfold slashParticipation
  rw [slash_of_agreed ((canSlashParticipation_iff _ _ _).mpr ⟨hown, helse⟩),
    hrwa, hr]

end Slash

/-- A call that would fail with no guard fails in both states.  Any other has
the same outcome in both, and is blocked by campaigns of the participation only,
exactly when a campaign of the participation is active, or none of the asset's
other participations has an active one in either state. -/
theorem slash_isolated_iff {s₁ s₂ : State C} {id pid : Nat}
    (h : DiffersElsewhere id pid s₁ s₂) (o : Origin C.AccountId) (amount : Nat)
    (reporter : Option C.AccountId) :
    ((Rwa.slashParticipation .unguarded (rwaState s₁) o id pid amount
        reporter).isOk = false →
      (slashParticipation s₁ o id pid amount reporter).isOk = false ∧
      (slashParticipation s₂ o id pid amount reporter).isOk = false) ∧
    ((Rwa.slashParticipation .unguarded (rwaState s₁) o id pid amount
        reporter).isOk = true →
      (((slashParticipation s₁ o id pid amount reporter).isOk =
          (slashParticipation s₂ o id pid amount reporter).isOk ∧
        ∀ s, s = s₁ ∨ s = s₂ →
          slashParticipation s o id pid amount reporter =
            .error (C.err .blockedByLifecycleGuard) →
          HasActive s (LinkedTo id pid)) ↔
      (HasActive s₁ (LinkedTo id pid) ∨
        ¬ HasActive s₁ (LinkedElsewhere id pid) ∧
        ¬ HasActive s₂ (LinkedElsewhere id pid)))) := by
  constructor
  · intro hfail
    refine ⟨slash_of_guarded hfail, slash_of_guarded ?_⟩
    rwa [h.rwa]
  · intro hok
    obtain ⟨r, hr⟩ := isOk_iff_exists.mp hok
    -- In either state the guard alone decides.
    constructor
    · rintro ⟨_, hown⟩
      by_contra hnot
      obtain ⟨hown₁, helse⟩ := not_or.mp hnot
      by_cases helse₁ : HasActive s₁ (LinkedElsewhere id pid)
      · exact hown₁ (hown s₁ (.inl rfl) (slash_blocked rfl hr (.inr helse₁)))
      · have helse₂ : HasActive s₂ (LinkedElsewhere id pid) := by
          by_contra helse₂
          exact helse ⟨helse₁, helse₂⟩
        exact hown₁ (h.symm.linkedTo
          (hown s₂ (.inr rfl) (slash_blocked h.rwa hr (.inr helse₂))))
    · intro hcond
      by_cases hown : HasActive s₁ (LinkedTo id pid)
      · have hown₂ := h.linkedTo hown
        rw [slash_blocked rfl hr (.inl hown),
          slash_blocked h.rwa hr (.inl hown₂)]
        refine ⟨rfl, fun s hs _ => ?_⟩
        rcases hs with rfl | rfl
        · exact hown
        · exact hown₂
      · obtain ⟨helse₁, helse₂⟩ := hcond.resolve_left hown
        have hok₁ := slash_unblocked rfl hr hown helse₁
        have hok₂ := slash_unblocked h.rwa hr
          (fun hown₂ => hown (h.symm.linkedTo hown₂)) helse₂
        refine ⟨by rw [hok₁, hok₂], fun s hs herr => ?_⟩
        rcases hs with rfl | rfl
        · rw [hok₁] at herr
          cases herr
        · rw [hok₂] at herr
          cases herr

/-- Accounts 2 and 3 take part in one asset, account 2 opens a campaign, and
`requests` follow. -/
def twoHolders (requests : List (Action chain)) : State chain :=
  chainAfter ([ rwaBy 1 (.registerAsset 9 Rwa.defaultPolicy []),
    rwaBy 2 (.requestParticipation 0 [2]),
    rwaBy 3 (.requestParticipation 0 [3]),
    licensedCampaign 2 0 50 ] ++ requests)

/-- The first campaign is cancelled. -/
def cancelled (s : State chain) : State chain :=
  Transition.final step s [crowdfundingByRoot (.cancelCampaign 0)]

private theorem differsElsewhere_cancelled {s : State chain}
    (hlink : (s.campaigns.get 0).any
      (fun c => decide (LinkedElsewhere 0 1 c)) = true)
    (h : (step s (crowdfundingByRoot (.cancelCampaign 0))).isOk = true) :
    DiffersElsewhere 0 1 s (cancelled s) := by
  obtain ⟨c, hget, hlink⟩ := Crowdfunding.exists_campaign hlink
  exact differsElsewhere_of_cancel (Transition.step_final h) hget hlink

/-- With a campaign of account 3 open as well, its participation is protected
whatever becomes of the other campaign. -/
theorem slash_isolated_own_campaign :
    (slashParticipation (twoHolders [licensedCampaign 3 1 50]) .root 0 1 10
      none).isOk =
    (slashParticipation (cancelled (twoHolders [licensedCampaign 3 1 50])) .root
      0 1 10 none).isOk :=
  (((slash_isolated_iff (differsElsewhere_cancelled (by decide +kernel)
    (by decide +kernel)) .root 10 none).2 (by decide +kernel)).mpr
      (.inl ((hasActive_iff_any _ _).mpr (by decide +kernel)))).1

/-- A campaign of account 2 protects account 3, whose participation has no
campaign, and its end exposes it. -/
theorem slash_blocked_elsewhere :
    ∃ s₁ s₂ : State chain, Reachable (fun _ _ => True) s₁ ∧
      Reachable (fun _ _ => True) s₂ ∧ DiffersElsewhere 0 1 s₁ s₂ ∧
      ¬ HasActive s₁ (LinkedTo 0 1) ∧
      failure (slashParticipation s₁ .root 0 1 10 none) =
        some (chain.err .blockedByLifecycleGuard) ∧
      failure (slashParticipation s₂ .root 0 1 10 none) = none := by
  have hreach : Reachable (fun _ _ => True) (twoHolders []) :=
    chainAfter_reachable (fun _ _ _ => trivial) (by decide +kernel)
  have hcancel : (step (twoHolders [])
      (crowdfundingByRoot (.cancelCampaign 0))).isOk = true := by
    decide +kernel
  refine ⟨twoHolders [], cancelled (twoHolders []), hreach,
    .step hreach trivial (Transition.step_final hcancel),
    differsElsewhere_cancelled (by decide +kernel) hcancel, ?_,
    by decide +kernel, by decide +kernel⟩
  rw [hasActive_iff_any]
  decide +kernel

end Thxnet.Runtime
