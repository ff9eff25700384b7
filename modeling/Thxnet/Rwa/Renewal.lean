import Thxnet.Rwa.Durations
import Thxnet.Rwa.Mock

/-!
# Renewals of live participations

A renewal charges the entry fee of the policy and starts a new term under it,
whatever the policy is by then.  It does not hurt somebody whose term still
runs, because a participation counts as a participant from the moment it enters
the count, and neither the fee nor a shorter term may be imposed while there
are participants.

`lastEntryFee id pid t` reads off an execution the fee that was in force when
the participation last entered the count; `FeeRecorded` is the invariant that
ties it to the policy of now.
-/

namespace Thxnet.Rwa

open Thxnet.Lib Thxnet.Frame

variable {R : Config}

/-! ## Entering the participant count -/

/-- Whether a call enters the participation into the participant count: the
request that creates it does, and so does a renewal that finds it expired or
lapsed. -/
def entersCount (id pid : Nat) (s : State R) : Action R → Bool
  | .call _ _ (.requestParticipation i _) =>
      i = id && s.nextParticipationId i = pid
  | .call _ _ (.renewParticipation i q) =>
      i = id && q = pid && ((s.participations i).get q).any fun p =>
        p.status = .expired || p.lapsed s.now
  | _ => false

/-- The fee an asset asks for. -/
def Books.entryFee (b : Books R) (id : Nat) : Option Nat :=
  (b.rwaAssets.get id).map fun asset => asset.policy.entryFee

/-- Note the fee in force if the step enters the participation. -/
def recordEntry (id pid : Nat) (fee : Option Nat) (p : State R × Action R) :
    Option Nat :=
  if entersCount id pid p.1 p.2 = true then p.1.toBooks.entryFee id else fee

/-- The fee that was in force when the participation last entered the count,
along an execution. -/
def lastEntryFee (id pid : Nat) (t : List (State R × Action R)) :
    Option Nat :=
  t.foldl (recordEntry id pid) none

theorem Books.entryFee_eq (b : Books R) (id : Nat) :
    b.entryFee id = (b.terms id).map fun t => t.policy.entryFee := by
  unfold Books.entryFee Books.terms
  cases b.rwaAssets.get id <;> rfl

/-! ## The fee of a participant is the fee of now -/

/-- While the participation counts, the recorded fee is the fee of the
policy. -/
def FeeRecorded (id pid : Nat) (fee : Option Nat) (b : Books R) : Prop :=
  ∀ e, b.entry id pid = some e → e.status.isLive = true →
    fee = b.entryFee id

section Change

variable {a : Action R} {now id pid : Nat} {b b' : Books R} {fee : Option Nat}

private theorem Updates.entryFee {i q : Nat} {t t₀ : Terms R}
    {e : Option Entry} (hup : Updates b b' i q t e)
    (ht₀ : b.terms i = some t₀) (hpolicy : t.policy = t₀.policy) :
    b'.entryFee id = b.entryFee id := by
  rw [Books.entryFee_eq, Books.entryFee_eq]
  by_cases hid : id = i
  · rw [hid, hup.terms_self, ht₀, Option.map_some, Option.map_some, hpolicy]
  · rw [hup.terms_ne id hid]

private theorem Change.entryFee (h : Change a now b b')
    (hregister : ∀ g o beneficiary policy metadata,
      a ≠ .call g o (.registerAsset beneficiary policy metadata))
    (hupdate : ∀ g o policy, a ≠ .call g o (.updateAssetPolicy id policy)) :
    b'.entryFee id = b.entryFee id := by
  cases h with
  | detail _ hsame => rw [Books.entryFee_eq, hsame.terms, ← Books.entryFee_eq]
  | registered ha => exact absurd ha (hregister _ _ _ _ _)
  | @policyUpdated g o i _ policy ha _ _ _ _ _ _ _ hterms =>
      have hid : id ≠ i := by
        rintro rfl
        exact hupdate g o policy ha
      rw [Books.entryFee_eq, hterms id hid, ← Books.entryFee_eq]
  | requested _ hget _ _ _ hup =>
      exact hup.entryFee (Books.terms_of_get hget) rfl
  | approved hget _ _ _ hup | rejected hget _ _ _ hup
  | renewed hget _ _ _ hup => exact hup.entryFee (Books.terms_of_get hget) rfl
  | ended hget _ _ _ _ _ hup => exact hup.entryFee (Books.terms_of_get hget) rfl
  | slashed _ hget _ _ _ _ _ hup =>
      exact hup.entryFee (Books.terms_of_get hget) rfl
  | reopened _ hget _ _ _ _ hup =>
      exact hup.entryFee (Books.terms_of_get hget) rfl

/-- A changed entry does not matter if it counts only when it did before. -/
private theorem FeeRecorded.update {i q : Nat} {t t₀ : Terms R}
    {e : Option Entry} (h : FeeRecorded id pid fee b)
    (hup : Updates b b' i q t e) (ht₀ : b.terms i = some t₀)
    (hpolicy : t.policy = t₀.policy)
    (hself : id = i → pid = q → ∀ e', e = some e' → e'.status.isLive = true →
      ∃ e₀, b.entry i q = some e₀ ∧ e₀.status.isLive = true) :
    FeeRecorded id pid fee b' := by
  intro e' he' hlive
  rw [hup.entryFee ht₀ hpolicy]
  by_cases hid : id = i ∧ pid = q
  · obtain ⟨rfl, rfl⟩ := hid
    rw [hup.entry_self] at he'
    obtain ⟨e₀, he₀, hlive₀⟩ := hself rfl rfl e' he' hlive
    exact h e₀ he₀ hlive₀
  · rw [hup.entry_ne id pid hid] at he'
    exact h e' he' hlive

/-- A change that does not enter the participation keeps the record right: a
participant freezes the fee. -/
theorem FeeRecorded.change (h : FeeRecorded id pid fee b) (hs : Sound b)
    (hc : Change a now b b')
    (hrequest : ∀ g o holders,
      a = .call g o (.requestParticipation id holders) →
      b.nextParticipationId id ≠ pid)
    (hrenew : ∀ g o p, a = .call g o (.renewParticipation id pid) →
      (b.participations id).get pid = some p → p.status ≠ .expired) :
    FeeRecorded id pid fee b' := by
  cases hc with
  | detail _ hsame =>
      intro e he hlive
      rw [Books.entryFee_eq, hsame.terms, ← Books.entryFee_eq]
      rw [hsame.entry] at he
      exact h e he hlive
  | registered _ _ _ hterms hentry =>
      intro e he hlive
      rw [hentry] at he
      have hid : id ≠ b.nextRwaAssetId := by
        rintro rfl
        rw [hs.known _ pid (hs.assets _ (Nat.le_refl _))] at he
        cases he
      rw [Books.entryFee_eq, hterms id hid, ← Books.entryFee_eq]
      exact h e he hlive
  | @policyUpdated _ _ i asset policy _ hget _ _ _ hfrozen _ hself hterms
      hentry =>
      intro e he hlive
      rw [hentry] at he
      rw [h e he hlive, Books.entryFee_eq, Books.entryFee_eq]
      by_cases hid : id = i
      · subst hid
        -- the participation counts, so the new policy has the same fee
        have hsame := hfrozen (hs.count_pos hget he hlive)
        simp only [checkFrozenTerms, do_eq_ok] at hsame
        rw [hself, Books.terms_of_get hget]
        exact congrArg some hsame.1
      · rw [hterms id hid]
  | requested ha hget _ _ _ hup =>
      refine h.update hup (Books.terms_of_get hget) rfl fun hid hpid => ?_
      subst hid
      exact absurd hpid.symm (hrequest _ _ _ ha)
  | approved hget hp hpending _ hup =>
      refine h.update hup (Books.terms_of_get hget) rfl fun _ _ _ _ _ =>
        ⟨_, Books.entry_of_get hp, ?_⟩
      simp [Participation.entry, hpending, ParticipationStatus.isLive]
  | rejected hget _ _ _ hup =>
      exact h.update hup (Books.terms_of_get hget) rfl fun _ _ _ he => by
        cases he
  | ended hget _ _ hstatus _ _ hup =>
      refine h.update hup (Books.terms_of_get hget) rfl fun _ _ e' he hl => ?_
      cases he
      rw [hstatus] at hl
      cases hl
  | slashed _ hget _ _ _ _ _ hup =>
      refine h.update hup (Books.terms_of_get hget) rfl fun _ _ e' he hl => ?_
      cases he
      cases hl
  | renewed hget hp hrun _ hup =>
      exact h.update hup (Books.terms_of_get hget) rfl fun _ _ _ _ _ =>
        ⟨_, Books.entry_of_get hp, isLive_of_isActive hrun.1⟩
  | reopened ha hget hp hexpired _ _ hup =>
      refine h.update hup (Books.terms_of_get hget) rfl fun hid hpid => ?_
      subst hid hpid
      exact absurd hexpired (hrenew _ _ _ ha hp)

end Change

/-! ## Renewals that find the term running -/

/-- What a renewal does that finds the participation neither expired nor
lapsed: it charges the fee and starts a new term. -/
theorem renewParticipation_running {s s' : State R} {o : Origin R.AccountId}
    {id pid : Nat} {p : Participation R}
    (h : renewParticipation s o id pid = .ok s')
    (hp : (s.participations id).get pid = some p)
    (hexpired : p.status ≠ .expired) (hlapsed : p.lapsed s.now = false) :
    p.status.isActive = true ∧ ∃ asset, s.rwaAssets.get id = some asset ∧
      doTransfer s.world asset.policy.depositCurrency p.payer
        asset.beneficiary asset.policy.entryFee = .ok s'.world ∧
      s'.toBooks = { s.toBooks with
        world := s'.world
        participations := s.participations.insert id pid
          { p with status := asset.policy.term s.now } } := by
  simp only [renewParticipation, do_eq_ok, ensureSigned_eq_ok] at h
  obtain ⟨who, rfl, asset, hget, _, p₀, hp₀, rfl, ⟨s₁, p₁, settled⟩, hsettle,
    h⟩ := h
  cases hp.symm.trans hp₀
  have hsame : s₁ = s := by
    rcases trySettleExpiry_cases hsettle with ⟨_, _, hs₁, _⟩ | ⟨_, htrue, _⟩
    · exact hs₁
    · rw [hlapsed] at htrue
      cases htrue
  subst hsame
  obtain ⟨p₂, hp₂, _, _, hrenew⟩ := renewSettled_cases h
  cases hp.symm.trans hp₂
  rcases hrenew with ⟨hactive, _, w, hfee, hbooks⟩ | ⟨hst, _⟩
  · refine ⟨hactive, asset, hget, ?_, ?_⟩
    · rw [hbooks]
      exact hfee
    · rw [hbooks]
  · exact absurd hst hexpired

theorem renewParticipation_exists {s s' : State R} {o : Origin R.AccountId}
    {id pid : Nat} (h : renewParticipation s o id pid = .ok s') :
    ∃ p, (s.participations id).get pid = some p := by
  simp only [renewParticipation, do_eq_ok] at h
  obtain ⟨_, _, _, _, _, p, hp, _⟩ := h
  exact ⟨p, hp⟩

/-! ## Steps and runs -/

theorem FeeRecorded.step {ok : State R → Action R → Prop} {s s' : State R}
    {a : Action R} {id pid : Nat} {fee : Option Nat} (hs : Reachable ok s)
    (hfee : FeeRecorded id pid fee s.toBooks) (h : step s a = .ok s') :
    FeeRecorded id pid (recordEntry id pid fee (s, a)) s'.toBooks := by
  have hsound := sound_of_reachable hs
  unfold recordEntry
  split
  · -- the step enters the participation, and no policy changes meanwhile
    next henters =>
      have hkept : s'.toBooks.entryFee id = s.toBooks.entryFee id := by
        refine step_induct (J := fun b => b.entryFee id =
          s.toBooks.entryFee id) h (fun b b' hmove hb => ?_) rfl
        refine (hmove.change.entryFee ?_ ?_).trans hb
        · rintro g o beneficiary policy metadata rfl
          cases henters
        · rintro g o policy rfl
          cases henters
      intro e _ _
      exact hkept.symm
  · next henters =>
      by_cases hrequest : ∃ g o holders,
          a = .call g o (.requestParticipation id holders)
      · obtain ⟨g, o, holders, rfl⟩ := hrequest
        obtain ⟨_, hmove⟩ := requestParticipation_move (g := g) h
        refine hfee.change hsound hmove.change ?_ fun g o p ha => by cases ha
        intro _ _ _ _ hpid
        exact henters (by simp [entersCount, hpid])
      by_cases hrenew : ∃ g o, a = .call g o (.renewParticipation id pid)
      · -- the term is running, so the renewal changes nothing but the term
        obtain ⟨g, o, rfl⟩ := hrenew
        obtain ⟨p, hp⟩ := renewParticipation_exists h
        obtain ⟨hexpired, hlapsed⟩ : p.status ≠ .expired ∧
            p.lapsed s.now = false := by
          simpa [entersCount, hp] using henters
        obtain ⟨hactive, asset, _, _, hbooks⟩ :=
          renewParticipation_running h hp hexpired hlapsed
        intro _ _ _
        rw [hfee _ (Books.entry_of_get hp) (isLive_of_isActive hactive), hbooks]
        rfl
      · refine (step_induct (J := fun b => Sound b ∧ FeeRecorded id pid fee b) h
          (fun b b' hmove hb => ⟨hb.1.change hmove.change, ?_⟩)
          ⟨hsound, hfee⟩).2
        refine hb.2.change hb.1 hmove.change ?_ ?_
        · intro g o holders ha
          exact absurd ⟨g, o, holders, ha⟩ hrequest
        · intro g o p ha
          exact absurd ⟨g, o, ha⟩ hrenew

theorem feeRecorded_of_run {s₀ s : State R} {t : List (State R × Action R)}
    (h0 : Genesis s₀) (hrun : Transition.Run step s₀ t s) (id pid : Nat) :
    FeeRecorded id pid (lastEntryFee id pid t) s.toBooks := by
  have hboth : Reachable (fun _ _ => True) s ∧
      FeeRecorded id pid (lastEntryFee id pid t) s.toBooks := by
    refine Transition.Run.history (A := fun _ _ => True)
      (J := fun s fee => Reachable (fun _ _ => True) s ∧
        FeeRecorded id pid fee s.toBooks) ?_ hrun (fun _ _ => trivial) ?_
    · rintro s a s' fee - ⟨hs, hfee⟩ hstep
      exact ⟨.step hs trivial hstep, hfee.step hs hstep⟩
    · refine ⟨.init h0, ?_⟩
      obtain ⟨world, now, rfl⟩ := h0
      intro e he
      cases he
  exact hboth.2

/-! ## A renewal never hurts -/

/-- A new term under the policy does not end before one that was within it. -/
private theorem WithinTerm.renewal {policy : AssetPolicy R} {now start : Nat}
    {expiry : Option Nat} (h : WithinTerm policy now (.active start expiry)) :
    ∀ e', policy.maxDuration.map (saturatingAdd 32 now) = some e' →
      ∃ e, expiry = some e ∧ e ≤ e' := by
  intro e' he'
  obtain ⟨d, hd, rfl⟩ := Option.map_eq_some_iff.mp he'
  obtain ⟨hstart, hlast⟩ := h start expiry rfl
  obtain ⟨e, he, hle⟩ := hlast d hd
  exact ⟨e, he, Nat.le_trans hle
    (saturatingAdd_mono hstart (Nat.le_refl _))⟩

/-- A renewal that finds the participation active and within its term gives it
a term that ends no earlier, leaves an unlimited term unlimited, and moves
exactly the fee that was in force when the participation last entered the
participant count. -/
theorem renewal_no_worse {s₀ s s' : State R} {t : List (State R × Action R)}
    {g : LifecycleGuard} {o : Origin R.AccountId} {id pid start : Nat}
    {expiry : Option Nat} {p : Participation R}
    (h0 : Genesis s₀) (hrun : Transition.Run step s₀ t s)
    (hp : (s.participations id).get pid = some p)
    (hst : p.status = .active start expiry)
    (hopen : ∀ e, expiry = some e → s.now < e)
    (h : step s (.call g o (.renewParticipation id pid)) = .ok s') :
    ∃ asset p' expiry' fee, s.rwaAssets.get id = some asset ∧
      (s'.participations id).get pid = some p' ∧
      p'.status = .active s.now expiry' ∧
      (∀ e', expiry' = some e' → ∃ e, expiry = some e ∧ e ≤ e') ∧
      (expiry = none → expiry' = none) ∧
      lastEntryFee id pid t = some fee ∧
      doTransfer s.world asset.policy.depositCurrency p.payer
        asset.beneficiary fee = .ok s'.world := by
  have hlapsed : p.lapsed s.now = false := by
    unfold Participation.lapsed
    rw [hst]
    cases expiry with
    | none => rfl
    | some e => simpa using hopen e rfl
  obtain ⟨hactive, asset, hget, hpay, hbooks⟩ :=
    renewParticipation_running h hp (by simp [hst]) hlapsed
  have hreach : Reachable (fun _ _ => True) s :=
    Transition.Reach.run (.init h0) hrun fun _ _ => trivial
  have hterm : WithinTerm asset.policy s.now p.status :=
    termed_of_reachable hreach id pid _ _ (Books.terms_of_get hget)
      (Books.entry_of_get hp)
  have hlater := WithinTerm.renewal (hst ▸ hterm)
  have hfee := feeRecorded_of_run h0 hrun id pid _ (Books.entry_of_get hp)
    (isLive_of_isActive hactive)
  refine ⟨asset, { p with status := asset.policy.term s.now }, _,
    asset.policy.entryFee, hget, ?_, rfl, hlater, ?_, ?_, hpay⟩
  · rw [hbooks]
    simp
  · intro hnone
    cases hnew : asset.policy.maxDuration.map (saturatingAdd 32 s.now) with
    | none => rfl
    | some e' =>
        obtain ⟨e, he, _⟩ := hlater e' hnew
        cases hnone.symm.trans he
  · rw [hfee, Books.entryFee, hget]
    rfl

/-! ### A concrete renewal

The asset of account 1 asks for a fee of 7 and gives terms of 100 blocks.
Account 2 takes part, the policy is relaxed to unlimited terms, and account 2
renews in the next block.
-/

/-- The policy at entry. -/
def limitedPolicy : AssetPolicy vault :=
  { defaultPolicy with entryFee := 7, maxDuration := some 100 }

/-- The run up to the renewal. -/
def beforeRenewal : List (Action vault) :=
  [registered limitedPolicy, signedBy 2 (.requestParticipation 0 [2]),
    signedBy 1 (.updateAssetPolicy 0 { limitedPolicy with maxDuration := none }),
    .nextBlock]

/-- The state before the renewal. -/
def renewalState : State vault := vaultAfter beforeRenewal

theorem renewal_no_worse_relaxed :
    ∃ (s' : State vault) (p' : Participation vault) (expiry' : Option Nat)
      (fee : Nat),
      step renewalState (signedBy 2 (.renewParticipation 0 0)) = .ok s' ∧
      (s'.participations 0).get 0 = some p' ∧
      p'.status = .active renewalState.now expiry' ∧
      (∀ e', expiry' = some e' → ∃ e, some 101 = some e ∧ e ≤ e') ∧
      lastEntryFee 0 0 (Transition.trace step vaultGenesis beforeRenewal) =
        some fee := by
  have hexec : (Transition.exec step vaultGenesis beforeRenewal).isOk = true :=
    by decide +kernel
  have hrun := Transition.run_of_exec (Transition.exec_final hexec)
  obtain ⟨p, hp, hst⟩ := exists_participation (s := renewalState)
    (p := fun p => p.status = .active 1 (some 101)) (by decide +kernel)
  have hok : (step renewalState
      (signedBy 2 (.renewParticipation 0 0))).isOk = true := by decide +kernel
  have hstep := Transition.step_final hok
  obtain ⟨asset, p', expiry', fee, _, hp', hst', hlater, _, hfee, _⟩ :=
    renewal_no_worse ⟨_, _, rfl⟩ hrun hp hst
      (by rintro e ⟨⟩; decide +kernel) hstep
  exact ⟨_, p', expiry', fee, hstep, hp', hst', hlater, hfee⟩

end Thxnet.Rwa
