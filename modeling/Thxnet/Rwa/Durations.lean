import Thxnet.Rwa.Counting

/-!
# Terms of participations

An active participation lasts at most as long as the policy of its asset allows
from its start on (`WithinTerm`): policies are only relaxed while there are
participants.  So a renewal never shortens a term, and what is set before the
end of a participation stays before it through renewals and expiry
(`Change.outlives`).
-/

namespace Thxnet.Rwa

open Thxnet.Lib Thxnet.Frame

variable {R : Config}

/-! ## Terms under a policy -/

/-- An active participation has started, and its term is no longer than the
policy gives from its start. -/
def WithinTerm (policy : AssetPolicy R) (now : Nat)
    (status : ParticipationStatus) : Prop :=
  ∀ start expiry, status = .active start expiry → start ≤ now ∧
    ∀ d, policy.maxDuration = some d →
      ∃ e, expiry = some e ∧ e ≤ saturatingAdd 32 start d

section Term

variable {policy : AssetPolicy R} {now : Nat} {status : ParticipationStatus}

theorem withinTerm_term (policy : AssetPolicy R) (now : Nat) :
    WithinTerm policy now (policy.term now) := by
  rintro start expiry ⟨⟩
  refine ⟨Nat.le_refl _, fun d hd =>
    ⟨saturatingAdd 32 now d, ?_, Nat.le_refl _⟩⟩
  rw [hd]
  rfl

theorem withinTerm_of_not_active (h : status.isActive = false) :
    WithinTerm policy now status := by
  rintro start expiry rfl
  cases h

theorem WithinTerm.mono {now' : Nat} (h : WithinTerm policy now status)
    (hle : now ≤ now') : WithinTerm policy now' status :=
  fun start expiry hst =>
    ⟨Nat.le_trans (h start expiry hst).1 hle, (h start expiry hst).2⟩

/-- A policy that may be set while there are participants gives no less. -/
theorem WithinTerm.frozen {policy' : AssetPolicy R}
    (h : WithinTerm policy now status)
    (hfrozen : checkFrozenTerms policy policy' = .ok ()) :
    WithinTerm policy' now status := by
  intro start expiry hst
  obtain ⟨hstart, hlast⟩ := h start expiry hst
  refine ⟨hstart, fun d' hd' => ?_⟩
  simp only [checkFrozenTerms, do_eq_ok] at hfrozen
  obtain ⟨_, hduration⟩ := hfrozen
  rw [hd'] at hduration
  cases hd : policy.maxDuration with
  | none =>
      rw [hd] at hduration
      cases hduration
  | some d =>
      rw [hd] at hduration
      obtain ⟨e, he, hle⟩ := hlast d hd
      exact ⟨e, he, Nat.le_trans hle
        (saturatingAdd_mono (Nat.le_refl _) (ensure_eq_ok.mp hduration))⟩

end Term

/-! ## The invariant -/

/-- Every participation is within the term its asset gives. -/
def Termed (now : Nat) (b : Books R) : Prop :=
  ∀ id pid t e, b.terms id = some t → b.entry id pid = some e →
    WithinTerm t.policy now e.status

section Change

variable {a : Action R} {now : Nat} {b b' : Books R} {id pid : Nat}
  {t t₀ : Terms R} {e : Option Entry}

private theorem Termed.congr (h : Termed now b) (hsame : SameRegister b b') :
    Termed now b' :=
  hsame.each (P := fun policy en => WithinTerm policy now en.status) h

private theorem Termed.setTerms (h : Termed now b)
    (hself : b'.terms id = some t)
    (hterms : ∀ i, i ≠ id → b'.terms i = b.terms i)
    (hentry : ∀ i q, b'.entry i q = b.entry i q)
    (hwithin : ∀ q e', b.entry id q = some e' →
      WithinTerm t.policy now e'.status) : Termed now b' :=
  each_setTerms (P := fun policy en => WithinTerm policy now en.status) hself
    hterms hentry h hwithin

private theorem Termed.update {asset : AssetInfo R} (h : Termed now b)
    (hget : b.rwaAssets.get id = some asset) (hup : Updates b b' id pid t e)
    (hpolicy : t.policy = asset.policy)
    (hwithin : ∀ e', e = some e' → WithinTerm asset.policy now e'.status) :
    Termed now b' :=
  hup.each (P := fun policy en => WithinTerm policy now en.status)
    (Books.terms_of_get hget) hpolicy h (by rwa [hpolicy])

/-- An active participation counts, so it freezes the policy. -/
theorem Sound.count_pos {asset : AssetInfo R} {en : Entry}
    (hs : Sound b) (hget : b.rwaAssets.get id = some asset)
    (he : b.entry id pid = some en) (hlive : en.status.isLive = true) :
    0 < asset.participantCount := by
  have hcount : asset.participantCount = b.tally id Entry.live :=
    hs.counted id _ (Books.terms_of_get hget)
  have hle := le_tally he Entry.live
  rw [live_of_isLive hlive] at hle
  omega

private theorem isActive_of_ended {status : ParticipationStatus}
    (h : status.isLive = false) : status.isActive = false := by
  cases status with
  | active => cases h
  | _ => rfl

theorem Termed.change (ht : Termed now b) (h : Change a now b b')
    (hs : Sound b) : Termed now b' := by
  cases h with
  | detail _ hsame => exact ht.congr hsame
  | registered _ _ hnew hterms hentry =>
      refine ht.setTerms hnew hterms hentry fun q e' he => ?_
      rw [hs.known _ q (hs.assets _ (Nat.le_refl _))] at he
      cases he
  | @policyUpdated _ _ id asset policy _ hget _ _ _ hfrozen _ hself hterms
      hentry =>
      refine ht.setTerms hself hterms hentry fun q e' he => ?_
      cases hactive : e'.status.isActive with
      | false => exact withinTerm_of_not_active hactive
      | true =>
          have hold := ht id q _ e' (Books.terms_of_get hget) he
          exact hold.frozen
            (hfrozen (hs.count_pos hget he (isLive_of_isActive hactive)))
  | requested _ hget _ _ _ hup =>
      refine ht.update hget hup rfl ?_
      rintro e' ⟨⟩
      dsimp only
      split
      · exact withinTerm_of_not_active rfl
      · exact withinTerm_term _ _
  | approved hget _ _ _ hup | renewed hget _ _ _ hup =>
      refine ht.update hget hup rfl ?_
      rintro e' ⟨⟩
      exact withinTerm_term _ _
  | rejected hget _ _ _ hup => exact ht.update hget hup rfl nofun
  | ended hget _ _ hstatus _ _ hup =>
      refine ht.update hget hup rfl ?_
      rintro e' ⟨⟩
      exact withinTerm_of_not_active (isActive_of_ended hstatus)
  | slashed _ hget _ _ _ _ _ hup =>
      refine ht.update hget hup rfl ?_
      rintro e' ⟨⟩
      exact withinTerm_of_not_active rfl
  | reopened _ hget _ _ _ _ hup =>
      refine ht.update hget hup rfl ?_
      rintro e' ⟨⟩
      exact withinTerm_term _ _

end Change

/-! ## What stays before the end of a participation -/

/-- The block comes before the end of the participation: before its expiry if
it is active, before now if it has expired.  Other ends do not count, since
nothing follows them. -/
def Outlives (now block : Nat) : ParticipationStatus → Prop
  | .active _ (some e) => block < e
  | .expired => block < now
  | .active _ none => True
  | .pendingApproval => True
  | .exited => True
  | .slashed => True
  | .revoked => True

section Outlives

variable {now block : Nat} {status : ParticipationStatus}

theorem Outlives.mono {now' : Nat} (h : Outlives now block status)
    (hle : now ≤ now') : Outlives now' block status := by
  unfold Outlives at h ⊢
  split at h
  · exact h
  · exact Nat.lt_of_lt_of_le h hle
  all_goals trivial

theorem Outlives.renewed {policy : AssetPolicy R}
    (h : Outlives now block status) (hactive : status.isActive = true)
    (hterm : WithinTerm policy now status) :
    Outlives now block (policy.term now) := by
  cases status with
  | active start expiry =>
      obtain ⟨hstart, hlast⟩ := hterm start expiry rfl
      unfold AssetPolicy.term
      cases hd : policy.maxDuration with
      | none => trivial
      | some d =>
          obtain ⟨e, rfl, hle⟩ := hlast d hd
          have hlater : e ≤ saturatingAdd 32 now d :=
            Nat.le_trans hle (saturatingAdd_mono hstart (Nat.le_refl _))
          exact Nat.lt_of_lt_of_le h hlater
  | _ => cases hactive

theorem Outlives.reopened {policy : AssetPolicy R} (hnow : now < 2 ^ 32)
    (h : Outlives now block .expired) :
    Outlives now block (policy.term now) := by
  unfold AssetPolicy.term
  cases policy.maxDuration with
  | none => trivial
  | some d =>
      have hle : now ≤ saturatingAdd 32 now d := by
        unfold saturatingAdd maxValue
        omega
      exact Nat.lt_of_lt_of_le h hle

theorem Outlives.ended {p : Participation R} (h : Outlives now block p.status)
    (hstatus : status.isLive = false)
    (hexpired : status = .expired → p.lapsed now = true) :
    Outlives now block status := by
  cases status with
  | active => cases hstatus
  | expired =>
      have hlapsed := hexpired rfl
      unfold Participation.lapsed at hlapsed
      split at hlapsed
      · next hst =>
          rw [hst] at h
          exact Nat.lt_of_lt_of_le h (of_decide_eq_true hlapsed)
      · cases hlapsed
  | _ => trivial

end Outlives

section Change

variable {a : Action R} {now id pid : Nat} {b b' : Books R} {en : Entry}

/-- The participation has been approved, and what came before its end still
does. -/
def StillOutlives (now : Nat) (en : Entry) (e' : Option Entry) : Prop :=
  ∃ en', e' = some en' ∧ en'.status ≠ .pendingApproval ∧
    ∀ block, Outlives now block en.status → Outlives now block en'.status

private theorem Updates.stillOutlives {i q : Nat} {t : Terms R}
    {e' : Option Entry} (hup : Updates b b' i q t e')
    (he : b.entry id pid = some en) (happroved : en.status ≠ .pendingApproval)
    (hself : b.entry i q = some en → StillOutlives now en e') :
    StillOutlives now en (b'.entry id pid) := by
  by_cases hid : id = i ∧ pid = q
  · obtain ⟨rfl, rfl⟩ := hid
    rw [hup.entry_self]
    exact hself he
  · exact ⟨en, (hup.entry_ne id pid hid).trans he, happroved, fun _ h => h⟩

/-- What a change does to a participation that has been approved: it stays so,
and what came before its end still does. -/
theorem Change.outlives (h : Change a now b b') (hs : Sound b)
    (ht : Termed now b) (hnow : now < 2 ^ 32) (he : b.entry id pid = some en)
    (happroved : en.status ≠ .pendingApproval) :
    StillOutlives now en (b'.entry id pid) := by
  cases h with
  | detail _ hsame =>
      exact ⟨en, (hsame.entry id pid).trans he, happroved, fun _ h => h⟩
  | registered _ _ _ _ hentry =>
      exact ⟨en, (hentry id pid).trans he, happroved, fun _ h => h⟩
  | policyUpdated _ _ _ _ _ _ _ _ _ hentry =>
      exact ⟨en, (hentry id pid).trans he, happroved, fun _ h => h⟩
  | requested _ _ _ _ _ hup =>
      refine hup.stillOutlives he happroved fun hself => ?_
      rw [hs.entries _ _ (Nat.le_refl _)] at hself
      cases hself
  | approved _ hp hpending _ hup | rejected _ hp hpending _ hup =>
      refine hup.stillOutlives he happroved fun hself => ?_
      cases (Books.entry_of_get hp).symm.trans hself
      exact absurd hpending happroved
  | ended _ hp _ hstatus hexpired _ hup =>
      refine hup.stillOutlives he happroved fun hself => ?_
      cases (Books.entry_of_get hp).symm.trans hself
      refine ⟨_, rfl, ?_, fun _ h => h.ended hstatus hexpired⟩
      rintro rfl
      cases hstatus
  | slashed _ _ hp _ _ _ _ hup =>
      exact hup.stillOutlives he happroved fun _ =>
        ⟨_, rfl, nofun, fun _ _ => trivial⟩
  | renewed hget hp hrun _ hup =>
      refine hup.stillOutlives he happroved fun hself => ?_
      have hterm := ht _ _ _ _ (Books.terms_of_get hget) hself
      cases (Books.entry_of_get hp).symm.trans hself
      exact ⟨_, rfl, nofun, fun _ h => h.renewed hrun.1 hterm⟩
  | reopened _ _ hp hexpired _ _ hup =>
      refine hup.stillOutlives he happroved fun hself => ?_
      cases (Books.entry_of_get hp).symm.trans hself
      refine ⟨_, rfl, nofun, fun block h => ?_⟩
      have hout : Outlives now block .expired := hexpired ▸ h
      exact hout.reopened hnow

end Change

/-! ## Steps and runs -/

theorem termed_of_reachable {ok : State R → Action R → Prop} {s : State R}
    (h : Reachable ok s) : Termed s.now s.toBooks := by
  refine Transition.Reach.invariant
    (I := fun s : State R => Termed s.now s.toBooks) ?_ ?_ h
  · rintro s ⟨world, now, rfl⟩
    exact nofun
  · intro s a s' hs hterm _ hstep
    have hle : s.now ≤ s'.now := by
      rw [(step_moves hstep).1]
      exact Nat.le_add_right _ _
    exact (step_induct (J := fun b => Sound b ∧ Termed s'.now b) hstep
      (fun _ _ hmove hb =>
        ⟨hb.1.change hmove.change, hb.2.change hmove.change hb.1⟩)
      ⟨sound_of_reachable hs, fun id pid t e ht he =>
        (hterm id pid t e ht he).mono hle⟩).2

theorem step_outlives {ok : State R → Action R → Prop} {s s' : State R}
    {a : Action R} {id pid : Nat} {en : Entry} (hs : Reachable ok s)
    (h : step s a = .ok s') (hnow : s'.now < 2 ^ 32)
    (he : s.toBooks.entry id pid = some en)
    (happroved : en.status ≠ .pendingApproval) :
    ∃ en', s'.toBooks.entry id pid = some en' ∧
      en'.status ≠ .pendingApproval ∧ ∀ block, Outlives s.now block en.status →
        Outlives s'.now block en'.status := by
  have hle : s.now ≤ s'.now := by
    rw [(step_moves h).1]
    exact Nat.le_add_right _ _
  have hstart : Sound s.toBooks ∧ Termed s'.now s.toBooks ∧
      StillOutlives s'.now en (s.toBooks.entry id pid) :=
    ⟨sound_of_reachable hs, fun id pid t e ht he =>
      (termed_of_reachable hs id pid t e ht he).mono hle,
      en, he, happroved, fun _ h => h⟩
  obtain ⟨_, _, en', he', happroved', hout⟩ :=
    step_induct (J := fun b => Sound b ∧ Termed s'.now b ∧
      StillOutlives s'.now en (b.entry id pid)) h (by
        rintro b b' hmove ⟨hsound, hterm, en₁, he₁, happroved₁, hout₁⟩
        obtain ⟨en₂, he₂, happroved₂, hout₂⟩ :=
          hmove.change.outlives hsound hterm hnow he₁ happroved₁
        exact ⟨hsound.change hmove.change, hterm.change hmove.change hsound,
          en₂, he₂, happroved₂, fun block hb => hout₂ block (hout₁ block hb)⟩)
      hstart
  exact ⟨en', he', happroved', fun block hb => hout block (hb.mono hle)⟩

end Thxnet.Rwa
