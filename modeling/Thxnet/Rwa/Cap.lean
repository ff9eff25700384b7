import Thxnet.Rwa.Counting
import Thxnet.Rwa.Mock

/-!
# The participant cap

A policy may limit the number of participants.  A request checks the limit, and
a new policy may not set one below the present number.  The renewal of a
participation that has expired enters the count again without a check, so the
limit holds along the runs in which such renewals find room.

A renewal may also find a participation that has lapsed but is still stored as
active.  It settles it first, which makes the room it then takes.
-/

namespace Thxnet.Rwa

open Thxnet.Lib Thxnet.Frame

variable {R : Config}

/-- No asset has more participants than its policy allows. -/
def Capped (b : Books R) : Prop :=
  ∀ id t most, b.terms id = some t → t.policy.maxParticipants = some most →
    t.count ≤ most

/-- There is room for the participation if it has expired. -/
def HasRoom (b : Books R) (id pid : Nat) : Prop :=
  ∀ t e most, b.terms id = some t → b.entry id pid = some e →
    e.status = .expired → t.policy.maxParticipants = some most →
    t.count + 1 ≤ most

/-- A renewal of a participation that is stored as expired finds room under the
cap of its asset. -/
def RenewsWithinCap (s : State R) (a : Action R) : Prop :=
  ∀ g o id pid, a = .call g o (.renewParticipation id pid) →
    HasRoom s.toBooks id pid

/-! ## One change -/

section Change

variable {a : Action R} {now : Nat} {b b' : Books R} {id pid : Nat}
  {t : Terms R} {e : Option Entry}

private theorem Capped.congr (hcap : Capped b) (h : SameRegister b b') :
    Capped b' := by
  intro i t' most ht hmost
  rw [h.terms] at ht
  exact hcap i t' most ht hmost

private theorem Capped.setTerms (hcap : Capped b)
    (hself : b'.terms id = some t)
    (hterms : ∀ i, i ≠ id → b'.terms i = b.terms i)
    (hle : ∀ most, t.policy.maxParticipants = some most → t.count ≤ most) :
    Capped b' := by
  intro i t' most ht hmost
  by_cases hi : i = id
  · rw [hi, hself] at ht
    cases ht
    exact hle most hmost
  · rw [hterms i hi] at ht
    exact hcap i t' most ht hmost

private theorem Capped.left {asset : AssetInfo R} (hcap : Capped b)
    (hget : b.rwaAssets.get id = some asset)
    (hup : Updates b b' id pid ⟨asset.policy, asset.participantCount - 1⟩ e) :
    Capped b' := by
  refine hcap.setTerms hup.terms_self hup.terms_ne fun most hmost => ?_
  have hle : asset.participantCount ≤ most :=
    hcap id asset.terms most (Books.terms_of_get hget) hmost
  show asset.participantCount - 1 ≤ most
  omega

private theorem Capped.kept {asset : AssetInfo R} (hcap : Capped b)
    (hget : b.rwaAssets.get id = some asset)
    (hup : Updates b b' id pid asset.terms e) : Capped b' :=
  hcap.setTerms hup.terms_self hup.terms_ne fun most hmost =>
    hcap id asset.terms most (Books.terms_of_get hget) hmost

/-- A change keeps the cap if a participation that is reopened finds room. -/
theorem Capped.change (h : Change a now b b') (hcap : Capped b)
    (hroom : ∀ g o id pid, a = .call g o (.renewParticipation id pid) →
      HasRoom b id pid) : Capped b' := by
  cases h with
  | detail _ hsame => exact hcap.congr hsame
  | registered _ _ hnew hterms =>
      exact hcap.setTerms hnew hterms fun _ _ => Nat.zero_le _
  | policyUpdated _ _ _ _ hmost _ _ hself hterms =>
      exact hcap.setTerms hself hterms hmost
  | requested _ _ hmost _ _ hup =>
      exact hcap.setTerms hup.terms_self hup.terms_ne hmost
  | approved hget _ _ _ hup | renewed hget _ _ _ hup => exact hcap.kept hget hup
  | rejected hget _ _ _ hup => exact hcap.left hget hup
  | ended hget _ _ _ _ _ hup => exact hcap.left hget hup
  | slashed _ hget _ _ _ _ _ hup => exact hcap.left hget hup
  | @reopened _ id pid asset p _ ha hget hp hexpired _ _ hup =>
      refine hcap.setTerms hup.terms_self hup.terms_ne fun most hmost => ?_
      have hle : asset.participantCount + 1 ≤ most :=
        hroom _ _ _ _ ha asset.terms p.entry most (Books.terms_of_get hget)
          (Books.entry_of_get hp) hexpired hmost
      show saturatingAdd 32 asset.participantCount 1 ≤ most
      unfold saturatingAdd
      omega

/-- An update that does not add to the count keeps the room, if the entry it
writes has not expired or leaves room itself. -/
private theorem HasRoom.update {i q : Nat} {t₀ : Terms R}
    (hroom : HasRoom b id pid) (hup : Updates b b' i q t e)
    (ht : b.terms i = some t₀) (hpolicy : t.policy = t₀.policy)
    (hle : t.count ≤ t₀.count)
    (hself : ∀ e' most, e = some e' → e'.status = .expired →
      t.policy.maxParticipants = some most → t.count + 1 ≤ most) :
    HasRoom b' id pid := by
  intro t' e' most ht' he' hexpired hmost
  by_cases hi : id = i
  · subst hi
    rw [hup.terms_self] at ht'
    cases ht'
    by_cases hq : pid = q
    · subst hq
      rw [hup.entry_self] at he'
      exact hself e' most he' hexpired hmost
    · rw [hup.entry_ne id pid fun h => hq h.2] at he'
      have hold := hroom t₀ e' most ht he' hexpired (hpolicy ▸ hmost)
      omega
  · rw [hup.terms_ne id hi] at ht'
    rw [hup.entry_ne id pid fun h => hi h.1] at he'
    exact hroom t' e' most ht' he' hexpired hmost

/-- The changes of a renewal keep the room for it: the one that makes the
participation expire makes the room as well. -/
private theorem HasRoom.change {g : LifecycleGuard} {o : Origin R.AccountId}
    (ha : a = .call g o (.renewParticipation id pid))
    (h : Change a now b b') (hs : Sound b) (hcap : Capped b)
    (hroom : HasRoom b id pid) : HasRoom b' id pid := by
  cases h with
  | detail _ hsame =>
      intro t' e' most ht' he' hexpired hmost
      rw [hsame.terms] at ht'
      rw [hsame.entry] at he'
      exact hroom t' e' most ht' he' hexpired hmost
  | registered ha' | policyUpdated ha' | requested ha' | slashed ha' =>
      cases ha.symm.trans ha'
  | approved hget _ _ _ hup | renewed hget _ _ _ hup =>
      refine hroom.update hup (Books.terms_of_get hget) rfl (Nat.le_refl _) ?_
      rintro e' most ⟨⟩ hexpired
      cases hexpired
  | rejected hget _ _ _ hup =>
      exact hroom.update hup (Books.terms_of_get hget) rfl (Nat.sub_le _ _)
        nofun
  | @ended i q _ asset p _ hget hp hlive hstatus _ _ hup =>
      have ht := Books.terms_of_get hget
      refine hroom.update hup ht rfl (Nat.sub_le _ _)
        fun e' most _ _ hmost => ?_
      have hone : p.entry.live = 1 := by
        rcases hlive with ⟨hactive, _⟩ | ⟨hlive, _⟩
        · exact live_of_isLive (isLive_of_isActive hactive)
        · exact live_of_isLive hlive
      have hpos := le_tally (Books.entry_of_get hp) Entry.live
      have hcount : asset.participantCount = _ := hs.counted i _ ht
      have hle : asset.participantCount ≤ most := hcap i _ most ht hmost
      show asset.participantCount - 1 + 1 ≤ most
      omega
  | reopened ha' _ _ _ _ _ hup =>
      cases ha.symm.trans ha'
      intro t' e' most _ he' hexpired
      rw [hup.entry_self] at he'
      cases he'
      cases hexpired

end Change

/-! ## Runs -/

theorem Capped.step {s s' : State R} {a : Action R} (h : step s a = .ok s')
    (hok : RenewsWithinCap s a) (hs : Sound s.toBooks)
    (hcap : Capped s.toBooks) : Capped s'.toBooks := by
  refine (step_induct (J := fun b => Sound b ∧ Capped b ∧ ∀ g o id pid,
    a = .call g o (.renewParticipation id pid) → HasRoom b id pid) h ?_
    ⟨hs, hcap, hok⟩).2.1
  rintro b b' hmove ⟨hs, hcap, hroom⟩
  exact ⟨hs.change hmove.change, hcap.change hmove.change hroom,
    fun g o id pid ha => (hroom g o id pid ha).change ha hmove.change hs hcap⟩

/-- Along the runs in which every renewal of an expired participation finds
room, no asset ever has more participants than its policy allows. -/
theorem participants_within_cap {s : State R}
    (h : Reachable RenewsWithinCap s) {id most : Nat} {asset : AssetInfo R}
    (hget : s.rwaAssets.get id = some asset)
    (hmost : asset.policy.maxParticipants = some most) :
    asset.participantCount ≤ most := by
  have hcap : Capped s.toBooks := by
    refine Transition.Reach.invariant (I := fun s : State R => Capped s.toBooks)
      ?_ ?_ h
    · rintro s ⟨world, now, rfl⟩
      exact nofun
    · intro s a s' hs hcap hok hstep
      exact hcap.step hstep hok (sound_of_reachable hs)
  exact hcap id asset.terms most (Books.terms_of_get hget) hmost

/-- One place, for five blocks. -/
def onePlace : AssetPolicy vault :=
  { defaultPolicy with maxDuration := some 5, maxParticipants := some 1 }

/-- The only participation lapses and is settled. -/
def lapsedRequests : List (Action vault) :=
  [registered onePlace, signedBy 2 (.requestParticipation 0 [2]),
    .nextBlock, .nextBlock, .nextBlock, .nextBlock, .nextBlock,
    signedBy 4 (.settleExpiredParticipation 0 0)]

/-- The renewal that finds its place free. -/
theorem participants_within_cap_renewed :
    ∃ asset, (Transition.final step (vaultAfter lapsedRequests)
        [signedBy 2 (.renewParticipation 0 0)]).rwaAssets.get 0 = some asset ∧
      asset.participantCount = 1 ∧ asset.participantCount ≤ 1 := by
  obtain ⟨asset, hget, hmost, hcount⟩ := exists_asset
    (s := Transition.final step (vaultAfter lapsedRequests)
      [signedBy 2 (.renewParticipation 0 0)])
    (p := fun asset => asset.policy.maxParticipants = some 1 ∧
      asset.participantCount = 1) (by decide +kernel)
  have hfirst : Reachable RenewsWithinCap (vaultAfter lapsedRequests) := by
    refine vaultAfter_reachable ?_ (by decide +kernel)
    rintro a ha s g o id pid rfl
    simp [lapsedRequests, registered, signedBy] at ha
  have hroom : RenewsWithinCap (vaultAfter lapsedRequests)
      (signedBy 2 (.renewParticipation 0 0)) := by
    rintro g o id pid ⟨⟩ t e most ht _ _ hmost
    obtain ⟨asset, hget, hone, hzero⟩ := exists_asset
      (s := vaultAfter lapsedRequests)
      (p := fun asset => asset.policy.maxParticipants = some 1 ∧
        asset.participantCount = 0) (by decide +kernel)
    cases ht.symm.trans (Books.terms_of_get hget)
    cases hone.symm.trans hmost
    exact Nat.le_of_eq (congrArg Nat.succ hzero)
  exact ⟨asset, hget, hcount, participants_within_cap
    (.step hfirst hroom (Transition.step_final (by decide +kernel))) hget hmost⟩

/-- Somebody else takes the place, and the renewal of the expired participation
still succeeds. -/
theorem cap_exceeded_by_renewal :
    ∃ s : State vault, Reachable (fun _ _ => True) s ∧
      ∃ asset, s.rwaAssets.get 0 = some asset ∧
        asset.policy.maxParticipants = some 1 ∧ asset.participantCount = 2 :=
  ⟨vaultAfter (lapsedRequests ++ [signedBy 3 (.requestParticipation 0 [3]),
      signedBy 2 (.renewParticipation 0 0)]),
    vaultAfter_reachable (fun _ _ _ => trivial) (by decide +kernel),
    exists_asset (by decide +kernel)⟩

end Thxnet.Rwa
