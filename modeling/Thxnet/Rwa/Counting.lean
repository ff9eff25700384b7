import Thxnet.Rwa.Register

/-!
# Counting participants

The register counts its participants instead of looking for them.  `Sound`
collects what this rests on: ids are handed out in order and never used again,
the count of an asset is the number of its live entries, a live entry holds the
deposit of the policy, one that has ended holds nothing, and one that waits for
approval has paid the fee of the policy.

Since there are fewer than `2 ^ 32` ids, the saturating increments of the count
are exact.  The policy of an asset may change while it has entries; that the
money stays right then is due to the terms that are frozen while somebody
participates.
-/

namespace Thxnet.Rwa

open Thxnet.Lib Thxnet.Frame

variable {R : Config}

/-- One for a participant, zero for an entry that has ended. -/
def Entry.live (e : Entry) : Nat :=
  if e.status.isLive = true then 1 else 0

/-- One for an entry that waits for approval. -/
def Entry.pending (e : Entry) : Nat :=
  if e.status = .pendingApproval then 1 else 0

/-- The sum of a measure over the entries of an asset. -/
def Books.tally (b : Books R) (id : Nat) (f : Entry → Nat) : Nat :=
  (b.participations id).sum fun p => f p.entry

/-- What a measure says of an entry that may not exist. -/
def measure (f : Entry → Nat) (e : Option Entry) : Nat :=
  (e.map f).getD 0

@[simp] theorem measure_none (f : Entry → Nat) : measure f none = 0 := rfl

@[simp] theorem measure_some (f : Entry → Nat) (e : Entry) :
    measure f (some e) = f e := rfl

/-! ## Tallies -/

private theorem getD_map_entry (b : Books R) (id pid : Nat)
    (f : Entry → Nat) :
    (((b.participations id).get pid).map fun p => f p.entry).getD 0 =
      measure f (b.entry id pid) := by
  unfold Books.entry measure
  cases (b.participations id).get pid <;> rfl

variable {b b' : Books R} {id pid : Nat}

theorem tally_congr (h : ∀ pid, b'.entry id pid = b.entry id pid)
    (f : Entry → Nat) : b'.tally id f = b.tally id f := by
  refine StorageMap.total_congr
    (f := fun _ (p : Participation R) => f p.entry)
    (g := fun _ (p : Participation R) => f p.entry) fun pid => ?_
  rw [getD_map_entry, getD_map_entry, h pid]

theorem tally_of_agree (h : ∀ q, q ≠ pid → b'.entry id q = b.entry id q)
    (f : Entry → Nat) :
    b'.tally id f + measure f (b.entry id pid) =
      b.tally id f + measure f (b'.entry id pid) := by
  rw [← getD_map_entry, ← getD_map_entry]
  refine StorageMap.total_of_agree
    (f := fun _ (p : Participation R) => f p.entry)
    (g := fun _ (p : Participation R) => f p.entry) fun q hq => ?_
  rw [getD_map_entry, getD_map_entry, h q hq]

theorem exists_of_entry {e : Entry} (h : b.entry id pid = some e) :
    ∃ p, (b.participations id).get pid = some p ∧ p.entry = e :=
  Option.map_eq_some_iff.mp h

theorem le_tally {e : Entry} (h : b.entry id pid = some e) (f : Entry → Nat) :
    f e ≤ b.tally id f := by
  obtain ⟨p, hp, rfl⟩ := exists_of_entry h
  exact StorageMap.le_sum (fun p : Participation R => f p.entry) hp

theorem tally_eq_zero (h : ∀ pid, b.entry id pid = none) (f : Entry → Nat) :
    b.tally id f = 0 := by
  refine (StorageMap.sum_eq_zero_iff _ _).mpr fun pid p hp => ?_
  have hsome := Books.entry_of_get hp
  rw [h pid] at hsome
  cases hsome

theorem Entry.pending_le_live (e : Entry) : e.pending ≤ e.live := by
  unfold Entry.pending Entry.live ParticipationStatus.isLive
  split <;> simp_all

theorem pending_le_live (b : Books R) (id : Nat) :
    b.tally id Entry.pending ≤ b.tally id Entry.live :=
  StorageMap.sum_le_sum _ fun _ p _ => p.entry.pending_le_live

/-! ## Soundness -/

/-- What a policy requires of the money of an entry. -/
structure Held (policy : AssetPolicy R) (e : Entry) : Prop where
  live : e.status.isLive = true → e.deposit = policy.deposit
  ended : e.status.isLive = false → e.deposit = 0
  fee : e.status = .pendingApproval → e.fee = policy.entryFee

/-- The invariant of the register. -/
structure Sound (b : Books R) : Prop where
  assets : ∀ id, b.nextRwaAssetId ≤ id → b.terms id = none
  entries : ∀ id pid, b.nextParticipationId id ≤ pid → b.entry id pid = none
  known : ∀ id pid, b.terms id = none → b.entry id pid = none
  next_lt : ∀ id, b.nextParticipationId id < 2 ^ 32
  counted : ∀ id t, b.terms id = some t → t.count = b.tally id Entry.live
  held : ∀ id pid t e, b.terms id = some t → b.entry id pid = some e →
    Held t.policy e

theorem Sound.genesis (world : R.World) :
    Sound (Store.genesis R world).toBooks where
  assets := fun _ _ => rfl
  entries := fun _ _ _ => rfl
  known := fun _ _ _ => rfl
  next_lt := fun _ => Nat.two_pow_pos 32
  counted := nofun
  held := nofun

theorem tally_live_le {n : Nat} (h : ∀ pid, n ≤ pid → b.entry id pid = none) :
    b.tally id Entry.live ≤ n := by
  refine StorageMap.sum_le_of_keys_lt fun pid p hp => ⟨?_, ?_⟩
  · by_contra hle
    have hsome := Books.entry_of_get hp
    rw [h pid (Nat.le_of_not_lt hle)] at hsome
    cases hsome
  · unfold Entry.live
    split <;> omega

theorem Sound.congr (hs : Sound b) (h : SameRegister b b') :
    Sound b' where
  assets := fun id hid => by
    rw [h.terms]
    exact hs.assets id (h.nextAsset ▸ hid)
  entries := fun id pid hpid => by
    rw [h.entry]
    exact hs.entries id pid (by rw [h.next] at hpid; exact hpid)
  known := fun id pid hnone => by
    rw [h.entry]
    exact hs.known id pid (by rw [h.terms] at hnone; exact hnone)
  next_lt := fun id => by rw [h.next]; exact hs.next_lt id
  counted := fun id t ht => by
    rw [tally_congr (h.entry id)]
    exact hs.counted id t (by rw [h.terms] at ht; exact ht)
  held := h.each hs.held

/-! ## Updates -/

section Update

variable {b b' : Books R} {id pid : Nat} {t t₀ : Terms R} {e : Option Entry}

theorem Updates.tally_ne (hup : Updates b b' id pid t e) {i : Nat}
    (hi : i ≠ id) (f : Entry → Nat) : b'.tally i f = b.tally i f :=
  tally_congr (fun q => hup.entry_ne i q fun h => hi h.1) f

theorem Updates.tally_self (hup : Updates b b' id pid t e)
    (f : Entry → Nat) :
    b'.tally id f + measure f (b.entry id pid) =
      b.tally id f + measure f e := by
  have h : b'.tally id f + measure f (b.entry id pid) =
      b.tally id f + measure f (b'.entry id pid) :=
    tally_of_agree (fun q hq => hup.entry_ne id q fun h => hq h.2) f
  rwa [hup.entry_self] at h

/-- One update of the register keeps it sound if it counts right and pays
right. -/
theorem Sound.update (hs : Sound b) (hup : Updates b b' id pid t e)
    (ht : b.terms id = some t₀) (hpolicy : t.policy = t₀.policy)
    (hgrow : ∀ i, b.nextParticipationId i ≤ b'.nextParticipationId i)
    (hfits : ∀ i, b'.nextParticipationId i < 2 ^ 32)
    (hpid : pid < b'.nextParticipationId id)
    (hcount : b'.tally id Entry.live < 2 ^ 32 →
      t.count = b'.tally id Entry.live)
    (hheld : ∀ e', e = some e' → Held t.policy e') : Sound b' := by
  have hentries : ∀ i q, b'.nextParticipationId i ≤ q →
      b'.entry i q = none := by
    intro i q hq
    rw [hup.entry_ne i q]
    · exact hs.entries i q (Nat.le_trans (hgrow i) hq)
    · rintro ⟨rfl, rfl⟩
      omega
  have hid : id < b.nextRwaAssetId := by
    by_contra hle
    rw [hs.assets id (Nat.le_of_not_lt hle)] at ht
    cases ht
  refine ⟨?_, hentries, ?_, hfits, ?_, ?_⟩
  · intro i hi
    rw [hup.nextAsset] at hi
    rw [hup.terms_ne i (by omega)]
    exact hs.assets i hi
  · intro i q hnone
    by_cases hi : i = id
    · rw [hi, hup.terms_self] at hnone
      cases hnone
    · rw [hup.entry_ne i q fun h => hi h.1]
      exact hs.known i q (by rwa [hup.terms_ne i hi] at hnone)
  · intro i t' ht'
    by_cases hi : i = id
    · rw [hi, hup.terms_self] at ht'
      cases ht'
      rw [hi]
      exact hcount (Nat.lt_of_le_of_lt (tally_live_le (hentries id)) (hfits id))
    · rw [hup.tally_ne hi]
      exact hs.counted i t' (by rwa [hup.terms_ne i hi] at ht')
  · exact hup.each ht hpolicy hs.held hheld

/-- The same for an entry that exists already. -/
theorem Sound.update_entry (hs : Sound b) (hup : Updates b b' id pid t e)
    (hnext : b'.nextParticipationId = b.nextParticipationId)
    (ht : b.terms id = some t₀) {e₀ : Entry} (he : b.entry id pid = some e₀)
    (hpolicy : t.policy = t₀.policy)
    (hcount : b'.tally id Entry.live < 2 ^ 32 →
      b'.tally id Entry.live + e₀.live =
        b.tally id Entry.live + measure Entry.live e →
      t.count = b'.tally id Entry.live)
    (hheld : ∀ e', e = some e' → Held t.policy e') : Sound b' := by
  have hpid : pid < b.nextParticipationId id := by
    by_contra hle
    rw [hs.entries id pid (Nat.le_of_not_lt hle)] at he
    cases he
  have htally := hup.tally_self Entry.live
  rw [he, measure_some] at htally
  refine hs.update hup ht hpolicy ?_ ?_ ?_ (fun hlt => hcount hlt htally) hheld
  · exact fun i => Nat.le_of_eq (congrFun hnext i).symm
  · intro i
    rw [hnext]
    exact hs.next_lt i
  · rw [hnext]
    exact hpid

end Update

/-! ## Every change keeps the register sound -/

variable {asset : AssetInfo R} {b b' : Books R} {e : Entry} {id now pid : Nat}
    {p : Participation R}

theorem live_of_isLive (h : e.status.isLive = true) : e.live = 1 := by
  simp [Entry.live, h]

theorem live_of_ended (h : e.status.isLive = false) : e.live = 0 := by
  simp [Entry.live, h]

private theorem saturatingAdd_one {n : Nat} (h : n + 1 < 2 ^ 32) :
    saturatingAdd 32 n 1 = n + 1 := by
  unfold saturatingAdd maxValue
  omega

private theorem Held.term {policy : AssetPolicy R} {fee : Nat} :
    Held policy ⟨policy.term now, policy.deposit, fee⟩ :=
  ⟨fun _ => rfl, nofun, nofun⟩

private theorem Sound.setTerms {t : Terms R} (hs : Sound b)
    (hself : b'.terms id = some t)
    (hterms : ∀ i, i ≠ id → b'.terms i = b.terms i)
    (hentry : ∀ i q, b'.entry i q = b.entry i q)
    (hgrow : b.nextRwaAssetId ≤ b'.nextRwaAssetId)
    (hid : id < b'.nextRwaAssetId)
    (hnext : b'.nextParticipationId = b.nextParticipationId)
    (hcount : t.count = b.tally id Entry.live)
    (hheld : ∀ q e, b.entry id q = some e → Held t.policy e) : Sound b' := by
  refine ⟨?_, ?_, ?_, ?_, ?_, ?_⟩
  · intro i hi
    rw [hterms i (by omega)]
    exact hs.assets i (by omega)
  · intro i q hq
    rw [hentry]
    exact hs.entries i q (by rwa [hnext] at hq)
  · intro i q hnone
    rw [hentry]
    by_cases hi : i = id
    · rw [hi, hself] at hnone
      cases hnone
    · exact hs.known i q (by rwa [hterms i hi] at hnone)
  · intro i
    rw [hnext]
    exact hs.next_lt i
  · intro i t' ht'
    rw [tally_congr (hentry i)]
    by_cases hi : i = id
    · rw [hi, hself] at ht'
      cases ht'
      rw [hi, hcount]
    · exact hs.counted i t' (by rwa [hterms i hi] at ht')
  · exact each_setTerms hself hterms hentry hs.held hheld

/-- The entries of an asset hold what an admitted new policy requires: somebody
who waits for approval freezes the fee. -/
private theorem Sound.held_of_frozen {q : Nat} {policy : AssetPolicy R}
    (hs : Sound b) (hget : b.rwaAssets.get id = some asset)
    (hdeposit : asset.policy.deposit = policy.deposit)
    (hfrozen : 0 < asset.participantCount → checkFrozenTerms asset.policy policy
      = .ok ()) (he : b.entry id q = some e) : Held policy e := by
  have ht := Books.terms_of_get hget
  have hold := hs.held id q _ e ht he
  refine ⟨fun hl => (hold.live hl).trans hdeposit, hold.ended, fun hp => ?_⟩
  have hlive : e.live = 1 := live_of_isLive (by rw [hp]; rfl)
  have hcount : asset.participantCount = b.tally id Entry.live :=
    hs.counted id _ ht
  have hle := le_tally he Entry.live
  have hfee := hfrozen (by omega)
  simp only [checkFrozenTerms, do_eq_ok] at hfee
  exact (hold.fee hp).trans hfee.1

private theorem Sound.termed (hs : Sound b)
    (hget : b.rwaAssets.get id = some asset)
    (hp : (b.participations id).get pid = some p)
    (hlive : p.status.isLive = true)
    (hup : Updates b b' id pid asset.terms (some ⟨asset.policy.term now,
      p.depositHeld, p.entryFeePaid⟩))
    (hnext : b'.nextParticipationId = b.nextParticipationId) : Sound b' := by
  have ht := Books.terms_of_get hget
  have he := Books.entry_of_get hp
  have hdeposit : p.depositHeld = asset.policy.deposit :=
    (hs.held id pid _ _ ht he).live hlive
  refine hs.update_entry hup hnext ht he rfl (fun _ htally => ?_) ?_
  · rw [live_of_isLive hlive, measure_some, live_of_isLive rfl] at htally
    have hcount := hs.counted id _ ht
    omega
  · rintro e' ⟨⟩
    rw [hdeposit]
    exact Held.term

private theorem Sound.left {e : Option Entry} (hs : Sound b)
    (hget : b.rwaAssets.get id = some asset)
    (hp : (b.participations id).get pid = some p)
    (hlive : p.status.isLive = true)
    (hup : Updates b b' id pid ⟨asset.policy, asset.participantCount - 1⟩ e)
    (hended : ∀ e', e = some e' → e'.status.isLive = false ∧ e'.deposit = 0)
    (hnext : b'.nextParticipationId = b.nextParticipationId) : Sound b' := by
  have ht := Books.terms_of_get hget
  have hzero : measure Entry.live e = 0 := by
    cases e with
    | none => rfl
    | some e' => exact live_of_ended (hended e' rfl).1
  refine hs.update_entry hup hnext ht (Books.entry_of_get hp) rfl
    (fun _ htally => ?_) ?_
  · rw [live_of_isLive hlive, hzero] at htally
    have hcount : asset.participantCount = _ := hs.counted id _ ht
    show asset.participantCount - 1 = _
    omega
  · intro e' he'
    obtain ⟨hst, hdeposit⟩ := hended e' he'
    refine ⟨fun hl => ?_, fun _ => hdeposit, fun hpending => ?_⟩
    · rw [hst] at hl
      cases hl
    · rw [hpending] at hst
      cases hst

theorem Sound.change {a : Action R} (h : Change a now b b') (hs : Sound b) :
    Sound b' := by
  cases h with
  | detail _ hsame => exact hs.congr hsame
  | registered _ _ hnew hterms hentry hnextAsset hnext =>
      have hnone : ∀ q, b.entry b.nextRwaAssetId q = none := fun q =>
        hs.known _ q (hs.assets _ (Nat.le_refl _))
      refine hs.setTerms hnew hterms hentry (by omega) (by omega) hnext
        (tally_eq_zero hnone _).symm fun q e he => ?_
      rw [hnone q] at he
      cases he
  | @policyUpdated _ _ id asset _ _ hget _ hdeposit _ hfrozen _ hself hterms
      hentry hnextAsset hnext =>
      have ht := Books.terms_of_get hget
      have hid : id < b.nextRwaAssetId := by
        by_contra hle
        rw [hs.assets id (Nat.le_of_not_lt hle)] at ht
        cases ht
      exact hs.setTerms hself hterms hentry (by omega) (by omega) hnext
        (hs.counted id asset.terms ht)
        fun q e he => hs.held_of_frozen hget hdeposit hfrozen he
  | @requested _ _ id asset _ _ hget _ _ hfits hup hnext =>
      have ht := Books.terms_of_get hget
      have hnone := hs.entries id _ (Nat.le_refl _)
      have htally := hup.tally_self Entry.live
      rw [hnone, measure_none, measure_some] at htally
      refine hs.update hup ht rfl ?_ ?_ ?_ ?_ ?_
      · intro i
        rw [hnext]
        by_cases hi : i = id <;> simp [hi]
      · intro i
        rw [hnext]
        by_cases hi : i = id
        · simpa [hi] using hfits
        · simpa [hi] using hs.next_lt i
      · simp [hnext]
      · intro hlt
        have hcount : asset.participantCount = b.tally id Entry.live :=
          hs.counted id _ ht
        rw [live_of_isLive (by split <;> rfl)] at htally
        show saturatingAdd 32 _ 1 = _
        rw [saturatingAdd_one] <;> omega
      · rintro e' ⟨⟩
        refine ⟨fun _ => rfl, fun hl => ?_, fun _ => rfl⟩
        split at hl <;> cases hl
  | approved hget hp hpending _ hup hnext =>
      exact hs.termed hget hp (by rw [hpending]; rfl) hup hnext
  | rejected hget hp hpending _ hup hnext =>
      exact hs.left hget hp (by rw [hpending]; rfl) hup nofun hnext
  | ended hget hp hlive hstatus _ _ hup hnext =>
      refine hs.left hget hp ?_ hup ?_ hnext
      · rcases hlive with ⟨hactive, _⟩ | ⟨hlive, _⟩
        · exact isLive_of_isActive hactive
        · exact hlive
      · rintro e' ⟨⟩
        exact ⟨hstatus, rfl⟩
  | slashed _ hget hp hactive _ _ _ hup hnext =>
      refine hs.left hget hp (isLive_of_isActive hactive) hup ?_ hnext
      rintro e' ⟨⟩
      exact ⟨rfl, rfl⟩
  | renewed hget hp hrun _ hup hnext =>
      exact hs.termed hget hp (isLive_of_isActive hrun.1) hup hnext
  | @reopened _ id pid asset p _ _ hget hp hexpired _ _ hup hnext =>
      have ht := Books.terms_of_get hget
      have hdead : p.status.isLive = false := by rw [hexpired]; rfl
      refine hs.update_entry hup hnext ht (Books.entry_of_get hp) rfl
        (fun hlt htally => ?_) ?_
      · rw [live_of_ended hdead, measure_some, live_of_isLive rfl] at htally
        have hcount : asset.participantCount = _ := hs.counted id _ ht
        show saturatingAdd 32 _ 1 = _
        rw [saturatingAdd_one] <;> omega
      · rintro e' ⟨⟩
        exact Held.term

theorem sound_of_reachable {ok : State R → Action R → Prop} {s : State R}
    (h : Reachable ok s) : Sound s.toBooks :=
  books_invariant Sound.genesis
    (fun _ _ _ _ _ _ _ hmove hs => hs.change hmove.change) h

theorem registered_of_participation {ok : State R → Action R → Prop}
    {s : State R} (h : Reachable ok s)
    (hp : (s.participations id).get pid = some p) :
    ∃ asset, s.rwaAssets.get id = some asset := by
  cases hget : s.rwaAssets.get id with
  | some asset => exact ⟨asset, rfl⟩
  | none =>
      have hnone := (sound_of_reachable h).known id pid
        (by rw [Books.terms, hget]; rfl)
      rw [Books.entry_of_get hp] at hnone
      cases hnone

end Thxnet.Rwa
