import Thxnet.Rwa.Counting
import Thxnet.Rwa.Ledger

/-!
# What the pallet account owes

All deposits, and the fees of those who wait for approval, lie in one account.
`liabilities` is what the policies say is owed out of it in a currency:
the deposit for every participant and the fee for everybody who waits.

Over an exact ledger each change of the register moves as much money into or
out of the pallet account as it changes the liabilities (`Change.follows`), so
along every run without a slash the two agree.  A deposit that has been paid
out is not there to be paid out again (`PaidOut`).
-/

namespace Thxnet.Rwa

open Thxnet.Lib Thxnet.Frame

variable {R : Config}

/-! ## Liabilities -/

/-- What an asset owes in a currency, given how many wait for approval. -/
def owed (c : PaymentCurrency R.AssetId) (t : Terms R) (waiting : Nat) : Nat :=
  if t.policy.depositCurrency = c then
    t.count * t.policy.deposit + waiting * t.policy.entryFee
  else 0

/-- What a registered asset owes in a currency. -/
def Books.owedFor (b : Books R) (c : PaymentCurrency R.AssetId) (id : Nat)
    (asset : AssetInfo R) : Nat :=
  owed c asset.terms (b.tally id Entry.pending)

/-- The sum, over the assets with that currency, of the participants times the
deposit and those who wait times the fee. -/
def Books.liabilities (b : Books R) (c : PaymentCurrency R.AssetId) : Nat :=
  b.rwaAssets.total (b.owedFor c)

/-- What is owed under an id that may not be registered. -/
private def Books.owedAt (b : Books R) (c : PaymentCurrency R.AssetId)
    (id : Nat) : Nat :=
  ((b.terms id).map fun t => owed c t (b.tally id Entry.pending)).getD 0

private theorem getD_map_terms (b : Books R) (c : PaymentCurrency R.AssetId)
    (id : Nat) :
    ((b.rwaAssets.get id).map (b.owedFor c id)).getD 0 = b.owedAt c id := by
  unfold Books.owedAt Books.terms
  cases b.rwaAssets.get id <;> rfl

variable {asset : AssetInfo R} {policy : AssetPolicy R} {b b' : Books R}
    {e : Entry}

private theorem liabilities_congr (h : SameRegister b b')
    (c : PaymentCurrency R.AssetId) : b'.liabilities c = b.liabilities c := by
  refine StorageMap.total_congr (f := b.owedFor c) (g := b'.owedFor c)
    fun id => ?_
  rw [getD_map_terms, getD_map_terms]
  unfold Books.owedAt
  rw [h.terms, tally_congr (h.entry id)]

variable {id : Nat} {t : Terms R} {p : Participation R}

private theorem liabilities_of_agree
    (hterms : ∀ i, i ≠ id → b'.terms i = b.terms i)
    (hentry : ∀ i q, i ≠ id → b'.entry i q = b.entry i q)
    (c : PaymentCurrency R.AssetId) :
    b'.liabilities c + b.owedAt c id = b.liabilities c + b'.owedAt c id := by
  rw [← getD_map_terms, ← getD_map_terms]
  refine StorageMap.total_of_agree (f := b.owedFor c) (g := b'.owedFor c)
    fun i hi => ?_
  rw [getD_map_terms, getD_map_terms]
  unfold Books.owedAt
  rw [hterms i hi, tally_congr fun q => hentry i q hi]

/-- What a policy owes to an entry. -/
def Entry.due (policy : AssetPolicy R) (e : Entry) : Nat :=
  e.live * policy.deposit + e.pending * policy.entryFee

theorem due_of_isActive (h : e.status.isActive = true) :
    e.due policy = policy.deposit := by
  have hpending : e.pending = 0 := by
    unfold Entry.pending
    refine if_neg fun hst => ?_
    rw [hst] at h
    cases h
  rw [Entry.due, live_of_isLive (isLive_of_isActive h), hpending]
  omega

theorem due_of_pending (h : e.status = .pendingApproval) :
    e.due policy = policy.deposit + policy.entryFee := by
  have hlive : e.live = 1 := live_of_isLive (by rw [h]; rfl)
  have hpending : e.pending = 1 := if_pos h
  rw [Entry.due, hlive, hpending]
  omega

theorem due_of_ended (h : e.status.isLive = false) : e.due policy = 0 := by
  have hlive := live_of_ended h
  have hpending := e.pending_le_live
  rw [Entry.due, hlive, show e.pending = 0 by omega]
  omega

private theorem Updates.liabilities {pid : Nat} {e : Option Entry}
    (hup : Updates b b' id pid t e) (hs : Sound b) (hs' : Sound b')
    (hget : b.rwaAssets.get id = some asset) (hpolicy : t.policy = asset.policy)
    (c : PaymentCurrency R.AssetId) :
    b'.liabilities c + (if c = asset.policy.depositCurrency then
        measure (Entry.due asset.policy) (b.entry id pid) else 0) =
      b.liabilities c + (if c = asset.policy.depositCurrency then
        measure (Entry.due asset.policy) e else 0) := by
  have hagree := liabilities_of_agree hup.terms_ne
    (fun i q hi => hup.entry_ne i q fun h => hi h.1) c
  have ht := Books.terms_of_get hget
  have hlive := hup.tally_self Entry.live
  have hpending := hup.tally_self Entry.pending
  rw [← hs.counted id _ ht, ← hs'.counted id _ hup.terms_self] at hlive
  have hdue : ∀ o : Option Entry, measure (Entry.due asset.policy) o =
      measure Entry.live o * asset.policy.deposit
        + measure Entry.pending o * asset.policy.entryFee := by
    rintro (_ | e)
    · simp
    · rfl
  have hlive' := congrArg (· * asset.policy.deposit) hlive
  have hpending' := congrArg (· * asset.policy.entryFee) hpending
  simp only [Nat.add_mul] at hlive' hpending'
  simp only [Books.owedAt, ht, hup.terms_self, Option.map_some,
    Option.getD_some, owed, hpolicy, AssetInfo.terms] at hagree hlive'
  by_cases hc : c = asset.policy.depositCurrency
  · rw [if_pos hc.symm, if_pos hc.symm] at hagree
    rw [if_pos hc, if_pos hc, hdue, hdue]
    omega
  · rw [if_neg (Ne.symm hc), if_neg (Ne.symm hc)] at hagree
    rw [if_neg hc, if_neg hc]
    exact hagree

/-! ## Money follows the liabilities -/

/-- Whether a step slashes. -/
def Action.isSlash : Action R → Bool
  | .call _ _ (.slashParticipation _ _ _ _) => true
  | _ => false

/-- Whether a step is another pallet's. -/
def Action.isOutside : Action R → Bool
  | .outside _ => true
  | _ => false

private theorem pendingTotal_eq (hheld : Held asset.policy p.entry)
    (hasset : asset.Decent) (hpending : p.status = .pendingApproval) :
    p.pendingTotal = p.entry.due asset.policy := by
  have hdeposit : p.depositHeld = asset.policy.deposit :=
    hheld.live (by rw [Participation.entry, hpending]; rfl)
  have hfee : p.entryFeePaid = asset.policy.entryFee := hheld.fee hpending
  have hfits := hasset.2
  rw [due_of_pending hpending, Participation.pendingTotal, hdeposit, hfee]
  unfold saturatingAdd maxValue
  omega

private theorem retiredRefund_eq (hheld : Held asset.policy p.entry)
    (hasset : asset.Decent) (hlive : p.status.isLive = true) :
    p.retiredRefund = p.entry.due asset.policy := by
  have hdeposit : p.depositHeld = asset.policy.deposit := hheld.live hlive
  have hfits := hasset.2
  unfold Participation.retiredRefund
  by_cases hpending : p.status = .pendingApproval
  · rw [if_pos hpending]
    exact pendingTotal_eq hheld hasset hpending
  · have hactive : p.status.isActive = true := by
      simpa [ParticipationStatus.isLive, hpending] using hlive
    rw [if_neg hpending, due_of_isActive hactive, hdeposit]
    unfold saturatingAdd maxValue
    omega

section Flow

variable (L : ExactLedger R) {a : Action R} {now : Nat} {b b' : Books R}

/-- The pallet account and the liabilities change alike. -/
def Follows (b b' : Books R) : Prop :=
  ∀ c, L.escrow b'.world c + b.liabilities c =
    L.escrow b.world c + b'.liabilities c

private theorem follows_of_paidOut {pid amount : Nat} {e : Option Entry}
    {dest : R.AccountId} (hup : Updates b b' id pid t e) (hs : Sound b)
    (hs' : Sound b') (hget : b.rwaAssets.get id = some asset)
    (hp : (b.participations id).get pid = some p)
    (hpolicy : t.policy = asset.policy) (hne : dest ≠ R.palletAccount)
    (hpay : doTransfer b.world asset.policy.depositCurrency R.palletAccount dest
      amount = .ok b'.world)
    (hamount : measure (Entry.due asset.policy) e + amount =
      p.entry.due asset.policy) : Follows L b b' := by
  intro c
  have hout := escrow_paidOut L hne hpay c
  have hown := hup.liabilities hs hs' hget hpolicy c
  rw [Books.entry_of_get hp, measure_some] at hown
  by_cases hc : c = asset.policy.depositCurrency
  · simp only [if_pos hc] at hout hown
    omega
  · simp only [if_neg hc] at hout hown
    omega

private theorem follows_of_paidIn {pid amount : Nat} {e : Option Entry}
    {w : R.World} {source : R.AccountId} (hup : Updates b b' id pid t e)
    (hs : Sound b) (hs' : Sound b') (hget : b.rwaAssets.get id = some asset)
    (hpolicy : t.policy = asset.policy) (hne : source ≠ R.palletAccount)
    (hpay : doTransfer b.world asset.policy.depositCurrency source
      R.palletAccount amount = .ok w)
    (hrest : ∀ c, L.escrow b'.world c = L.escrow w c)
    (hamount : measure (Entry.due asset.policy) (b.entry id pid) + amount =
      measure (Entry.due asset.policy) e) : Follows L b b' := by
  intro c
  have hin := escrow_paidIn L hne hpay c
  have hown := hup.liabilities hs hs' hget hpolicy c
  have hlast := hrest c
  by_cases hc : c = asset.policy.depositCurrency
  · simp only [if_pos hc] at hin hown
    omega
  · simp only [if_neg hc] at hin hown
    omega

theorem Follows.policyUpdated (hs : Sound b)
    (hget : b.rwaAssets.get id = some asset)
    (hcurrency : asset.policy.depositCurrency = policy.depositCurrency)
    (hdeposit : asset.policy.deposit = policy.deposit)
    (hfrozen : 0 < asset.participantCount →
      checkFrozenTerms asset.policy policy = .ok ())
    (hworld : b'.world = b.world)
    (hself : b'.terms id = some ⟨policy, asset.participantCount⟩)
    (hterms : ∀ i, i ≠ id → b'.terms i = b.terms i)
    (hentry : ∀ i q, b'.entry i q = b.entry i q) : Follows L b b' := by
  intro c
  have ht := Books.terms_of_get hget
  have hagree := liabilities_of_agree hterms (fun i q _ => hentry i q) c
  have hcount : asset.participantCount = b.tally id Entry.live :=
    hs.counted id _ ht
  have hle := pending_le_live b id
  have hfee : b.tally id Entry.pending * asset.policy.entryFee =
      b.tally id Entry.pending * policy.entryFee := by
    by_cases hpos : 0 < asset.participantCount
    · have hok := hfrozen hpos
      simp only [checkFrozenTerms, do_eq_ok] at hok
      rw [hok.1]
    · rw [show b.tally id Entry.pending = 0 by omega]
      omega
  have hsame : b'.owedAt c id = b.owedAt c id := by
    simp only [Books.owedAt, ht, hself, Option.map_some, Option.getD_some,
      owed, AssetInfo.terms, tally_congr (hentry id), ← hcurrency, ← hdeposit,
      hfee]
  rw [hworld]
  omega

/-- Every change but a slash or another pallet's. -/
theorem Change.follows (h : Change a now b b') (hslash : a.isSlash = false)
    (houtside : a.isOutside = false) (ha : a.Decent) (hs : Sound b)
    (hb : Decent b) : Follows L b b' := by
  have hs' := hs.change h
  cases h with
  | detail hworld hsame =>
      intro c
      rcases hworld with rfl | hworld
      · cases houtside
      · rw [liabilities_congr hsame, ExactLedger.escrow,
          hworld.holding_eq L, ExactLedger.escrow]
  | registered _ hworld hnew hterms hentry =>
      intro c
      have hagree := liabilities_of_agree hterms (fun i q _ => hentry i q) c
      have hnone := hs.assets _ (Nat.le_refl b.nextRwaAssetId)
      have hempty : b'.tally b.nextRwaAssetId Entry.pending = 0 :=
        tally_eq_zero (fun q => (hentry _ q).trans (hs.known _ q hnone)) _
      have hzero : b'.owedAt c b.nextRwaAssetId = 0 := by
        simp [Books.owedAt, hnew, owed, hempty]
      have hzero' : b.owedAt c b.nextRwaAssetId = 0 := by
        simp [Books.owedAt, hnone]
      have hheld := hworld.holding_eq L c R.palletAccount
      unfold ExactLedger.escrow
      omega
  | policyUpdated _ hget hcurrency hdeposit _ hfrozen hworld hself hterms
      hentry =>
      exact Follows.policyUpdated L hs hget hcurrency hdeposit hfrozen hworld
        hself hterms hentry
  | @requested _ payer id asset _ ha' hget _ hpay _ hup =>
      subst ha'
      have hasset := hb.asset id asset hget
      have hpayer : payer ≠ R.palletAccount := fun h =>
        ha (congrArg Origin.signed h)
      have hnone := hs.entries id _ (Nat.le_refl _)
      unfold payRequest at hpay
      split at hpay
      · next happroval =>
          refine follows_of_paidIn L hup hs hs' hget rfl hpayer hpay
            (fun _ => rfl) ?_
          rw [hnone, measure_none, measure_some,
            due_of_pending (if_pos happroval)]
          have hfits := hasset.2
          unfold saturatingAdd maxValue
          omega
      · next happroval =>
          simp only [bind_eq_ok] at hpay
          obtain ⟨w, hin, hfee⟩ := hpay
          refine follows_of_paidIn L hup hs hs' hget rfl hpayer hin
            (escrow_paidPast L hpayer hasset.1 hfee) ?_
          rw [hnone, measure_none, measure_some,
            due_of_isActive (by rw [if_neg happroval]; rfl)]
          omega
  | @approved id pid asset p hget hp hpending hpay hup =>
      have hheld := hs.held id pid _ _ (Books.terms_of_get hget)
        (Books.entry_of_get hp)
      refine follows_of_paidOut L hup hs hs' hget hp rfl
        (hb.asset id asset hget).1 hpay ?_
      have hfee : p.entryFeePaid = asset.policy.entryFee := hheld.fee hpending
      rw [measure_some, due_of_isActive rfl, due_of_pending hpending, hfee]
  | @rejected id pid asset p hget hp hpending hpay hup =>
      have hheld := hs.held id pid _ _ (Books.terms_of_get hget)
        (Books.entry_of_get hp)
      refine follows_of_paidOut L hup hs hs' hget hp rfl
        (hb.payer id pid p hp) hpay ?_
      rw [measure_none, pendingTotal_eq hheld (hb.asset id asset hget) hpending]
      omega
  | @ended id pid amount asset p status hget hp hlive hstatus _ hpay hup =>
      have hheld := hs.held id pid _ _ (Books.terms_of_get hget)
        (Books.entry_of_get hp)
      refine follows_of_paidOut L hup hs hs' hget hp rfl
        (hb.payer id pid p hp) hpay ?_
      rw [measure_some, due_of_ended hstatus]
      rcases hlive with ⟨hactive, rfl⟩ | ⟨hlive, rfl⟩
      · have hdeposit : p.depositHeld = asset.policy.deposit :=
          hheld.live (isLive_of_isActive hactive)
        rw [due_of_isActive hactive, hdeposit]
        omega
      · rw [retiredRefund_eq hheld (hb.asset id asset hget) hlive]
        omega
  | slashed ha' =>
      subst ha'
      cases hslash
  | @renewed id pid asset p hget hp hrun hpay hup =>
      intro c
      have hown := hup.liabilities hs hs' hget rfl c
      have hpast := escrow_paidPast L (hb.payer id pid p hp)
        (hb.asset id asset hget).1 hpay c
      rw [Books.entry_of_get hp, measure_some, measure_some,
        due_of_isActive hrun.1, due_of_isActive rfl] at hown
      omega
  | @reopened _ id pid asset p _ _ hget hp hexpired hdeposit hpay hup =>
      have hpayer := hb.payer id pid p hp
      refine follows_of_paidIn L hup hs hs' hget rfl hpayer hdeposit
        (escrow_paidPast L hpayer (hb.asset id asset hget).1 hpay) ?_
      rw [Books.entry_of_get hp, measure_some, measure_some,
        due_of_ended (by rw [Participation.entry, hexpired]; rfl),
        due_of_isActive rfl]
      omega

end Flow

/-! ## Deposits that have been paid out -/

/-- The participation existed and is live no more. -/
def PaidOut (b : Books R) (id pid : Nat) : Prop :=
  pid < b.nextParticipationId id ∧
    ∀ p, (b.participations id).get pid = some p → p.status.isLive = false

/-- The calls through which the deposit of a participation is paid out. -/
def Action.Refunds (id pid : Nat) : Action R → Prop
  | .call _ _ (.rejectParticipation i q) => i = id ∧ q = pid
  | .call _ _ (.exitParticipation i q) => i = id ∧ q = pid
  | .call _ _ (.settleExpiredParticipation i q) => i = id ∧ q = pid
  | .call _ _ (.claimRetiredDeposit i q) => i = id ∧ q = pid
  | .call _ _ (.removeHolder i q _) => i = id ∧ q = pid
  | .call _ _ (.leaveParticipation i q) => i = id ∧ q = pid
  | .call _ _ (.slashParticipation i q _ _) => i = id ∧ q = pid
  | .call _ _ (.revokeParticipation i q) => i = id ∧ q = pid
  | _ => False

variable {a : Action R} {b b' : Books R} {id pid : Nat} {p : Participation R}
    {s : State R}

private theorem isLive_of_lapsed {now : Nat} (h : p.lapsed now = true) :
    p.status.isLive = true := by
  unfold Participation.lapsed at h
  split at h
  · next hst => rw [hst]; rfl
  · cases h

private theorem trySettleExpiry_live {s₁ : State R} {p₁ : Participation R}
    {settled : Bool}
    (h : trySettleExpiry s id pid p asset = .ok (s₁, p₁, settled))
    (hlive : settled = false → p₁.status.isActive = true) :
    p.status.isLive = true := by
  rcases trySettleExpiry_cases h with ⟨hfalse, _, _, rfl⟩ | ⟨_, hlapsed, _⟩
  · exact isLive_of_isActive (hlive hfalse)
  · exact isLive_of_lapsed hlapsed

theorem live_of_refunds {s' : State R} (h : step s a = .ok s')
    (ha : a.Refunds id pid) :
    ∃ p, (s.participations id).get pid = some p ∧ p.status.isLive = true := by
  unfold Action.Refunds at ha
  split at ha
  all_goals first | exact ha.elim | obtain ⟨rfl, rfl⟩ := ha
  all_goals simp only [step, dispatch] at h
  · simp only [rejectParticipation, do_eq_ok] at h
    obtain ⟨_, _, p, hp, hpending, _⟩ := h
    exact ⟨p, hp, by rw [hpending]; rfl⟩
  · simp only [exitParticipation, do_eq_ok] at h
    obtain ⟨_, _, p, hp, _, asset, _, ⟨s₁, p₁, settled⟩, hsettle, h⟩ := h
    refine ⟨p, hp, trySettleExpiry_live hsettle fun hfalse => ?_⟩
    simp only [hfalse, Bool.false_eq_true, if_false, do_eq_ok] at h
    exact h.1
  · simp only [settleExpiredParticipation, do_eq_ok] at h
    obtain ⟨_, _, asset, _, p, hp, ⟨s₁, p₁, settled⟩, hsettle, htrue, _⟩ := h
    refine ⟨p, hp, trySettleExpiry_live hsettle fun hfalse => ?_⟩
    cases hfalse.symm.trans htrue
  · simp only [claimRetiredDeposit, do_eq_ok] at h
    obtain ⟨_, _, asset, _, _, p, hp, hst, _⟩ := h
    refine ⟨p, hp, ?_⟩
    rcases hst with hactive | hpending
    · exact isLive_of_isActive hactive
    · rw [hpending]; rfl
  · simp only [removeHolder, do_eq_ok] at h
    obtain ⟨_, _, asset, _, p, hp, _, _, hlive, _⟩ := h
    exact ⟨p, hp, isLive_of_isActive (ensureLive_eq_ok hlive).1⟩
  · simp only [leaveParticipation, do_eq_ok] at h
    obtain ⟨_, _, asset, _, p, hp, _, _, hlive, _⟩ := h
    exact ⟨p, hp, isLive_of_isActive (ensureLive_eq_ok hlive).1⟩
  · simp only [slashParticipation, do_eq_ok] at h
    obtain ⟨_, _, asset, _, p, hp, ⟨s₁, p₁, settled⟩, hinner, hfalse, _,
      hactive, _⟩ := h
    refine ⟨p, hp, ?_⟩
    rcases trySettleExpiryInner_cases hinner with
      ⟨_, _, _, rfl⟩ | ⟨_, hlapsed, _⟩
    · exact isLive_of_isActive hactive
    · exact isLive_of_lapsed hlapsed
  · simp only [revokeParticipation, do_eq_ok] at h
    obtain ⟨_, _, asset, _, p, hp, _, hlive, _⟩ := h
    exact ⟨p, hp, isLive_of_isActive (ensureLive_eq_ok hlive).1⟩

theorem paidOut_iff (b : Books R) (id pid : Nat) :
    PaidOut b id pid ↔ pid < b.nextParticipationId id ∧
      ∀ e, b.entry id pid = some e → e.status.isLive = false := by
  refine and_congr_right fun _ => ⟨fun h e he => ?_, fun h p hp => ?_⟩
  · obtain ⟨p, hp, rfl⟩ := exists_of_entry he
    exact h p hp
  · exact h _ (Books.entry_of_get hp)

private theorem PaidOut.update {i q : Nat} {e : Option Entry}
    (h : PaidOut b id pid) (hup : Updates b b' i q t e)
    (hgrow : b.nextParticipationId id ≤ b'.nextParticipationId id)
    (hne : ¬ (id = i ∧ pid = q)) : PaidOut b' id pid := by
  rw [paidOut_iff] at h ⊢
  rw [hup.entry_ne id pid hne]
  exact ⟨Nat.lt_of_lt_of_le h.1 hgrow, h.2⟩

/-- A change that writes to a live entry leaves one that was paid out alone. -/
private theorem PaidOut.update_live {i q : Nat} {e : Option Entry}
    (h : PaidOut b id pid) (hup : Updates b b' i q t e)
    (hp : (b.participations i).get q = some p) (hlive : p.status.isLive = true)
    (hnext : b'.nextParticipationId = b.nextParticipationId) :
    PaidOut b' id pid := by
  refine h.update hup (Nat.le_of_eq (by rw [hnext])) ?_
  rintro ⟨rfl, rfl⟩
  cases (h.2 p hp).symm.trans hlive

/-- A deposit that has been paid out is not there to be paid out again, unless
the participation is renewed. -/
theorem PaidOut.change {now : Nat} (h : Change a now b b')
    (ha : ∀ g o, a ≠ .call g o (.renewParticipation id pid))
    (hout : PaidOut b id pid) : PaidOut b' id pid := by
  cases h with
  | detail _ hsame =>
      rw [paidOut_iff] at hout ⊢
      rwa [hsame.next, hsame.entry]
  | registered _ _ _ _ hentry _ hnext =>
      rw [paidOut_iff] at hout ⊢
      rwa [hnext, hentry]
  | policyUpdated _ _ _ _ _ _ _ _ _ hentry _ hnext =>
      rw [paidOut_iff] at hout ⊢
      rwa [hnext, hentry]
  | @requested _ _ i _ _ _ _ _ _ _ hup hnext =>
      refine hout.update hup ?_ ?_
      · rw [hnext]
        by_cases hi : id = i <;> simp [hi]
      · rintro ⟨rfl, hpid⟩
        have hlt := hout.1
        omega
  | approved _ hp hpending _ hup hnext | rejected _ hp hpending _ hup hnext =>
      exact hout.update_live hup hp (by rw [hpending]; rfl) hnext
  | ended _ hp hlive _ _ _ hup hnext =>
      refine hout.update_live hup hp ?_ hnext
      rcases hlive with ⟨hactive, _⟩ | ⟨hlive, _⟩
      · exact isLive_of_isActive hactive
      · exact hlive
  | slashed _ _ hp hactive _ _ _ hup hnext =>
      exact hout.update_live hup hp (isLive_of_isActive hactive) hnext
  | renewed _ hp hrun _ hup hnext =>
      exact hout.update_live hup hp (isLive_of_isActive hrun.1) hnext
  | reopened ha' _ _ _ _ _ hup hnext =>
      refine hout.update hup (Nat.le_of_eq (by rw [hnext])) ?_
      rintro ⟨rfl, rfl⟩
      exact ha _ _ ha'

/-! ## Runs -/

/-- What a step of the pallet brings into the pallet account. -/
def ExactLedger.flow (L : ExactLedger R) (c : PaymentCurrency R.AssetId)
    (s : State R) (a : Action R) : Int :=
  if a.isOutside = true then 0
  else
    match step s a with
    | .ok s' => (L.escrow s'.world c : Int) - L.escrow s.world c
    | .error _ => 0

/-- What the pallet account has received less what it has paid, in the steps of
a run. -/
def ExactLedger.netReceived (L : ExactLedger R)
    (c : PaymentCurrency R.AssetId) (t : List (State R × Action R)) : Int :=
  t.foldl (fun n q => n + L.flow c q.1 q.2) 0

/-- A step without a slash, by outsiders and without overflow. -/
abbrev Ordinary (_ : State R) (a : Action R) : Prop :=
  a.isSlash = false ∧ a.Decent

theorem decent_of_reachable (h : Reachable Ordinary s) : Decent s.toBooks :=
  books_invariant (fun _ => ⟨nofun, nofun⟩)
    (fun _ _ _ hok _ _ _ hmove hb => hb.move hmove hok.2) h

/-- One step brings in as much as it adds to the liabilities. -/
theorem flow_eq (L : ExactLedger R) {s' : State R} (hs : Reachable Ordinary s)
    (hok : Ordinary s a) (h : step s a = .ok s')
    (c : PaymentCurrency R.AssetId) :
    L.flow c s a = (s'.liabilities c : Int) - s.liabilities c := by
  unfold ExactLedger.flow
  by_cases hout : a.isOutside = true
  · rw [if_pos hout]
    cases a with
    | outside =>
        cases h
        show (0 : Int) = (s.liabilities c : Int) - s.liabilities c
        omega
    | call | nextBlock => cases hout
  · rw [if_neg hout, h]
    have hfollows := (step_induct (J := fun b => Sound b ∧ Decent b ∧
      L.escrow b.world c + s.liabilities c =
        L.escrow s.world c + b.liabilities c) h ?_
      ⟨sound_of_reachable hs, decent_of_reachable hs, rfl⟩).2.2
    · dsimp only
      omega
    · rintro b b' hmove ⟨hsound, hb, heq⟩
      have hone := hmove.change.follows L hok.1 (by simpa using hout) hok.2
        hsound hb c
      exact ⟨hsound.change hmove.change, hb.move hmove hok.2, by omega⟩

/-- In every run without slashes, what the pallet account has received less
what it has paid is what the policies say it owes; live participations hold the
deposit of their policy and others nothing; and a deposit that has been paid out
is not paid out again before the participation is renewed. -/
theorem escrow_equals_liabilities (L : ExactLedger R) {s₀ s : State R}
    {t : List (State R × Action R)} (hgen : Genesis s₀)
    (hrun : Transition.Run step s₀ t s)
    (hok : ∀ q ∈ t, Ordinary q.1 q.2) :
    (∀ c, L.netReceived c t = s.liabilities c) ∧
    (∀ id pid asset p, s.rwaAssets.get id = some asset →
      (s.participations id).get pid = some p →
      p.depositHeld =
        if p.status.isLive = true then asset.policy.deposit else 0) ∧
    (∀ q ∈ t, ∀ id pid, PaidOut q.1.toBooks id pid →
      ¬ q.2.Refunds id pid ∧
      ∀ s', step q.1 q.2 = .ok s' → PaidOut s'.toBooks id pid ∨
        ∃ g o, q.2 = .call g o (.renewParticipation id pid)) := by
  have hreach : Reachable Ordinary s := .run (.init hgen) hrun hok
  refine ⟨fun c => ?_, fun id pid asset p hget hp => ?_, fun q hq id pid hout =>
    ⟨fun hrefunds => ?_, fun s' hstep => ?_⟩⟩
  · refine (hrun.history (J := fun s (n : Int) => Reachable Ordinary s ∧
      n = s.liabilities c) ?_ hok ⟨.init hgen, ?_⟩).2
    · rintro s a s' n hok ⟨hs, rfl⟩ hstep
      refine ⟨.step hs hok hstep, ?_⟩
      rw [flow_eq L hs hok hstep c]
      omega
    · obtain ⟨world, now, rfl⟩ := hgen
      rfl
  · have hheld := (sound_of_reachable hreach).held id pid _ _
      (Books.terms_of_get hget) (Books.entry_of_get hp)
    split
    · next hlive => exact hheld.live hlive
    · next hlive => exact hheld.ended (Bool.eq_false_of_not_eq_true hlive)
  · obtain ⟨_, s₁, hstep⟩ := Transition.Reach.mem_run (.init hgen) hrun hok q hq
    obtain ⟨p, hp, hlive⟩ := live_of_refunds hstep hrefunds
    cases (hout.2 p hp).symm.trans hlive
  · by_cases hrenew : ∃ g o, q.2 = .call g o (.renewParticipation id pid)
    · exact .inr hrenew
    · refine .inl (step_induct (J := fun b => PaidOut b id pid) hstep ?_ hout)
      intro b b' hmove hb
      exact hb.change hmove.change fun g o ha => hrenew ⟨g, o, ha⟩

/-- Two request, one is approved. -/
def escrowRequests : List (Action vault) :=
  [registered { defaultPolicy with entryFee := 10, requiresApproval := true },
    signedBy 2 (.requestParticipation 0 [2]),
    signedBy 3 (.requestParticipation 0 [3]),
    signedBy 1 (.approveParticipation 0 0)]

/-- Two deposits and one fee are owed, and have been received. -/
theorem escrow_equals_liabilities_approved :
    (vaultAfter escrowRequests).liabilities .native = 110 ∧
      vaultLedger.netReceived .native
        (Transition.trace step vaultGenesis escrowRequests) = 110 := by
  have hrun : Transition.Run step vaultGenesis
      (Transition.trace step vaultGenesis escrowRequests)
      (vaultAfter escrowRequests) :=
    Transition.run_of_exec (Transition.exec_final (by decide +kernel))
  have howed : (vaultAfter escrowRequests).liabilities .native = 110 := by
    decide +kernel
  refine ⟨howed, ?_⟩
  have hnet := (escrow_equals_liabilities vaultLedger ⟨_, _, rfl⟩ hrun ?_).1
    .native
  · rw [hnet, howed]
    rfl
  · intro q hq
    have hmem := Transition.mem_of_mem_trace hq
    simp only [escrowRequests, List.mem_cons, List.not_mem_nil,
      or_false] at hmem
    rcases hmem with h | h | h | h <;>
      simp [h, Ordinary, Action.isSlash, Action.Decent, registered, signedBy,
        defaultPolicy]

end Thxnet.Rwa
