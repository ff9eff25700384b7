import Thxnet.Crowdfunding.Ledger
import Thxnet.Crowdfunding.Lifecycle

/-!
# The three records of who has invested

An investment is recorded three times: in the investor's own record, in the
totals of the campaign, and in the investor's list of campaigns.  `BoundedAt`
is what saturating arithmetic keeps true of the records in every run.
`ExactAt` couples the three; it holds in every run whose cumulative sums fit a
`u128` and whose campaigns never have `2 ^ 32` investors at a time.
-/

namespace Thxnet.Crowdfunding

open Thxnet.Lib Thxnet.Frame

variable {T : Config}

/-! ## Records -/

/-- Whether an investor still has something in the campaign. -/
def Investment.active (inv : Investment) : Bool := decide (0 < inv.net)

variable {a : Action T} {b b' : Books T}
    {ids : BoundedVec Nat T.maxInvestmentsPerInvestor} {c : Campaign T}
    {inv : Investment} {amount id n : Nat} {s : State T} {who : T.AccountId}
    {counts : Prop}

theorem Investment.active_iff :
    inv.active = true ↔ 0 < inv.net := decide_eq_true_iff

theorem Investment.active_eq_false : inv.active = false ↔ inv.net = 0 := by
  rw [Investment.active, decide_eq_false_iff_not]
  omega

/-- What saturation cannot break. -/
structure Investment.Bounded (inv : Investment) : Prop where
  withdrawn_le : inv.totalWithdrawn ≤ inv.totalInvested
  invested_lt : inv.totalInvested < 2 ^ 128

theorem Investment.bounded_default : (default : Investment).Bounded :=
  ⟨Nat.le_refl 0, Nat.two_pow_pos 128⟩

theorem Investment.Bounded.invested (h : inv.Bounded) (amount : Nat) :
    (inv.invested amount).Bounded where
  withdrawn_le := by
    have h₁ := h.withdrawn_le
    have h₂ := h.invested_lt
    unfold Investment.invested saturatingAdd maxValue
    dsimp only
    omega
  invested_lt := by
    unfold Investment.invested saturatingAdd maxValue
    dsimp only
    omega

theorem Investment.Bounded.withdrawn_eq (h : inv.Bounded)
    (hle : amount ≤ inv.net) :
    inv.withdrawn amount =
      { inv with totalWithdrawn := inv.totalWithdrawn + amount } := by
  have h₁ := h.withdrawn_le
  have h₂ := h.invested_lt
  have hfits : inv.totalWithdrawn + amount < 2 ^ 128 := by
    unfold Investment.net at hle
    omega
  rw [Investment.withdrawn, saturatingAdd_eq hfits]

theorem Investment.Bounded.withdrawn (h : inv.Bounded)
    (hle : amount ≤ inv.net) : (inv.withdrawn amount).Bounded := by
  have h₁ := h.withdrawn_le
  rw [h.withdrawn_eq hle]
  unfold Investment.net at hle
  exact ⟨by dsimp only; omega, h.invested_lt⟩

theorem Investment.Bounded.net_withdrawn (h : inv.Bounded)
    (hle : amount ≤ inv.net) :
    (inv.withdrawn amount).net + amount = inv.net := by
  rw [h.withdrawn_eq hle]
  unfold Investment.net at hle ⊢
  dsimp only
  omega

theorem Investment.Bounded.fullyWithdrawn_iff (h : inv.Bounded) :
    inv.fullyWithdrawn = true ↔ inv.net = 0 := by
  have h₁ := h.withdrawn_le
  unfold Investment.fullyWithdrawn Investment.net
  rw [decide_eq_true_eq]
  omega

/-- An investment adds at most its amount, and exactly that if it fits. -/
theorem Investment.net_invested_le (inv : Investment) (amount : Nat) :
    (inv.invested amount).net ≤ inv.net + amount := by
  have hle := saturatingAdd_le 128 inv.totalInvested amount
  unfold Investment.invested Investment.net
  dsimp only
  omega

theorem Investment.Bounded.net_invested (h : inv.Bounded)
    (hfits : inv.totalInvested + amount < 2 ^ 128) :
    (inv.invested amount).net = inv.net + amount := by
  have h₁ := h.withdrawn_le
  unfold Investment.invested Investment.net
  rw [saturatingAdd_eq hfits]
  dsimp only
  omega

/-- Every record of a campaign is bounded. -/
def Books.BoundedAt (b : Books T) (id : Nat) : Prop :=
  ∀ who inv, (b.investments id).get who = some inv → inv.Bounded

theorem investment_eq (h : (b.investments id).get who = some inv) :
    b.investment id who = inv := by
  rw [Books.investment, h]
  rfl

theorem Books.BoundedAt.investment (h : b.BoundedAt id) (who : T.AccountId) :
    (b.investment id who).Bounded := by
  unfold Books.investment
  cases hget : (b.investments id).get who with
  | none => exact Investment.bounded_default
  | some inv => exact h who inv hget

theorem Effect.boundedAt (h : Effect b a b') (hI : b.BoundedAt id) :
    b'.BoundedAt id := by
  by_cases ht : a.target b = some id
  swap
  · unfold Books.BoundedAt
    rw [(h.sameAt ht).records]
    exact hI
  cases h with
  | @invested who =>
      cases ht
      simp only [Books.BoundedAt, StorageDoubleMap.insert_self]
      exact StorageMap.forall_insert hI ((hI.investment who).invested _)
  | withdrawn _ _ _ hinv hle =>
      cases ht
      simp only [Books.BoundedAt, StorageDoubleMap.insert_self]
      exact StorageMap.forall_insert hI ((hI _ _ hinv).withdrawn hle)
  | refunded =>
      cases ht
      simp only [Books.BoundedAt, StorageDoubleMap.remove_self]
      exact StorageMap.forall_remove hI
  | _ => exact hI

variable {ok : State T → Action T → Prop}

theorem boundedAt_of_reachable (h : Reachable ok s) (id : Nat) :
    s.toBooks.BoundedAt id := by
  refine books_invariant (I := fun b => b.BoundedAt id) (fun _ _ => ?_)
    (fun _ _ _ _ hI _ he => he.boundedAt hI) h
  intro who inv hget
  simp [State.genesis] at hget

/-! ## Totals of a campaign -/

/-- The statuses in which nothing has been paid out yet. -/
def CampaignStatus.undisbursed : CampaignStatus → Bool
  | .funding => true
  | .paused => true
  | .succeeded => true
  | .failed => true
  | .milestonePhase => false
  | .completed => false
  | .cancelled => false

/-- What holds of the totals of a campaign in every run. -/
structure Campaign.Totals (c : Campaign T) : Prop where
  raised_lt : c.totalRaised < 2 ^ 128
  disbursed_le : c.totalDisbursed ≤ c.totalRaised
  undisbursed : c.status.undisbursed = true → c.totalDisbursed = 0

theorem Campaign.milestoneRelease_le (c : Campaign T) (m : Milestone) :
    c.milestoneRelease m ≤ c.totalRaised - c.totalDisbursed :=
  Nat.min_le_right _ _

theorem Campaign.Totals.disbursed_released (h : c.Totals) (m : Milestone)
    (finished : Bool) :
    (c.released (c.milestoneRelease m) finished).totalDisbursed =
      c.totalDisbursed + c.milestoneRelease m := by
  have h₁ := h.raised_lt
  have h₂ := h.disbursed_le
  have h₃ := c.milestoneRelease_le m
  exact saturatingAdd_eq (by omega)

private theorem totals_invested (h : c.Totals) (hstatus : c.status = .funding)
    (amount : Nat) (isNew : Bool) : (c.invested amount isNew).Totals := by
  have hzero := h.undisbursed (by rw [hstatus]; rfl)
  refine ⟨?_, ?_, h.undisbursed⟩
  · have hpow := Nat.two_pow_pos 128
    simp only [Campaign.invested, saturatingAdd, maxValue]
    omega
  · simp only [Campaign.invested, hzero]
    exact Nat.zero_le _

private theorem totals_withdrawn (h : c.Totals)
    (hstatus : c.status = .funding ∨ c.status = .paused) (amount : Nat)
    (fully : Bool) : (c.withdrawn amount fully).Totals := by
  have hzero := h.undisbursed (by
    rcases hstatus with hst | hst <;> rw [hst] <;> rfl)
  refine ⟨Nat.lt_of_le_of_lt (Nat.sub_le _ _) h.raised_lt, ?_, h.undisbursed⟩
  simp only [Campaign.withdrawn, hzero]
  exact Nat.zero_le _

private theorem totals_released (h : c.Totals)
    (hstatus : c.status = .milestonePhase) (m : Milestone) (finished : Bool) :
    (c.released (c.milestoneRelease m) finished).Totals := by
  have h₁ := c.milestoneRelease_le m
  have h₂ := h.disbursed_le
  refine ⟨h.raised_lt, ?_, fun hst => ?_⟩
  · rw [h.disbursed_released]
    show _ ≤ c.totalRaised
    omega
  · unfold Campaign.released at hst
    dsimp only at hst
    split at hst
    · cases hst
    · rw [hstatus] at hst
      cases hst

private theorem totals_step (h : c.Totals) (hstep : c.Step id a c') :
    c'.Totals := by
  cases hstep with
  | invested hstatus => exact totals_invested h hstatus _ _
  | withdrawn hstatus => exact totals_withdrawn h hstatus _ _
  | refunded | depositClaimed =>
      exact ⟨h.raised_lt, h.disbursed_le, h.undisbursed⟩
  | finalized _ hstatus =>
      exact ⟨h.raised_lt, h.disbursed_le,
        fun _ => h.undisbursed (by rw [hstatus]; rfl)⟩
  | paused _ hedge =>
      refine ⟨h.raised_lt, h.disbursed_le, fun _ => h.undisbursed ?_⟩
      rcases hedge with ⟨hst, _⟩ | ⟨hst, _⟩ <;> rw [hst] <;> rfl
  | cancelled => exact ⟨h.raised_lt, h.disbursed_le, fun hst => by cases hst⟩
  | reviewed => exact h
  | fundsClaimed => exact ⟨h.raised_lt, Nat.le_refl _, fun hst => by cases hst⟩
  | released hstatus => exact totals_released h hstatus _ _

theorem Effect.totals (h : Effect b a b')
    (hI : ∀ c, b.campaigns.get id = some c → c.Totals)
    (hget' : b'.campaigns.get id = some c') : c'.Totals := by
  cases h.changeAt id with
  | kept _ hsame => exact hI c' (hsame.campaign ▸ hget')
  | created _ _ _ hnew _ hget₁ =>
      cases hget₁.symm.trans hget'
      exact ⟨by rw [hnew.raised]; exact Nat.two_pow_pos 128,
        by rw [hnew.disbursed]; exact Nat.zero_le _, fun _ => hnew.disbursed⟩
  | changed hget hget₁ hstep =>
      cases hget₁.symm.trans hget'
      exact totals_step (hI _ hget) hstep

theorem totals_of_reachable (h : Reachable ok s)
    (hget : s.campaigns.get id = some c) : c.Totals := by
  refine books_invariant
    (I := fun b => ∀ c, b.campaigns.get id = some c → c.Totals)
    (fun _ _ c hc => ?_) (fun _ _ _ _ hI _ he _ => he.totals hI) h c hget
  simp [State.genesis] at hc

/-! ## The coupling -/

/-- The three records of a campaign agree; the number of its investors does if
`counts`. -/
structure Books.ExactAt (b : Books T) (id : Nat) (counts : Prop) : Prop where
  listed : ∀ who, b.listings id who =
    if (b.investment id who).active then 1 else 0
  counted : counts → ∀ c, b.campaigns.get id = some c →
    c.investorCount = (b.investments id).count Investment.active
  raised : ∀ c, b.campaigns.get id = some c → c.status.settled = false →
    c.totalRaised = (b.investments id).sum Investment.net

/-- The cumulative sums an investment writes fit a `u128`. -/
def SumsFit (b : Books T) : Action T → Prop
  | .call (.signed who) (.invest id amount) =>
      (b.investment id who).totalInvested + amount < 2 ^ 128 ∧
      ∀ c, b.campaigns.get id = some c → c.totalRaised + amount < 2 ^ 128
  | _ => True

/-- A new investor's campaign has fewer than `2 ^ 32 - 1` investors. -/
def CrowdFits (b : Books T) : Action T → Prop
  | .call (.signed who) (.invest id _) =>
      b.isNew id who = true →
        (b.investments id).count Investment.active + 1 < 2 ^ 32
  | _ => True

theorem Books.ExactAt.sameAt (h : b.ExactAt id counts)
    (hsame : SameAt b b' id) : b'.ExactAt id counts where
  listed := by
    intro who
    rw [hsame.listings, h.listed, Books.investment, Books.investment,
      hsame.records]
  counted := by
    intro hc c hget
    rw [hsame.records]
    exact h.counted hc c (hsame.campaign ▸ hget)
  raised := by
    intro c hget
    rw [hsame.records]
    exact h.raised c (hsame.campaign ▸ hget)

/-- A change of the campaign record that keeps the totals and does not reopen
the campaign. -/
theorem Books.ExactAt.replace {c' : Campaign T} (h : b.ExactAt id counts)
    (hget : b.campaigns.get id = some c)
    (hget' : b'.campaigns.get id = some c')
    (hrecords : b'.investments = b.investments)
    (hlists : b'.investorCampaigns = b.investorCampaigns)
    (hcount : c'.investorCount = c.investorCount)
    (hraised : c'.totalRaised = c.totalRaised)
    (hopen : c'.status.settled = false → c.status.settled = false) :
    b'.ExactAt id counts where
  listed := by
    intro who
    unfold Books.listings Books.investment
    rw [hlists, hrecords]
    exact h.listed who
  counted := by
    intro hc c₁ hc₁
    cases hget'.symm.trans hc₁
    rw [hcount, hrecords]
    exact h.counted hc c hget
  raised := by
    intro c₁ hc₁ hst
    cases hget'.symm.trans hc₁
    rw [hraised, hrecords]
    exact h.raised c hget (hopen hst)

private theorem getD_net (o : Option Investment) :
    (o.map Investment.net).getD 0 = (o.getD default).net := by
  cases o <;> rfl

private theorem any_active (o : Option Investment) :
    o.any Investment.active = (o.getD default).active := by
  cases o <;> rfl

theorem sum_net_insert (b : Books T) (id : Nat) (who : T.AccountId)
    (inv : Investment) :
    (b.investments.insert id who inv id).sum Investment.net
      + (b.investment id who).net =
        (b.investments id).sum Investment.net + inv.net := by
  have h := (b.investments id).sum_insert who inv Investment.net
  rw [getD_net] at h
  rw [StorageDoubleMap.insert_self]
  exact h

theorem sum_net_remove (b : Books T) (id : Nat) (who : T.AccountId) :
    (b.investments.remove id who id).sum Investment.net
      + (b.investment id who).net = (b.investments id).sum Investment.net := by
  have h := (b.investments id).sum_remove who Investment.net
  rw [getD_net] at h
  rw [StorageDoubleMap.remove_self]
  exact h

theorem count_active_insert (b : Books T) (id : Nat) (who : T.AccountId)
    (inv : Investment) :
    (b.investments.insert id who inv id).count Investment.active
      + (if (b.investment id who).active then 1 else 0) =
        (b.investments id).count Investment.active
          + (if inv.active then 1 else 0) := by
  have h := (b.investments id).count_insert who inv Investment.active
  rw [any_active] at h
  rw [StorageDoubleMap.insert_self]
  exact h

theorem count_active_remove (b : Books T) (id : Nat) (who : T.AccountId) :
    (b.investments.remove id who id).count Investment.active
      + (if (b.investment id who).active then 1 else 0) =
        (b.investments id).count Investment.active := by
  have h := (b.investments id).count_remove who Investment.active
  rw [any_active] at h
  rw [StorageDoubleMap.remove_self]
  exact h

/-! ### The three calls that write records -/

theorem investment_insert (b : Books T) (id : Nat)
    (who x : T.AccountId) (inv : Investment) :
    ((b.investments.insert id who inv id).get x).getD default =
      if x = who then inv else b.investment id x := by
  rw [StorageDoubleMap.insert_self, StorageMap.get_insert]
  split <;> rfl

theorem investment_remove (b : Books T) (id : Nat)
    (who x : T.AccountId) :
    ((b.investments.remove id who id).get x).getD default =
      if x = who then default else b.investment id x := by
  rw [StorageDoubleMap.remove_self, StorageMap.get_remove]
  split <;> rfl

theorem isNew_iff (b : Books T) (id : Nat) (who : T.AccountId) :
    b.isNew id who = true ↔ b.listings id who = 0 := by
  simp [Books.isNew, Books.listings, List.count_eq_zero]

private theorem count_pushNew_self (hids : b.pushNew id who = some ids) :
    ids.toList.count id =
      if b.listings id who = 0 then 1 else b.listings id who := by
  unfold Books.pushNew at hids
  by_cases hnew : b.isNew id who = true
  · rw [if_pos hnew] at hids
    have hzero := (isNew_iff b id who).mp hnew
    rw [if_pos hzero, BoundedVec.toList_of_tryPush hids, List.count_append]
    unfold Books.listings at hzero
    simp [hzero]
  · rw [if_neg hnew] at hids
    cases hids
    rw [isNew_iff] at hnew
    rw [if_neg hnew]
    rfl

private theorem listings_update
    (hlists : b'.investorCampaigns = Function.update b.investorCampaigns who
      ids) (x : T.AccountId) :
    b'.listings id x =
      if x = who then ids.toList.count id else b.listings id x := by
  unfold Books.listings
  rw [hlists]
  by_cases hx : x = who
  · subst hx
    rw [Function.update_self, if_pos rfl]
  · rw [Function.update_of_ne hx, if_neg hx]

theorem Books.ExactAt.invest (h : b.ExactAt id counts) (hb : b.BoundedAt id)
    (hget : b.campaigns.get id = some c) (hamount : amount ≠ 0)
    (hids : b.pushNew id who = some ids)
    (hinvested : (b.investment id who).totalInvested + amount < 2 ^ 128)
    (hraised : c.totalRaised + amount < 2 ^ 128)
    (hcrowd : counts → b.isNew id who = true →
      (b.investments id).count Investment.active + 1 < 2 ^ 32)
    (hrecords : b'.investments = b.investments.insert id who ((b.investment id
      who).invested amount))
    (hlists : b'.investorCampaigns = Function.update b.investorCampaigns who
      ids)
    (hget' : b'.campaigns.get id = some (c.invested amount (b.isNew id who))) :
    b'.ExactAt id counts := by
  have hnet := (hb.investment who).net_invested hinvested
  have hactive : ((b.investment id who).invested amount).active = true := by
    rw [Investment.active_iff, hnet]
    omega
  have hlisted := h.listed who
  refine ⟨fun x => ?_, fun hcounts c' hc' => ?_, fun c' hc' hst => ?_⟩
  · rw [listings_update hlists, Books.investment, hrecords,
      investment_insert]
    by_cases hx : x = who
    · rw [if_pos hx, if_pos hx, if_pos hactive, count_pushNew_self hids,
        hlisted]
      cases (b.investment id who).active <;> rfl
    · rw [if_neg hx, if_neg hx]
      exact h.listed x
  · cases hget'.symm.trans hc'
    have hcount := count_active_insert b id who
      ((b.investment id who).invested amount)
    rw [← hrecords, if_pos hactive] at hcount
    have hold := h.counted hcounts c hget
    have hnew := isNew_iff b id who
    rw [hlisted] at hnew
    unfold Campaign.invested
    dsimp only
    cases hact : (b.investment id who).active with
    | false =>
        rw [hact] at hnew hcount
        have hroom := hcrowd hcounts (hnew.mpr rfl)
        rw [if_pos (hnew.mpr rfl), saturatingAdd_eq (by omega)]
        simp only [Bool.false_eq_true, if_false] at hcount
        omega
    | true =>
        rw [hact] at hnew hcount
        rw [if_neg (fun h => by simpa using hnew.mp h)]
        simp only [if_true] at hcount
        omega
  · cases hget'.symm.trans hc'
    have hsum := sum_net_insert b id who
      ((b.investment id who).invested amount)
    rw [← hrecords, hnet] at hsum
    have hold := h.raised c hget hst
    unfold Campaign.invested
    dsimp only
    rw [saturatingAdd_eq hraised]
    omega

private theorem listings_drop
    (hlists : b'.investorCampaigns = b.dropCampaign id who) (x : T.AccountId) :
    b'.listings id x =
      if x = who then b.listings id who - 1 else b.listings id x := by
  rw [listings_update hlists, BoundedVec.toList_removeFirst,
    List.count_erase_self]
  rfl

private theorem Books.ExactAt.listed_of_net (h : b.ExactAt id counts)
    (hrec : b.investment id who = inv) (hnet : inv.net ≠ 0) :
    inv.active = true ∧ b.listings id who = 1 := by
  have hactive : inv.active = true := by
    rw [Investment.active_iff]
    omega
  exact ⟨hactive, by rw [h.listed who, hrec, if_pos hactive]⟩

theorem Books.ExactAt.withdraw (h : b.ExactAt id counts) (hb : b.BoundedAt id)
    (hget : b.campaigns.get id = some c) (hamount : amount ≠ 0)
    (hinv : (b.investments id).get who = some inv) (hle : amount ≤ inv.net)
    (hrecords : b'.investments = b.investments.insert id who (inv.withdrawn
      amount))
    (hlists : b'.investorCampaigns = if (inv.withdrawn amount).fullyWithdrawn
      then b.dropCampaign id who else b.investorCampaigns)
    (hget' : b'.campaigns.get id = some (c.withdrawn amount (inv.withdrawn
      amount).fullyWithdrawn)) : b'.ExactAt id counts := by
  have hbounded := hb who inv hinv
  have hnet := hbounded.net_withdrawn hle
  have hactive' : (inv.withdrawn amount).active =
      !(inv.withdrawn amount).fullyWithdrawn := by
    rw [Bool.eq_not_iff, ne_eq, Bool.eq_iff_iff, Investment.active_iff,
      (hbounded.withdrawn hle).fullyWithdrawn_iff]
    omega
  have hrec := investment_eq hinv
  obtain ⟨hactive, hlisted⟩ := h.listed_of_net hrec (by omega)
  have hcount := count_active_insert b id who (inv.withdrawn amount)
  rw [← hrecords, hrec, if_pos hactive, hactive'] at hcount
  have hsum := sum_net_insert b id who (inv.withdrawn amount)
  rw [← hrecords, hrec] at hsum
  refine ⟨fun x => ?_, fun hcounts c' hc' => ?_, fun c' hc' hst => ?_⟩
  · have hother := h.listed x
    rw [Books.investment, hrecords, investment_insert]
    cases hdone : (inv.withdrawn amount).fullyWithdrawn with
    | true =>
        rw [hdone] at hlists hactive'
        rw [listings_drop hlists, hlisted]
        by_cases hx : x = who <;> simp [hx, hactive', hother]
    | false =>
        rw [hdone] at hlists hactive'
        have hsame : b'.listings id x = b.listings id x := by
          rw [Books.listings, hlists]
          rfl
        rw [hsame]
        by_cases hx : x = who
        · simp [hx, hactive', hlisted]
        · simp [hx, hother]
  · cases hget'.symm.trans hc'
    have hold := h.counted hcounts c hget
    simp only [Campaign.withdrawn]
    cases hdone : (inv.withdrawn amount).fullyWithdrawn <;>
      simp [hdone] at hcount ⊢ <;> omega
  · cases hget'.symm.trans hc'
    have hraised := h.raised c hget hst
    simp only [Campaign.withdrawn]
    omega

theorem Books.ExactAt.refund (h : b.ExactAt id counts)
    (hget : b.campaigns.get id = some c) (hstatus : c.status.settled = true)
    (hinv : (b.investments id).get who = some inv) (hnet : inv.net ≠ 0)
    (hrecords : b'.investments = b.investments.remove id who)
    (hlists : b'.investorCampaigns = b.dropCampaign id who)
    (hget' : b'.campaigns.get id = some { c with investorCount :=
      c.investorCount - 1 }) : b'.ExactAt id counts := by
  have hrec := investment_eq hinv
  obtain ⟨hactive, hlisted⟩ := h.listed_of_net hrec hnet
  refine ⟨fun x => ?_, fun hcounts c₁ hc₁ => ?_, fun c₁ hc₁ hst => ?_⟩
  · rw [listings_drop hlists, hlisted, Books.investment, hrecords,
      investment_remove]
    by_cases hx : x = who
    · rw [if_pos hx, if_pos hx]
      rfl
    · rw [if_neg hx, if_neg hx]
      exact h.listed x
  · cases hget'.symm.trans hc₁
    have hcount := count_active_remove b id who
    rw [← hrecords, hrec, if_pos hactive] at hcount
    have hold := h.counted hcounts c hget
    dsimp only
    omega
  · cases hget'.symm.trans hc₁
    cases hstatus.symm.trans hst

/-- A campaign that has just been created has no records to disagree with. -/
theorem Books.Untouched.exactAt (h : b.Untouched id)
    (hrecords : b'.investments = b.investments)
    (hlists : b'.investorCampaigns = b.investorCampaigns)
    (hget' : b'.campaigns.get id = some c) (hraised : c.totalRaised = 0)
    (hcount : c.investorCount = 0) : b'.ExactAt id counts := by
  have hsum : ∀ f : Investment → Nat, (b'.investments id).sum f = 0 := by
    intro f
    rw [hrecords, StorageMap.sum_eq_zero_iff]
    intro who inv hinv
    rw [h.records] at hinv
    cases hinv
  refine ⟨fun who => ?_, fun _ c' hc' => ?_, fun c' hc' _ => ?_⟩
  · have hzero := h.listings who
    unfold Books.listings at hzero
    rw [Books.listings, hlists, hzero, Books.investment, hrecords, h.records]
    rfl
  · cases hget'.symm.trans hc'
    exact hcount.trans (hsum _).symm
  · cases hget'.symm.trans hc'
    exact hraised.trans (hsum _).symm

/-- Every step whose sums and crowds fit keeps the three records in line. -/
theorem Effect.exactAt (h : Effect b a b') (hf : b.Fresh)
    (hb : b.BoundedAt id) (hsums : SumsFit b a)
    (hcrowd : counts → CrowdFits b a)
    (hI : b.ExactAt id counts) : b'.ExactAt id counts := by
  by_cases ht : a.target b = some id
  swap
  · exact hI.sameAt (h.sameAt ht)
  cases h with
  | quiet => exact hI
  | outside => cases ht
  | created hnew =>
      cases ht
      exact (hf.untouched _ (Nat.le_refl _)).exactAt rfl rfl
        (StorageMap.get_insert_self ..) hnew.raised hnew.count
  | invested hget hstatus hamount hpay hids =>
      cases ht
      exact hI.invest hb hget hamount hids hsums.1 (hsums.2 _ hget) hcrowd rfl
        rfl (StorageMap.get_insert_self ..)
  | withdrawn hget hstatus hamount hinv hle =>
      cases ht
      exact hI.withdraw hb hget hamount hinv hle rfl rfl
        (StorageMap.get_insert_self ..)
  | @refunded _ _ c _ _ hget hstatus hinv hnet =>
      cases ht
      have hsettled : c.status.settled = true := by
        rcases hstatus with hst | hst <;> rw [hst] <;> rfl
      exact hI.refund hget hsettled hinv hnet rfl rfl
        (StorageMap.get_insert_self ..)
  | finalized hcall hget hstatus =>
      rcases hcall with rfl | rfl <;> cases ht <;>
        exact hI.replace hget (StorageMap.get_insert_self ..) rfl rfl rfl rfl
          (fun _ => by rw [hstatus]; rfl)
  | @paused _ _ _ c _ _ _ hcall hget hedge =>
      have hopen : c.status.settled = false := by
        rcases hedge with ⟨hst, _⟩ | ⟨hst, _⟩ <;> rw [hst] <;> rfl
      rcases hcall with rfl | rfl <;> cases ht <;>
        exact hI.replace hget (StorageMap.get_insert_self ..) rfl rfl rfl rfl
          (fun _ => hopen)
  | cancelled hcall hget =>
      rcases hcall with rfl | rfl <;> cases ht <;>
        exact hI.replace hget (StorageMap.get_insert_self ..) rfl rfl rfl rfl
          (fun hst => by cases hst)
  | reviewed hcall hget =>
      rcases hcall with rfl | rfl | rfl <;> cases ht <;>
        exact hI.replace hget hget rfl rfl rfl rfl (fun hst => hst)
  | fundsClaimed hget =>
      cases ht
      exact hI.replace hget (StorageMap.get_insert_self ..) rfl rfl rfl rfl
        (fun hst => by cases hst)
  | milestoneClaimed hget hcreator hstatus =>
      cases ht
      exact hI.replace hget (StorageMap.get_insert_self ..) rfl rfl rfl rfl
        (fun _ => by rw [hstatus]; rfl)
  | depositClaimed hget =>
      cases ht
      exact hI.replace hget (StorageMap.get_insert_self ..) rfl rfl rfl rfl
        (fun hst => hst)

/-- Runs in which cumulative sums fit a `u128` and crowds fit a `u32`. -/
def BooksFit (s : State T) (a : Action T) : Prop :=
  SumsFit s.toBooks a ∧ CrowdFits s.toBooks a

/-- `SumsFit`, to be evaluated on a concrete run. -/
def fits (s : State T) : Action T → Bool
  | .call (.signed who) (.invest id amount) =>
      decide ((s.investment id who).totalInvested + amount < 2 ^ 128) &&
      (s.campaigns.get id).all
        (fun c => decide (c.totalRaised + amount < 2 ^ 128))
  | _ => true

theorem sumsFit_of_fits (h : fits s a = true) : SumsFit s.toBooks a := by
  unfold fits at h
  unfold SumsFit
  split at h
  · simp only [Bool.and_eq_true, decide_eq_true_eq, Option.all_eq_true] at h
    exact h
  · trivial

theorem exactAt_of_reachable (hfits : ∀ s a, ok s a →
      SumsFit s.toBooks a ∧ (counts → CrowdFits s.toBooks a))
    (h : Reachable ok s) (id : Nat) : s.toBooks.ExactAt id counts := by
  refine books_invariant (I := fun b => b.ExactAt id counts) (fun _ _ => ?_)
    (fun s a b' hs hI hok he => ?_) h
  · refine ⟨fun _ => rfl, fun _ c hc => ?_, fun c hc => ?_⟩ <;>
      simp [State.genesis] at hc
  · exact he.exactAt (fresh_of_reachable hs) (boundedAt_of_reachable hs id)
      (hfits _ _ hok).1 (hfits _ _ hok).2 hI

/-- In every run that fits, the totals of a campaign are those of the
investors' records, and the investors' lists name it exactly once for each
active investor and not at all otherwise. -/
theorem bookkeeping_exact {s : State T} (h : Reachable BooksFit s) {id : Nat}
    {c : Campaign T} (hget : s.campaigns.get id = some c) :
    (c.status ≠ .failed → c.status ≠ .cancelled → c.status ≠ .completed →
      c.totalRaised = (s.investments id).sum Investment.net) ∧
    c.investorCount =
      (s.investments id).count (fun inv => decide (0 < inv.net)) ∧
    ∀ who, (s.investorCampaigns who).toList.count id =
      if 0 < (((s.investments id).get who).map Investment.net).getD 0 then 1
      else 0 := by
  have hexact : s.toBooks.ExactAt id True :=
    exactAt_of_reachable (fun _ _ hok => ⟨hok.1, fun _ => hok.2⟩) h id
  refine ⟨fun hfailed hcancelled hcompleted => ?_,
    hexact.counted trivial c hget,
    fun who => ?_⟩
  · refine hexact.raised c hget ?_
    cases hst : c.status <;> simp_all [CampaignStatus.settled]
  · rw [getD_net]
    have hlisted := hexact.listed who
    by_cases hpos : 0 < (s.investment id who).net
    · rw [if_pos (Investment.active_iff.mpr hpos)] at hlisted
      exact hlisted.trans (if_pos hpos).symm
    · rw [if_neg (fun h => hpos (Investment.active_iff.mp h))] at hlisted
      exact hlisted.trans (if_neg hpos).symm

/-! ## More investors than the counter can count

`investor_count` is a `u32` that saturates.  One unit from each of `2 ^ 32`
investors keeps every sum tiny and leaves the counter one short.
-/

/-- A funding campaign without rules and limits in which `n` investors have one
unit each. -/
def crowdCampaign (n : Nat) : Campaign purse where
  creator := (1 : Nat)
  status := .funding
  config := mockConfig (.keepWhatYouRaise none) .native 50
  eligibilityRules := .empty
  totalRaised := n
  totalDisbursed := 0
  investorCount := min n (2 ^ 32 - 1)
  creationDeposit := 100
  createdAt := 0
  pausedAt := none
  rwaAssetId := none
  participationId := none
  protocolFeeBps := 0

/-- A state with such a campaign, in which more investors are waiting. -/
structure Crowded (s : State purse) (n : Nat) : Prop where
  get : s.campaigns.get 0 = some (crowdCampaign n)
  inTime : s.now ≤ 50
  active : (s.investments 0).count Investment.active = n
  idle : ∀ k, n ≤ k → (s.investments 0).get (2000 + k) = none
  unlisted : ∀ k, n ≤ k → (s.investorCampaigns (2000 + k)).toList = []
  funded : ∀ k, n ≤ k → 1 ≤ s.world.native (2000 + k)

/-- The next investor's unit leaves the others' money alone. -/
private theorem crowd_pays {w : Purse} (hfund : 1 ≤ w.native (2000 + n)) :
    ∃ w', doTransfer (T := purse) w .native (2000 + n)
        (purse.campaignAccount 0) 1 .keepAlive = .ok w' ∧
      ∀ k, n < k → w'.native (2000 + k) = w.native (2000 + k) := by
  obtain ⟨w', hw'⟩ : ∃ w', doTransfer (T := purse) w .native (2000 + n)
      (purse.campaignAccount 0) 1 .keepAlive = .ok w' := purse_pays hfund
  refine ⟨w', hw', fun k hk => ?_⟩
  unfold doTransfer at hw'
  have hmoved := purse_exact.transfer hw' .native (2000 + k)
  have hsource : ¬ ((.native : PaymentCurrency purse.AssetId) = .native ∧
      2000 + k = 2000 + n) := by omega
  have hdest : ¬ ((.native : PaymentCurrency purse.AssetId) = .native ∧
      2000 + k = purse.campaignAccount 0) := by
    rintro ⟨_, h⟩
    have h' : 2000 + k = 1000 + 0 := h
    omega
  rw [if_neg hsource, if_neg hdest] at hmoved
  exact hmoved

/-- The next investor's request. -/
def joinCrowd (n : Nat) : Action purse := signedBy (2000 + n) (.invest 0 1)

section Crowded

variable {s : State purse} (h : Crowded s n)
include h

theorem Crowded.sumsFit (hn : n < 2 ^ 32) :
    SumsFit s.toBooks (joinCrowd n) := by
  refine ⟨?_, fun c' hc' => ?_⟩
  · rw [Books.investment, h.idle n (Nat.le_refl n)]
    decide
  · cases h.get.symm.trans hc'
    show n + 1 < 2 ^ 128
    omega

theorem Crowded.crowdFits (hn : n + 1 < 2 ^ 32) :
    CrowdFits s.toBooks (joinCrowd n) := by
  show _ → (s.investments 0).count Investment.active + 1 < 2 ^ 32
  rw [h.active]
  exact fun _ => hn

theorem Crowded.invest :
    ∃ s' w ids, step s (joinCrowd n) = .ok s' ∧ s'.now = s.now ∧
      (∀ k, n < k → w.native (2000 + k) = s.world.native (2000 + k)) ∧
      s'.toBooks =
        { s.toBooks with
          world := w
          investments := s.investments.insert 0 (2000 + n)
            ((default : Investment).invested 1)
          campaigns := s.campaigns.insert 0 ((crowdCampaign n).invested 1 true)
          investorCampaigns := Function.update s.investorCampaigns (2000 + n)
            ids } := by
  have hlist := h.unlisted n (Nat.le_refl n)
  have hnew : s.isNew 0 (2000 + n) = true := by simp [Books.isNew, hlist]
  have hrec : s.investment 0 (2000 + n) = default := by
    rw [Books.investment, h.idle n (Nat.le_refl n)]
    rfl
  obtain ⟨w, hpay, hkeep⟩ := crowd_pays (h.funded n (Nat.le_refl n))
  obtain ⟨ids, hpush⟩ := BoundedVec.tryPush_isSome
    (v := s.investorCampaigns (2000 + n)) 0 (by rw [hlist]; decide)
  have hids : s.pushNew 0 (2000 + n) = some ids := by
    rw [Books.pushNew, if_pos hnew, hpush]
  show ∃ s' w ids, Crowdfunding.invest s (.signed (2000 + n)) 0 1 = .ok s' ∧ _
  simp only [Crowdfunding.invest, do_eq_ok, ensureSigned_eq_ok]
  refine ⟨_, w, ids, ⟨_, rfl, crowdCampaign n, h.get, rfl, h.inTime,
    Nat.one_ne_zero, (), rfl, (), rfl, (), rfl, (), rfl, fun _ => ?_, w, hpay,
    ids, hids, rfl⟩, rfl, hkeep, ?_⟩
  · rw [hlist]
    decide
  · dsimp only
    rw [hnew, hrec]

theorem Crowded.join (hn : n < 2 ^ 32) :
    ∃ s', step s (joinCrowd n) = .ok s' ∧ Crowded s' (n + 1) := by
  obtain ⟨s', w, ids, hs', hnow, hkeep, hbooks⟩ := h.invest
  have hcampaigns := congrArg Books.campaigns hbooks
  have hrecords := congrArg Books.investments hbooks
  have hlists := congrArg Books.investorCampaigns hbooks
  have hworld := congrArg Books.world hbooks
  dsimp only at hcampaigns hrecords hlists hworld
  have hother : ∀ k, n + 1 ≤ k → 2000 + k ≠ 2000 + n := by omega
  refine ⟨s', hs', ?_, hnow ▸ h.inTime, ?_, fun k hk => ?_, fun k hk => ?_,
    fun k hk => ?_⟩
  · have hraised : saturatingAdd 128 n 1 = n + 1 := saturatingAdd_eq (by omega)
    have hcounted : saturatingAdd 32 (min n (2 ^ 32 - 1)) 1 =
        min (n + 1) (2 ^ 32 - 1) := by
      unfold saturatingAdd maxValue
      omega
    rw [hcampaigns, StorageMap.get_insert_self, crowdCampaign, crowdCampaign,
      Campaign.invested]
    simp only [if_true, hraised, hcounted]
  · have hcount := count_active_insert s.toBooks 0 (2000 + n)
      ((default : Investment).invested 1)
    rw [Books.investment, h.idle n (Nat.le_refl n), h.active] at hcount
    rw [hrecords]
    exact hcount
  · rw [hrecords, StorageDoubleMap.insert_self,
      StorageMap.get_insert_ne _ _ (hother k hk)]
    exact h.idle k (by omega)
  · rw [hlists, Function.update_of_ne (hother k hk)]
    exact h.unlisted k (by omega)
  · rw [hworld, hkeep k hk]
    exact h.funded k (by omega)

end Crowded

/-- The purse of a run with arbitrarily many investors. -/
def crowdGenesis : State purse :=
  State.genesis purse ⟨fun who => if who = 1000 then 0 else 1000, fun _ _ => 0⟩ 0

theorem crowd_start {ok : State purse → Action purse → Prop}
    (hopen : ∀ s, ok s openCampaign) : ∃ s, Reachable ok s ∧ Crowded s 0 := by
  have hreach : Reachable ok
      (Transition.final step crowdGenesis [openCampaign]) := by
    refine .exec (.init ⟨_, _, rfl⟩) (fun a ha s => ?_)
      (Transition.exec_final (by decide +kernel))
    rw [List.mem_singleton.mp ha]
    exact hopen s
  refine ⟨_, hreach, rfl, Nat.zero_le 50, rfl, fun _ _ => rfl, fun _ _ => rfl,
    fun k _ => ?_⟩
  have hworld : (Transition.final step crowdGenesis [openCampaign]).world.native
      = Function.update (Function.update
          (fun who => if who = 1000 then 0 else 1000) 1 900) 1000 100 := rfl
  have h₁ : 2000 + k ≠ 1000 := by omega
  have h₂ : 2000 + k ≠ 1 := by omega
  rw [hworld, Function.update_of_ne h₁, Function.update_of_ne h₂, if_neg h₁]
  decide

/-- Crowds of every size are reachable, as long as the next investor's request
is admitted. -/
theorem crowd_reachable {ok : State purse → Action purse → Prop} {bound : Nat}
    (hopen : ∀ s, ok s openCampaign)
    (hjoin : ∀ s n, Crowded s n → n < bound → ok s (joinCrowd n))
    (hbound : bound ≤ 2 ^ 32) (n : Nat) (hn : n ≤ bound) :
    ∃ s, Reachable ok s ∧ Crowded s n := by
  induction n with
  | zero => exact crowd_start hopen
  | succ n ih =>
      obtain ⟨s, hs, hcrowd⟩ := ih (by omega)
      obtain ⟨s', hs', hcrowd'⟩ := hcrowd.join (by omega)
      exact ⟨s', .step hs (hjoin s n hcrowd (by omega)) hs', hcrowd'⟩

/-- A reachable funding campaign with `2 ^ 32` investors counts one less. -/
theorem investor_count_saturates :
    ∃ (s : State purse) (c : Campaign purse),
      Reachable (fun s a => SumsFit s.toBooks a) s ∧
      s.campaigns.get 0 = some c ∧ c.status = .funding ∧
      c.investorCount = 2 ^ 32 - 1 ∧
      (s.investments 0).count (fun inv => decide (0 < inv.net)) = 2 ^ 32 := by
  obtain ⟨s, hs, hcrowd⟩ :=
    crowd_reachable (fun _ => trivial) (fun _ _ h hn => h.sumsFit hn)
      (Nat.le_refl _) (2 ^ 32) (Nat.le_refl _)
  exact ⟨s, _, hs, hcrowd.get, rfl, by decide, hcrowd.active⟩

/-- A campaign with a thousand investors counts them all. -/
theorem bookkeeping_exact_thousand :
    ∃ (s : State purse) (c : Campaign purse),
      s.campaigns.get 0 = some c ∧ c.totalRaised = 1000 ∧
      c.totalRaised = (s.investments 0).sum Investment.net ∧
      c.investorCount =
        (s.investments 0).count (fun inv => decide (0 < inv.net)) := by
  obtain ⟨s, hs, hcrowd⟩ :=
    @crowd_reachable BooksFit 1000 (fun _ => ⟨trivial, trivial⟩)
      (fun _ _ h hn => ⟨h.sumsFit (by omega), h.crowdFits (by omega)⟩)
      (by decide) 1000 (Nat.le_refl _)
  have hexact := bookkeeping_exact hs hcrowd.get
  exact ⟨s, _, hcrowd.get, rfl, hexact.1 nofun nofun nofun, hexact.2.1⟩

end Thxnet.Crowdfunding
