import Thxnet.Crowdfunding.Effects
import Thxnet.Crowdfunding.Mock

/-!
# The life of a campaign

Three facts about every run of the pallet: ids that have not been handed out
are not used anywhere; a campaign keeps its creator and its terms, and its
status only moves along the edges of `StatusEdge`; and the milestone statuses
stored for a campaign are exactly those its status calls for.
-/

namespace Thxnet.Crowdfunding

open Thxnet.Lib Thxnet.Frame

variable {T : Config}

variable {a : Action T} {b b' : Books T} {c c' : Campaign T}
    {st : CampaignStatus} {id : Nat} {s : State T}
    {ok : State T → Action T → Prop}
    {m : StorageDoubleMap Nat Nat MilestoneStatus}

/-- The invariant rule for the books: what holds at genesis and is preserved by
every admitted effect holds in every reachable state. -/
theorem books_invariant {I : Books T → Prop}
    (h0 : ∀ world now, I (State.genesis T world now).toBooks)
    (hstep : ∀ s a b', Reachable ok s → I s.toBooks → ok s a → Effect s.toBooks
      a b' → I b') (h : Reachable ok s) : I s.toBooks := by
  refine Transition.Reach.invariant (I := fun s : State T => I s.toBooks)
    ?_ ?_ h
  · rintro s ⟨world, now, rfl⟩
    exact h0 world now
  · intro s a s' hs hI hok hs'
    exact hstep s a s'.toBooks hs hI hok (step_effect hs')

/-! ## Unused ids -/

/-- Nothing is recorded under this id. -/
structure Books.Untouched (b : Books T) (id : Nat) : Prop where
  campaign : b.campaigns.get id = none
  records : ∀ who, (b.investments id).get who = none
  statuses : ∀ i, (b.milestoneStatuses id).get i = none
  listings : ∀ who, b.listings id who = 0

/-- Ids are handed out in order and fit a `u32`. -/
structure Books.Fresh (b : Books T) : Prop where
  next_lt : b.nextCampaignId < 2 ^ 32
  untouched : ∀ id, b.nextCampaignId ≤ id → b.Untouched id

theorem Books.Untouched.sameAt (h : b.Untouched id) (hsame : SameAt b b' id) :
    b'.Untouched id where
  campaign := by rw [hsame.campaign, h.campaign]
  records := by
    intro who
    rw [hsame.records, h.records]
  statuses := by
    intro i
    rw [hsame.statuses, h.statuses]
  listings := by
    intro who
    rw [hsame.listings, h.listings]

theorem Books.Fresh.lt_next (hf : b.Fresh)
    (hget : b.campaigns.get id = some c) : id < b.nextCampaignId := by
  by_contra hle
  have hnone := (hf.untouched id (Nat.le_of_not_lt hle)).campaign
  rw [hget] at hnone
  cases hnone

theorem Books.Fresh.id_lt (hf : b.Fresh) (hget : b.campaigns.get id = some c) :
    id < 2 ^ 32 :=
  Nat.lt_trans (hf.lt_next hget) hf.next_lt

theorem Effect.next (h : Effect b a b') :
    b'.nextCampaignId = b.nextCampaignId ∨
      (b'.nextCampaignId = b.nextCampaignId + 1 ∧
        b'.nextCampaignId < 2 ^ 32) := by
  cases h with
  | created hnew hmodel hmin hfits => exact .inr ⟨rfl, hfits⟩
  | _ => exact .inl rfl

theorem Effect.fresh (h : Effect b a b') (hf : b.Fresh) : b'.Fresh where
  next_lt := by
    rcases h.next with heq | ⟨_, hlt⟩
    · rw [heq]
      exact hf.next_lt
    · exact hlt
  untouched := by
    intro id hid
    have hle : b.nextCampaignId ≤ id := by
      rcases h.next with heq | ⟨heq, _⟩ <;> omega
    have hold := hf.untouched id hle
    cases h.changeAt id with
    | kept _ hsame => exact hold.sameAt hsame
    | created => omega
    | changed hget => cases hold.campaign.symm.trans hget

theorem fresh_of_reachable (h : Reachable ok s) : s.toBooks.Fresh := by
  refine books_invariant (fun _ _ => ?_) (fun _ _ _ _ hI _ he => he.fresh hI) h
  exact ⟨Nat.two_pow_pos 32,
    fun _ _ => ⟨rfl, fun _ => rfl, fun _ => rfl, fun _ => rfl⟩⟩

/-! ## Status guards -/

/-- The statuses in which a step can touch the campaign it is about. -/
def Action.accepts (a : Action T) (st : CampaignStatus) : Bool :=
  match a with
  | .nextBlock => true
  | .outside _ => true
  | .call _ c =>
      match c with
      | .createCampaign _ _ _ => false
      | .invest _ _ => st = .funding
      | .withdrawInvestment _ _ => st = .funding || st = .paused
      | .claimRefund _ => st = .failed || st = .cancelled
      | .finalizeCampaign _ => st = .funding
      | .forceFinalizeCampaign _ => st = .funding
      | .pauseCampaign _ => st = .funding || st = .paused
      | .resumeCampaign _ => st = .funding || st = .paused
      | .cancelCampaign _ =>
          !(st = .cancelled || st = .completed || st = .succeeded)
      | .reportLicenseRevoked _ =>
          !(st = .cancelled || st = .completed || st = .succeeded)
      | .submitMilestone _ _ => st = .milestonePhase
      | .approveMilestone _ _ => st = .milestonePhase
      | .rejectMilestone _ _ => st = .milestonePhase
      | .claimMilestoneFunds _ _ => st = .milestonePhase
      | .claimFunds _ => st = .succeeded
      | .claimCreationDeposit _ =>
          st = .completed || st = .failed || st = .cancelled
      | .setDefaultEligibility _ => true
      | .addToWhitelist _ _ => true
      | .removeFromWhitelist _ _ => true
      | .setProtocolConfig _ _ => true

private theorem accepts_of_step (h : c.Step id a c') :
    a.accepts c.status = true := by
  cases h with
  | invested hstatus | withdrawn hstatus | refunded hstatus
  | fundsClaimed hstatus | released hstatus => simp [Action.accepts, hstatus]
  | finalized hcall hstatus =>
      rcases hcall with rfl | rfl <;> simp [Action.accepts, hstatus]
  | paused hcall hedge =>
      rcases hcall with rfl | rfl <;>
        rcases hedge with ⟨hs, _⟩ | ⟨hs, _⟩ <;> simp [Action.accepts, hs]
  | cancelled hcall =>
      rcases hcall with rfl | rfl <;> simp_all [Action.accepts]
  | reviewed hcall hstatus =>
      rcases hcall with rfl | rfl | rfl <;> simp [Action.accepts, hstatus]
  | depositClaimed hstatus => simpa [Action.accepts, or_assoc] using hstatus

private theorem accepts_of_quiet (h : a.isQuiet = true) (st : CampaignStatus) :
    a.accepts st = true := by
  cases a with
  | nextBlock | outside => rfl
  | call o call => cases call <;> first | rfl | cases h

/-- A step about a campaign is accepted only in a status that its guard
admits. -/
theorem Effect.accepts (h : Effect b a b') (hf : b.Fresh)
    (ht : a.target b = some id) (hget : b.campaigns.get id = some c) :
    a.accepts c.status = true := by
  cases h.changeAt id with
  | kept hidle => exact accepts_of_quiet (hidle.resolve_left (· ht)) _
  | created => exact absurd (hf.lt_next hget) (by omega)
  | changed hget₁ _ hstep =>
      cases hget.symm.trans hget₁
      exact accepts_of_step hstep

/-! ## Status changes -/

/-- The status changes a campaign can make. -/
def StatusEdge : CampaignStatus → CampaignStatus → Bool
  | .funding, .paused => true
  | .funding, .succeeded => true
  | .funding, .failed => true
  | .funding, .milestonePhase => true
  | .funding, .cancelled => true
  | .paused, .funding => true
  | .paused, .cancelled => true
  | .failed, .cancelled => true
  | .milestonePhase, .completed => true
  | .milestonePhase, .cancelled => true
  | .succeeded, .completed => true
  | _, _ => false

/-- The statuses after which refunds or pay-outs go on without the totals. -/
def CampaignStatus.settled : CampaignStatus → Bool
  | .failed => true
  | .cancelled => true
  | .completed => true
  | .funding => false
  | .paused => false
  | .succeeded => false
  | .milestonePhase => false

/-- What a step does to a campaign: a status change along an edge, and nothing
to its creator, its locked fee or its configuration but the deadline. -/
structure Campaign.Evolves (c c' : Campaign T) : Prop where
  status : c'.status = c.status ∨ StatusEdge c.status c'.status = true
  creator : c'.creator = c.creator
  config : c'.config = { c.config with deadline := c'.config.deadline }
  fee : c'.protocolFeeBps = c.protocolFeeBps
  deposit : c'.creationDeposit = c.creationDeposit ∨
    (c'.creationDeposit = 0 ∧ c'.status.settled = true)

theorem Campaign.Evolves.refl (c : Campaign T) : c.Evolves c :=
  ⟨.inl rfl, rfl, rfl, rfl, .inl rfl⟩

/-- The outcomes of `do_finalize`: an immediate one, which leaves the milestone
statuses alone, or the milestone phase. -/
theorem doFinalize_cases (m : StorageDoubleMap Nat Nat MilestoneStatus)
    (id : Nat) (c : Campaign T) :
    doFinalize m id c = (.failed, m) ∨
    (doFinalize m id c = (.succeeded, m) ∧
      c.config.fundingModel.milestones = []) ∨
    ∃ goal ms, c.config.fundingModel = .milestoneBased goal ms ∧
      doFinalize m id c =
        (.milestonePhase, initMilestones m id ms.toList.length) := by
  unfold doFinalize
  cases c.config.fundingModel with
  | allOrNothing goal =>
      by_cases hgoal : goal ≤ c.totalRaised <;>
        simp [hgoal, FundingModel.milestones]
  | keepWhatYouRaise softCap =>
      cases softCap with
      | none => simp [FundingModel.milestones]
      | some cap =>
          by_cases hcap : c.totalRaised < cap <;>
            simp [hcap, FundingModel.milestones]
  | milestoneBased goal =>
      by_cases hgoal : goal ≤ c.totalRaised <;> simp [hgoal]

private theorem doFinalize_status (m : StorageDoubleMap Nat Nat MilestoneStatus)
    (id : Nat) (c : Campaign T) :
    StatusEdge .funding (doFinalize m id c).1 = true := by
  rcases doFinalize_cases m id c with h | ⟨h, _⟩ | ⟨_, _, _, h⟩ <;>
    rw [h] <;> rfl

private theorem pauseEdge_statusEdge {st' : CampaignStatus}
    (h : PauseEdge st st') : StatusEdge st st' = true := by
  rcases h with ⟨rfl, rfl⟩ | ⟨rfl, rfl⟩ <;> rfl

private theorem cancel_statusEdge
    (h : ¬ (st = .cancelled ∨ st = .completed ∨ st = .succeeded)) :
    StatusEdge st .cancelled = true := by
  cases st with
  | cancelled | completed | succeeded => simp at h
  | funding | failed | milestonePhase | paused => rfl

theorem Campaign.Step.evolves (h : c.Step id a c') : c.Evolves c' := by
  cases h with
  | finalized _ hstatus =>
      exact ⟨.inr (hstatus ▸ doFinalize_status ..), rfl, rfl, rfl, .inl rfl⟩
  | paused _ hedge =>
      exact ⟨.inr (pauseEdge_statusEdge hedge), rfl, rfl, rfl, .inl rfl⟩
  | cancelled _ hstatus =>
      exact ⟨.inr (cancel_statusEdge hstatus), rfl, rfl, rfl, .inl rfl⟩
  | fundsClaimed hstatus =>
      exact ⟨.inr (by rw [hstatus]; rfl), rfl, rfl, rfl, .inl rfl⟩
  | @released _ _ finished hstatus =>
      refine ⟨?_, rfl, rfl, rfl, .inl rfl⟩
      cases finished with
      | true => exact .inr (by rw [hstatus]; rfl)
      | false => exact .inl rfl
  | depositClaimed hstatus =>
      refine ⟨.inl rfl, rfl, rfl, rfl, .inr ⟨rfl, ?_⟩⟩
      rcases hstatus with hst | hst | hst <;> simp [hst, CampaignStatus.settled]
  | _ => exact ⟨.inl rfl, rfl, rfl, rfl, .inl rfl⟩

/-- A campaign is never removed. -/
theorem Effect.follows (h : Effect b a b') (hf : b.Fresh)
    (hget : b.campaigns.get id = some c) :
    ∃ c', b'.campaigns.get id = some c' ∧ (c' = c ∨ c.Step id a c') := by
  cases h.changeAt id with
  | kept _ hsame => exact ⟨c, hsame.campaign.trans hget, .inl rfl⟩
  | created => exact absurd (hf.lt_next hget) (by omega)
  | changed hget₁ hget' hstep =>
      cases hget.symm.trans hget₁
      exact ⟨_, hget', .inr hstep⟩

theorem Effect.evolves (h : Effect b a b') (hf : b.Fresh)
    (hget : b.campaigns.get id = some c) :
    ∃ c', b'.campaigns.get id = some c' ∧ c.Evolves c' := by
  obtain ⟨c', hget', rfl | hstep⟩ := h.follows hf hget
  · exact ⟨c', hget', .refl c'⟩
  · exact ⟨c', hget', hstep.evolves⟩

/-- A campaign that was not there before has just been created. -/
theorem Effect.born (h : Effect b a b') (hnone : b.campaigns.get id = none)
    (hget : b'.campaigns.get id = some c) :
    ∃ creator config rules license,
      a = .call (.signed creator) (.createCampaign config rules license) ∧
      c.IsNew creator config ∧
      T.nativeCurrency.minimumBalance ≤ T.campaignCreationDeposit := by
  cases h.changeAt id with
  | kept _ hsame =>
      rw [hsame.campaign, hnone] at hget
      cases hget
  | created hcall _ _ hnew hmin hget' =>
      cases hget'.symm.trans hget
      exact ⟨_, _, _, _, hcall, hnew, hmin⟩
  | changed hget₁ => cases hnone.symm.trans hget₁

/-- What holds of new campaigns and survives their evolution holds of every
campaign of a reachable state. -/
theorem campaign_invariant {P : Campaign T → Prop}
    (hnew : ∀ s creator config rules license c, ok s (.call (.signed creator)
      (.createCampaign config rules license)) → c.IsNew creator config →
      T.nativeCurrency.minimumBalance ≤ T.campaignCreationDeposit → P c)
    (hev : ∀ c c', c.Evolves c' → P c → P c') (h : Reachable ok s)
    (hget : s.campaigns.get id = some c) : P c := by
  refine books_invariant
    (I := fun b => ∀ c, b.campaigns.get id = some c → P c)
    (fun _ _ c hc => ?_) (fun s a b' hs hI hok he c' hget' => ?_) h c hget
  · simp [State.genesis] at hc
  · cases hold : s.campaigns.get id with
    | none =>
        obtain ⟨_, _, _, _, rfl, hnew', hmin⟩ := he.born hold hget'
        exact hnew s _ _ _ _ c' hok hnew' hmin
    | some c₀ =>
        obtain ⟨c₁, hget₁, hevolves⟩ := he.evolves (fresh_of_reachable hs) hold
        cases hget₁.symm.trans hget'
        exact hev c₀ _ hevolves (hI c₀ hold)

private theorem statusEdge_of_terminal {st' : CampaignStatus}
    (hterm : st = .completed ∨ st = .cancelled) :
    StatusEdge st st' = false := by
  rcases hterm with rfl | rfl <;> cases st' <;> rfl

theorem terminal_of_run {s' : State T} {t : List (State T × Action T)}
    (hrun : Transition.Run step s t s') (hf : s.toBooks.Fresh)
    (hget : s.campaigns.get id = some c)
    (hterm : c.status = .completed ∨ c.status = .cancelled) :
    ∃ c', s'.campaigns.get id = some c' ∧ c'.status = c.status := by
  refine (hrun.preserves (I := fun s => s.toBooks.Fresh ∧
    ∃ c', s.campaigns.get id = some c' ∧ c'.status = c.status)
    (fun s₁ a s₂ hI hstep => ?_) ⟨hf, c, hget, rfl⟩).2
  obtain ⟨hf₁, c₁, hget₁, hst₁⟩ := hI
  have heff := step_effect hstep
  obtain ⟨c₂, hget₂, hev⟩ := heff.evolves hf₁ hget₁
  refine ⟨heff.fresh hf₁, c₂, hget₂, ?_⟩
  rcases hev.status with hsame | hedge
  · exact hsame.trans hst₁
  · rw [hst₁, statusEdge_of_terminal hterm] at hedge
    cases hedge

/-! ## Milestone entries -/

theorem get_initMilestones {n : Nat} (hn : n ≤ 256) (i : Nat) :
    (initMilestones m id n id).get i =
      if i < n then some .pending else (m id).get i := by
  induction n with
  | zero => rfl
  | succ n ih =>
      have hmod : n % 256 = n := Nat.mod_eq_of_lt hn
      have hfold : initMilestones m id (n + 1) =
          (initMilestones m id n).insert id n .pending := by
        simp [initMilestones, List.range_succ, List.foldl_append, hmod]
      rw [hfold, StorageDoubleMap.insert_self, StorageMap.get_insert,
        ih (by omega)]
      by_cases hi : i = n
      · simp [hi]
      · have hiff : i < n + 1 ↔ i < n := by omega
        simp [hi, hiff]

private theorem get_clearRange (n i : Nat) :
    ((List.range n).foldl (fun m i => m.remove id i) m id).get i =
      if i < n then none else (m id).get i := by
  induction n with
  | zero => rfl
  | succ n ih =>
      rw [List.range_succ, List.foldl_append, List.foldl_cons, List.foldl_nil,
        StorageDoubleMap.remove_self, StorageMap.get_remove, ih]
      by_cases hi : i = n
      · simp [hi]
      · have hiff : i < n + 1 ↔ i < n := by omega
        simp [hi, hiff]

theorem get_clearMilestones {n : Nat} (hn : n < 256) (i : Nat) :
    (clearMilestones m id n id).get i =
      if i < n then none else (m id).get i := by
  rw [clearMilestones, Nat.mod_eq_of_lt hn]
  exact get_clearRange n i

theorem milestones_length_lt (ms : BoundedVec Milestone T.maxMilestones) :
    ms.toList.length < 256 := by
  have hle := ms.length_le
  have hmax := T.maxMilestones_le
  omega

/-- The number of milestone entries a campaign must have. -/
def Campaign.tracked (c : Campaign T) : Nat :=
  if c.status = .milestonePhase ∨ c.status = .completed then
    c.config.fundingModel.milestones.length
  else 0

/-- The same for an id, whether or not a campaign has it. -/
def Books.tracked (b : Books T) (id : Nat) : Nat :=
  ((b.campaigns.get id).map Campaign.tracked).getD 0

/-- The entries of a campaign are those of its milestones, once it has reached
the milestone phase; a campaign that succeeded at once has no milestones. -/
structure Books.TrackedAt (b : Books T) (id : Nat) : Prop where
  entries : ∀ i, ((b.milestoneStatuses id).get i).isSome = true ↔
    i < b.tracked id
  succeeded : ∀ c, b.campaigns.get id = some c → c.status = .succeeded →
    c.config.fundingModel.milestones = []

theorem Books.TrackedAt.sameAt (h : b.TrackedAt id) (hsame : SameAt b b' id) :
    b'.TrackedAt id where
  entries := by
    intro i
    rw [hsame.statuses, h.entries, Books.tracked, Books.tracked,
      hsame.campaign]
  succeeded := by
    intro c hget
    exact h.succeeded c (hsame.campaign ▸ hget)

/-- A change of the campaign that calls for the same entries, without a change
of which entries exist. -/
theorem Books.TrackedAt.replace {c' : Campaign T} (h : b.TrackedAt id)
    (hget : b.campaigns.get id = some c)
    (hget' : b'.campaigns.get id = some c')
    (htracked : c'.tracked = c.tracked)
    (hsucc : c'.status = .succeeded → c'.config.fundingModel.milestones = [])
    (hentries : ∀ i, ((b'.milestoneStatuses id).get i).isSome =
      ((b.milestoneStatuses id).get i).isSome) : b'.TrackedAt id where
  entries := by
    intro i
    rw [hentries, h.entries, Books.tracked, Books.tracked, hget, hget',
      Option.map_some, Option.map_some, htracked]
  succeeded := by
    intro c₁ hget₁
    cases hget'.symm.trans hget₁
    exact hsucc

/-- The same for a change that touches neither status nor funding model. -/
theorem Books.TrackedAt.keep {c' : Campaign T} (h : b.TrackedAt id)
    (hget : b.campaigns.get id = some c)
    (hget' : b'.campaigns.get id = some c') (hstatus : c'.status = c.status)
    (hmodel : c'.config.fundingModel = c.config.fundingModel)
    (hentries : ∀ i, ((b'.milestoneStatuses id).get i).isSome =
      ((b.milestoneStatuses id).get i).isSome) : b'.TrackedAt id := by
  refine h.replace hget hget' ?_ ?_ hentries
  · rw [Campaign.tracked, Campaign.tracked, hstatus, hmodel]
  · rw [hstatus, hmodel]
    exact h.succeeded c hget

private theorem get_insert_isSome {index : Nat} {st : MilestoneStatus}
    (hentry : (m id).get index = some st) (st' : MilestoneStatus) (i : Nat) :
    ((m.insert id index st' id).get i).isSome = ((m id).get i).isSome := by
  rw [StorageDoubleMap.insert_self, StorageMap.get_insert]
  by_cases hi : i = index
  · simp [hi, hentry]
  · simp [hi]

theorem Books.TrackedAt.finalize (h : b.TrackedAt id)
    (hget : b.campaigns.get id = some c) (hstatus : c.status = .funding)
    (hstatuses : b'.milestoneStatuses = (doFinalize b.milestoneStatuses id c).2)
    (hget' : b'.campaigns.get id = some { c with status := (doFinalize
      b.milestoneStatuses id c).1 }) : b'.TrackedAt id := by
  have hzero : c.tracked = 0 := by simp [Campaign.tracked, hstatus]
  rcases doFinalize_cases b.milestoneStatuses id c with
    hfin | ⟨hfin, hnone⟩ | ⟨goal, ms, hmodel, hfin⟩
  · rw [hfin] at hstatuses hget'
    refine h.replace hget hget' ?_ (fun hst => ?_) (fun i => by rw [hstatuses])
    · rw [hzero]
      simp [Campaign.tracked]
    · cases hst
  · rw [hfin] at hstatuses hget'
    refine h.replace hget hget' ?_ (fun _ => hnone)
      (fun i => by rw [hstatuses])
    rw [hzero]
    simp [Campaign.tracked]
  · rw [hfin] at hstatuses hget'
    refine ⟨fun i => ?_, fun c' hc' hst => ?_⟩
    · have hempty := h.entries i
      rw [Books.tracked, hget, Option.map_some, hzero] at hempty
      rw [hstatuses,
        get_initMilestones (Nat.le_of_lt (milestones_length_lt ms)),
        Books.tracked, hget']
      by_cases hi : i < ms.toList.length <;>
        simp_all [Campaign.tracked, FundingModel.milestones]
    · cases hget'.symm.trans hc'
      cases hst

theorem Books.TrackedAt.cancel (h : b.TrackedAt id)
    (hget : b.campaigns.get id = some c)
    (hstatuses : b'.milestoneStatuses = b.withoutMilestones id c)
    (hget' : b'.campaigns.get id = some { c with status := .cancelled }) :
    b'.TrackedAt id := by
  refine ⟨fun i => ?_, fun c' hc' hst => ?_⟩
  · have hentry := h.entries i
    rw [hstatuses, Books.tracked, hget', Books.withoutMilestones]
    rw [Books.tracked, hget] at hentry
    cases hmodel : c.config.fundingModel with
    | allOrNothing | keepWhatYouRaise =>
        simpa [Campaign.tracked, FundingModel.milestones, hmodel] using hentry
    | milestoneBased goal ms =>
        have hle : c.tracked ≤ ms.toList.length := by
          unfold Campaign.tracked
          rw [hmodel]
          split
          · exact Nat.le_refl _
          · exact Nat.zero_le _
        dsimp only
        rw [get_clearMilestones (milestones_length_lt ms)]
        by_cases hi : i < ms.toList.length
        · simp [hi, Campaign.tracked]
        · have hi' : ¬ i < c.tracked := by omega
          simp only [Option.map_some, Option.getD_some, hi', iff_false] at hentry
          simp [hi, Campaign.tracked, hentry]
  · cases hget'.symm.trans hc'
    cases hst

/-- Every step keeps the milestone entries in line with the statuses. -/
theorem Effect.trackedAt (h : Effect b a b') (hf : b.Fresh)
    (hI : b.TrackedAt id) : b'.TrackedAt id := by
  by_cases ht : a.target b = some id
  swap
  · exact hI.sameAt (h.sameAt ht)
  cases h with
  | quiet => exact hI
  | outside => cases ht
  | created hnew =>
      cases ht
      have hnone := (hf.untouched _ (Nat.le_refl _)).statuses
      refine ⟨fun i => ?_, fun c hc hst => ?_⟩
      · simp [Books.tracked, Campaign.tracked, hnew.status, hnone]
      · cases (StorageMap.get_insert_self ..).symm.trans hc
        rw [hnew.status] at hst
        cases hst
  | invested hget | withdrawn hget | refunded hget | depositClaimed hget =>
      cases ht
      exact hI.keep hget (StorageMap.get_insert_self ..) rfl rfl (fun _ => rfl)
  | finalized hcall hget hstatus =>
      rcases hcall with rfl | rfl <;> cases ht <;>
        exact hI.finalize hget hstatus rfl (StorageMap.get_insert_self ..)
  | cancelled hcall hget =>
      rcases hcall with rfl | rfl <;> cases ht <;>
        exact hI.cancel hget rfl (StorageMap.get_insert_self ..)
  | @paused _ _ _ c status _ _ hcall hget hedge =>
      have htracked : c.tracked = 0 ∧ status ≠ .milestonePhase ∧
          status ≠ .completed ∧ status ≠ .succeeded := by
        rcases hedge with ⟨hst, rfl⟩ | ⟨hst, rfl⟩ <;>
          simp [Campaign.tracked, hst]
      obtain ⟨hzero, hm, hc, hs⟩ := htracked
      rcases hcall with rfl | rfl <;> cases ht <;>
        exact hI.replace hget (StorageMap.get_insert_self ..)
          (by rw [hzero]; simp [Campaign.tracked, hm, hc])
          (fun hst => absurd hst hs) (fun _ => rfl)
  | reviewed hcall hget hstatus hentry =>
      rcases hcall with rfl | rfl | rfl <;> cases ht <;>
        exact hI.keep hget hget rfl rfl (get_insert_isSome hentry _)
  | fundsClaimed hget hcreator hstatus =>
      cases ht
      have hnone := hI.succeeded _ hget hstatus
      exact hI.replace hget (StorageMap.get_insert_self ..)
        (by simp [Campaign.tracked, hstatus, hnone])
        (fun hst => by cases hst) (fun _ => rfl)
  | milestoneClaimed hget hcreator hstatus hentry =>
      cases ht
      refine hI.replace hget (StorageMap.get_insert_self ..) ?_ (fun hst => ?_)
        (get_insert_isSome hentry _)
      · unfold Campaign.tracked Campaign.released
        split <;> simp [hstatus]
      · unfold Campaign.released at hst
        split at hst
        · cases hst
        · rw [hstatus] at hst
          cases hst

theorem trackedAt_of_reachable (h : Reachable ok s) (id : Nat) :
    s.toBooks.TrackedAt id := by
  refine books_invariant (I := fun b => b.TrackedAt id) (fun _ _ => ?_)
    (fun _ _ _ hs hI _ he => he.trackedAt (fresh_of_reachable hs) hI) h
  exact ⟨fun i => by simp [State.genesis, Books.tracked],
    fun c hc => by simp [State.genesis] at hc⟩

/-- The entries of a campaign, read off its record. -/
theorem Books.TrackedAt.iff (h : b.TrackedAt id) (i : Nat) :
    ((b.milestoneStatuses id).get i).isSome = true ↔
      ∃ c goal ms, b.campaigns.get id = some c ∧
        c.config.fundingModel = .milestoneBased goal ms ∧
        (c.status = .milestonePhase ∨ c.status = .completed) ∧
        i < ms.toList.length := by
  rw [h.entries, Books.tracked]
  cases hget : b.campaigns.get id with
  | none => simp
  | some c =>
      cases hmodel : c.config.fundingModel with
      | allOrNothing | keepWhatYouRaise =>
          simp [Campaign.tracked, FundingModel.milestones, hmodel]
      | milestoneBased =>
          by_cases hst : c.status = .milestonePhase ∨ c.status = .completed <;>
            simp [Campaign.tracked, FundingModel.milestones, hmodel, hst]

/-! ## The life cycle -/

/-- From every reachable state, each step moves each campaign's status along an
edge or not at all; a completed or cancelled campaign stays so over every run;
and milestone statuses are stored for exactly the milestones of the
milestone-based campaigns in the milestone phase or completed. -/
theorem campaign_lifecycle {ok : State T → Action T → Prop} {s : State T}
    (h : Reachable ok s) :
    (∀ a s', step s a = .ok s' → ∀ id c, s.campaigns.get id = some c →
      ∃ c', s'.campaigns.get id = some c' ∧
        (c'.status = c.status ∨ StatusEdge c.status c'.status = true)) ∧
    (∀ t s', Transition.Run step s t s' →
      ∀ id c, s.campaigns.get id = some c →
        c.status = .completed ∨ c.status = .cancelled →
        ∃ c', s'.campaigns.get id = some c' ∧ c'.status = c.status) ∧
    (∀ id i, ((s.milestoneStatuses id).get i).isSome = true ↔
      ∃ c goal ms, s.campaigns.get id = some c ∧
        c.config.fundingModel = .milestoneBased goal ms ∧
        (c.status = .milestonePhase ∨ c.status = .completed) ∧
        i < ms.toList.length) := by
  have hf := fresh_of_reachable h
  refine ⟨?_, ?_, fun id i => (trackedAt_of_reachable h id).iff i⟩
  · intro a s' hstep id c hget
    obtain ⟨c', hget', hev⟩ := (step_effect hstep).evolves hf hget
    exact ⟨c', hget', hev.status⟩
  · intro t s' hrun id c hget hterm
    exact terminal_of_run hrun hf hget hterm

/-- A milestone campaign with two investors, finalised, its first milestone
approved. -/
def milestoneRequests : List (Action purse) :=
  [ signedBy 1 (.createCampaign
      (mockConfig (.milestoneBased 100 thirdThenRest) .native 50) none none),
    signedBy 2 (.invest 0 60),
    signedBy 3 (.invest 0 40),
    byRoot (.forceFinalizeCampaign 0),
    signedBy 1 (.submitMilestone 0 0),
    byRoot (.approveMilestone 0 0) ]

theorem campaign_lifecycle_milestones :
    (((purseAfter milestoneRequests).milestoneStatuses 0).get 1).isSome
        = true ∧
      ∃ c goal ms, (purseAfter milestoneRequests).campaigns.get 0 = some c ∧
        c.config.fundingModel = .milestoneBased goal ms ∧
        (c.status = .milestonePhase ∨ c.status = .completed) ∧
        1 < ms.toList.length := by
  have hs := @purseAfter_reachable (fun _ _ => True) milestoneRequests
    (fun _ _ _ => trivial) (by decide +kernel)
  have hsome : (((purseAfter milestoneRequests).milestoneStatuses 0).get
      1).isSome = true := by
    decide +kernel
  exact ⟨hsome, ((campaign_lifecycle hs).2.2 0 1).mp hsome⟩

end Thxnet.Crowdfunding
