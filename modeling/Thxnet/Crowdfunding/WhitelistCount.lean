import Thxnet.Crowdfunding.Lifecycle
import Thxnet.Crowdfunding.Whitelist

/-!
# The size of a whitelist

The pallet keeps the number of accounts on the whitelist of a campaign in an
item of its own, so that it need not iterate to find out whether there is room
for one more.  `State.CountedAt` says that this number is right; since every
entry is true, it does not matter that the calls look at the value of an entry
where the count is about the key.

A campaign that is cancelled, or whose creation deposit has been returned, is
over: its whitelist has been cleared (`State.ClosedAt`), and no call adds to it
again.
-/

namespace Thxnet.Crowdfunding

open Thxnet.Lib Thxnet.Frame

variable {T : Config}

/-! ## The count -/

/-- The count of a whitelist is the number of its entries, which are all true
and no more than allowed. -/
structure State.CountedAt (s : State T) (id : Nat) : Prop where
  count : s.campaignWhitelistCount id = (s.campaignWhitelist id).keys.card
  bound : s.campaignWhitelistCount id ≤ T.maxWhitelistSize
  entries : ∀ account value,
    (s.campaignWhitelist id).get account = some value → value = true

variable {a : Action T} {id : Nat} {s s' : State T}

/-- Of two states that agree on a whitelist and its count, both are counted. -/
theorem State.CountedAt.congr (h : s.CountedAt id)
    (hlist : s'.campaignWhitelist id = s.campaignWhitelist id)
    (hcount : s'.campaignWhitelistCount id = s.campaignWhitelistCount id) :
    s'.CountedAt id := by
  constructor
  · rw [hcount, hlist]
    exact h.count
  · rw [hcount]
    exact h.bound
  · rw [hlist]
    exact h.entries

/-- A listed account has an entry, and one that is not listed has none. -/
theorem State.CountedAt.get_eq (h : s.CountedAt id) (account : T.AccountId) :
    (s.campaignWhitelist id).get account =
      if s.listed id account then some true else none := by
  unfold State.listed
  cases hget : (s.campaignWhitelist id).get account with
  | none => rfl
  | some value =>
      have htrue := h.entries account value hget
      rw [htrue]
      rfl

/-- The whitelist of a campaign is empty, and so is its count. -/
structure State.ClearedAt (s : State T) (id : Nat) : Prop where
  list : s.campaignWhitelist id = StorageMap.empty
  count : s.campaignWhitelistCount id = 0

theorem State.ClearedAt.countedAt (h : s.ClearedAt id) : s.CountedAt id := by
  constructor
  · rw [h.count, h.list]
    rfl
  · rw [h.count]
    exact Nat.zero_le _
  · rw [h.list]
    intro account value hget
    cases hget

private theorem State.CountedAt.added {account : T.AccountId}
    (h : s.CountedAt id)
    (hroom : s.listed id account = false → s.campaignWhitelistCount id <
      T.maxWhitelistSize)
    (hlist : s'.campaignWhitelist id = (s.campaignWhitelist id).insert account
      true)
    (hcount : s'.campaignWhitelistCount id = if s.listed id account then
      s.campaignWhitelistCount id else s.campaignWhitelistCount id + 1) :
    s'.CountedAt id := by
  have hget := h.get_eq account
  have hold := h.count
  have hentries : ∀ who value,
      (s'.campaignWhitelist id).get who = some value → value = true := by
    rw [hlist]
    exact StorageMap.forall_insert h.entries rfl
  cases hl : s.listed id account with
  | true =>
      rw [hl, if_pos rfl] at hcount hget
      have hcard := StorageMap.card_insert_old hget true
      refine ⟨?_, hcount ▸ h.bound, hentries⟩
      rw [hlist, hcard, hcount, hold]
  | false =>
      rw [hl, if_neg Bool.false_ne_true] at hcount hget
      have hcard := StorageMap.card_insert_new hget true
      refine ⟨?_, hcount ▸ hroom hl, hentries⟩
      rw [hlist, hcard, hcount, hold]

private theorem State.CountedAt.removed {account : T.AccountId}
    (h : s.CountedAt id)
    (hlist : s'.campaignWhitelist id = (s.campaignWhitelist id).remove account)
    (hcount : s'.campaignWhitelistCount id = if s.listed id account then
      s.campaignWhitelistCount id - 1 else s.campaignWhitelistCount id) :
    s'.CountedAt id := by
  have hget := h.get_eq account
  have hold := h.count
  have hbound := h.bound
  cases hl : s.listed id account with
  | true =>
      rw [hl, if_pos rfl] at hcount hget
      have hcard := StorageMap.card_remove hget
      refine ⟨?_, by omega, hlist ▸ StorageMap.forall_remove h.entries⟩
      rw [hlist]
      omega
  | false =>
      rw [hl, if_neg Bool.false_ne_true] at hcount hget
      rw [StorageMap.remove_of_none hget] at hlist
      exact h.congr hlist hcount

/-- What a call can do to the whitelist of one campaign. -/
inductive WhitelistMoveAt (s s' : State T) (id : Nat) : Prop where
  | kept (hlist : s'.campaignWhitelist id = s.campaignWhitelist id)
      (hcount : s'.campaignWhitelistCount id = s.campaignWhitelistCount id)
  | cleared (hcleared : s'.ClearedAt id)
  | added {account : T.AccountId} {c : Campaign T}
      (hget : s.campaigns.get id = some c)
      (hstatus : c.status = .funding ∨ c.status = .paused)
      (hroom : s.listed id account = false →
        s.campaignWhitelistCount id < T.maxWhitelistSize)
      (hlist : s'.campaignWhitelist id =
        (s.campaignWhitelist id).insert account true)
      (hcount : s'.campaignWhitelistCount id =
        if s.listed id account then s.campaignWhitelistCount id
        else s.campaignWhitelistCount id + 1)
  | removed {account : T.AccountId} {c : Campaign T}
      (hget : s.campaigns.get id = some c)
      (hstatus : c.status = .funding ∨ c.status = .paused)
      (hlist : s'.campaignWhitelist id =
        (s.campaignWhitelist id).remove account)
      (hcount : s'.campaignWhitelistCount id =
        if s.listed id account then s.campaignWhitelistCount id - 1
        else s.campaignWhitelistCount id)

theorem WhitelistMove.clearedAt {call : Call T} (h : WhitelistMove call s s')
    (hcall : call.clears = some id) : s'.ClearedAt id := by
  cases h with
  | cleared hcall' hlist hcount =>
      cases hcall.symm.trans hcall'
      constructor
      · rw [hlist, StorageDoubleMap.clearPrefix, Function.update_self]
      · rw [hcount, Function.update_self]
  | kept hcall' | added hcall' | removed hcall' => cases hcall.symm.trans hcall'

theorem WhitelistMove.moveAt {call : Call T} (h : WhitelistMove call s s')
    (id : Nat) : WhitelistMoveAt s s' id := by
  cases h with
  | kept _ hlist hcount => exact .kept (by rw [hlist]) (by rw [hcount])
  | @cleared i hcall hlist hcount =>
      by_cases hi : id = i
      · subst hi
        have hmove : WhitelistMove call s s' := .cleared hcall hlist hcount
        exact .cleared (hmove.clearedAt hcall)
      · apply WhitelistMoveAt.kept
        · rw [hlist, StorageDoubleMap.clearPrefix, Function.update_of_ne hi]
        · rw [hcount, Function.update_of_ne hi]
  | @added i account c _ hget hstatus hroom hlist hcount =>
      by_cases hi : id = i
      · subst hi
        have hlist' := congrFun hlist id
        rw [StorageDoubleMap.insert_self] at hlist'
        refine .added hget hstatus hroom hlist' ?_
        rw [hcount]
        split <;> simp
      · apply WhitelistMoveAt.kept
        · rw [hlist, StorageDoubleMap.insert_ne _ _ _ hi]
        · rw [hcount]
          split <;> simp [hi]
  | @removed i account c _ hget hstatus hlist hcount =>
      by_cases hi : id = i
      · subst hi
        have hlist' := congrFun hlist id
        rw [StorageDoubleMap.remove_self] at hlist'
        refine .removed hget hstatus hlist' ?_
        rw [hcount]
        split <;> simp
      · apply WhitelistMoveAt.kept
        · rw [hlist, StorageDoubleMap.remove_ne _ _ hi]
        · rw [hcount]
          split <;> simp [hi]

/-- Every step moves every whitelist as listed. -/
theorem step_whitelist (h : step s a = .ok s') (id : Nat) :
    WhitelistMoveAt s s' id := by
  cases a with
  | call => exact (dispatch_effect h).beside.whitelist.moveAt id
  | nextBlock | outside =>
      cases h
      exact .kept rfl rfl

theorem State.CountedAt.step (h : s.CountedAt id)
    (hstep : Crowdfunding.step s a = .ok s') : s'.CountedAt id := by
  cases step_whitelist hstep id with
  | kept hlist hcount => exact h.congr hlist hcount
  | cleared hcleared => exact hcleared.countedAt
  | added _ _ hroom hlist hcount => exact h.added hroom hlist hcount
  | removed _ _ hlist hcount => exact h.removed hlist hcount

/-! ## Campaigns that are over -/

/-- The campaign is over, and its whitelist has been cleared. -/
structure State.ClosedAt (s : State T) (id : Nat) : Prop where
  ended : ∃ c, s.campaigns.get id = some c ∧
    (c.status = .completed ∨ c.status = .failed ∨ c.status = .cancelled)
  cleared : s.ClearedAt id

private theorem over_statusEdge {st st' : CampaignStatus}
    (h : st = .completed ∨ st = .failed ∨ st = .cancelled)
    (hedge : st' = st ∨ StatusEdge st st' = true) :
    st' = .completed ∨ st' = .failed ∨ st' = .cancelled := by
  rcases hedge with rfl | hedge
  · exact h
  · rcases h with rfl | rfl | rfl <;> cases st' <;> simp_all [StatusEdge]

/-- No call adds to the whitelist of a campaign that is over. -/
theorem State.ClosedAt.step (h : s.ClosedAt id) (hf : s.toBooks.Fresh)
    (hstep : Crowdfunding.step s a = .ok s') : s'.ClosedAt id := by
  obtain ⟨c, hget, hst⟩ := h.ended
  obtain ⟨c', hget', hev⟩ := (step_effect hstep).evolves hf hget
  refine ⟨⟨c', hget', over_statusEdge hst hev.status⟩, ?_⟩
  have hopen : ¬ (c.status = .funding ∨ c.status = .paused) := by
    rcases hst with hst | hst | hst <;> simp [hst]
  cases step_whitelist hstep id with
  | kept hlist hcount =>
      exact ⟨hlist.trans h.cleared.list, hcount.trans h.cleared.count⟩
  | cleared hcleared => exact hcleared
  | added hget₁ hst₁ | removed hget₁ hst₁ =>
      cases hget.symm.trans hget₁
      exact absurd hst₁ hopen

/-- A campaign that is cancelled has been so before, or the call clears its
whitelist. -/
theorem Effect.cancelling {b b' : Books T} (h : Effect b a b')
    {c' : Campaign T} (hget' : b'.campaigns.get id = some c')
    (hst : c'.status = .cancelled) :
    (∃ c, b.campaigns.get id = some c ∧ c.status = .cancelled) ∨
      ∃ o call, a = .call o call ∧ call.clears = some id := by
  cases h.changeAt id with
  | kept _ hsame => exact .inl ⟨c', hsame.campaign ▸ hget', hst⟩
  | created _ _ _ hnew _ hget₁ =>
      cases hget₁.symm.trans hget'
      cases hst.symm.trans hnew.status
  | @changed c _ hget hget₁ hstep =>
      cases hget₁.symm.trans hget'
      cases hstep with
      | @finalized _ _ m =>
          rcases doFinalize_cases m id c with h | ⟨h, _⟩ | ⟨_, _, _, h⟩ <;>
            rw [h] at hst <;> cases hst
      | paused _ hedge =>
          rcases hedge with ⟨_, h⟩ | ⟨_, h⟩ <;> cases hst.symm.trans h
      | cancelled hcall =>
          right
          rcases hcall with rfl | rfl <;> exact ⟨_, _, rfl, rfl⟩
      | fundsClaimed => cases hst
      | @released _ _ finished =>
          cases finished with
          | true => cases hst
          | false => exact .inl ⟨_, hget, hst⟩
      | _ => exact .inl ⟨_, hget, hst⟩

/-- What a step leaves of a cancelled campaign is closed. -/
theorem closedAt_of_cancelled (hf : s.toBooks.Fresh)
    (hstep : step s a = .ok s')
    (hI : ∀ c, s.campaigns.get id = some c → c.status = .cancelled → s.ClosedAt
      id) {c' : Campaign T} (hget' : s'.campaigns.get id = some c')
    (hst : c'.status = .cancelled) : s'.ClosedAt id := by
  rcases (step_effect hstep).cancelling hget' hst with
    ⟨c, hget, hst₀⟩ | ⟨o, call, rfl, hcall⟩
  · exact (hI c hget hst₀).step hf hstep
  · exact ⟨⟨c', hget', .inr (.inr hst)⟩,
      (dispatch_effect hstep).beside.whitelist.clearedAt hcall⟩

/-- Calls that return the creation deposit of a campaign. -/
def Action.claimsDeposit (id : Nat) : Action T → Bool
  | .call _ (.claimCreationDeposit i) => i == id
  | _ => false

theorem closedAt_of_claimsDeposit (hstep : step s a = .ok s')
    (ha : a.claimsDeposit id = true) : s'.ClosedAt id := by
  have heff := step_effect hstep
  cases a with
  | nextBlock | outside => cases ha
  | call o call =>
      cases call with
      | claimCreationDeposit i =>
          have hi : i = id := by simpa [Action.claimsDeposit] using ha
          subst hi
          have hcall : dispatch s o (.claimCreationDeposit i) = .ok s' := hstep
          refine ⟨?_, (dispatch_effect hcall).beside.whitelist.clearedAt rfl⟩
          generalize s'.toBooks = b' at heff ⊢
          cases heff with
          | quiet hquiet => cases hquiet
          | depositClaimed _ _ hstatus =>
              exact ⟨_, StorageMap.get_insert_self .., hstatus⟩
          | finalized hcall | paused hcall | cancelled hcall =>
              rcases hcall with h | h <;> cases h
          | reviewed hcall => rcases hcall with h | h | h <;> cases h
      | _ => cases ha

/-- At the end of every run the count of every whitelist is the number of its
entries, which is within the bound, and every entry is true; if the campaign is
cancelled or its creation deposit has been claimed, there are none. -/
theorem whitelist_count_exact {world : T.World} {now : Nat} {s : State T}
    {t : List (State T × Action T)}
    (hrun : Transition.Run step (State.genesis T world now) t s) (id : Nat) :
    s.campaignWhitelistCount id = (s.campaignWhitelist id).keys.card ∧
    (s.campaignWhitelist id).keys.card ≤ T.maxWhitelistSize ∧
    (∀ account value,
      (s.campaignWhitelist id).get account = some value → value = true) ∧
    ((∃ c, s.campaigns.get id = some c ∧ c.status = .cancelled) ∨
        (∃ p ∈ t, p.2.claimsDeposit id = true) →
      (s.campaignWhitelist id).keys = ∅ ∧ s.campaignWhitelistCount id = 0) := by
  have hfresh : (State.genesis T world now).toBooks.Fresh :=
    @fresh_of_reachable T _ (fun _ _ => True) (.init ⟨world, now, rfl⟩)
  have hcounted : s.CountedAt id := by
    refine hrun.preserves (I := fun s => s.CountedAt id)
      (fun _ _ _ h hstep => h.step hstep) ?_
    exact State.ClearedAt.countedAt ⟨rfl, rfl⟩
  have hcancelled : s.toBooks.Fresh ∧ ∀ c, s.campaigns.get id = some c →
      c.status = .cancelled → s.ClosedAt id := by
    refine hrun.preserves (I := fun s => s.toBooks.Fresh ∧
      ∀ c, s.campaigns.get id = some c → c.status = .cancelled →
        s.ClosedAt id) (fun s₁ a s₂ h hstep => ?_) ⟨hfresh, ?_⟩
    · exact ⟨(step_effect hstep).fresh h.1, fun _ hget hst =>
        closedAt_of_cancelled h.1 hstep h.2 hget hst⟩
    · intro c hget
      cases hget
  have hclosed : (∃ c, s.campaigns.get id = some c ∧ c.status = .cancelled) ∨
      (∃ p ∈ t, p.2.claimsDeposit id = true) → s.ClosedAt id := by
    rintro (⟨c, hget, hst⟩ | hclaimed)
    · exact hcancelled.2 c hget hst
    · exact hrun.since (I := fun s => s.toBooks.Fresh)
        (P := fun s => s.ClosedAt id)
        (fun _ _ _ hf hstep => (step_effect hstep).fresh hf)
        (fun _ _ _ _ hstep ha => closedAt_of_claimsDeposit hstep ha)
        (fun _ _ _ hf h hstep => h.step hf hstep) hfresh hclaimed
  refine ⟨hcounted.count, hcounted.count ▸ hcounted.bound, hcounted.entries,
    fun hover => ⟨?_, (hclosed hover).cleared.count⟩⟩
  rw [(hclosed hover).cleared.list]
  rfl

/-- Two accounts are listed, one twice, and the campaign is cancelled. -/
def listedThenCancelled : List (Action purse) :=
  [ openCampaign, signedBy 1 (.addToWhitelist 0 2),
    signedBy 1 (.addToWhitelist 0 3), signedBy 1 (.addToWhitelist 0 2),
    byRoot (.cancelCampaign 0) ]

theorem whitelist_count_exact_cancelled :
    (∃ s, Transition.exec step purseGenesis (listedThenCancelled.take 4)
        = .ok s ∧ s.campaignWhitelistCount 0 = 2) ∧
      ((purseAfter listedThenCancelled).campaignWhitelist 0).keys = ∅ ∧
      (purseAfter listedThenCancelled).campaignWhitelistCount 0 = 0 := by
  have hrun := @purseAfter_run listedThenCancelled (by decide +kernel)
  have hcancelled : ∃ c,
      (purseAfter listedThenCancelled).campaigns.get 0 = some c ∧
        c.status = .cancelled :=
    exists_campaign (by decide +kernel)
  refine ⟨⟨_, Transition.exec_final (by decide +kernel), ?_⟩,
    (whitelist_count_exact hrun 0).2.2.2 (.inl hcancelled)⟩
  decide +kernel

end Thxnet.Crowdfunding
