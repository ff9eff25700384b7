import Thxnet.Agent.Rewards

/-!
# What the pallet holds of an account

All deposits, stakes, rewards and escrows of an account lie in its one reserve.
`b.holds revoked o` is what the records of the pallet account for: what each of
them holds of `o`.  `reserves_accounted` says that the reserve of every account
is what it was before the pallet was used, plus that.
-/

namespace Thxnet.Agent

open Thxnet.Lib Thxnet.Frame

variable {R : Config}

/-! ## The holds -/

/-- What an agent holds of its owner. -/
def agentHold (o : R.AccountId) (agent : AgentInfo R) : Nat :=
  if o = agent.owner then R.agentDeposit else 0

/-- What a feedback holds of its client, unless the client has revoked it. -/
def feedbackHold (revoked : Nat → Bool) (o : R.AccountId) (id : Nat)
    (f : FeedbackInfo R) : Nat :=
  if o = f.client ∧ revoked id = false then R.feedbackDeposit else 0

/-- What a request holds of its requester: the deposit, and the reward as long
as there is no response. -/
def requestHold (responses : Nat → StorageMap R.AccountId
    (ValidationResponse R)) (o : R.AccountId) (id : Nat)
    (q : ValidationRequest R) : Nat :=
  if o = q.requester then
    R.validationRequestDeposit +
      if (responses id).keys = ∅ then q.reward else 0
  else 0

/-- What an escrow holds of its client. -/
def escrowHold (o : R.AccountId) (e : EscrowInfo R) : Nat :=
  if o = e.client then e.amount else 0

/-- What a dispute holds of the disputer, unless it has been decided for
them. -/
def disputeHold (o : R.AccountId) (d : DisputeInfo R) : Nat :=
  if o = d.disputer ∧ d.status ≠ .resolvedForDisputer then R.disputeDeposit
  else 0

/-- What the records hold of `o`; `revoked` tells which feedbacks their clients
have revoked. -/
def Books.holds (b : Books R) (revoked : Nat → Bool) (o : R.AccountId) : Nat :=
  b.agents.sum (agentHold o) + b.feedbacks.total (feedbackHold revoked o) +
    ((b.validators.get o).map ValidatorInfo.stake).getD 0 +
    b.validationRequests.total (requestHold b.validationResponses o) +
    b.escrows.sum (escrowHold o) + b.disputes.sum (disputeHold o)

/-- The client of the feedback `id` revokes it. -/
def revokesFeedback (id : Nat) : Action R → Bool
  | .call _ (.revokeFeedback feedbackId) => feedbackId = id
  | _ => false

/-- The feedbacks their clients have revoked in a run. -/
def selfRevoked (t : List (State R × Action R)) (id : Nat) : Bool :=
  t.any fun p => revokesFeedback id p.2

/-- No request has more than one response. -/
def Books.SingleResponses (b : Books R) : Prop :=
  ∀ id, (b.validationResponses id).keys.card ≤ 1

/-- Other pallets leave the currency in order, reserve nothing and freeze
nothing. -/
def Quiet (L : Repatriations R.currency) (s : State R) : Action R → Prop
  | .outside w => L.InOrder w ∧ (∀ x, L.reserved w x = L.reserved s.world x) ∧
      ∀ x, L.frozen w x = 0
  | _ => True

variable {a : Action R}

theorem quiet_of_isOwn {L : Repatriations R.currency} {s : State R}
    (h : a.isOwn = true) : Quiet L s a := by
  cases a with
  | outside => cases h
  | _ => trivial

/-- It is enough to look at the requests that have been made. -/
theorem singleResponses_of_lt {b : Books R} (hb : Sound b)
    (h : ∀ id < b.nextRequestId, (b.validationResponses id).keys.card ≤ 1) :
    b.SingleResponses := by
  intro id
  by_cases hid : id < b.nextRequestId
  · exact h id hid
  · have hnone : b.isCompleted id = false := by
      unfold Books.isCompleted
      cases hget : b.validationRequests.get id with
      | none => rfl
      | some q => exact absurd (hb.requests id q hget) hid
    rw [hb.keys_eq_empty hnone]
    exact Nat.zero_le _

/-! ## What one step does to the holds -/

/-- The reserves are what they were at first, plus the holds. -/
def Balanced (L : Repatriations R.currency) (base : R.AccountId → Nat)
    (revoked : Nat → Bool) (b : Books R) : Prop :=
  ∀ o, L.reserved b.world o = base o + b.holds revoked o

/-- Responses are never removed. -/
theorem Effect.singleResponses {b b' : Books R} {now : Nat}
    (heff : Effect b now a b') (h : b'.SingleResponses) :
    b.SingleResponses := by
  intro id
  refine Nat.le_trans (Finset.card_le_card ?_) (h id)
  cases heff with
  | @submitValidation who requestId =>
      show _ ⊆ (b.validationResponses.insert requestId who _ id).keys
      by_cases hid : id = requestId
      · subst hid
        rw [StorageDoubleMap.insert_self]
        exact Finset.subset_insert _ _
      · rw [StorageDoubleMap.insert_ne _ _ _ hid]
  | _ => exact Finset.Subset.refl _

/-- Where no request has two responses, none has been paid twice. -/
theorem paysOnce_of_single {s s' : State R} (hs : Sound s.toBooks)
    (hstep : step s a = .ok s') (h : s'.toBooks.SingleResponses) :
    paysOnce s a = true := by
  have heff := step_effect hstep
  generalize s'.toBooks = b' at heff h
  cases heff with
  | @submitValidation who id _ _ _ _ q _ _ _ _ hrequest _ _ hnew =>
      have hcard : (s.validationResponses.insert id who _ id).keys.card ≤ 1 :=
        h id
      rw [StorageDoubleMap.insert_self,
        StorageMap.card_insert_new hnew] at hcard
      have hkeys : ¬ (s.validationResponses id).keys.Nonempty := by
        rw [← Finset.card_pos]
        omega
      rw [hs.responded, Books.isCompleted, hrequest, Option.any_some,
        Bool.not_eq_true] at hkeys
      simp [paysOnce, hrequest, hkeys]
  | _ => rfl

section Ledger

variable {L : Repatriations R.currency} {base : R.AccountId → Nat}
  {revoked : Nat → Bool} {b b' : Books R} {now : Nat} {a : Action R}

/-- What a request costs does not overflow. -/
def Books.Priced (b : Books R) : Prop :=
  ∀ id q, b.validationRequests.get id = some q →
    R.validationRequestDeposit + q.reward ≤ maxValue 128

/-- The feedbacks that `revoked` lists are stored as revoked. -/
def Books.Recorded (b : Books R) (revoked : Nat → Bool) : Prop :=
  ∀ id, revoked id = true →
    ∃ f, b.feedbacks.get id = some f ∧ f.revoked = true

theorem totalReserve_of_lt {reward : Nat}
    (h : totalReserve (R := R) reward < maxValue 128) :
    totalReserve (R := R) reward = R.validationRequestDeposit + reward := by
  unfold totalReserve saturatingAdd at h ⊢
  omega

variable {id : Nat}

theorem holds_withoutEscrow {e : EscrowInfo R} (he : b.escrows.get id = some e)
    (world : R.World) (o : R.AccountId) :
    (b.withoutEscrow world id).holds revoked o +
      (if o = e.client then e.amount else 0) = b.holds revoked o := by
  have hsum := b.escrows.sum_remove id (escrowHold o)
  simp only [he, Option.map_some, Option.getD_some, escrowHold] at hsum
  simp only [Books.holds, Books.withoutEscrow]
  omega

theorem holds_withEscrowStatus {e : EscrowInfo R}
    (he : b.escrows.get id = some e) (status : EscrowStatus) (o : R.AccountId) :
    (b.withEscrowStatus id e status).holds revoked o = b.holds revoked o := by
  have hsum := b.escrows.sum_insert id { e with status := status }
    (escrowHold o)
  simp only [he, Option.map_some, Option.getD_some, escrowHold] at hsum
  simp only [Books.holds, Books.withEscrowStatus]
  omega

namespace Balanced

theorem same (h : Balanced L base revoked b)
    (hworld : ∀ o, L.reserved b'.world o = L.reserved b.world o)
    (hholds : ∀ o, b'.holds revoked o = b.holds revoked o) :
    Balanced L base revoked b' := by
  intro o
  rw [hworld, hholds, h o]

section InOrder

variable {who : R.AccountId} {revoked' : Nat → Bool} {amount : Nat}
  (h : Balanced L base revoked b) (hw : L.InOrder b.world)
include h hw

theorem reserve
    (hok : R.currency.reserve b.world who amount = .ok b'.world)
    (hholds : ∀ o, b'.holds revoked o =
      b.holds revoked o + if o = who then amount else 0) :
    Balanced L base revoked b' := by
  intro o
  rw [(L.reserve hw hok).2 o, h o, hholds o, Nat.add_assoc]

/-- What is unreserved is what a record held. -/
theorem unreserve
    (hworld : ∀ o, L.reserved b'.world o =
      L.reserved (R.currency.unreserve b.world who amount) o)
    (hholds : ∀ o, b'.holds revoked' o + (if o = who then amount else 0) =
      b.holds revoked o) : Balanced L base revoked' b' := by
  intro o
  have hhold := hholds o
  rw [hworld, (L.unreserve who amount hw).2 o, h o]
  omega

/-- The client's own revocation releases the deposit of the feedback. -/
theorem revokeFeedback {f : FeedbackInfo R}
    (hf : b.feedbacks.get id = some f) (hold : revoked id = false)
    (hself : revoked' id = true)
    (hother : ∀ i, i ≠ id → revoked' i = revoked i) :
    Balanced L base revoked'
      { b with
        world := R.currency.unreserve b.world f.client R.feedbackDeposit
        feedbacks := b.feedbacks.insert id { f with revoked := true } } := by
  refine h.unreserve hw (fun _ => rfl) fun o => ?_
  have hagree : (b.feedbacks.insert id { f with revoked := true }).total
      (feedbackHold revoked' o) + _ =
      b.feedbacks.total (feedbackHold revoked o) + _ :=
    StorageMap.total_of_agree (k := id) fun i hi => by
      rw [StorageMap.get_insert_ne _ _ hi]
      unfold feedbackHold
      rw [hother i hi]
  simp only [hf, StorageMap.get_insert_self, Option.map_some, Option.getD_some,
    feedbackHold, hold, hself, and_true, Bool.true_eq_false, and_false, if_false]
    at hagree
  simp only [Books.holds]
  omega

variable (hcalm : ∀ x, L.frozen b.world x = 0)
include hcalm

theorem transferAgent {agentId : Nat} {agent : AgentInfo R}
    {newOwner : R.AccountId} {world : R.World}
    (hagent : b.agents.get agentId = some agent)
    (hmoved : R.currency.repatriateReserved b.world agent.owner newOwner
      R.agentDeposit .reserved = .ok world) :
    Balanced L base revoked
      { b with
        world := world
        agents :=
          b.agents.insert agentId { agent with owner := newOwner } } := by
  obtain ⟨_, moved, _, hmin, hres⟩ := L.repatriate hw hmoved
  have hall : moved = R.agentDeposit := by
    have hle := StorageMap.le_sum (agentHold agent.owner) hagent
    have hbal := h agent.owner
    have hmine : agentHold agent.owner agent = R.agentDeposit := if_pos rfl
    rw [hmine] at hle
    unfold Books.holds at hbal
    have := hmin (hcalm _)
    omega
  subst hall
  intro o
  have hbal := h o
  have hreso := hres o
  have hsum := b.agents.sum_insert agentId { agent with owner := newOwner }
    (agentHold o)
  rw [hagent] at hsum
  simp only [Option.map_some, Option.getD_some, agentHold, and_true]
    at hsum hreso
  unfold Books.holds at hbal ⊢
  dsimp only at hbal ⊢
  omega

/-- A response to a request that still holds the reward draws it. -/
theorem submitValidation {requestId : Nat} {q : ValidationRequest R}
    {r : ValidationResponse R} {world : R.World}
    (hrequest : b.validationRequests.get requestId = some q)
    (hfirst : (if (b.validationResponses requestId).keys = ∅ then q.reward
      else 0) = q.reward) (hpaid : payReward b.world q who = .ok world) :
    Balanced L base revoked
      { b with
        world := world
        validationRequests := b.validationRequests.insert requestId
          { q with completed := true }
        validationResponses :=
          b.validationResponses.insert requestId who r } := by
  obtain ⟨_, moved, _, hmin, hres⟩ := payReward_moved hw hpaid
  have hnonempty :
      (b.validationResponses.insert requestId who r requestId).keys ≠ ∅ := by
    rw [StorageDoubleMap.insert_self]
    exact Finset.insert_ne_empty _ _
  have hsum : ∀ o, (b.validationRequests.insert requestId
        { q with completed := true }).total
        (requestHold (b.validationResponses.insert requestId who r) o) +
      (if o = q.requester then q.reward else 0) =
      b.validationRequests.total (requestHold b.validationResponses o) := by
    intro o
    have hagree : (b.validationRequests.insert requestId
        { q with completed := true }).total
        (requestHold (b.validationResponses.insert requestId who r) o) + _ =
        b.validationRequests.total (requestHold b.validationResponses o) + _ :=
      StorageMap.total_of_agree (k := requestId) fun i hi => by
        rw [StorageMap.get_insert_ne _ _ hi]
        unfold requestHold
        rw [StorageDoubleMap.insert_ne _ _ _ hi]
    rw [hrequest, StorageMap.get_insert_self] at hagree
    simp only [Option.map_some, Option.getD_some, requestHold, hfirst,
      if_neg hnonempty] at hagree
    by_cases ho : o = q.requester
    · simp only [if_pos ho] at hagree ⊢
      omega
    · simp only [if_neg ho] at hagree ⊢
      omega
  have hall : moved = q.reward := by
    have hbal := h q.requester
    have hmine := hsum q.requester
    rw [if_pos rfl] at hmine
    unfold Books.holds at hbal
    have := hmin (hcalm _)
    omega
  subst hall
  intro o
  have hbal := h o
  have hreso := hres o
  have hsumo := hsum o
  unfold Books.holds at hbal ⊢
  dsimp only at hbal ⊢
  omega

end InOrder

/-- Every step but a client's revocation keeps the balance. -/
theorem effect {s : State R} (hs : s.toBooks = b)
    (h : Balanced L base revoked b) (hb : Sound b)
    (hw : L.InOrder b.world) (hcalm : ∀ x, L.frozen b.world x = 0)
    (hprice : b.Priced) (hrec : b.Recorded revoked)
    (hout : ∀ w, a = .outside w → ∀ x, L.reserved w x = L.reserved b.world x)
    (honce : paysOnce s a = true) (heff : Effect b now a b')
    (hnot : ∀ id, revokesFeedback id a = false) :
    Balanced L base revoked b' := by
  cases heff with
  | registerAgent _ hreserve =>
      refine h.reserve hw hreserve fun o => ?_
      simp only [Books.holds, StorageMap.sum_insert_new hb.agents.get_eq_none,
        agentHold]
      omega
  | transferAgent hagent howner hmoved =>
      subst howner
      exact h.transferAgent hw hcalm hagent hmoved
  | giveFeedback _ _ _ _ hreserve =>
      refine h.reserve hw hreserve fun o => ?_
      have hfresh : revoked b.nextFeedbackId = false := by
        refine Bool.eq_false_iff.mpr fun hrevoked => ?_
        obtain ⟨f, hf, _⟩ := hrec _ hrevoked
        rw [hb.feedbacks.get_eq_none] at hf
        cases hf
      simp only [Books.holds, Books.rated, Books.withFeedback,
        StorageMap.total_insert_new hb.feedbacks.get_eq_none, feedbackHold,
        hfresh, and_true]
      omega
  | @revokeFeedback _ id => exact absurd (hnot id) (by simp [revokesFeedback])
  | @registerValidator who stake _ hnew _ _ hreserve =>
      refine h.reserve hw hreserve fun o => ?_
      simp only [Books.holds, StorageMap.get_insert]
      by_cases ho : o = who
      · simp [ho, hnew]
        omega
      · simp [ho]
  | @unregisterValidator who v hv =>
      refine h.unreserve hw (fun _ => rfl) fun o => ?_
      simp only [Books.holds, StorageMap.get_remove]
      by_cases ho : o = who
      · simp [ho, hv]
        omega
      · simp [ho]
  | requestValidation _ hreserve =>
      refine h.reserve hw hreserve fun o => ?_
      have hprice := totalReserve_of_lt (L.reserve_lt hw hreserve)
      have hnone : (b.validationResponses b.nextRequestId).keys = ∅ := by
        refine hb.keys_eq_empty ?_
        unfold Books.isCompleted
        rw [hb.requests.get_eq_none]
        rfl
      simp only [Books.holds,
        StorageMap.total_insert_new hb.requests.get_eq_none, requestHold,
        hnone, if_true, hprice]
      omega
  | @submitValidation _ requestId _ _ _ _ q _ _ _ _ hrequest _ _ _ _ hpaid =>
      refine h.submitValidation hw hcalm hrequest ?_ hpaid
      subst hs
      simp only [paysOnce, hrequest, Option.all_some, Bool.or_eq_true,
        Bool.not_eq_true', decide_eq_true_eq] at honce
      obtain hopen | hzero := honce
      · refine if_pos (hb.keys_eq_empty ?_)
        unfold Books.isCompleted
        rw [hrequest, Option.any_some, hopen]
      · rw [hzero, ite_self]
  | createEscrow _ hreserve =>
      refine h.reserve hw hreserve fun o => ?_
      simp only [Books.holds, StorageMap.sum_insert_new hb.escrows.get_eq_none,
        escrowHold]
      omega
  | claimEscrow he _ _ _ hpaid =>
      exact h.unreserve hw
        (fun o => (L.transfer (L.unreserve _ _ hw).1 hpaid).2 o)
        (holds_withoutEscrow he _)
  | cancelEscrow he =>
      exact h.unreserve hw (fun _ => rfl) (holds_withoutEscrow he _)
  | refundEscrow _ he =>
      exact h.unreserve hw (fun _ => rfl) (holds_withoutEscrow he _)
  | disputeEscrow he =>
      exact h.same (fun _ => rfl) (holds_withEscrowStatus he _)
  | awardEscrow _ he =>
      exact h.same (fun _ => rfl) (holds_withEscrowStatus he _)
  | @cancelValidationRequest who requestId q hrequest hrequester hopen =>
      subst hrequester
      refine h.unreserve hw (fun _ => rfl) fun o => ?_
      have hnone : (b.validationResponses requestId).keys = ∅ := by
        refine hb.keys_eq_empty ?_
        unfold Books.isCompleted
        rw [hrequest, Option.any_some, hopen]
      have hcost : totalReserve (R := R) q.reward =
          R.validationRequestDeposit + q.reward :=
        Nat.min_eq_left (hprice _ _ hrequest)
      have hsum := b.validationRequests.total_remove requestId
        (requestHold b.validationResponses o)
      simp only [hrequest, Option.map_some, Option.getD_some, requestHold, hnone,
        if_true] at hsum
      simp only [Books.holds, hcost]
      omega
  | disputeFeedback _ _ _ _ hreserve =>
      refine h.reserve hw hreserve fun o => ?_
      simp only [Books.holds, StorageMap.sum_insert_new hb.disputes.get_eq_none,
        disputeHold, ne_eq, reduceCtorEq, not_false_eq_true, and_true]
      omega
  | @upholdDispute _ disputeId d f hd hopen hf =>
      refine h.unreserve hw (fun _ => rfl) fun o => ?_
      have hsum := b.disputes.sum_insert disputeId
        { d with status := .resolvedForDisputer, resolvedAt := some now }
        (disputeHold o)
      have hkept := b.feedbacks.total_insert d.feedbackId
        { f with revoked := true } (feedbackHold revoked o)
      simp only [hd, hf, Option.map_some, Option.getD_some, disputeHold,
        feedbackHold, hopen, ne_eq, reduceCtorEq, not_false_eq_true,
        not_true_eq_false, and_true, and_false, if_false] at hsum hkept
      simp only [Books.holds, Books.rated, Books.withRevoked]
      omega
  | @settleDispute _ disputeId status d hd hopen hother =>
      refine h.same (fun _ => rfl) fun o => ?_
      have hstatus : status ≠ .resolvedForDisputer := by
        intro hfor
        have hsome := hb.disputed _ _ hd
        rw [hother hfor] at hsome
        cases hsome
      have hsum := b.disputes.sum_insert disputeId
        { d with status := status, resolvedAt := some now } (disputeHold o)
      simp only [hd, Option.map_some, Option.getD_some, disputeHold, hopen, ne_eq,
        reduceCtorEq, hstatus, not_false_eq_true, and_true] at hsum
      simp only [Books.holds]
      omega
  | outside world => exact h.same (hout world rfl) fun _ => rfl
  | updateMetadata | appendResponse | addValidatorToWhitelist
  | removeValidatorFromWhitelist | authorizeFeedback | revokeAuthorization
  | nextBlock => exact h

end Balanced

theorem Effect.revoked_stays (hb : Sound b) (heff : Effect b now a b')
    (h : ∃ f, b.feedbacks.get id = some f ∧ f.revoked = true) :
    ∃ f, b'.feedbacks.get id = some f ∧ f.revoked = true := by
  obtain ⟨f, hf, hrevoked⟩ := h
  have hrewrite : ∀ {i : Nat} {f' : FeedbackInfo R},
      ∃ g, (b.feedbacks.insert i { f' with revoked := true }).get id = some g ∧
        g.revoked = true := by
    intro i f'
    by_cases hid : id = i
    · subst hid
      exact ⟨_, StorageMap.get_insert_self _ _ _, rfl⟩
    · exact ⟨f, (StorageMap.get_insert_ne _ _ hid).trans hf, hrevoked⟩
  cases heff with
  | giveFeedback =>
      have hne : id ≠ b.nextFeedbackId := Nat.ne_of_lt (hb.feedbacks id f hf)
      exact ⟨f, (StorageMap.get_insert_ne _ _ hne).trans hf, hrevoked⟩
  | revokeFeedback | upholdDispute => exact hrewrite
  | _ => exact ⟨f, hf, hrevoked⟩

theorem Effect.of_revokesFeedback (heff : Effect b now a b')
    (h : revokesFeedback id a = true) :
    ∃ f, b.feedbacks.get id = some f ∧ f.revoked = false ∧
      b' = ({ b with
        world := R.currency.unreserve b.world f.client R.feedbackDeposit
        }.withRevoked id f).rated now f.agentId ∧
      ∀ i, i ≠ id → revokesFeedback i a = false := by
  cases heff with
  | @revokeFeedback who i f hf hclient hlive =>
      obtain rfl : i = id := of_decide_eq_true h
      subst hclient
      exact ⟨f, hf, hlive, rfl, fun _ hne => decide_eq_false (Ne.symm hne)⟩
  | _ => cases h

/-- What a request costs never overflows. -/
theorem Books.Priced.effect (h : b.Priced) (hw : L.InOrder b.world)
    (heff : Effect b now a b') : b'.Priced := by
  intro id q hq
  cases heff with
  | requestValidation _ hreserve =>
      by_cases hid : id = b.nextRequestId
      · subst hid
        replace hq := (StorageMap.get_insert_self _ _ _).symm.trans hq
        cases hq
        have hlt := L.reserve_lt hw hreserve
        rw [totalReserve_of_lt hlt] at hlt
        exact Nat.le_of_lt hlt
      · exact h id q ((StorageMap.get_insert_ne _ _ hid).symm.trans hq)
  | @submitValidation _ requestId _ _ _ _ q₀ _ _ _ _ hrequest =>
      by_cases hid : id = requestId
      · subst hid
        replace hq := (StorageMap.get_insert_self _ _ _).symm.trans hq
        cases hq
        exact h id q₀ hrequest
      · exact h id q ((StorageMap.get_insert_ne _ _ hid).symm.trans hq)
  | @cancelValidationRequest _ requestId =>
      by_cases hid : id = requestId
      · subst hid
        replace hq := (StorageMap.get_remove_self _ _).symm.trans hq
        cases hq
      · exact h id q ((StorageMap.get_remove_ne _ hid).symm.trans hq)
  | _ => exact h id q hq

end Ledger

/-! ## Runs -/

/-- What holds of the books and the currency after the steps of a run: the
balance is kept if no request has been paid twice. -/
structure Accounted (L : Repatriations R.currency) (base : R.AccountId → Nat)
    (past : List (State R × Action R)) (b : Books R) : Prop where
  sound : Sound b
  inOrder : L.InOrder b.world
  calm : ∀ x, L.frozen b.world x = 0
  priced : b.Priced
  recorded : b.Recorded (selfRevoked past)
  single : b.SingleResponses → ∀ p ∈ past, paysOnce p.1 p.2 = true
  balanced : (∀ p ∈ past, paysOnce p.1 p.2 = true) →
    Balanced L base (selfRevoked past) b

section Runs

variable {L : Repatriations R.currency} {base : R.AccountId → Nat}
  {s s' : State R}

theorem selfRevoked_append (t : List (State R × Action R)) (s : State R)
    (a : Action R) (id : Nat) :
    selfRevoked (t ++ [(s, a)]) id =
      (selfRevoked t id || revokesFeedback id a) := by
  simp [selfRevoked]

theorem Accounted.genesis {world : R.World} (hw : L.InOrder world)
    (hcalm : ∀ x, L.frozen world x = 0) :
    Accounted L (L.reserved world) [] (Store.genesis R world).toBooks where
  sound := .genesis world
  inOrder := hw
  calm := hcalm
  priced := fun _ _ h => by cases h
  recorded := fun _ h => by cases h
  single := fun _ _ h => by cases h
  balanced := fun _ o => by simp [Books.holds, Store.genesis]

theorem Accounted.step {past : List (State R × Action R)}
    (h : Accounted L base past s.toBooks) (hok : Quiet L s a)
    (hstep : step s a = .ok s') :
    Accounted L base (past ++ [(s, a)]) s'.toBooks := by
  have heff := step_effect hstep
  have hstays : ∀ {id : Nat}, (∃ f, s.feedbacks.get id = some f ∧
      f.revoked = true) → ∃ f, s'.feedbacks.get id = some f ∧
        f.revoked = true :=
    fun hf => heff.revoked_stays h.sound hf
  have horder : KeepsOrder L a := by
    cases a with
    | outside => exact hok.1
    | _ => trivial
  have hcalm : ∀ x, L.frozen s'.world x = 0 := by
    intro x
    refine Nat.le_zero.mp ((heff.frozen h.inOrder ?_ x).trans (h.calm x).le)
    rintro w rfl y
    rw [hok.2.2 y]
    exact Nat.zero_le _
  refine ⟨h.sound.effect heff, heff.inOrder horder h.inOrder, hcalm,
    h.priced.effect h.inOrder heff, ?_, ?_, ?_⟩
  · intro id hid
    rw [selfRevoked_append, Bool.or_eq_true] at hid
    obtain hid | hid := hid
    · exact hstays (h.recorded id hid)
    · obtain ⟨f, _, _, hb', _⟩ := heff.of_revokesFeedback hid
      rw [hb']
      exact ⟨_, StorageMap.get_insert_self _ _ _, rfl⟩
  · intro hsingle
    have hpast := h.single (heff.singleResponses hsingle)
    exact List.forall_mem_append.mpr ⟨hpast, List.forall_mem_singleton.mpr
      (paysOnce_of_single h.sound hstep hsingle)⟩
  · intro honce
    have hbal := h.balanced fun p hp => honce p (List.mem_append_left _ hp)
    by_cases hself : ∃ id, revokesFeedback id a = true
    · obtain ⟨id, hid⟩ := hself
      obtain ⟨f, hf, hlive, hb', hother⟩ := heff.of_revokesFeedback hid
      have hold : selfRevoked past id = false := by
        refine Bool.eq_false_iff.mpr fun hpast => ?_
        obtain ⟨f', hf', hrevoked⟩ := h.recorded id hpast
        rw [hf] at hf'
        cases hf'
        rw [hlive] at hrevoked
        cases hrevoked
      rw [hb']
      refine hbal.revokeFeedback h.inOrder hf hold ?_ fun i hi => ?_
      · rw [selfRevoked_append, hid, Bool.or_true]
      · rw [selfRevoked_append, hother i hi, Bool.or_false]
    · have hnot : ∀ id, revokesFeedback id a = false :=
        fun id => Bool.eq_false_iff.mpr fun hid => hself ⟨id, hid⟩
      have hsame : selfRevoked (past ++ [(s, a)]) = selfRevoked past := by
        funext id
        rw [selfRevoked_append, hnot, Bool.or_false]
      rw [hsame]
      refine hbal.effect rfl h.sound h.inOrder h.calm h.priced h.recorded ?_
        (honce (s, a) (List.mem_append_right _ (.head _))) heff hnot
      rintro w rfl
      exact hok.2.1

variable {t : List (State R × Action R)}

theorem Accounted.run {t₀ : List (State R × Action R)}
    (h : Accounted L base t₀ s.toBooks)
    (hrun : Transition.Run Agent.step s t s')
    (hquiet : ∀ p ∈ t, Quiet L p.1 p.2) :
    Accounted L base (t₀ ++ t) s'.toBooks := by
  refine hrun.past
    (J := fun s past => Accounted L base (t₀ ++ past) s.toBooks)
    (fun s a s' past hok h hstep => ?_) hquiet ?_
  · rw [← List.append_assoc]
    exact h.step hok hstep
  · rw [List.append_nil]
    exact h

/-- The books and the currency at the end of a run. -/
theorem accounted_of_run {s₀ : State R} (h0 : Genesis s₀)
    (horder : L.InOrder s₀.world) (hcalm : ∀ x, L.frozen s₀.world x = 0)
    (hrun : Transition.Run step s₀ t s) (hquiet : ∀ p ∈ t, Quiet L p.1 p.2) :
    Accounted L (L.reserved s₀.world) t s.toBooks := by
  obtain ⟨world, now, rfl⟩ := h0
  exact (Accounted.genesis horder hcalm).run hrun hquiet

end Runs

/-- In every state in which no request has more than one response, the reserve
of every account is what it was before the pallet was used plus what the
records hold of it: its agents, the feedbacks it has not revoked, its stake, its
requests, its escrows and its disputes that have not been decided for it. -/
theorem reserves_accounted (L : Repatriations R.currency) {s₀ s : State R}
    {t : List (State R × Action R)} (h0 : Genesis s₀)
    (horder : L.InOrder s₀.world) (hcalm : ∀ x, L.frozen s₀.world x = 0)
    (hrun : Transition.Run step s₀ t s) (hquiet : ∀ p ∈ t, Quiet L p.1 p.2)
    (hsingle : s.toBooks.SingleResponses) (o : R.AccountId) :
    L.reserved s.world o =
      L.reserved s₀.world o + s.toBooks.holds (selfRevoked t) o :=
  have h := accounted_of_run h0 horder hcalm hrun hquiet
  h.balanced (h.single hsingle) o

/-! ### A concrete run

Account 2 has an agent, gives a feedback on that of account 1, which disputes
it, requests a validation that account 4 responds to, and puts 300 in escrow.
-/

/-- The requests of the run. -/
def busyDay : List (Action bank) :=
  [signedBy 1 (.registerAgent [] []), signedBy 2 (.registerAgent [] []),
    signedBy 2 (.transferAgent 1 2), signedBy 1 (.authorizeFeedback 0 2 1 100),
    signedBy 2 (.giveFeedback 0 80 [] [] 0),
    signedBy 1 (.disputeFeedback 0 [] 0), signedBy 4 (.registerValidator 10000),
    signedBy 2 (.requestValidation 0 500),
    signedBy 4 (.submitValidation 0 80 [] 0 []),
    signedBy 2 (.createEscrow 0 300 1 none)]

/-- An agent, a feedback, a completed request and an escrow are what account 2
has reserved. -/
theorem reserves_accounted_busyDay :
    bankReserves.reserved (bankAfter busyDay).world 2 =
      bankReserves.reserved endowed 2 + (bankAfter busyDay).toBooks.holds
        (selfRevoked (Transition.trace step bankGenesis busyDay)) 2 ∧
    (bankAfter busyDay).toBooks.holds
        (selfRevoked (Transition.trace step bankGenesis busyDay)) 2 =
      1000 + 100 + 50 + 300 := by
  have hexec : Transition.exec step bankGenesis busyDay =
      .ok (bankAfter busyDay) := Transition.exec_final (by decide +kernel)
  have hrun := Transition.run_of_exec hexec
  have hown : ∀ p ∈ Transition.trace step bankGenesis busyDay,
      p.2.isOwn = true := by decide +kernel
  have hreach : Reachable (fun _ _ => True) (bankAfter busyDay) :=
    Transition.Reach.run (.init ⟨_, _, rfl⟩) hrun (fun _ _ => trivial)
  have hsingle : (bankAfter busyDay).toBooks.SingleResponses :=
    singleResponses_of_lt (sound_of_reachable hreach) (by decide +kernel)
  exact ⟨reserves_accounted bankReserves ⟨_, _, rfl⟩ endowed_inOrder
    endowed_calm hrun (fun p hp => quiet_of_isOwn (hown p hp)) hsingle 2,
    by decide +kernel⟩

end Thxnet.Agent
