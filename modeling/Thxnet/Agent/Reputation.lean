import Thxnet.Agent.Records

/-!
# Reputation scores

`reputation_faithful`: in every reachable state the scores that
`calculate_reputation` gives are means of what has been said, they do not fall
when something is said that is not below them, and they do not fall when
something is taken back that is not above them.  The score of the responses is
their mean as long as their number fits into a `u32`; a crowd of validators can
make it run full (`reputation_overcounted`).
-/

namespace Thxnet.Agent

open Thxnet.Lib Thxnet.Frame

variable {R : Config}

/-! ## Scores -/

section Reputations

variable {b b' : Books R} {now agentId : Nat} {a : Action R}

theorem calculateReputation_feedbackScore (h : Recorded b) (now agentId : Nat) :
    (calculateReputation b now agentId).feedbackScore =
      100 * b.weightedScores now agentId / b.weights now agentId := by
  show (feedbackAverage b now agentId).1 = _
  rw [feedbackAverage_eq h]

theorem calculateReputation_feedbackCount (h : Recorded b) (now agentId : Nat) :
    (calculateReputation b now agentId).feedbackCount =
      b.liveFeedbacks agentId := by
  show (feedbackAverage b now agentId).2 = _
  rw [feedbackAverage_eq h]

theorem calculateReputation_overallScore_le (b : Books R) (now agentId : Nat) :
    (calculateReputation b now agentId).overallScore ≤ 10000 := by
  have hfeedback : (feedbackAverage b now agentId).1 ≤ 10000 := by
    unfold feedbackAverage
    dsimp only
    split
    · exact Nat.min_le_right _ _
    · exact Nat.zero_le _
  have hvalidation : (validationAverage b agentId).1 ≤ 10000 := by
    unfold validationAverage
    dsimp only
    split
    · exact Nat.min_le_right _ _
    · exact Nat.zero_le _
  unfold calculateReputation
  dsimp only
  split
  · unfold saturatingAdd saturatingMul
    omega
  · exact Nat.zero_le _

/-- The feedback is revoked: by its client, or by a dispute that is resolved
against it. -/
def Revokes (b : Books R) (id : Nat) (a : Action R) : Prop :=
  (∃ o, a = .call o (.revokeFeedback id)) ∨
    ∃ o disputeId d, a = .call o (.resolveDispute disputeId
      .resolvedForDisputer) ∧ b.disputes.get disputeId = some d ∧
      d.feedbackId = id

theorem Effect.feedbacks_of_gives {who : R.AccountId} {score : Nat}
    {tags : List (List UInt8)} {uri : List UInt8} {hash : R.Hash}
    (heff : Effect b now
      (.call (.signed who) (.giveFeedback agentId score tags uri hash)) b') :
    ∃ f, b'.feedbacks = b.feedbacks.insert b.nextFeedbackId f ∧
      f.counts agentId = true ∧ f.score = score ∧ f.createdAt = now := by
  cases heff with
  | giveFeedback => exact ⟨_, rfl, by simp [FeedbackInfo.counts], rfl, rfl⟩

theorem Effect.feedbacks_of_revokes (heff : Effect b now a b') {id : Nat}
    {f : FeedbackInfo R} (ha : Revokes b id a)
    (hf : b.feedbacks.get id = some f) :
    b'.feedbacks = b.feedbacks.insert id { f with revoked := true } := by
  rcases ha with ⟨o, rfl⟩ | ⟨o, disputeId, d, rfl, hd, rfl⟩
  · cases heff with
    | revokeFeedback hf' =>
        cases hf.symm.trans hf'
        rfl
  · cases heff with
    | upholdDispute hd' _ hf' =>
        cases hd.symm.trans hd'
        cases hf.symm.trans hf'
        rfl
    | settleDispute hd' _ hnone =>
        cases hd.symm.trans hd'
        cases hf.symm.trans (hnone rfl)

/-- What is said of an agent in the current block. -/
def State.feedbackScore (s : State R) (agentId : Nat) : Nat :=
  (calculateReputation s.toBooks s.now agentId).feedbackScore

/-- A feedback that is not below the score does not lower it. -/
theorem feedbackScore_give {s s' : State R} {who : R.AccountId} {score : Nat}
    {tags : List (List UInt8)} {uri : List UInt8} {hash : R.Hash}
    (hs : Sound s.toBooks) (hrec : Recorded s.toBooks)
    (h : step s (.call (.signed who)
      (.giveFeedback agentId score tags uri hash)) = .ok s')
    (hscore : s.feedbackScore agentId ≤ 100 * score) :
    s.feedbackScore agentId ≤ s'.feedbackScore agentId := by
  have heff := step_effect h
  have hrec' := hrec.effect hs heff
  have hnow := step_call_now h
  obtain ⟨f, hfeedbacks, hf, rfl, hcreated⟩ := heff.feedbacks_of_gives
  obtain ⟨hweights, hscores⟩ :=
    @weighted_insert_new _ _ _ s.now _ _ _ hs.feedbacks.get_eq_none hf
      hfeedbacks
  have hpos : 0 < f.weightAt s.now := by
    rw [FeedbackInfo.weightAt, ((f.counts_iff _).mp hf).2]
    exact (feedbackWeight_bounds _).1
  unfold State.feedbackScore at hscore ⊢
  rw [calculateReputation_feedbackScore hrec] at hscore ⊢
  rw [hnow, calculateReputation_feedbackScore hrec', hweights, hscores]
  exact mean_le_add hscore hpos

/-- Without a feedback that is not above the score, it is not lower. -/
theorem feedbackScore_revoke {s s' : State R} {id : Nat} {f : FeedbackInfo R}
    (hs : Sound s.toBooks) (hrec : Recorded s.toBooks)
    (h : step s a = .ok s') (ha : Revokes s.toBooks id a)
    (hget : s.feedbacks.get id = some f) (hf : f.counts agentId = true)
    (hscore : 100 * f.score ≤ s.feedbackScore agentId)
    (hother : 0 < s'.liveFeedbacks agentId) :
    s.feedbackScore agentId ≤ s'.feedbackScore agentId := by
  have heff := step_effect h
  have hrec' := hrec.effect hs heff
  have hnow : s'.now = s.now := by
    rcases ha with ⟨o, rfl⟩ | ⟨o, _, _, rfl, _, _⟩ <;> exact step_call_now h
  have hfeedbacks := heff.feedbacks_of_revokes ha hget
  obtain ⟨hweights, hscores⟩ :=
    @weighted_revoked _ _ _ s.now _ _ _ hget hf hfeedbacks
  unfold State.feedbackScore at hscore ⊢
  rw [calculateReputation_feedbackScore hrec, hweights, hscores] at hscore ⊢
  rw [hnow, calculateReputation_feedbackScore hrec']
  exact mean_le_sub hscore (weights_pos hother)

/-- A score between bounds on what counts for it. -/
theorem feedbackScore_between (h : Recorded b) {lo hi : Nat}
    (hpos : 0 < b.liveFeedbacks agentId)
    (hbounds : ∀ f, b.IsLive agentId f → lo ≤ f.score ∧ f.score ≤ hi) :
    100 * lo ≤ (calculateReputation b now agentId).feedbackScore ∧
      (calculateReputation b now agentId).feedbackScore ≤ 100 * hi := by
  rw [calculateReputation_feedbackScore h]
  exact ⟨mul_le_mean (weights_pos hpos)
    (le_weightedScores fun f hf => (hbounds f hf).1),
    mean_le_mul (weightedScores_le fun f hf => (hbounds f hf).2)⟩

theorem validationScore_between (h : Recorded b) {lo hi : Nat}
    (hpos : 0 < b.responses agentId) (hfit : b.responses agentId < 2 ^ 32)
    (hbounds : ∀ r, b.IsResponse agentId r → lo ≤ r.score ∧ r.score ≤ hi) :
    100 * lo ≤ (calculateReputation b now agentId).validationScore ∧
      (calculateReputation b now agentId).validationScore ≤ 100 * hi := by
  show 100 * lo ≤ (validationAverage b agentId).1 ∧
    (validationAverage b agentId).1 ≤ 100 * hi
  rw [validationAverage_eq h hfit]
  exact ⟨mul_le_mean hpos (le_responseScores fun r hr => (hbounds r hr).1),
    mean_le_mul (responseScores_le fun r hr => (hbounds r hr).2)⟩

end Reputations

/-- In every reachable state and for every block, the scores of an agent are
faithful: that of its feedbacks is their mean, weighted by age and rounded down,
and lies between the least and the greatest; so does that of the responses to
requests about it, of which there are less than `2 ^ 32`; and the overall score
is at most 10000.  A feedback that is not below the score of its block does not
lower it, nor does the revocation of one that is not above it while another is
left. -/
theorem reputation_faithful {s : State R}
    (hs : Reachable (fun _ _ => True) s) (agentId : Nat) :
    (∀ now, (calculateReputation s.toBooks now agentId).feedbackScore =
      100 * s.weightedScores now agentId / s.weights now agentId) ∧
    (∀ now lo hi, 0 < s.liveFeedbacks agentId →
      (∀ f, s.IsLive agentId f → lo ≤ f.score ∧ f.score ≤ hi) →
      100 * lo ≤ (calculateReputation s.toBooks now agentId).feedbackScore ∧
        (calculateReputation s.toBooks now agentId).feedbackScore ≤
          100 * hi) ∧
    (∀ who score tags uri hash s', step s (.call (.signed who)
        (.giveFeedback agentId score tags uri hash)) = .ok s' →
      s.feedbackScore agentId ≤ 100 * score →
      s.feedbackScore agentId ≤ s'.feedbackScore agentId) ∧
    (∀ a id f s', step s a = .ok s' → Revokes s.toBooks id a →
      s.feedbacks.get id = some f → f.counts agentId = true →
      100 * f.score ≤ s.feedbackScore agentId →
      0 < s'.liveFeedbacks agentId →
      s.feedbackScore agentId ≤ s'.feedbackScore agentId) ∧
    (∀ now lo hi, 0 < s.responses agentId → s.responses agentId < 2 ^ 32 →
      (∀ r, s.IsResponse agentId r → lo ≤ r.score ∧ r.score ≤ hi) →
      100 * lo ≤ (calculateReputation s.toBooks now agentId).validationScore ∧
        (calculateReputation s.toBooks now agentId).validationScore ≤
          100 * hi) ∧
    ∀ now, (calculateReputation s.toBooks now agentId).overallScore ≤
      10000 := by
  have hsound := sound_of_reachable hs
  have hrec := recorded_of_reachable hs
  exact ⟨fun now => calculateReputation_feedbackScore hrec now agentId,
    fun _ _ _ hpos hbounds => feedbackScore_between hrec hpos hbounds,
    fun _ _ _ _ _ _ h => feedbackScore_give hsound hrec h,
    fun _ _ _ _ h => feedbackScore_revoke hsound hrec h,
    fun _ _ _ hpos hfit hbounds =>
      validationScore_between hrec hpos hfit hbounds,
    fun now => calculateReputation_overallScore_le s.toBooks now agentId⟩

/-- The agent of account 1 after a feedback of account 2, and before one of
account 3. -/
def reviewed : State bank :=
  bankAfter [signedBy 1 (.registerAgent [] []),
    signedBy 1 (.authorizeFeedback 0 2 1 100),
    signedBy 1 (.authorizeFeedback 0 3 1 100),
    signedBy 2 (.giveFeedback 0 70 [] [] 0)]

/-- A score of 90 does not lower one of 70. -/
theorem reputation_faithful_reviewed :
    ∃ s', step reviewed (signedBy 3 (.giveFeedback 0 90 [] [] 0)) = .ok s' ∧
      reviewed.feedbackScore 0 ≤ s'.feedbackScore 0 := by
  have hs : Reachable (fun _ _ => True) reviewed :=
    bankAfter_reachable (by decide +kernel)
  obtain ⟨_, _, hgive, _⟩ := reputation_faithful hs 0
  have hok : (step reviewed (signedBy 3
    (.giveFeedback 0 90 [] [] 0))).isOk = true := by decide +kernel
  obtain ⟨s', hstep⟩ := isOk_iff_exists.mp hok
  exact ⟨s', hstep, hgive _ _ _ _ _ _ hstep (by decide +kernel)⟩

/-! ### A crowd of validators

One request can be responded to by any number of validators, so that the counter
of responses runs full.
-/

/-- A ledger in which account `n` can put up the stake of a validator. -/
def stakes (n : Nat) : Balances Nat where
  account := StorageMap.empty.insert n ⟨1, 1, 0, ⟨100000, 1, 0⟩⟩
  totalIssuance := 100001

private theorem reserve_stakes (n : Nat) :
    ∃ w, bank.currency.reserve (stakes n) n 10000 = .ok w := by
  have hinfo : (stakes n).info n = ⟨1, 1, 0, ⟨100000, 1, 0⟩⟩ := by
    simp [stakes, Balances.info]
  have hadjust : (stakes n).adjustReferences bankRules n ⟨100000, 1, 0⟩
      ⟨90000, 10001, 0⟩ = .ok (stakes n) := by
    show ((if decide (((stakes n).info n).consumers = 0) = true then _
      else Except.ok (stakes n)) >>= fun w => .ok w) = _
    rw [hinfo]
    rfl
  refine ⟨((stakes n).store n ⟨90000, 10001, 0⟩).handleRawDust bankRules none,
    ?_⟩
  show Balances.reserve bankRules (stakes n) n 10000 = _
  unfold Balances.reserve Balances.tryMutateAccount
  rw [hinfo]
  show (((stakes n).adjustReferences bankRules n ⟨100000, 1, 0⟩
    ⟨90000, 10001, 0⟩ >>= _) >>= _) = _
  rw [hadjust]
  rfl

/-- The first `n` accounts have responded to a request about agent 0, and no
response has a score other than 1. -/
structure Crowd (n : Nat) (b : Books bank) : Prop where
  request : ∃ request, b.validationRequests.get 0 = some request ∧
    request.agentId = 0 ∧ request.reward = 0
  unlisted : b.validatorWhitelist.any (fun _ => true) = false
  validators : ∀ v, n ≤ v → b.validators.get v = none
  newcomers : ∀ v, n ≤ v → (b.validationResponses 0).get v = none
  scores : ∀ id v r, (b.validationResponses id).get v = some r → r.score = 1
  count : (b.validationResponses 0).sum (fun _ => 1) = n

private theorem registered_validator {b b' : Books R} {now stake : Nat}
    {who : R.AccountId}
    (heff : Effect b now (.call (.signed who) (.registerValidator stake)) b') :
    ∃ world, b' = { b with
      world := world
      validators := b.validators.insert who ⟨who, stake, now, true⟩ } := by
  cases heff with
  | registerValidator => exact ⟨_, rfl⟩

private theorem Crowd.submitted {n stake now : Nat} {b b' : Books bank}
    {w : Balances Nat} (h : Crowd n b)
    (heff : Effect
      { b with
        world := w
        validators := b.validators.insert n ⟨n, stake, now, true⟩ } now
      (signedBy n (.submitValidation 0 1 [] 0 [])) b') : Crowd (n + 1) b' := by
  obtain ⟨request, hrequest, hagent, hreward⟩ := h.request
  cases heff with
  | submitValidation hrequest' =>
      cases hrequest.symm.trans hrequest'
      refine ⟨⟨{ request with completed := true },
        StorageMap.get_insert_self _ _ _, hagent, hreward⟩, h.unlisted,
        fun v hv => ?_, fun v hv => ?_,
        StorageDoubleMap.forall_insert h.scores rfl, ?_⟩
      · exact (StorageMap.get_insert_ne _ _ (Nat.ne_of_gt hv)).trans
          (h.validators v (Nat.le_of_succ_le hv))
      · show (b.validationResponses.insert 0 n _ 0).get v = none
        rw [StorageDoubleMap.insert_self,
          StorageMap.get_insert_ne _ _ (Nat.ne_of_gt hv)]
        exact h.newcomers v (Nat.le_of_succ_le hv)
      · show (b.validationResponses.insert 0 n _ 0).sum _ = n + 1
        rw [StorageDoubleMap.insert_self,
          StorageMap.sum_insert_new (h.newcomers n (Nat.le_refl n)), h.count]

theorem Crowd.grow {n : Nat} {s : State bank} (h : Crowd n s.toBooks) :
    ∃ s', Crowd (n + 1) s'.toBooks ∧ ∃ t, Transition.Run step s t s' := by
  obtain ⟨request, hrequest, hagent, hreward⟩ := h.request
  let s₁ : State bank := s.put { s.toBooks with world := stakes n }
  have hstep₁ : step s (.outside (stakes n)) = .ok s₁ := rfl
  have hpasses : passesWhitelist s₁.toBooks n = true := by
    show (!(s.validatorWhitelist.any fun _ => true) || _) = true
    rw [h.unlisted]
    rfl
  have hregister : ∃ s', registerValidator s₁ (.signed n) 10000 = .ok s' :=
    registerValidator_enabled_iff.mpr ⟨h.validators n (Nat.le_refl n), hpasses,
      by decide, reserve_stakes n⟩
  obtain ⟨s₂, hs₂⟩ := hregister
  have hstep₂ : step s₁ (signedBy n (.registerValidator 10000)) = .ok s₂ := hs₂
  obtain ⟨w, hb₂⟩ := registered_validator (step_effect hstep₂)
  have hsubmit : ∃ s', submitValidation s₂ (.signed n) 0 1 [] 0 [] =
      .ok s' := by
    refine submitValidation_enabled_iff.mpr ⟨request, ⟨n, 10000, s₁.now, true⟩,
      ?_, ?_, rfl, ?_, ⟨_, rfl⟩, s₂.world, if_neg (by rw [hreward]; decide)⟩
    · rw [hb₂]
      exact hrequest
    · rw [hb₂]
      exact StorageMap.get_insert_self _ _ _
    · rw [hb₂]
      exact h.newcomers n (Nat.le_refl n)
  obtain ⟨s₃, hs₃⟩ := hsubmit
  have hstep₃ : step s₂ (signedBy n (.submitValidation 0 1 [] 0 [])) = .ok s₃ :=
    hs₃
  have heff := step_effect hstep₃
  rw [step_call_now hstep₂, hb₂] at heff
  exact ⟨s₃, h.submitted heff, _, .cons hstep₁ (.cons hstep₂
    (.cons hstep₃ (.nil s₃)))⟩

/-- A request without a reward. -/
def unrewarded : State bank :=
  bankAfter [signedBy 1 (.registerAgent [] []),
    signedBy 2 (.requestValidation 0 0)]

theorem unrewarded_reachable : Reachable (fun _ _ => True) unrewarded :=
  bankAfter_reachable (by decide +kernel)

theorem unrewarded_crowd : Crowd 0 unrewarded.toBooks := by
  have hrequest : (unrewarded.validationRequests.get 0).any (fun request =>
      request.agentId = 0 ∧ request.reward = 0) = true := by decide +kernel
  obtain ⟨request, hget, hfacts⟩ := (Option.any_eq_true _ _).mp hrequest
  have hvalidators : ∀ v, unrewarded.validators.get v = none := by
    have hkeys : unrewarded.validators.keys = ∅ := by decide +kernel
    intro v
    refine StorageMap.get_eq_none_of_notMem ?_
    rw [hkeys]
    exact Finset.notMem_empty v
  have hopen : ∀ id, unrewarded.isCompleted id = false := by
    have hkeys : unrewarded.validationRequests.keys = {0} := by decide +kernel
    intro id
    by_cases hid : id = 0
    · rw [hid]
      decide +kernel
    · unfold Books.isCompleted
      rw [StorageMap.get_eq_none_of_notMem (by rw [hkeys]; simpa using hid)]
      rfl
  have hresponses : ∀ id v,
      (unrewarded.validationResponses id).get v = none := by
    intro id v
    refine StorageMap.get_eq_none_of_notMem ?_
    rw [(sound_of_reachable unrewarded_reachable).keys_eq_empty (hopen id)]
    exact Finset.notMem_empty v
  refine ⟨⟨request, hget, of_decide_eq_true hfacts⟩, by decide +kernel,
    fun v _ => hvalidators v, fun v _ => hresponses 0 v,
    fun id v r hr => ?_, ?_⟩
  · cases (hresponses id v).symm.trans hr
  · rw [StorageMap.sum_eq_zero_iff]
    intro v r hr
    cases (hresponses 0 v).symm.trans hr

theorem exists_crowd (n : Nat) :
    ∃ s : State bank, Reachable (fun _ _ => True) s ∧ Crowd n s.toBooks := by
  induction n with
  | zero => exact ⟨unrewarded, unrewarded_reachable, unrewarded_crowd⟩
  | succ n ih =>
      obtain ⟨s, hs, hcrowd⟩ := ih
      obtain ⟨s', hcrowd', t, hrun⟩ := hcrowd.grow
      exact ⟨s', hs.run hrun (fun _ _ => trivial), hcrowd'⟩

theorem Crowd.le_responses {n : Nat} {b : Books bank} (h : Crowd n b) :
    n ≤ b.responses 0 := by
  obtain ⟨request, hget, hagent, _⟩ := h.request
  have hle := StorageMap.le_total (fun id (r : ValidationRequest bank) =>
    if r.agentId = 0 then (b.validationResponses id).sum (fun _ => 1) else 0)
    hget
  rw [if_pos hagent, h.count] at hle
  exact hle

theorem Crowd.score_eq_one {n : Nat} {b : Books bank} (h : Crowd n b)
    {r : ValidationResponse bank} (hr : b.IsResponse 0 r) : r.score = 1 := by
  obtain ⟨id, _, v, _, _, hget⟩ := hr
  exact h.scores id v r hget

/-- More responses than the counter holds: all have a score of 1, and the score
of the agent is above it. -/
theorem reputation_overcounted :
    ∃ s : State bank, Reachable (fun _ _ => True) s ∧ 0 < s.responses 0 ∧
      (∀ r, s.IsResponse 0 r → r.score = 1) ∧
      ∀ now, 100 * 1 <
        (calculateReputation s.toBooks now 0).validationScore := by
  obtain ⟨s, hs, hcrowd⟩ := exists_crowd (2 ^ 33)
  have hcount := hcrowd.le_responses
  have hle : s.responses 0 ≤ s.responseScores 0 := by
    have hscores : 1 * s.responses 0 ≤ s.responseScores 0 :=
      le_responseScores fun r hr => (hcrowd.score_eq_one hr).ge
    rwa [Nat.one_mul] at hscores
  refine ⟨s, hs, by omega, fun r hr => hcrowd.score_eq_one hr, fun now => ?_⟩
  show 100 * 1 < (validationAverage s.toBooks 0).1
  unfold validationAverage
  rw [validationTotals_eq (recorded_of_reachable hs)]
  have h64 : maxValue 64 = 18446744073709551615 := rfl
  have h32 : maxValue 32 = 4294967295 := rfl
  have hfull : min (s.responses 0) (maxValue 32) = 4294967295 := by omega
  have hmean : 200 ≤ saturatingMul 64 (min (s.responseScores 0) (maxValue 64))
      100 / 4294967295 := by
    rw [Nat.le_div_iff_mul_le (by decide)]
    unfold saturatingMul
    omega
  dsimp only
  rw [hfull, if_pos (by decide)]
  omega

end Thxnet.Agent
