import Thxnet.Agent.Quota

/-!
# The records behind a reputation

`calculate_reputation` runs over the lists of an agent's feedbacks and of the
requests to validate it, with sums that saturate and a score that is clamped.
Here the scores are stated by the records themselves: by totals over all stored
feedbacks, and over all responses to stored requests.  `Recorded` is what makes
the two agree, and it holds in every reachable state.

The score of the feedbacks is then the mean of their scores, weighted by their
age and rounded down, without any saturation or clamp (`feedbackAverage_eq`).
The number of responses is counted in a `u32`, which has no room for more than
`2 ^ 32 - 1`; up to there the score of the responses is their mean
(`validationAverage_eq`).
-/

namespace Thxnet.Agent

open Thxnet.Lib Thxnet.Frame

variable {R : Config}

/-! ## The records of an agent -/

/-- What a feedback weighs at a block: nothing once it has been revoked. -/
def FeedbackInfo.weightAt (f : FeedbackInfo R) (now : Nat) : Nat :=
  if f.revoked then 0 else feedbackWeight (now - f.createdAt)

/-- The feedback is on the agent and has not been revoked. -/
def FeedbackInfo.counts (f : FeedbackInfo R) (agentId : Nat) : Bool :=
  f.agentId = agentId && !f.revoked

namespace Books

/-- The weights of the feedbacks on an agent. -/
def weights (b : Books R) (now agentId : Nat) : Nat :=
  b.feedbacks.sum fun f => if f.agentId = agentId then f.weightAt now else 0

/-- Their scores, weighted. -/
def weightedScores (b : Books R) (now agentId : Nat) : Nat :=
  b.feedbacks.sum fun f =>
    if f.agentId = agentId then f.score * f.weightAt now else 0

/-- The number of feedbacks on an agent that have not been revoked. -/
def liveFeedbacks (b : Books R) (agentId : Nat) : Nat :=
  b.feedbacks.count fun f => f.counts agentId

/-- The total of a measure of the responses to requests about an agent. -/
def ofResponses (b : Books R) (agentId : Nat)
    (f : ValidationResponse R → Nat) : Nat :=
  b.validationRequests.total fun id r =>
    if r.agentId = agentId then (b.validationResponses id).sum f else 0

/-- The number of these responses. -/
def responses (b : Books R) (agentId : Nat) : Nat :=
  b.ofResponses agentId fun _ => 1

/-- Their scores. -/
def responseScores (b : Books R) (agentId : Nat) : Nat :=
  b.ofResponses agentId ValidationResponse.score

/-- The response is to a request about the agent. -/
def IsResponse (b : Books R) (agentId : Nat) (r : ValidationResponse R) :
    Prop :=
  ∃ id request v, b.validationRequests.get id = some request ∧
    request.agentId = agentId ∧ (b.validationResponses id).get v = some r

end Books

/-- The lists are exact, and no score is above 100. -/
structure Recorded (b : Books R) : Prop where
  agentList : b.agentFeedbacks.Indexes b.feedbacks FeedbackInfo.agentId
  clientList : b.clientFeedbacks.Indexes b.feedbacks FeedbackInfo.client
  requestList :
    b.agentValidations.Indexes b.validationRequests ValidationRequest.agentId
  feedbackScore : ∀ id f, b.feedbacks.get id = some f → f.score ≤ 100
  responseScore : ∀ id v r, (b.validationResponses id).get v = some r →
    r.score ≤ 100

namespace Recorded

variable {b b' : Books R} {now : Nat} {a : Action R}

theorem genesis (world : R.World) :
    Recorded (Store.genesis R world).toBooks where
  agentList := .empty
  clientList := .empty
  requestList := .empty
  feedbackScore := fun _ _ h => by cases h
  responseScore := fun _ _ _ h => by cases h

theorem effect (h : Recorded b) (hs : Sound b) (heff : Effect b now a b') :
    Recorded b' := by
  obtain ⟨hagent, hclient⟩ := heff.indexes hs h.agentList h.clientList
  cases heff with
  | giveFeedback _ _ _ hscore =>
      exact { h with
        agentList := hagent
        clientList := hclient
        feedbackScore := StorageMap.forall_insert h.feedbackScore hscore }
  | revokeFeedback hf =>
      have hold := h.feedbackScore _ _ hf
      exact { h with
        agentList := hagent
        clientList := hclient
        feedbackScore := StorageMap.forall_insert h.feedbackScore hold }
  | upholdDispute _ _ hf =>
      have hold := h.feedbackScore _ _ hf
      exact { h with
        agentList := hagent
        clientList := hclient
        feedbackScore := StorageMap.forall_insert h.feedbackScore hold }
  | requestValidation _ _ _ hlist =>
      exact { h with requestList := h.requestList.append hs.requests hlist }
  | submitValidation hrequest _ _ _ hscore =>
      exact { h with
        requestList := h.requestList.rewrite hrequest rfl
        responseScore := StorageDoubleMap.forall_insert h.responseScore hscore }
  | @cancelValidationRequest _ requestId request hrequest =>
      refine { h with requestList := h.requestList.remove hrequest ?_ }
      exact StorageMap.listed_modify_swapRemoveFirst _ _ _
  | _ => exact { h with }

end Recorded

theorem recorded_of_reachable {ok : State R → Action R → Prop} {s : State R}
    (h : Reachable ok s) : Recorded s.toBooks := by
  refine Transition.Reach.invariant (I := fun s => Recorded s.toBooks) ?_ ?_ h
  · rintro s ⟨world, now, rfl⟩
    exact .genesis world
  · intro s a s' hs hrec _ hstep
    exact hrec.effect (sound_of_reachable hs) (step_effect hstep)

/-! ## The weights of feedbacks -/

theorem feedbackWeight_bounds (age : Nat) :
    0 < feedbackWeight age ∧ feedbackWeight age ≤ 100 := by
  unfold feedbackWeight
  dsimp only
  split
  · decide
  · split
    · decide
    · split <;> decide

theorem FeedbackInfo.weightAt_le (f : FeedbackInfo R) (now : Nat) :
    f.weightAt now ≤ 100 := by
  unfold FeedbackInfo.weightAt
  split
  · exact Nat.zero_le _
  · exact (feedbackWeight_bounds _).2

section Bounds

variable {b b' : Books R} {now agentId : Nat}

/-- The feedback is on the agent and counts. -/
def Books.IsLive (b : Books R) (agentId : Nat) (f : FeedbackInfo R) : Prop :=
  ∃ id, b.feedbacks.get id = some f ∧ f.counts agentId = true

theorem FeedbackInfo.counts_iff (f : FeedbackInfo R) (agentId : Nat) :
    f.counts agentId = true ↔ f.agentId = agentId ∧ f.revoked = false := by
  simp [FeedbackInfo.counts]

/-- There is a weight as soon as there is a feedback that counts. -/
theorem weights_pos (h : 0 < b.liveFeedbacks agentId) :
    0 < b.weights now agentId := by
  refine Nat.lt_of_lt_of_le h (b.feedbacks.sum_le_sum fun id f _ => ?_)
  by_cases hf : f.counts agentId = true
  · obtain ⟨hid, hlive⟩ := (f.counts_iff agentId).mp hf
    rw [if_pos hf, if_pos hid, FeedbackInfo.weightAt, hlive]
    exact (feedbackWeight_bounds _).1
  · rw [if_neg hf]
    exact Nat.zero_le _

variable {f : FeedbackInfo R}

theorem Recorded.liveScore_le (h : Recorded b) (hf : b.IsLive agentId f) :
    f.score ≤ 100 := by
  obtain ⟨id, hget, _⟩ := hf
  exact h.feedbackScore id f hget

private theorem weighted_le {lo hi : Nat}
    (h : f.counts agentId = true → lo ≤ hi) :
    (if f.agentId = agentId then lo * f.weightAt now else 0) ≤
      if f.agentId = agentId then hi * f.weightAt now else 0 := by
  by_cases hid : f.agentId = agentId
  · rw [if_pos hid, if_pos hid]
    cases hlive : f.revoked with
    | true => simp [FeedbackInfo.weightAt, hlive]
    | false =>
        exact Nat.mul_le_mul_right _ (h ((f.counts_iff _).mpr ⟨hid, hlive⟩))
  · rw [if_neg hid, if_neg hid]

private theorem mul_weights (c : Nat) :
    c * b.weights now agentId = b.feedbacks.sum fun f =>
      if f.agentId = agentId then c * f.weightAt now else 0 := by
  unfold Books.weights
  rw [← StorageMap.sum_mul_left]
  congr 1
  funext f
  rw [mul_ite, Nat.mul_zero]

theorem weightedScores_le {hi : Nat}
    (h : ∀ f, b.IsLive agentId f → f.score ≤ hi) :
    b.weightedScores now agentId ≤ hi * b.weights now agentId := by
  rw [mul_weights]
  exact b.feedbacks.sum_le_sum fun id f hget =>
    weighted_le fun hf => h f ⟨id, hget, hf⟩

theorem le_weightedScores {lo : Nat}
    (h : ∀ f, b.IsLive agentId f → lo ≤ f.score) :
    lo * b.weights now agentId ≤ b.weightedScores now agentId := by
  rw [mul_weights]
  exact b.feedbacks.sum_le_sum fun id f hget =>
    weighted_le fun hf => h f ⟨id, hget, hf⟩

theorem weighted_insert_new {id : Nat} (hnew : b.feedbacks.get id = none)
    (hf : f.counts agentId = true)
    (hfeedbacks : b'.feedbacks = b.feedbacks.insert id f) :
    b'.weights now agentId = b.weights now agentId + f.weightAt now ∧
      b'.weightedScores now agentId =
        b.weightedScores now agentId + f.score * f.weightAt now := by
  obtain ⟨hid, _⟩ := (f.counts_iff agentId).mp hf
  unfold Books.weights Books.weightedScores
  rw [hfeedbacks, StorageMap.sum_insert_new hnew,
    StorageMap.sum_insert_new hnew, if_pos hid, if_pos hid]
  exact ⟨rfl, rfl⟩

theorem weighted_revoked {id : Nat} (hget : b.feedbacks.get id = some f)
    (hf : f.counts agentId = true) (hfeedbacks : b'.feedbacks =
      b.feedbacks.insert id { f with revoked := true }) :
    b.weights now agentId = b'.weights now agentId + f.weightAt now ∧
      b.weightedScores now agentId =
        b'.weightedScores now agentId + f.score * f.weightAt now := by
  obtain ⟨hid, _⟩ := (f.counts_iff agentId).mp hf
  have hweights := b.feedbacks.sum_insert id { f with revoked := true }
    fun f => if f.agentId = agentId then f.weightAt now else 0
  have hscores := b.feedbacks.sum_insert id { f with revoked := true }
    fun f => if f.agentId = agentId then f.score * f.weightAt now else 0
  rw [← hfeedbacks, hget] at hweights hscores
  simp only [Option.map_some, Option.getD_some, hid, if_true]
    at hweights hscores
  exact ⟨hweights.symm, hscores.symm⟩

end Bounds

/-! ## The loop over the feedbacks -/

/-- What the loop adds for a feedback id. -/
def Books.ofFeedback (b : Books R) (f : FeedbackInfo R → Nat) (id : Nat) :
    Nat :=
  ((b.feedbacks.get id).map f).getD 0

/-- No variable of the loop is too large. -/
structure FeedbackTotals.Fits (t : FeedbackTotals) : Prop where
  weightedScore : t.weightedScore ≤ maxValue 64
  totalWeight : t.totalWeight ≤ maxValue 64
  validCount : t.validCount ≤ maxValue 32

section Feedbacks

variable {b : Books R} {now : Nat}

private theorem addFeedback_eq (h : Recorded b) {t : FeedbackTotals}
    (ht : t.Fits) (id : Nat) :
    addFeedback b now t id =
      ⟨saturatingAdd 64 t.weightedScore
        (b.ofFeedback (fun f => f.score * f.weightAt now) id),
      saturatingAdd 64 t.totalWeight
        (b.ofFeedback (fun f => f.weightAt now) id),
      saturatingAdd 32 t.validCount
        (b.ofFeedback (fun f => if f.revoked then 0 else 1) id)⟩ := by
  have hkeep : t = ⟨saturatingAdd 64 t.weightedScore 0,
      saturatingAdd 64 t.totalWeight 0, saturatingAdd 32 t.validCount 0⟩ := by
    unfold saturatingAdd
    rw [Nat.add_zero, Nat.add_zero, Nat.add_zero,
      Nat.min_eq_left ht.weightedScore, Nat.min_eq_left ht.totalWeight,
      Nat.min_eq_left ht.validCount]
  unfold addFeedback Books.ofFeedback
  cases hf : b.feedbacks.get id with
  | none => exact hkeep
  | some f =>
      simp only [Option.map_some, Option.getD_some, FeedbackInfo.weightAt]
      by_cases hrevoked : f.revoked = true
      · simp only [hrevoked, if_true, Nat.mul_zero]
        exact hkeep
      · have hscore := h.feedbackScore id f hf
        have hweight := (feedbackWeight_bounds (now - f.createdAt)).2
        have hprod := Nat.mul_le_mul hscore hweight
        have hmul : saturatingMul 64 f.score
            (feedbackWeight (now - f.createdAt)) =
            f.score * feedbackWeight (now - f.createdAt) :=
          Nat.min_eq_left (hprod.trans (by decide))
        simp only [hrevoked, Bool.false_eq_true, if_false, hmul]

private theorem foldl_addFeedback (h : Recorded b) (ids : List Nat)
    {t : FeedbackTotals} (ht : t.Fits) :
    ids.foldl (addFeedback b now) t =
      ⟨min (t.weightedScore + (ids.map
        (b.ofFeedback fun f => f.score * f.weightAt now)).sum) (maxValue 64),
      min (t.totalWeight + (ids.map
        (b.ofFeedback fun f => f.weightAt now)).sum) (maxValue 64),
      min (t.validCount + (ids.map
        (b.ofFeedback fun f => if f.revoked then 0 else 1)).sum)
        (maxValue 32)⟩ := by
  induction ids generalizing t with
  | nil =>
      simp [Nat.min_eq_left ht.weightedScore, Nat.min_eq_left ht.totalWeight,
        Nat.min_eq_left ht.validCount]
  | cons id ids ih =>
      rw [List.foldl_cons, addFeedback_eq h ht, ih ⟨Nat.min_le_right _ _,
        Nat.min_le_right _ _, Nat.min_le_right _ _⟩]
      simp only [List.map_cons, List.sum_cons, FeedbackTotals.mk.injEq]
      unfold saturatingAdd
      omega

/-- The lists are short enough for every sum to fit. -/
private theorem sum_ofFeedback_le (h : Recorded b) (agentId : Nat)
    {f : FeedbackInfo R → Nat} {c : Nat}
    (hf : ∀ x : FeedbackInfo R, x.score ≤ 100 → f x ≤ c) :
    ((b.agentFeedbacks.listed agentId).map (b.ofFeedback f)).sum ≤
      10000 * c := by
  have hall : ∀ x ∈ (b.agentFeedbacks.listed agentId).map (b.ofFeedback f),
      x ≤ c := by
    intro x hx
    obtain ⟨id, _, rfl⟩ := List.mem_map.mp hx
    unfold Books.ofFeedback
    cases hget : b.feedbacks.get id with
    | none => exact Nat.zero_le c
    | some x => exact hf x (h.feedbackScore id x hget)
  refine (List.sum_le_card_nsmul _ _ hall).trans ?_
  rw [List.length_map, smul_eq_mul]
  exact Nat.mul_le_mul_right c (StorageMap.length_listed_le _ _)

private theorem sum_ofFeedback_live (h : Recorded b) (agentId : Nat) :
    ((b.agentFeedbacks.listed agentId).map
      (b.ofFeedback fun f => if f.revoked then 0 else 1)).sum =
        b.liveFeedbacks agentId := by
  refine (h.agentList.sum_listed_get agentId _).trans ?_
  unfold Books.liveFeedbacks StorageMap.count FeedbackInfo.counts
  congr 1
  funext f
  by_cases hid : f.agentId = agentId <;> cases hr : f.revoked <;>
    simp [hid, hr]

/-- The score of the feedbacks is their weighted mean, and all that have not
been revoked are counted. -/
theorem feedbackAverage_eq (h : Recorded b) (now agentId : Nat) :
    feedbackAverage b now agentId =
      (100 * b.weightedScores now agentId / b.weights now agentId,
        b.liveFeedbacks agentId) := by
  have hweights := sum_ofFeedback_le h agentId (f := fun f => f.weightAt now)
    (c := 100) fun f _ => f.weightAt_le now
  have hcount := sum_ofFeedback_le h agentId
    (f := fun f => if f.revoked then 0 else 1) (c := 1)
    fun f _ => by split <;> decide
  have hscoreSum : ((b.agentFeedbacks.listed agentId).map
      (b.ofFeedback fun f => f.score * f.weightAt now)).sum =
      b.weightedScores now agentId := h.agentList.sum_listed_get agentId _
  have hweightSum : ((b.agentFeedbacks.listed agentId).map
      (b.ofFeedback fun f => f.weightAt now)).sum = b.weights now agentId :=
    h.agentList.sum_listed_get agentId _
  have hle : b.weightedScores now agentId ≤ 100 * b.weights now agentId :=
    weightedScores_le fun f hf => h.liveScore_le hf
  unfold feedbackAverage
  rw [foldl_addFeedback h _ ⟨Nat.zero_le _, Nat.zero_le _, Nat.zero_le _⟩,
    hscoreSum, hweightSum, sum_ofFeedback_live h]
  rw [hweightSum] at hweights
  rw [sum_ofFeedback_live h] at hcount
  generalize b.weightedScores now agentId = scores at hle ⊢
  generalize b.weights now agentId = weights at hle hweights ⊢
  generalize b.liveFeedbacks agentId = live at hcount ⊢
  have h64 : maxValue 64 = 18446744073709551615 := rfl
  have h32 : maxValue 32 = 4294967295 := rfl
  simp only [Nat.zero_add, saturatingMul]
  rw [Nat.min_eq_left (by omega : scores ≤ maxValue 64),
    Nat.min_eq_left (by omega : weights ≤ maxValue 64),
    Nat.min_eq_left (by omega : live ≤ maxValue 32),
    Nat.min_eq_left (by omega : scores * 100 ≤ maxValue 64),
    Nat.mul_comm scores 100, Nat.min_eq_left (mean_le_mul hle)]
  by_cases hpos : 0 < weights
  · rw [if_pos hpos]
  · rw [if_neg hpos, Nat.eq_zero_of_not_pos hpos, Nat.div_zero]

end Feedbacks

/-! ## The loop over the requests -/

section Responses

variable {b : Books R}

private theorem foldl_addResponses (ids : List Nat) {t : ValidationTotals}
    (hscore : t.totalScore ≤ maxValue 64)
    (hcount : t.validCount ≤ maxValue 32) :
    ids.foldl (addResponses b) t =
      ⟨min (t.totalScore + (ids.map fun id =>
        (b.validationResponses id).sum ValidationResponse.score).sum)
        (maxValue 64),
      min (t.validCount + (ids.map fun id =>
        (b.validationResponses id).count fun _ => true).sum)
        (maxValue 32)⟩ := by
  induction ids generalizing t with
  | nil => simp [Nat.min_eq_left hscore, Nat.min_eq_left hcount]
  | cons id ids ih =>
      rw [List.foldl_cons, ih (Nat.min_le_right _ _) (Nat.min_le_right _ _)]
      simp only [addResponses, List.map_cons, List.sum_cons,
        ValidationTotals.mk.injEq]
      unfold saturatingAdd
      omega

theorem validationTotals_eq (h : Recorded b) (agentId : Nat) :
    (b.agentValidations.listed agentId).foldl (addResponses b) ⟨0, 0⟩ =
      ⟨min (b.responseScores agentId) (maxValue 64),
        min (b.responses agentId) (maxValue 32)⟩ := by
  have hscores : ((b.agentValidations.listed agentId).map fun id =>
      (b.validationResponses id).sum ValidationResponse.score).sum =
      b.responseScores agentId := h.requestList.sum_listed agentId _
  have hcount : ((b.agentValidations.listed agentId).map fun id =>
      (b.validationResponses id).count fun _ => true).sum =
      b.responses agentId := h.requestList.sum_listed agentId _
  rw [foldl_addResponses _ (Nat.zero_le _) (Nat.zero_le _), hscores, hcount,
    Nat.zero_add, Nat.zero_add]

/-- All responses to requests about an agent are counted, as far as the counter
goes. -/
theorem validationAverage_count (h : Recorded b) (agentId : Nat) :
    (validationAverage b agentId).2 =
      min (b.responses agentId) (maxValue 32) := by
  unfold validationAverage
  rw [validationTotals_eq h]

variable {agentId : Nat}

/-- Two measures that compare on every response compare on the total. -/
private theorem ofResponses_le {f g : ValidationResponse R → Nat}
    (h : ∀ r, b.IsResponse agentId r → f r ≤ g r) :
    b.ofResponses agentId f ≤ b.ofResponses agentId g := by
  refine b.validationRequests.total_le_total fun id request hget => ?_
  by_cases hid : request.agentId = agentId
  · rw [if_pos hid, if_pos hid]
    exact StorageMap.sum_le_sum _ fun v r hr =>
      h r ⟨id, request, v, hget, hid, hr⟩
  · rw [if_neg hid, if_neg hid]

private theorem ofResponses_const (agentId c : Nat) :
    b.ofResponses agentId (fun _ => c) = c * b.responses agentId := by
  unfold Books.responses Books.ofResponses
  rw [← StorageMap.total_mul_left]
  congr 1
  funext id request
  rw [mul_ite, Nat.mul_zero, ← StorageMap.sum_mul_left, Nat.mul_one]

theorem responseScores_le {hi : Nat}
    (h : ∀ r, b.IsResponse agentId r → r.score ≤ hi) :
    b.responseScores agentId ≤ hi * b.responses agentId := by
  rw [← ofResponses_const]
  exact ofResponses_le h

theorem le_responseScores {lo : Nat}
    (h : ∀ r, b.IsResponse agentId r → lo ≤ r.score) :
    lo * b.responses agentId ≤ b.responseScores agentId := by
  rw [← ofResponses_const]
  exact ofResponses_le h

theorem exists_response_iff (b : Books R) (agentId : Nat) :
    (∃ r, b.IsResponse agentId r) ↔ 0 < b.responses agentId := by
  constructor
  · rintro ⟨r, id, request, v, hget, hid, hr⟩
    have hone := StorageMap.le_sum (fun _ => 1) hr
    have hle := StorageMap.le_total (fun id (request : ValidationRequest R) =>
      if request.agentId = agentId then
        (b.validationResponses id).sum (fun _ => 1) else 0) hget
    rw [if_pos hid] at hle
    exact Nat.lt_of_lt_of_le hone hle
  · intro hpos
    by_contra hnone
    have hle : b.responses agentId ≤ b.ofResponses agentId fun _ => 0 :=
      ofResponses_le fun r hr => absurd ⟨r, hr⟩ hnone
    rw [ofResponses_const, Nat.zero_mul] at hle
    omega

theorem Recorded.responseScore_le (h : Recorded b) {r : ValidationResponse R}
    (hr : b.IsResponse agentId r) :
    r.score ≤ 100 := by
  obtain ⟨id, _, v, _, _, hget⟩ := hr
  exact h.responseScore id v r hget

/-- As long as the counter has room, the score of the responses is their
mean. -/
theorem validationAverage_eq (h : Recorded b)
    (hfit : b.responses agentId < 2 ^ 32) :
    validationAverage b agentId =
      (100 * b.responseScores agentId / b.responses agentId,
        b.responses agentId) := by
  have hle : b.responseScores agentId ≤ 100 * b.responses agentId :=
    responseScores_le fun _ hr => h.responseScore_le hr
  unfold validationAverage
  rw [validationTotals_eq h]
  generalize b.responseScores agentId = scores at hle ⊢
  generalize b.responses agentId = count at hle hfit ⊢
  have h64 : maxValue 64 = 18446744073709551615 := rfl
  have h32 : maxValue 32 = 4294967295 := rfl
  dsimp only [saturatingMul]
  rw [Nat.min_eq_left (by omega : scores ≤ maxValue 64),
    Nat.min_eq_left (by omega : count ≤ maxValue 32),
    Nat.min_eq_left (by omega : scores * 100 ≤ maxValue 64),
    Nat.mul_comm scores 100, Nat.min_eq_left (mean_le_mul hle)]
  by_cases hpos : 0 < count
  · rw [if_pos hpos]
  · rw [if_neg hpos, Nat.eq_zero_of_not_pos hpos, Nat.div_zero]

end Responses

end Thxnet.Agent
