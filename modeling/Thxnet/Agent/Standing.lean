import Thxnet.Agent.Reputation

/-!
# Stored reputations

`AgentReputations` is a view of the records: whenever a call changes what is
recorded about an agent, it computes the entry of that agent anew.
`Effect.records` says so of every step, and `Current`, the invariant that
follows, says that the counts of an entry and its score of responses are those
of the records.  The score of the feedbacks is that of the block in which it was
computed, as their weights fall with their age.
-/

namespace Thxnet.Agent

open Thxnet.Lib Thxnet.Frame

variable {R : Config}

/-! ## What a step does to the records of an agent -/

/-- There is a feedback on the agent, revoked or not. -/
def Books.HasFeedback (b : Books R) (agentId : Nat) : Prop :=
  ∃ id f, b.feedbacks.get id = some f ∧ f.agentId = agentId

/-- The records of the agent and its reputation are as before. -/
structure SameRecords (agentId : Nat) (b b' : Books R) : Prop where
  live : b'.liveFeedbacks agentId = b.liveFeedbacks agentId
  feedback : b'.HasFeedback agentId ↔ b.HasFeedback agentId
  responses : ∀ f, b'.ofResponses agentId f = b.ofResponses agentId f
  reputation : b'.agentReputations.get agentId = b.agentReputations.get agentId

section Records

variable {b b' : Books R} {now agentId : Nat} {a : Action R}

variable {id : Nat} {request : ValidationRequest R}

private theorem SameRecords.feedback_elsewhere {f : FeedbackInfo R}
    (hfeedbacks : b'.feedbacks = b.feedbacks.insert id f)
    (hf : f.agentId ≠ agentId)
    (hold : ∀ f', b.feedbacks.get id = some f' → f'.agentId ≠ agentId)
    (hresponses : ∀ f, b'.ofResponses agentId f = b.ofResponses agentId f)
    (hreputation : b'.agentReputations.get agentId =
      b.agentReputations.get agentId) : SameRecords agentId b b' := by
  refine ⟨?_, exists_congr fun i => ?_, hresponses, hreputation⟩
  · have hcount := b.feedbacks.count_insert id f fun f => f.counts agentId
    have hnew : f.counts agentId = false := by simp [FeedbackInfo.counts, hf]
    have hany :
        (b.feedbacks.get id).any (fun f => f.counts agentId) = false := by
      cases hget : b.feedbacks.get id with
      | none => rfl
      | some f' => simp [FeedbackInfo.counts, hold f' hget]
    rw [← hfeedbacks, hnew, hany] at hcount
    exact hcount
  · by_cases hi : i = id
    · subst hi
      rw [hfeedbacks, StorageMap.get_insert_self]
      refine iff_of_false ?_ ?_
      · rintro ⟨_, hsome, hid⟩
        cases hsome
        exact hf hid
      · rintro ⟨f', hsome, hid⟩
        exact hold f' hsome hid
    · rw [hfeedbacks, StorageMap.get_insert_ne _ _ hi]

private theorem SameRecords.revoked_elsewhere {f : FeedbackInfo R}
    (hget : b.feedbacks.get id = some f) (hfeedbacks : b'.feedbacks =
      b.feedbacks.insert id { f with revoked := true })
    (hf : f.agentId ≠ agentId)
    (hresponses : ∀ f, b'.ofResponses agentId f = b.ofResponses agentId f)
    (hreputation : b'.agentReputations.get agentId =
      b.agentReputations.get agentId) : SameRecords agentId b b' := by
  refine .feedback_elsewhere hfeedbacks hf ?_ hresponses hreputation
  intro f' hf'
  cases hget.symm.trans hf'
  exact hf

private theorem isCompleted_of_open
    (hrequest : b.validationRequests.get id = some request)
    (hopen : request.completed = false) : b.isCompleted id = false := by
  unfold Books.isCompleted
  rw [hrequest]
  exact hopen

private theorem ofResponses_unanswered (hb : Sound b)
    (hopen : b.isCompleted id = false)
    (hresponses : b'.validationResponses = b.validationResponses)
    (hne : ∀ i, i ≠ id → b'.validationRequests.get i =
      b.validationRequests.get i) (f : ValidationResponse R → Nat) :
    b'.ofResponses agentId f = b.ofResponses agentId f := by
  refine StorageMap.total_congr fun i => ?_
  rw [hresponses]
  by_cases hi : i = id
  · have hnone : (b.validationResponses i).sum f = 0 := by
      unfold StorageMap.sum
      rw [hi, hb.keys_eq_empty hopen, Finset.sum_empty]
    rw [hnone]
    cases b'.validationRequests.get i <;>
      cases b.validationRequests.get i <;> simp
  · rw [hne i hi]

private theorem ofResponses_elsewhere {who : R.AccountId}
    {r : ValidationResponse R}
    (hrequest : b.validationRequests.get id = some request)
    (hother : request.agentId ≠ agentId) (hrequests : b'.validationRequests =
      b.validationRequests.insert id { request with completed := true })
    (hresponses : b'.validationResponses =
      b.validationResponses.insert id who r) (f : ValidationResponse R → Nat) :
    b'.ofResponses agentId f = b.ofResponses agentId f := by
  refine StorageMap.total_congr fun i => ?_
  rw [hrequests, hresponses]
  by_cases hi : i = id
  · subst hi
    simp [hrequest, hother]
  · rw [StorageMap.get_insert_ne _ _ hi, StorageDoubleMap.insert_ne _ _ _ hi]

/-- What a step leaves of the records of an agent: all of them, or a reputation
that has just been computed. -/
theorem Effect.records (hb : Sound b) (heff : Effect b now a b')
    (agentId : Nat) :
    SameRecords agentId b b' ∨
      b'.agentReputations.get agentId =
        some (calculateReputation b' now agentId) := by
  cases heff with
  | @giveFeedback _ id =>
      by_cases hid : agentId = id
      · subst hid
        exact .inr (StorageMap.get_insert_self _ _ _)
      · refine .inl (.feedback_elsewhere rfl (Ne.symm hid) (fun f' hf' => ?_)
          (fun _ => rfl) (StorageMap.get_insert_ne _ _ hid))
        rw [hb.feedbacks.get_eq_none] at hf'
        cases hf'
  | @revokeFeedback _ _ f hf =>
      by_cases hid : agentId = f.agentId
      · subst hid
        exact .inr (StorageMap.get_insert_self _ _ _)
      · exact .inl (.revoked_elsewhere hf rfl (Ne.symm hid) (fun _ => rfl)
          (StorageMap.get_insert_ne _ _ hid))
  | @upholdDispute _ _ _ f _ _ hf =>
      by_cases hid : agentId = f.agentId
      · subst hid
        exact .inr (StorageMap.get_insert_self _ _ _)
      · exact .inl (.revoked_elsewhere hf rfl (Ne.symm hid) (fun _ => rfl)
          (StorageMap.get_insert_ne _ _ hid))
  | requestValidation =>
      have hopen : b.isCompleted b.nextRequestId = false := by
        unfold Books.isCompleted
        rw [hb.requests.get_eq_none]
        rfl
      exact .inl ⟨rfl, Iff.rfl, ofResponses_unanswered hb hopen rfl
        fun i hi => StorageMap.get_insert_ne _ _ hi, rfl⟩
  | @submitValidation _ _ _ _ _ _ request _ _ _ _ hrequest =>
      by_cases hid : agentId = request.agentId
      · subst hid
        exact .inr (StorageMap.get_insert_self _ _ _)
      · exact .inl ⟨rfl, Iff.rfl,
          ofResponses_elsewhere hrequest (Ne.symm hid) rfl rfl,
          StorageMap.get_insert_ne _ _ hid⟩
  | cancelValidationRequest hrequest _ hopen =>
      exact .inl ⟨rfl, Iff.rfl, ofResponses_unanswered hb
        (isCompleted_of_open hrequest hopen) rfl
        fun i hi => StorageMap.get_remove_ne _ hi, rfl⟩
  | _ => exact .inl ⟨rfl, Iff.rfl, fun _ => rfl, rfl⟩

end Records

/-! ## The invariant -/

/-- The reputations are those of the records. -/
structure Current (b : Books R) : Prop where
  entry : ∀ agentId rep, b.agentReputations.get agentId = some rep →
    rep.feedbackCount = b.liveFeedbacks agentId ∧
    (rep.validationScore, rep.validationCount) = validationAverage b agentId
  present : ∀ agentId,
    b.HasFeedback agentId ∨ (∃ r, b.IsResponse agentId r) →
    (b.agentReputations.get agentId).isSome = true

variable {b : Books R}

theorem validationAverage_congr {b' : Books R} {agentId : Nat} (h : Recorded b)
    (h' : Recorded b')
    (hsame : ∀ f, b'.ofResponses agentId f = b.ofResponses agentId f) :
    validationAverage b' agentId = validationAverage b agentId := by
  unfold validationAverage
  rw [validationTotals_eq h, validationTotals_eq h']
  unfold Books.responseScores Books.responses
  rw [hsame, hsame]

theorem Current.effect {b' : Books R} {now : Nat} {a : Action R} (h : Current b)
    (hs : Sound b) (hrec : Recorded b) (heff : Effect b now a b') :
    Current b' := by
  have hrec' := hrec.effect hs heff
  refine ⟨fun agentId rep hrep => ?_, fun agentId hpresent => ?_⟩
  · rcases heff.records hs agentId with hsame | hnew
    · rw [hsame.reputation] at hrep
      obtain ⟨hcount, havg⟩ := h.entry agentId rep hrep
      rw [hsame.live, validationAverage_congr hrec hrec' hsame.responses]
      exact ⟨hcount, havg⟩
    · cases hnew.symm.trans hrep
      exact ⟨calculateReputation_feedbackCount hrec' now agentId, rfl⟩
  · rcases heff.records hs agentId with hsame | hnew
    · rw [hsame.reputation]
      refine h.present agentId ?_
      rwa [exists_response_iff, Books.responses, hsame.responses,
        hsame.feedback, ← Books.responses, ← exists_response_iff] at hpresent
    · rw [hnew]
      rfl

theorem current_of_reachable {ok : State R → Action R → Prop} {s : State R}
    (h : Reachable ok s) : Current s.toBooks := by
  refine Transition.Reach.invariant (I := fun s => Current s.toBooks) ?_ ?_ h
  · rintro s ⟨world, now, rfl⟩
    refine ⟨(fun _ _ hrep => by cases hrep), fun agentId hpresent => ?_⟩
    rcases hpresent with ⟨_, _, hnone, _⟩ | ⟨_, _, _, _, hnone, _⟩ <;>
      cases hnone
  · intro s a s' hs hcur _ hstep
    exact hcur.effect (sound_of_reachable hs) (recorded_of_reachable hs)
      (step_effect hstep)

/-! ## Every reachable state -/

/-- The responses that are stored are those to completed requests. -/
theorem Sound.response_iff (h : Sound b) (id : Nat) :
    (∃ v r, (b.validationResponses id).get v = some r) ↔
      ∃ request, b.validationRequests.get id = some request ∧
        request.completed = true := by
  have hresponded := h.responded id
  unfold Books.isCompleted at hresponded
  rw [Option.any_eq_true] at hresponded
  rw [← hresponded]
  refine exists_congr fun v => ?_
  rw [(b.validationResponses id).mem_keys, Option.isSome_iff_exists]

/-- The cancellation of a request takes no response away. -/
theorem Effect.responses_of_cancels {b' : Books R} {now id : Nat}
    {o : Origin R.AccountId} (hb : Sound b)
    (heff : Effect b now (.call o (.cancelValidationRequest id)) b') :
    (∀ v, (b.validationResponses id).get v = none) ∧
      b'.validationResponses = b.validationResponses ∧
      ∀ agentId f, b'.ofResponses agentId f = b.ofResponses agentId f := by
  cases heff with
  | cancelValidationRequest hrequest _ hopen =>
      have hnot := isCompleted_of_open hrequest hopen
      refine ⟨fun v => StorageMap.get_eq_none_of_notMem ?_, rfl, fun _ =>
        ofResponses_unanswered hb hnot rfl fun i hi =>
          StorageMap.get_remove_ne _ hi⟩
      rw [hb.keys_eq_empty hnot]
      exact Finset.notMem_empty v

/-- In every reachable state the stored reputations are those of the records:
the number of feedbacks and of responses, the latter as far as the counter goes,
and up to there the mean of the responses.  No agent with a record is without
one.  A request has a response exactly if it has been completed, so that a
cancellation takes none away. -/
theorem reputations_in_step {s : State R}
    (hs : Reachable (fun _ _ => True) s) :
    (∀ agentId rep, s.agentReputations.get agentId = some rep →
      rep.feedbackCount = s.liveFeedbacks agentId ∧
      rep.validationCount = min (s.responses agentId) (2 ^ 32 - 1) ∧
      (s.responses agentId < 2 ^ 32 → rep.validationScore =
        100 * s.responseScores agentId / s.responses agentId)) ∧
    (∀ agentId, s.HasFeedback agentId ∨ (∃ r, s.IsResponse agentId r) →
      (s.agentReputations.get agentId).isSome = true) ∧
    (∀ id, (∃ v r, (s.validationResponses id).get v = some r) ↔
      ∃ request, s.validationRequests.get id = some request ∧
        request.completed = true) ∧
    ∀ o id s', step s (.call o (.cancelValidationRequest id)) = .ok s' →
      (∀ v, (s.validationResponses id).get v = none) ∧
      s'.validationResponses = s.validationResponses ∧
      ∀ agentId, s'.responses agentId = s.responses agentId := by
  have hsound := sound_of_reachable hs
  have hrec := recorded_of_reachable hs
  have hcur := current_of_reachable hs
  refine ⟨fun agentId rep hrep => ?_, hcur.present, hsound.response_iff,
    fun o id s' h => ?_⟩
  · obtain ⟨hcount, havg⟩ := hcur.entry agentId rep hrep
    refine ⟨hcount, ?_, fun hfit => ?_⟩
    · rw [← show maxValue 32 = 2 ^ 32 - 1 from rfl,
        ← validationAverage_count hrec, ← havg]
    · rw [validationAverage_eq hrec hfit] at havg
      exact congrArg Prod.fst havg
  · obtain ⟨hnone, hresponses, hsame⟩ :=
      (step_effect h).responses_of_cancels hsound
    exact ⟨hnone, hresponses, fun agentId => hsame agentId _⟩

/-- The agent of account 1 after a response to a request of account 2. -/
def validated : State bank :=
  bankAfter [signedBy 1 (.registerAgent [] []),
    signedBy 2 (.requestValidation 0 500),
    signedBy 4 (.registerValidator 10000),
    signedBy 4 (.submitValidation 0 80 [] 0 [])]

theorem reputations_in_step_validated :
    ∃ rep, validated.agentReputations.get 0 = some rep ∧
      rep.validationCount = 1 ∧ rep.validationScore = 8000 := by
  have hs : Reachable (fun _ _ => True) validated :=
    bankAfter_reachable (by decide +kernel)
  obtain ⟨hentry, hpresent, _, _⟩ := reputations_in_step hs
  have hcount : validated.responses 0 = 1 := by decide +kernel
  have hscores : validated.responseScores 0 = 80 := by decide +kernel
  obtain ⟨rep, hrep⟩ := Option.isSome_iff_exists.mp (hpresent 0
    (.inr ((exists_response_iff _ _).mpr (by rw [hcount]; decide))))
  obtain ⟨_, hnumber, hmean⟩ := hentry 0 rep hrep
  rw [hcount] at hnumber hmean
  rw [hscores] at hmean
  exact ⟨rep, hrep, hnumber, hmean (by decide)⟩

/-- With more responses than the counter holds, not all of them are counted. -/
theorem reputations_lag :
    ∃ s : State bank, Reachable (fun _ _ => True) s ∧
      ∃ rep, s.agentReputations.get 0 = some rep ∧
        rep.validationCount ≠ s.responses 0 := by
  obtain ⟨s, hs, hcrowd⟩ := exists_crowd (2 ^ 32)
  have hcount := hcrowd.le_responses
  have hcur := current_of_reachable hs
  obtain ⟨rep, hrep⟩ := Option.isSome_iff_exists.mp (hcur.present 0
    (.inr ((exists_response_iff _ _).mpr (by omega))))
  refine ⟨s, hs, rep, hrep, ?_⟩
  have hnumber : rep.validationCount = min (s.responses 0) (maxValue 32) := by
    rw [← validationAverage_count (recorded_of_reachable hs),
      ← (hcur.entry 0 rep hrep).2]
  have h32 : maxValue 32 = 4294967295 := rfl
  omega

end Thxnet.Agent
