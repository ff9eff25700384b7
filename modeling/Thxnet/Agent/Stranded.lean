import Thxnet.Agent.Holds

/-!
# Deposits that are never given back

The deposit for a validation request is given back when the request is
cancelled, that for a feedback when its client revokes it.  Nothing gives it
back for a request that has been completed or a feedback that has been revoked
through a dispute: these records stay, and the calls that would release the
deposit are refused for them.

Both are said twice: by the calls, of any run, and by the reserves.  Nothing is
held for a record if the reserves are what the other records account for; where
a second response has drawn on a reserve it no longer tells what is held for
what, so that is said of the runs without.
-/

namespace Thxnet.Agent

open Thxnet.Lib Thxnet.Frame

variable {R : Config}

/-! ## Released deposits -/

/-- The books without the request `id`. -/
def Books.withoutRequest (id : Nat) (b : Books R) : Books R :=
  { b with validationRequests := b.validationRequests.remove id }

/-- The books without the feedback `id`. -/
def Books.withoutFeedback (id : Nat) (b : Books R) : Books R :=
  { b with feedbacks := b.feedbacks.remove id }

/-- After the run `t` to `s`, the reserves are what the books account for
without a record. -/
def Released (L : Repatriations R.currency) (base : R.AccountId → Nat)
    (without : Books R → Books R) (t : List (State R × Action R))
    (s : State R) : Prop :=
  ∀ o, L.reserved s.world o =
    base o + (without s.toBooks).holds (selfRevoked t) o

/-- That is so, or some calls make it so. -/
def Recoverable (L : Repatriations R.currency) (base : R.AccountId → Nat)
    (without : Books R → Books R) (t : List (State R × Action R))
    (s : State R) : Prop :=
  ∃ t' s', Transition.Run step s t' s' ∧ (∀ p ∈ t', Quiet L p.1 p.2) ∧
    s'.toBooks.SingleResponses ∧ Released L base without (t ++ t') s'

/-- The requester cancels the request `id`. -/
def cancelsRequest (id : Nat) : Action R → Bool
  | .call _ (.cancelValidationRequest requestId) => requestId = id
  | _ => false

theorem holds_withoutRequest (b : Books R) (revoked : Nat → Bool) (id : Nat)
    (o : R.AccountId) :
    (b.withoutRequest id).holds revoked o +
      ((b.validationRequests.get id).map
        (requestHold b.validationResponses o id)).getD 0 =
      b.holds revoked o := by
  have hsum := b.validationRequests.total_remove id
    (requestHold b.validationResponses o)
  simp only [Books.holds, Books.withoutRequest]
  omega

theorem holds_withoutFeedback (b : Books R) (revoked : Nat → Bool) (id : Nat)
    (o : R.AccountId) :
    (b.withoutFeedback id).holds revoked o +
      ((b.feedbacks.get id).map (feedbackHold revoked o id)).getD 0 =
      b.holds revoked o := by
  have hsum := b.feedbacks.total_remove id (feedbackHold revoked o)
  simp only [Books.holds, Books.withoutFeedback]
  omega

/-! ## Requests -/

section Requests

variable {b b' : Books R} {now id : Nat} {a : Action R}

theorem Effect.completed_stays (hb : Sound b) (heff : Effect b now a b')
    (h : b.isCompleted id = true) : b'.isCompleted id = true := by
  unfold Books.isCompleted at h ⊢
  cases heff with
  | requestValidation =>
      have hne : id ≠ b.nextRequestId := by
        rintro rfl
        rw [hb.requests.get_eq_none] at h
        cases h
      show ((b.validationRequests.insert _ _).get id).any _ = true
      rw [StorageMap.get_insert_ne _ _ hne]
      exact h
  | @submitValidation _ requestId =>
      show ((b.validationRequests.insert _ _).get id).any _ = true
      by_cases hid : id = requestId
      · rw [hid, StorageMap.get_insert_self]
        rfl
      · rw [StorageMap.get_insert_ne _ _ hid]
        exact h
  | @cancelValidationRequest _ requestId q hrequest _ hopen =>
      have hne : id ≠ requestId := by
        rintro rfl
        rw [hrequest, Option.any_some, hopen] at h
        cases h
      show ((b.validationRequests.remove _).get id).any _ = true
      rw [StorageMap.get_remove_ne _ hne]
      exact h
  | _ => exact h

theorem Effect.completed_of_submits (heff : Effect b now a b')
    (h : submits id a = true) : b'.isCompleted id = true := by
  cases heff with
  | @submitValidation _ requestId =>
      obtain rfl : requestId = id := of_decide_eq_true h
      show ((b.validationRequests.insert _ _).get _).any _ = true
      rw [StorageMap.get_insert_self]
      rfl
  | _ => cases h

/-- The request `id` has been made and is gone. -/
structure Gone (b : Books R) (id : Nat) : Prop where
  made : id < b.nextRequestId
  none : b.validationRequests.get id = none

theorem Effect.gone_stays (heff : Effect b now a b') (h : Gone b id) :
    Gone b' id := by
  cases heff with
  | requestValidation =>
      exact ⟨Nat.lt_succ_of_lt h.made,
        (StorageMap.get_insert_ne _ _ (Nat.ne_of_lt h.made)).trans h.none⟩
  | @submitValidation _ requestId _ _ _ _ _ _ _ _ _ hrequest =>
      have hne : id ≠ requestId := by
        rintro rfl
        rw [h.none] at hrequest
        cases hrequest
      exact ⟨h.made, (StorageMap.get_insert_ne _ _ hne).trans h.none⟩
  | @cancelValidationRequest _ requestId =>
      refine ⟨h.made, ?_⟩
      show (b.validationRequests.remove requestId).get id = _
      rw [StorageMap.get_remove, h.none, ite_self]
  | _ => exact { h with }

theorem Effect.gone_of_cancels (hb : Sound b) (heff : Effect b now a b')
    (h : cancelsRequest id a = true) : Gone b' id := by
  cases heff with
  | @cancelValidationRequest _ requestId q hrequest =>
      obtain rfl : requestId = id := of_decide_eq_true h
      exact ⟨hb.requests _ _ hrequest, StorageMap.get_remove_self _ _⟩
  | _ => cases h

end Requests

/-! ## When a deposit can be had back -/

section Runs

variable {L : Repatriations R.currency} {base : R.AccountId → Nat}
  {s s' : State R} {t t' : List (State R × Action R)} {id : Nat}

theorem Released.recoverable {without : Books R → Books R}
    (h : Released L base without t s) (hsingle : s.toBooks.SingleResponses) :
    Recoverable L base without t s := by
  refine ⟨[], s, .nil s, fun p hp => (by cases hp), hsingle, ?_⟩
  rwa [List.append_nil]

/-- Where the reserves are accounted for, nothing is held for a record exactly
if it holds nothing. -/
theorem released_iff {without : Books R → Books R} {held : R.AccountId → Nat}
    (hbal : Balanced L base (selfRevoked t) s.toBooks)
    (hsum : ∀ o, (without s.toBooks).holds (selfRevoked t) o + held o =
      s.toBooks.holds (selfRevoked t) o) :
    Released L base without t s ↔ ∀ o, held o = 0 := by
  refine forall_congr' fun o => ?_
  have hsum' := hsum o
  rw [hbal o]
  omega

theorem completed_run (hs : Sound s.toBooks)
    (hdone : s.toBooks.isCompleted id = true)
    (hrun : Transition.Run step s t' s') : s'.toBooks.isCompleted id = true :=
  (hrun.preserves
    (I := fun s => Sound s.toBooks ∧ s.toBooks.isCompleted id = true)
    (fun _ _ _ hs hstep => ⟨hs.1.effect (step_effect hstep),
      (step_effect hstep).completed_stays hs.1 hs.2⟩) ⟨hs, hdone⟩).2

/-- Its client cannot revoke a feedback that has been revoked. -/
theorem selfRevoked_of_revoked (hs : Sound s.toBooks)
    (hf : ∃ f, s.feedbacks.get id = some f ∧ f.revoked = true)
    (hrun : Transition.Run step s t' s') :
    selfRevoked t' id = false ∧
      ∃ f, s'.feedbacks.get id = some f ∧ f.revoked = true := by
  refine (hrun.past (A := fun _ _ => True)
    (J := fun s past => Sound s.toBooks ∧ selfRevoked past id = false ∧
      ∃ f, s.feedbacks.get id = some f ∧ f.revoked = true)
    ?_ (fun _ _ => trivial) ⟨hs, rfl, hf⟩).2
  rintro s a s' past _ ⟨hs, hpast, hf⟩ hstep
  have heff := step_effect hstep
  refine ⟨hs.effect heff, ?_, heff.revoked_stays hs hf⟩
  rw [selfRevoked_append, hpast, Bool.false_or]
  refine Bool.eq_false_iff.mpr fun hself => ?_
  obtain ⟨f, hget, hrevoked⟩ := hf
  obtain ⟨f', hget', hlive, _⟩ := heff.of_revokesFeedback hself
  rw [hget] at hget'
  cases hget'
  rw [hlive] at hrevoked
  cases hrevoked

section Accounted

variable (h : Accounted L base t s.toBooks)
  (hsingle : s.toBooks.SingleResponses)
include h hsingle

/-- A completed request holds its deposit. -/
theorem released_completed_iff (hdone : s.toBooks.isCompleted id = true) :
    Released L base (Books.withoutRequest id) t s ↔
      R.validationRequestDeposit = 0 := by
  obtain ⟨q, hq, _⟩ := (Option.any_eq_true _ _).mp hdone
  have hkeys : (s.validationResponses id).keys ≠ ∅ :=
    ((h.sound.responded id).mpr hdone).ne_empty
  rw [released_iff (h.balanced (h.single hsingle))
    (holds_withoutRequest _ _ id), hq]
  simp only [Option.map_some, Option.getD_some, requestHold, if_neg hkeys,
    Nat.add_zero]
  constructor
  · intro hzero
    simpa using hzero q.requester
  · intro hzero o
    rw [hzero, ite_self]

/-- The deposit of a completed request is never given back. -/
theorem recoverable_completed_iff (hdone : s.toBooks.isCompleted id = true) :
    Recoverable L base (Books.withoutRequest id) t s ↔
      R.validationRequestDeposit = 0 := by
  constructor
  · rintro ⟨t', s', hrun, hquiet, hsingle', hreleased⟩
    exact (released_completed_iff (h.run hrun hquiet) hsingle'
      (completed_run h.sound hdone hrun)).mp hreleased
  · intro hzero
    exact ((released_completed_iff h hsingle hdone).mpr hzero).recoverable
      hsingle

/-- The deposit of a request that is gone has been given back. -/
theorem recoverable_gone (hgone : Gone s.toBooks id) :
    Recoverable L base (Books.withoutRequest id) t s := by
  refine Released.recoverable ?_ hsingle
  rw [released_iff (h.balanced (h.single hsingle))
    (holds_withoutRequest _ _ id), hgone.none]
  exact fun _ => rfl

variable (hf : ∃ f, s.feedbacks.get id = some f ∧ f.revoked = true)
include hf

/-- A revoked feedback holds its deposit unless its client has revoked it. -/
theorem released_revoked_iff :
    Released L base (Books.withoutFeedback id) t s ↔
      selfRevoked t id = true ∨ R.feedbackDeposit = 0 := by
  obtain ⟨f, hget, _⟩ := hf
  rw [released_iff (h.balanced (h.single hsingle))
    (holds_withoutFeedback _ _ id), hget]
  simp only [Option.map_some, Option.getD_some, feedbackHold]
  constructor
  · intro hzero
    have hclient := hzero f.client
    cases hself : selfRevoked t id with
    | true => exact .inl rfl
    | false => exact .inr (by simpa [hself] using hclient)
  · rintro (hself | hzero) o
    · simp [hself]
    · rw [hzero, ite_self]

/-- The deposit of a revoked feedback is given back exactly to a client that has
revoked it. -/
theorem recoverable_revoked_iff :
    Recoverable L base (Books.withoutFeedback id) t s ↔
      selfRevoked t id = true ∨ R.feedbackDeposit = 0 := by
  constructor
  · rintro ⟨t', s', hrun, hquiet, hsingle', hreleased⟩
    obtain ⟨hnot, hf'⟩ := selfRevoked_of_revoked h.sound hf hrun
    have hiff := (released_revoked_iff (h.run hrun hquiet) hsingle' hf').mp
      hreleased
    have happend : selfRevoked (t ++ t') id = selfRevoked t id := by
      unfold selfRevoked at hnot ⊢
      rw [List.any_append, hnot, Bool.or_false]
    rwa [happend] at hiff
  · intro hcase
    exact ((released_revoked_iff h hsingle hf).mpr hcase).recoverable hsingle

end Accounted

end Runs

/-! ### By the calls

The same by the calls that give a deposit back, in any run.
-/

/-- A call of the kind has been accepted, or still can be. -/
def Refundable (p : Action R → Bool) (t : List (State R × Action R))
    (s : State R) : Prop :=
  (∃ q ∈ t, p q.2 = true) ∨
    ∃ t' s', Transition.Run step s t' s' ∧ ∃ q ∈ t', p q.2 = true

section Calls

variable {s₀ s : State R} {t : List (State R × Action R)} {id : Nat}

theorem refundable_feedback_iff (hs : Sound s.toBooks)
    (hf : ∃ f, s.feedbacks.get id = some f ∧ f.revoked = true) :
    Refundable (revokesFeedback id) t s ↔ selfRevoked t id = true := by
  unfold Refundable selfRevoked
  rw [List.any_eq_true]
  constructor
  · rintro (hrefund | ⟨t', s', hrun', hrefund⟩)
    · exact hrefund
    · have hnot := (selfRevoked_of_revoked hs hf hrun').1
      rw [selfRevoked, List.any_eq_true.mpr hrefund] at hnot
      cases hnot
  · exact .inl

variable (hs : Sound s₀.toBooks) (hrun : Transition.Run step s₀ t s)
include hs hrun

theorem completed_of_run (hsub : ∃ p ∈ t, submits id p.2 = true) :
    s.toBooks.isCompleted id = true :=
  hrun.since (I := fun s => Sound s.toBooks)
    (P := fun s => s.toBooks.isCompleted id = true)
    (fun _ _ _ hs hstep => hs.effect (step_effect hstep))
    (fun _ _ _ _ hstep hp => (step_effect hstep).completed_of_submits hp)
    (fun _ _ _ hs hP hstep => (step_effect hstep).completed_stays hs hP)
    hs hsub

theorem gone_of_run (hcancel : ∃ p ∈ t, cancelsRequest id p.2 = true) :
    Gone s.toBooks id :=
  hrun.since (I := fun s => Sound s.toBooks) (P := fun s => Gone s.toBooks id)
    (fun _ _ _ hs hstep => hs.effect (step_effect hstep))
    (fun _ _ _ hs hstep hp => (step_effect hstep).gone_of_cancels hs hp)
    (fun _ _ _ _ hP hstep => (step_effect hstep).gone_stays hP)
    hs hcancel

theorem not_completed_of_cancels
    (hcancel : ∃ p ∈ t, cancelsRequest id p.2 = true) :
    s.toBooks.isCompleted id = false := by
  unfold Books.isCompleted
  rw [(gone_of_run hs hrun hcancel).none]
  rfl

theorem refundable_request_iff
    (hfinal : ∃ p ∈ t, (submits id p.2 || cancelsRequest id p.2) = true) :
    Refundable (cancelsRequest id) t s ↔ ∀ p ∈ t, submits id p.2 = false := by
  constructor
  · intro hrefund p hp
    refine Bool.eq_false_iff.mpr fun hsubmit => ?_
    have hdone := completed_of_run hs hrun ⟨p, hp, hsubmit⟩
    obtain hcancel | ⟨t', s', hrun', hcancel⟩ := hrefund
    · rw [not_completed_of_cancels hs hrun hcancel] at hdone
      cases hdone
    · have hsound := hrun.preserves (I := fun s => Sound s.toBooks)
        (fun _ _ _ hs hstep => hs.effect (step_effect hstep)) hs
      have hdone' := completed_run hsound hdone hrun'
      rw [not_completed_of_cancels hsound hrun' hcancel] at hdone'
      cases hdone'
  · intro hnone
    obtain ⟨p, hp, hor⟩ := hfinal
    rw [hnone p hp, Bool.false_or] at hor
    exact .inl ⟨p, hp, hor⟩

end Calls

/-- In every run, the call that gives the deposit of a request back, once the
request has been completed or cancelled, has been or can be made exactly if the
request has not been completed; the one for a revoked feedback exactly if the
client has made it.  Where no request has two responses, so that the reserves
tell what is held for what, nothing is held any more, or can be released, in
exactly these cases, deposits of nothing aside. -/
theorem deposits_recoverable_iff (L : Repatriations R.currency)
    {s₀ s : State R} {t : List (State R × Action R)} (h0 : Genesis s₀)
    (hrun : Transition.Run step s₀ t s) (id : Nat) :
    ((∃ p ∈ t, (submits id p.2 || cancelsRequest id p.2) = true) →
      (Refundable (cancelsRequest id) t s ↔
        ∀ p ∈ t, submits id p.2 = false)) ∧
    ((∃ f, s.feedbacks.get id = some f ∧ f.revoked = true) →
      (Refundable (revokesFeedback id) t s ↔ selfRevoked t id = true)) ∧
    (L.InOrder s₀.world → (∀ x, L.frozen s₀.world x = 0) →
      (∀ p ∈ t, Quiet L p.1 p.2) → s.toBooks.SingleResponses →
      ((∃ p ∈ t, (submits id p.2 || cancelsRequest id p.2) = true) →
        (Recoverable L (L.reserved s₀.world) (Books.withoutRequest id) t s ↔
          (∀ p ∈ t, submits id p.2 = false) ∨
            R.validationRequestDeposit = 0)) ∧
      ((∃ f, s.feedbacks.get id = some f ∧ f.revoked = true) →
        (Recoverable L (L.reserved s₀.world) (Books.withoutFeedback id) t s ↔
          selfRevoked t id = true ∨ R.feedbackDeposit = 0))) := by
  have hreach : Reachable (fun _ _ => True) s₀ := .init h0
  have hsound := sound_of_reachable hreach
  have hsound' := sound_of_reachable (hreach.run hrun fun _ _ => trivial)
  refine ⟨refundable_request_iff hsound hrun, refundable_feedback_iff hsound',
    fun horder hcalm hquiet hsingle => ?_⟩
  have hacc := accounted_of_run h0 horder hcalm hrun hquiet
  refine ⟨fun hfinal => ?_, recoverable_revoked_iff hacc hsingle⟩
  by_cases hsub : ∃ p ∈ t, submits id p.2 = true
  · rw [recoverable_completed_iff hacc hsingle
      (completed_of_run hsound hrun hsub)]
    refine ⟨.inr, fun hor => hor.resolve_left fun hnone => ?_⟩
    obtain ⟨p, hp, hsubmit⟩ := hsub
    rw [hnone p hp] at hsubmit
    cases hsubmit
  · have hnone : ∀ p ∈ t, submits id p.2 = false := fun p hp =>
      Bool.eq_false_iff.mpr fun hsubmit => hsub ⟨p, hp, hsubmit⟩
    have hcancel : ∃ p ∈ t, cancelsRequest id p.2 = true := by
      obtain ⟨p, hp, hor⟩ := hfinal
      rw [hnone p hp, Bool.false_or] at hor
      exact ⟨p, hp, hor⟩
    exact ⟨fun _ => .inl hnone,
      fun _ => recoverable_gone hacc hsingle (gone_of_run hsound hrun hcancel)⟩

/-! ### Concrete runs

Account 2 requests a validation of the agent of account 1 and gives a feedback
on it.
-/

/-- The request and the feedback. -/
def commissioned : List (Action bank) :=
  [signedBy 1 (.registerAgent [] []), signedBy 2 (.requestValidation 0 500),
    signedBy 1 (.authorizeFeedback 0 2 1 100),
    signedBy 2 (.giveFeedback 0 80 [] [] 0)]

/-- Account 2 takes both back when the request has expired. -/
def takenBack : List (Action bank) :=
  commissioned ++ List.replicate 100 .nextBlock ++
    [signedBy 2 (.cancelValidationRequest 0), signedBy 2 (.revokeFeedback 0)]

/-- Account 4 responds to the request, and a dispute of account 1 about the
feedback is decided for it. -/
def concluded : List (Action bank) :=
  commissioned ++ [signedBy 4 (.registerValidator 10000),
    signedBy 4 (.submitValidation 0 80 [] 0 []),
    signedBy 1 (.disputeFeedback 0 [] 0),
    byRoot (.resolveDispute 0 .resolvedForDisputer)]

/-- What is taken back is given back. -/
theorem deposits_recoverable_iff_takenBack :
    Recoverable bankReserves (bankReserves.reserved endowed)
      (Books.withoutRequest 0)
      (Transition.trace step bankGenesis takenBack) (bankAfter takenBack) ∧
    Recoverable bankReserves (bankReserves.reserved endowed)
      (Books.withoutFeedback 0)
      (Transition.trace step bankGenesis takenBack) (bankAfter takenBack) := by
  have hexec : Transition.exec step bankGenesis takenBack =
      .ok (bankAfter takenBack) := Transition.exec_final (by decide +kernel)
  have hrun := Transition.run_of_exec hexec
  have hown : ∀ p ∈ Transition.trace step bankGenesis takenBack,
      p.2.isOwn = true := by decide +kernel
  have hreach : Reachable (fun _ _ => True) (bankAfter takenBack) :=
    Transition.Reach.run (.init ⟨_, _, rfl⟩) hrun (fun _ _ => trivial)
  obtain ⟨_, _, hreserves⟩ := deposits_recoverable_iff bankReserves
    ⟨_, _, rfl⟩ hrun 0
  obtain ⟨hrequest, hfeedback⟩ := hreserves endowed_inOrder endowed_calm
    (fun p hp => quiet_of_isOwn (hown p hp))
    (singleResponses_of_lt (sound_of_reachable hreach) (by decide +kernel))
  have hrevoked : ((bankAfter takenBack).feedbacks.get 0).any
      FeedbackInfo.revoked = true := by decide +kernel
  exact ⟨(hrequest (by decide +kernel)).mpr (.inl (by decide +kernel)),
    (hfeedback ((Option.any_eq_true _ _).mp hrevoked)).mpr
      (.inl (by decide +kernel))⟩

/-- The deposits for what has been concluded are never given back: no call does
so, and the reserves keep them. -/
theorem deposits_stranded :
    (bankAfter concluded).toBooks.isCompleted 0 = true ∧
    ((bankAfter concluded).feedbacks.get 0).any FeedbackInfo.revoked = true ∧
    ¬ Refundable (cancelsRequest 0)
      (Transition.trace step bankGenesis concluded) (bankAfter concluded) ∧
    ¬ Refundable (revokesFeedback 0)
      (Transition.trace step bankGenesis concluded) (bankAfter concluded) ∧
    ¬ Recoverable bankReserves (bankReserves.reserved endowed)
      (Books.withoutRequest 0)
      (Transition.trace step bankGenesis concluded) (bankAfter concluded) ∧
    ¬ Recoverable bankReserves (bankReserves.reserved endowed)
      (Books.withoutFeedback 0)
      (Transition.trace step bankGenesis concluded) (bankAfter concluded) := by
  have hexec : Transition.exec step bankGenesis concluded =
      .ok (bankAfter concluded) := Transition.exec_final (by decide +kernel)
  have hrun := Transition.run_of_exec hexec
  have hown : ∀ p ∈ Transition.trace step bankGenesis concluded,
      p.2.isOwn = true := by decide +kernel
  have hacc : Accounted bankReserves (bankReserves.reserved endowed)
      (Transition.trace step bankGenesis concluded)
      (bankAfter concluded).toBooks :=
    accounted_of_run ⟨_, _, rfl⟩ endowed_inOrder endowed_calm hrun
      (fun p hp => quiet_of_isOwn (hown p hp))
  have hsingle := singleResponses_of_lt hacc.sound (by decide +kernel)
  have hdone : (bankAfter concluded).toBooks.isCompleted 0 = true := by
    decide +kernel
  have hrevoked : ((bankAfter concluded).feedbacks.get 0).any
      FeedbackInfo.revoked = true := by decide +kernel
  have hreach : Reachable (fun _ _ => True) bankGenesis := .init ⟨_, _, rfl⟩
  refine ⟨hdone, hrevoked, fun h => ?_, fun h => ?_, fun h => ?_, fun h => ?_⟩
  · exact absurd ((refundable_request_iff (sound_of_reachable hreach) hrun
      (by decide +kernel)).mp h) (by decide +kernel)
  · exact absurd ((refundable_feedback_iff hacc.sound
      ((Option.any_eq_true _ _).mp hrevoked)).mp h) (by decide +kernel)
  · exact absurd ((recoverable_completed_iff hacc hsingle hdone).mp h)
      (by decide)
  · have hor := (recoverable_revoked_iff hacc hsingle
      ((Option.any_eq_true _ _).mp hrevoked)).mp h
    exact absurd hor (by decide +kernel)

end Thxnet.Agent
