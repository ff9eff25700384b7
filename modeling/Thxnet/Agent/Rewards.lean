import Thxnet.Agent.Accounts
import Thxnet.Agent.Mock
import Thxnet.Agent.Registry

/-!
# What a validation request costs

A reward is paid out of the one reserve of its requester, whatever else the
requester has reserved.  The submission neither asks whether the request has
been completed nor what has been paid for it: every validator that submits is
paid the reward once more.

`drawn L id p` is what the step `p` takes out of the requester's reserve for
the request `id`.  As long as nothing is submitted to a completed request with
a reward, all steps of a run together take at most the reward.
-/

namespace Thxnet.Agent

open Thxnet.Lib Thxnet.Frame

variable {R : Config}

/-! ## What has been drawn for a request -/

/-- Submissions to the request `id`. -/
def submits (id : Nat) : Action R → Bool
  | .call _ (.submitValidation requestId _ _ _ _) => requestId = id
  | _ => false

/-- What a step takes out of the reserve of the requester for the request
`id`. -/
def drawn (L : Repatriations R.currency) (id : Nat) (p : State R × Action R) :
    Nat :=
  match p.1.validationRequests.get id, step p.1 p.2 with
  | some q, .ok s' =>
      if submits id p.2 = true then
        L.reserved p.1.world q.requester - L.reserved s'.world q.requester
      else 0
  | _, _ => 0

/-- Nothing is submitted to a completed request with a reward. -/
def paysOnce (s : State R) : Action R → Bool
  | .call _ (.submitValidation requestId _ _ _ _) =>
      (s.validationRequests.get requestId).all fun q =>
        !q.completed || q.reward = 0
  | _ => true

/-- The reward of a request once it has been completed. -/
def Books.settledReward (b : Books R) (id : Nat) : Nat :=
  ((b.validationRequests.get id).map fun q =>
    if q.completed = true then q.reward else 0).getD 0

section Drawn

variable {L : Repatriations R.currency} {b b' : Books R} {now id : Nat}
  {a : Action R}

/-- Only a submission changes what is settled for a request. -/
theorem Effect.settledReward (h : Sound b) (heff : Effect b now a b')
    (hother : submits id a = false) :
    b'.settledReward id = b.settledReward id := by
  unfold Books.settledReward
  cases heff with
  | requestValidation =>
      show Option.getD (Option.map _ ((b.validationRequests.insert _ _).get id))
        0 = _
      by_cases hid : id = b.nextRequestId
      · subst hid
        rw [StorageMap.get_insert_self, h.requests.get_eq_none]
        rfl
      · rw [StorageMap.get_insert_ne _ _ hid]
  | @submitValidation _ requestId =>
      have hid : id ≠ requestId := by
        rintro rfl
        simp [submits] at hother
      show Option.getD (Option.map _ ((b.validationRequests.insert _ _).get id))
        0 = _
      rw [StorageMap.get_insert_ne _ _ hid]
  | @cancelValidationRequest _ requestId _ hrequest _ hopen =>
      show Option.getD (Option.map _ ((b.validationRequests.remove _).get id))
        0 = _
      by_cases hid : id = requestId
      · subst hid
        rw [StorageMap.get_remove_self, hrequest]
        simp [hopen]
      · rw [StorageMap.get_remove_ne _ hid]
  | _ => rfl

/-- What a step draws for a request is settled by it. -/
theorem settledReward_step {s s' : State R} (hs : Sound s.toBooks)
    (hw : L.InOrder s.world) (hok : paysOnce s a = true) (h : step s a = .ok s') :
    s.toBooks.settledReward id + drawn L id (s, a) ≤
      s'.toBooks.settledReward id := by
  by_cases hsub : submits id a = true
  · have heff := step_effect h
    generalize hb' : s'.toBooks = b' at heff
    unfold drawn
    dsimp only
    rw [h]
    cases heff with
    | @submitValidation who requestId _ _ _ _ q _ _ _ world hrequest _ _ _ _
        hpaid =>
        have hid : requestId = id := of_decide_eq_true hsub
        subst hid
        obtain ⟨_, moved, hle, _, hreserved⟩ := payReward_moved hw hpaid
        have hrequester := hreserved q.requester
        have hpast : q.completed = true → q.reward = 0 := by
          intro hdone
          simpa [paysOnce, hrequest, hdone] using hok
        have hworld : s'.world = world := congrArg Books.world hb'
        rw [if_pos rfl] at hrequester
        unfold Books.settledReward
        rw [hrequest]
        dsimp only
        rw [if_pos hsub, hworld]
        show _ ≤ Option.getD (Option.map _
          ((s.validationRequests.insert requestId _).get requestId)) 0
        rw [StorageMap.get_insert_self]
        simp only [Option.map_some, Option.getD_some, if_true]
        by_cases hdone : q.completed = true
        · have hnone := hpast hdone
          rw [if_pos hdone]
          omega
        · rw [if_neg hdone]
          omega
    | _ => cases hsub
  · have hzero : drawn L id (s, a) = 0 := by
      unfold drawn
      dsimp only
      split
      · rw [if_neg hsub]
      · rfl
    rw [hzero, (step_effect h).settledReward hs (Bool.eq_false_iff.mpr hsub)]
    exact Nat.le_refl _

end Drawn

/-- In every run in which nothing is submitted to a completed request with a
reward, all submissions to a request together take at most its reward out of
the reserve of its requester.  If there is no such request, or not any more,
nothing has been taken. -/
theorem rewards_drawn_le (L : Repatriations R.currency) {s₀ s : State R}
    {t : List (State R × Action R)} (h0 : Genesis s₀)
    (horder : L.InOrder s₀.world) (hrun : Transition.Run step s₀ t s)
    (hkeeps : ∀ p ∈ t, KeepsOrder L p.2)
    (honce : ∀ p ∈ t, paysOnce p.1 p.2 = true) (id : Nat) :
    (t.map (drawn L id)).sum ≤
      ((s.validationRequests.get id).map ValidationRequest.reward).getD 0 := by
  have hreach : Reachable (fun _ _ => True) s₀ := .init h0
  have hsum := Transition.Run.sum_le
    (A := fun s a => KeepsOrder L a ∧ paysOnce s a = true)
    (I := fun s => Sound s.toBooks ∧ L.InOrder s.world)
    (m := fun s => s.toBooks.settledReward id) (c := drawn L id)
    (fun s a s' hok hI hstep =>
      ⟨⟨hI.1.effect (step_effect hstep),
        (step_effect hstep).inOrder hok.1 hI.2⟩,
        settledReward_step hI.1 hI.2 hok.2 hstep⟩)
    hrun (fun p hp => ⟨hkeeps p hp, honce p hp⟩)
    ⟨sound_of_reachable hreach, horder⟩
  have hle : s.toBooks.settledReward id ≤
      ((s.validationRequests.get id).map ValidationRequest.reward).getD 0 := by
    unfold Books.settledReward
    cases s.validationRequests.get id with
    | none => exact Nat.le_refl _
    | some =>
        simp only [Option.map_some, Option.getD_some]
        split <;> omega
  omega

/-! ### Concrete runs

Account 1 owns an agent, accounts 4 and 5 are validators, and account 2, which
has an agent of its own, requests a validation with a reward of 500.
-/

/-- The requests up to the validation request. -/
def requested : List (Action bank) :=
  [signedBy 1 (.registerAgent [] []), signedBy 2 (.registerAgent [] []),
    signedBy 4 (.registerValidator 10000),
    signedBy 5 (.registerValidator 10000),
    signedBy 2 (.requestValidation 0 500)]

/-- A submission by `validator`. -/
def submitted (validator : Nat) : Action bank :=
  signedBy validator (.submitValidation 0 80 [] 0 [])

/-- With one submission no more than the reward is drawn. -/
theorem rewards_drawn_le_single :
    ((Transition.trace step bankGenesis (requested ++ [submitted 4])).map
        (drawn bankReserves 0)).sum ≤
      (((bankAfter (requested ++ [submitted 4])).validationRequests.get 0).map
        ValidationRequest.reward).getD 0 := by
  have hexec : Transition.exec step bankGenesis (requested ++ [submitted 4]) =
      .ok (bankAfter (requested ++ [submitted 4])) :=
    Transition.exec_final (by decide +kernel)
  have hown : ∀ p ∈ Transition.trace step bankGenesis
      (requested ++ [submitted 4]), p.2.isOwn = true := by decide +kernel
  exact rewards_drawn_le bankReserves ⟨_, _, rfl⟩ endowed_inOrder
    (Transition.run_of_exec hexec)
    (fun p hp => keepsOrder_of_isOwn (hown p hp)) (by decide +kernel) 0

/-- The second submission is paid again, out of what account 2 has reserved for
its agent. -/
theorem reward_overdrawn :
    Transition.exec step bankGenesis
        (requested ++ [submitted 4, submitted 5]) =
      .ok (bankAfter (requested ++ [submitted 4, submitted 5])) ∧
    ((bankAfter (requested ++ [submitted 4, submitted 5])
        ).validationRequests.get 0).map ValidationRequest.reward = some 500 ∧
    ((Transition.trace step bankGenesis
        (requested ++ [submitted 4, submitted 5])).map
          (drawn bankReserves 0)).sum = 1000 ∧
    bankReserves.reserved
        (bankAfter (requested ++ [submitted 4, submitted 5])).world 2 <
      bank.agentDeposit := by
  exact ⟨Transition.exec_final (by decide +kernel), by decide +kernel,
    by decide +kernel, by decide +kernel⟩

end Thxnet.Agent
