import Thxnet.Agent.Effects

/-!
# What the registries maintain

`Sound b`: ids are given out in order, a dispute is about a feedback there is,
and the requests with a response are the completed ones.  Every reachable state
is sound.  The list of an owner holds the ids of its agents, each once
(`owner_lists_exact`).
-/

namespace Thxnet.Agent

open Thxnet.Lib Thxnet.Frame

variable {R : Config}

/-- The request `id` has been completed. -/
def Books.isCompleted (b : Books R) (id : Nat) : Bool :=
  (b.validationRequests.get id).any ValidationRequest.completed

/-- What holds between the storage items in every reachable state. -/
structure Sound (b : Books R) : Prop where
  agents : b.agents.Below b.nextAgentId
  feedbacks : b.feedbacks.Below b.nextFeedbackId
  authorizations : b.feedbackAuthorizations.Below b.nextAuthorizationId
  requests : b.validationRequests.Below b.nextRequestId
  escrows : b.escrows.Below b.nextEscrowId
  disputes : b.disputes.Below b.nextDisputeId
  disputed : ∀ id d, b.disputes.get id = some d →
    (b.feedbacks.get d.feedbackId).isSome = true
  responded : ∀ id, (b.validationResponses id).keys.Nonempty ↔
    b.isCompleted id = true

namespace Sound

variable {b b' : Books R} {now : Nat} {a : Action R}

theorem genesis (world : R.World) : Sound (Store.genesis R world).toBooks where
  agents := StorageMap.below_empty _
  feedbacks := StorageMap.below_empty _
  authorizations := StorageMap.below_empty _
  requests := StorageMap.below_empty _
  escrows := StorageMap.below_empty _
  disputes := StorageMap.below_empty _
  disputed := fun _ _ h => by cases h
  responded := fun _ =>
    ⟨fun h => absurd h Finset.not_nonempty_empty, fun h => by cases h⟩

/-- The request `id` has no response unless it has been completed. -/
theorem keys_eq_empty (h : Sound b) {id : Nat} (hid : b.isCompleted id = false) :
    (b.validationResponses id).keys = ∅ := by
  rw [← Finset.not_nonempty_iff_eq_empty, h.responded, hid]
  exact Bool.false_ne_true

theorem effect (h : Sound b) (heff : Effect b now a b') : Sound b' := by
  cases heff with
  | registerAgent => exact { h with agents := h.agents.insert_next _ }
  | transferAgent hagent =>
      exact { h with agents := h.agents.insert_old hagent }
  | giveFeedback =>
      exact { h with
        feedbacks := h.feedbacks.insert_next _
        disputed := fun id d hd =>
          StorageMap.isSome_insert _ _ (h.disputed id d hd) }
  | revokeFeedback hf =>
      exact { h with
        feedbacks := h.feedbacks.insert_old hf
        disputed := fun id d hd =>
          StorageMap.isSome_insert _ _ (h.disputed id d hd) }
  | requestValidation =>
      refine { h with requests := h.requests.insert_next _, responded := ?_ }
      intro id
      rw [h.responded]
      unfold Books.isCompleted
      by_cases hid : id = b.nextRequestId
      · subst hid
        rw [h.requests.get_eq_none, StorageMap.get_insert_self]
        rfl
      · rw [StorageMap.get_insert_ne _ _ hid]
  | @submitValidation who requestId _ _ _ _ request _ _ _ _ hrequest _ _ _ _
      _ =>
      refine { h with
        requests := h.requests.insert_old hrequest
        responded := ?_ }
      intro id
      unfold Books.isCompleted
      by_cases hid : id = requestId
      · subst hid
        show (b.validationResponses.insert id who _ id).keys.Nonempty ↔ _
        rw [StorageDoubleMap.insert_self, StorageMap.get_insert_self]
        exact ⟨fun _ => rfl, fun _ => ⟨who, Finset.mem_insert_self _ _⟩⟩
      · show (b.validationResponses.insert requestId who _ id).keys.Nonempty ↔ _
        rw [StorageDoubleMap.insert_ne _ _ _ hid,
          StorageMap.get_insert_ne _ _ hid]
        exact h.responded id
  | createEscrow => exact { h with escrows := h.escrows.insert_next _ }
  | claimEscrow | cancelEscrow | refundEscrow =>
      exact { h with escrows := h.escrows.remove _ }
  | @cancelValidationRequest _ requestId request hrequest _ hopen =>
      refine { h with requests := h.requests.remove _, responded := ?_ }
      intro id
      rw [h.responded]
      unfold Books.isCompleted
      by_cases hid : id = requestId
      · subst hid
        rw [StorageMap.get_remove_self, hrequest, Option.any_some, hopen]
        rfl
      · rw [StorageMap.get_remove_ne _ hid]
  | disputeFeedback hf =>
      exact { h with
        disputes := h.disputes.insert_next _
        disputed := StorageMap.forall_insert h.disputed (by rw [hf]; rfl) }
  | upholdDispute hd _ hf =>
      exact { h with
        feedbacks := h.feedbacks.insert_old hf
        disputes := h.disputes.insert_old hd
        disputed := fun id d' hd' => StorageMap.isSome_insert _ _
          (StorageMap.forall_insert h.disputed (by rw [hf]; rfl) id d' hd') }
  | settleDispute hd =>
      have hf := h.disputed _ _ hd
      exact { h with
        disputes := h.disputes.insert_old hd
        disputed := StorageMap.forall_insert h.disputed hf }
  | authorizeFeedback =>
      exact { h with authorizations := h.authorizations.insert_next _ }
  | revokeAuthorization _ _ _ hauth =>
      exact { h with authorizations := h.authorizations.insert_old hauth }
  | disputeEscrow he => exact { h with escrows := h.escrows.insert_old he }
  | awardEscrow _ he => exact { h with escrows := h.escrows.insert_old he }
  | _ => exact { h with }

end Sound

theorem sound_of_reachable {ok : State R → Action R → Prop} {s : State R}
    (h : Reachable ok s) : Sound s.toBooks := by
  refine Transition.Reach.invariant (I := fun s => Sound s.toBooks) ?_ ?_ h
  · rintro s ⟨world, now, rfl⟩
    exact .genesis world
  · intro s a s' _ hs _ hstep
    exact hs.effect (step_effect hstep)

/-! ## The agents of an owner -/

/-- Only a registration and a transfer touch the agents and the lists. -/
theorem Effect.ownerLists {b b' : Books R} {now : Nat} {a : Action R}
    (heff : Effect b now a b') (hs : Sound b)
    (h : b.agentsByOwner.Indexes b.agents AgentInfo.owner) :
    b'.agentsByOwner.Indexes b'.agents AgentInfo.owner := by
  cases heff with
  | registerAgent _ _ _ _ hlist => exact h.append hs.agents hlist
  | transferAgent hagent howner _ hlist =>
      subst howner
      exact h.transfer hagent hlist
  | _ => exact h

/-- After any requests, those that fail included, an id is on the list of an
account once if the agent is the account's, and not at all if it is not. -/
theorem owner_lists_exact (world : R.World) (now : Nat)
    (requests : List (Action R)) (o : R.AccountId) (id : Nat) :
    let s := Transition.settle step ⟨Store.genesis R world, now⟩ requests
    (s.agentsByOwner.listed o).count id =
      if (s.agents.get id).map AgentInfo.owner = some o then 1 else 0 := by
  refine StorageMap.Indexes.count_listed ?_ o id
  refine (Transition.settle_invariant (I := fun s : State R =>
    Sound s.toBooks ∧ s.agentsByOwner.Indexes s.agents AgentInfo.owner)
    ?_ ⟨.genesis world, .empty⟩ requests).2
  rintro s a s' ⟨hs, h⟩ hstep
  have heff := step_effect hstep
  exact ⟨hs.effect heff, heff.ownerLists hs h⟩

end Thxnet.Agent
