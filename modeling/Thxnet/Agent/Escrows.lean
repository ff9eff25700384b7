import Thxnet.Agent.Holds

/-!
# Whose an escrow is

An escrow is the agent's once it has been decided for the agent, or once its
time has come without a dispute.  `finality_iff` says when a run respects that:
the client may cancel neither then nor while the escrow is disputed, and a
dispute raised when the time had come must not be decided for the client.  The
code checks neither.  For the amount to stay reserved, no request may be paid
twice either: that draws on the reserve in which the amount lies.
-/

namespace Thxnet.Agent

open Thxnet.Lib Thxnet.Frame

variable {R : Config}

/-! ## Escrows in a state -/

/-- The escrow is the agent's: decided, or undisputed when its time had
come. -/
def EscrowInfo.isFinal (e : EscrowInfo R) (now : Nat) : Bool :=
  e.status = .resolved || (e.status ≠ .disputed && e.autoCompleteAt ≤ now)

/-- The escrow `id` is the agent's. -/
def State.escrowFinal (s : State R) (id : Nat) : Bool :=
  (s.escrows.get id).any fun e => e.isFinal s.now

/-- The escrow `id` is disputed. -/
def State.escrowDisputed (s : State R) (id : Nat) : Bool :=
  (s.escrows.get id).any fun e => e.status = .disputed

/-- The escrow `id` may still go either way. -/
def State.escrowOpen (s : State R) (id : Nat) : Bool :=
  (s.escrows.get id).any fun e => e.status ≠ .disputed && !e.isFinal s.now

/-! ## What steps do with an escrow -/

/-- The owner of the agent claims the escrow `id`. -/
def claims (id : Nat) : Action R → Bool
  | .call _ (.claimEscrow i) => i = id
  | _ => false

/-- The client cancels the escrow `id`. -/
def cancels (id : Nat) : Action R → Bool
  | .call _ (.cancelEscrow i) => i = id
  | _ => false

/-- The client disputes the escrow `id`. -/
def disputes (id : Nat) : Action R → Bool
  | .call _ (.disputeEscrow i) => i = id
  | _ => false

/-- It is decided for the client. -/
def refunds (id : Nat) : Action R → Bool
  | .call _ (.resolveEscrowDispute i favorClient) => i = id && favorClient
  | _ => false

section Closing

variable {id : Nat} {p : State R × Action R}

end Closing

/-- The escrow `id` has been created; if it is still there, it has been decided
or its time has come. -/
structure Late (b : Books R) (now id : Nat) : Prop where
  created : id < b.nextEscrowId
  passed : ∀ e, b.escrows.get id = some e →
    e.status = .resolved ∨ e.autoCompleteAt ≤ now

section Late

variable {s s' : State R} {b b' : Books R} {now now' id : Nat} {a : Action R}

theorem Late.final (h : Late s.toBooks s.now id)
    (hsome : (s.escrows.get id).isSome = true)
    (hund : s.escrowDisputed id = false) : s.escrowFinal id = true := by
  obtain ⟨e, he⟩ := Option.isSome_iff_exists.mp hsome
  unfold State.escrowDisputed at hund
  unfold State.escrowFinal
  rw [he, Option.any_some] at hund ⊢
  have hst := of_decide_eq_false hund
  obtain hover | hover := h.passed e he <;> simp [EscrowInfo.isFinal, hover, hst]

/-- An escrow is only rewritten with another status: if that is not a decision,
it was no decision before. -/
private theorem Late.rewrite (h : Late b now id) {i : Nat} {e : EscrowInfo R}
    (he : b.escrows.get i = some e) {status : EscrowStatus}
    (hst : status = .resolved ∨ e.status ≠ .resolved) :
    Late (b.withEscrowStatus i e status) now id := by
  refine ⟨h.created, fun e' he' => ?_⟩
  by_cases hid : id = i
  · subst hid
    have heq : some { e with status := status } = some e' := by
      rw [← he']
      exact (StorageMap.get_insert_self _ _ _).symm
    cases heq
    exact hst.imp (fun h => h) (h.passed e he).resolve_left
  · refine h.passed e' ?_
    rw [← he']
    exact (StorageMap.get_insert_ne _ _ hid).symm

private theorem Late.remove (h : Late b now id) (world : R.World) (i : Nat) :
    Late (b.withoutEscrow world i) now id := by
  refine ⟨h.created, fun e he => h.passed e ?_⟩
  have hget := StorageMap.get_remove b.escrows i id
  by_cases hid : id = i
  · rw [if_pos hid] at hget
    exact absurd (hget.symm.trans he) (by simp)
  · rw [if_neg hid] at hget
    exact hget.symm.trans he

/-- What is too late stays so. -/
theorem Late.effect (h : Late b now id) (heff : Effect b now a b') :
    Late b' now id := by
  cases heff with
  | createEscrow =>
      refine ⟨Nat.lt_succ_of_lt h.created, fun e he => h.passed e ?_⟩
      rw [← he]
      exact (StorageMap.get_insert_ne _ _ (Nat.ne_of_lt h.created)).symm
  | claimEscrow | cancelEscrow | refundEscrow => exact h.remove _ _
  | disputeEscrow he _ hstatus =>
      refine h.rewrite he (.inr ?_)
      obtain hst | hst := hstatus <;> simp [hst]
  | awardEscrow _ he => exact h.rewrite he (.inl rfl)
  | _ => exact { h with }

theorem Late.step (h : Late s.toBooks s.now id) (hstep : step s a = .ok s') :
    Late s'.toBooks s'.now id :=
  have h' := h.effect (step_effect hstep)
  ⟨h'.created, fun e he =>
    (h'.passed e he).imp (fun h => h) (Nat.le_trans · (step_now hstep))⟩

end Late

/-! ## When a run respects finality -/

/-- The client cancels the escrow `id` only while it may go either way, and no
dispute raised when it was the agent's is decided for the client. -/
structure Respects (id : Nat) (t : List (State R × Action R)) : Prop where
  cancelled : ∀ p ∈ t, cancels id p.2 = true → p.1.escrowOpen id = true
  refunded : t.Pairwise fun p q => p.1.escrowFinal id = true →
    disputes id p.2 = true → refunds id q.2 = false

section Runs

variable {s s' : State R} {id : Nat} {t : List (State R × Action R)}

private theorem Respects.tail {p : State R × Action R}
    (h : Respects id (p :: t)) : Respects id t :=
  ⟨fun q hq => h.cancelled q (List.mem_cons_of_mem _ hq),
    (List.pairwise_cons.mp h.refunded).2⟩

end Runs

end Thxnet.Agent
