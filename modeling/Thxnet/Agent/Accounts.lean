import Thxnet.Agent.Effects
import Thxnet.Frame.Repatriation

/-!
# The agent pallet and the currency

What the steps of the pallet do to a currency that keeps the contract of
`Repatriations`: they leave it in order, and they freeze nothing.
-/

namespace Thxnet.Agent

open Thxnet.Lib Thxnet.Frame

variable {R : Config}

variable {L : Repatriations R.currency} {w w' : R.World} {b b' : Books R}
  {now : Nat} {a : Action R}

/-- The step is not one of another pallet. -/
def Action.isOwn : Action R → Bool
  | .outside _ => false
  | _ => true

/-- Another pallet leaves the ledger in order. -/
def KeepsOrder (L : Repatriations R.currency) : Action R → Prop
  | .outside w => L.InOrder w
  | _ => True

theorem keepsOrder_of_isOwn (h : a.isOwn = true) : KeepsOrder L a := by
  cases a with
  | outside => cases h
  | _ => trivial

/-- Of what is paid for a request, at most the reward comes out of the
requester's reserve. -/
theorem payReward_moved {q : ValidationRequest R} {validator : R.AccountId}
    (hw : L.InOrder w) (h : payReward w q validator = .ok w') :
    L.InOrder w' ∧ ∃ moved, moved ≤ q.reward ∧
      (L.frozen w q.requester = 0 →
        moved = min q.reward (L.reserved w q.requester)) ∧
      ∀ x, L.reserved w' x + (if x = q.requester then moved else 0) =
        L.reserved w x := by
  unfold payReward at h
  by_cases hpos : 0 < q.reward
  · rw [if_pos hpos] at h
    obtain ⟨hw', moved, hle, hmoved, hreserved⟩ := L.repatriate hw h
    refine ⟨hw', moved, hle, hmoved, fun x => ?_⟩
    simpa using hreserved x
  · rw [if_neg hpos] at h
    cases h
    refine ⟨hw, 0, Nat.zero_le _, fun _ => ?_, fun x => ?_⟩
    · omega
    · rw [ite_self, Nat.add_zero]

theorem Effect.inOrder (heff : Effect b now a b') (hok : KeepsOrder L a)
    (hw : L.InOrder b.world) : L.InOrder b'.world := by
  cases heff with
  | registerAgent _ hreserve | requestValidation _ hreserve
  | createEscrow _ hreserve => exact (L.reserve hw hreserve).1
  | transferAgent _ _ hmoved => exact (L.repatriate hw hmoved).1
  | giveFeedback _ _ _ _ hreserve | disputeFeedback _ _ _ _ hreserve =>
      exact (L.reserve hw hreserve).1
  | revokeFeedback | unregisterValidator | cancelEscrow
  | cancelValidationRequest | upholdDispute | refundEscrow =>
      exact (L.unreserve _ _ hw).1
  | registerValidator _ _ _ hreserve => exact (L.reserve hw hreserve).1
  | submitValidation _ _ _ _ _ hpaid => exact (payReward_moved hw hpaid).1
  | claimEscrow _ _ _ _ hpaid =>
      exact (L.transfer (L.unreserve _ _ hw).1 hpaid).1
  | outside => exact hok
  | _ => exact hw

theorem payReward_frozen {q : ValidationRequest R} {validator : R.AccountId}
    (hw : L.InOrder w) (h : payReward w q validator = .ok w')
    (x : R.AccountId) : L.frozen w' x ≤ L.frozen w x := by
  unfold payReward at h
  by_cases hpos : 0 < q.reward
  · rw [if_pos hpos] at h
    exact L.frozen_repatriate hw h x
  · rw [if_neg hpos] at h
    cases h
    exact Nat.le_refl _

theorem Effect.frozen (heff : Effect b now a b') (hw : L.InOrder b.world)
    (hout : ∀ w, a = .outside w → ∀ x, L.frozen w x ≤ L.frozen b.world x)
    (x : R.AccountId) : L.frozen b'.world x ≤ L.frozen b.world x := by
  cases heff with
  | registerAgent _ hreserve | requestValidation _ hreserve
  | createEscrow _ hreserve => exact L.frozen_reserve hw hreserve x
  | transferAgent _ _ hmoved => exact L.frozen_repatriate hw hmoved x
  | giveFeedback _ _ _ _ hreserve | disputeFeedback _ _ _ _ hreserve =>
      exact L.frozen_reserve hw hreserve x
  | revokeFeedback | unregisterValidator | cancelEscrow
  | cancelValidationRequest | upholdDispute | refundEscrow =>
      exact L.frozen_unreserve _ _ hw x
  | registerValidator _ _ _ hreserve => exact L.frozen_reserve hw hreserve x
  | submitValidation _ _ _ _ _ hpaid => exact payReward_frozen hw hpaid x
  | claimEscrow _ _ _ _ hpaid =>
      exact (L.frozen_transfer (L.unreserve _ _ hw).1 hpaid x).trans
        (L.frozen_unreserve _ _ hw x)
  | outside world => exact hout world rfl x
  | _ => exact Nat.le_refl _

end Thxnet.Agent
