import Thxnet.Crowdfunding.Timing
import Thxnet.Runtime.Chain
import Thxnet.Rwa.Counting

/-!
# The runtime seen from each pallet

Every accepted step of the chain is one step of the RWA pallet, for which a
call of the crowdfunding pallet is just a change of the token storage
(`step_rwa`), and at most two steps of the crowdfunding pallet, for which a call
of the RWA pallet is a change of the foreign storage (`step_crowdfunding`).  So
what has been shown of either pallet alone holds in the runtime.
-/

namespace Thxnet.Runtime

open Thxnet.Lib Thxnet.Frame

variable {C : Config}

/-! ## The crowdfunding pallet keeps off the register -/

/-- Nothing but the storage of the token pallets differs. -/
def SameStore {R : Rwa.Config} (st st' : Rwa.Store R) : Prop :=
  st' = setWorld st st'.world

theorem tokenRelation_sameStore :
    Crowdfunding.TokenRelation (T := C.crowdfunding) SameStore where
  moved_zero := fun _ _ _ _ => rfl
  burned_zero := fun _ _ _ => rfl
  trans := by
    intro st st₁ st₂ h h'
    unfold SameStore at h h' ⊢
    rw [h] at h'
    exact h'
  native_transfer := by
    intro st st' source dest amount req h
    simp only [nativeCurrency, do_eq_ok] at h
    obtain ⟨w, _, rfl⟩ := h
    rfl
  native_withdraw := by
    intro st st' who amount reasons req h
    simp only [nativeCurrency, do_eq_ok] at h
    obtain ⟨w, _, rfl⟩ := h
    rfl
  asset_transfer := by
    intro st st' id source dest amount preservation h
    simp only [fungibles, do_eq_ok] at h
    obtain ⟨w, _, rfl⟩ := h
    rfl
  asset_burn := by
    intro st st' id who amount preservation precision fortitude h
    simp only [fungibles, do_eq_ok] at h
    obtain ⟨w, _, rfl⟩ := h
    rfl

variable {a : Action C} {s s' : State C}

theorem crowdfunding_sameStore {o : Origin C.AccountId}
    {call : Crowdfunding.Call C.crowdfunding}
    (h : step s (.crowdfunding o call) = .ok s') :
    SameStore s.world s'.world := by
  have hstep : Crowdfunding.step s (.call o call) = .ok s' := h
  exact (Crowdfunding.step_effect hstep).world tokenRelation_sameStore nofun

/-! ## Projections -/

/-- The step the RWA pallet sees. -/
def rwaAction (s s' : State C) : Action C → Rwa.Action C.toConfig
  | .crowdfunding _ _ => .outside s'.world.world
  | .rwa o call => .call (crowdfundingLifecycleGuard s) o call
  | .nextBlock => .nextBlock
  | .outside w => .outside w

theorem step_rwa (h : step s a = .ok s') :
    Rwa.step (rwaState s) (rwaAction s s' a) = .ok (rwaState s') := by
  cases a with
  | crowdfunding =>
      have hstore := crowdfunding_sameStore h
      have hnow := Crowdfunding.dispatch_now h
      unfold rwaState
      rw [hstore, hnow]
      rfl
  | rwa =>
      simp only [step, do_eq_ok] at h
      obtain ⟨r, hr, rfl⟩ := h
      have hnow : r.now = s.now := (Rwa.dispatch_moves hr).1
      have heq : r = ⟨r.toStore, s.now⟩ := by rw [← hnow]
      rw [rwaAction, Rwa.step, hr, heq]
      rfl
  | nextBlock =>
      cases h
      have hnow : (rwaState s).nextBlock.now = s.now + 1 :=
        Rwa.nextBlock_now (rwaState s)
      have heq : (rwaState s).nextBlock =
          ⟨(rwaState s).nextBlock.toStore, s.now + 1⟩ := by
        rw [← hnow]
      rw [rwaAction, Rwa.step, heq]
      rfl
  | outside =>
      cases h
      rfl

theorem step_crowdfunding (h : step s a = .ok s') :
    ∃ t, Transition.Run Crowdfunding.step s t s' := by
  cases a with
  | crowdfunding o call =>
      have hstep : Crowdfunding.step s (.call o call) = .ok s' := h
      exact ⟨_, .cons hstep (.nil _)⟩
  | rwa =>
      simp only [step, do_eq_ok] at h
      obtain ⟨r, hr, rfl⟩ := h
      exact ⟨_, .cons (a := .outside r.toStore) rfl (.nil _)⟩
  | nextBlock =>
      cases h
      exact ⟨_, .cons (a := .nextBlock) rfl (.cons
        (a := .outside (rwaState s).nextBlock.toStore) rfl (.nil _))⟩
  | outside w =>
      cases h
      exact ⟨_, .cons (a := .outside (setWorld s.world w)) rfl (.nil _)⟩

theorem reachable_rwa {ok : State C → Action C → Prop} (h : Reachable ok s) :
    Rwa.Reachable (fun _ _ => True) (rwaState s) := by
  refine Transition.Reach.invariant
    (I := fun s : State C => Rwa.Reachable (fun _ _ => True) (rwaState s))
    ?_ ?_ h
  · rintro s ⟨world, now, rfl⟩
    exact .init ⟨world, now, rfl⟩
  · intro s a s' _ hs _ hstep
    exact .step hs trivial (step_rwa hstep)

theorem reachable_crowdfunding {ok : State C → Action C → Prop}
    (h : Reachable ok s) : Crowdfunding.Reachable (fun _ _ => True) s := by
  refine Transition.Reach.invariant
    (I := fun s : State C => Crowdfunding.Reachable (fun _ _ => True) s) ?_ ?_ h
  · rintro s ⟨world, now, rfl⟩
    exact .init ⟨_, now, rfl⟩
  · intro s a s' _ hs _ hstep
    obtain ⟨t, hrun⟩ := step_crowdfunding hstep
    exact hs.run hrun fun _ _ => trivial

/-! ## Time -/

/-- The blocks that pass with a step. -/
def Action.elapsed : Action C → Nat
  | .nextBlock => 1
  | .crowdfunding _ _ => 0
  | .rwa _ _ => 0
  | .outside _ => 0

theorem step_now (h : step s a = .ok s') : s'.now = s.now + a.elapsed := by
  cases a with
  | crowdfunding => exact Crowdfunding.dispatch_now h
  | rwa =>
      simp only [step, do_eq_ok] at h
      obtain ⟨r, _, rfl⟩ := h
      rfl
  | nextBlock | outside =>
      cases h
      rfl

/-! ## Campaigns -/

/-- Only calls of the crowdfunding pallet change campaigns. -/
theorem campaigns_eq (h : step s a = .ok s')
    (ha : ∀ o call, a ≠ .crowdfunding o call) : s'.campaigns = s.campaigns := by
  cases a with
  | crowdfunding o call => exact absurd rfl (ha o call)
  | rwa =>
      simp only [step, do_eq_ok] at h
      obtain ⟨r, _, rfl⟩ := h
      rfl
  | nextBlock | outside =>
      cases h
      rfl

/-- The campaign is linked to the participation. -/
def LinkedTo (id pid : Nat) (c : Crowdfunding.Campaign C.crowdfunding) : Prop :=
  c.rwaAssetId = some id ∧ c.participationId = some pid

instance (id pid : Nat) :
    DecidablePred (LinkedTo (C := C) id pid) :=
  fun _ => inferInstanceAs (Decidable (_ ∧ _))

/-- The clock of a campaign stands still but for calls of its pallet. -/
theorem step_clock (h : step s a = .ok s') (hf : s.toBooks.Fresh) {cid : Nat}
    {c : Crowdfunding.Campaign C.crowdfunding}
    (hget : s.campaigns.get cid = some c) :
    ∃ c', s'.campaigns.get cid = some c' ∧ (c.SameClock c' ∨
      ∃ o call, a = .crowdfunding o call ∧
        Crowdfunding.ClockEffect s cid c (.call o call) c') := by
  by_cases ha : ∃ o call, a = .crowdfunding o call
  · obtain ⟨o, call, rfl⟩ := ha
    have hstep : Crowdfunding.step s (.call o call) = .ok s' := h
    obtain ⟨c', hget', hclock⟩ := Crowdfunding.step_clock hstep hf hget
    exact ⟨c', hget', .inr ⟨o, call, rfl, hclock⟩⟩
  · refine ⟨c, ?_, .inl ⟨rfl, rfl, rfl, rfl, .inl rfl⟩⟩
    rw [campaigns_eq h fun o call hc => ha ⟨o, call, hc⟩]
    exact hget

end Thxnet.Runtime
