import Thxnet.Crowdfunding.Effects

/-!
# The clock and the whitelists

What a call can do to the part of the state beside the books that other calls
read, the block number and the whitelists of the campaigns, is the part
`Beside` of `dispatch_effect`.  A whitelist holds only entries that are true
(`listed_of_reachable`), so an account has an entry exactly when it is listed.
-/

namespace Thxnet.Crowdfunding

open Thxnet.Lib Thxnet.Frame

variable {T : Config}

variable {call : Call T} {s s' : State T}

/-! ## The entries -/

/-- Every entry of every whitelist is true. -/
def Listed (s : State T) : Prop :=
  ∀ id account, (s.campaignWhitelist id).get account ≠ some false

theorem Listed.move (h : Listed s) (hmove : WhitelistMove call s s') :
    Listed s' := by
  intro i who
  cases hmove with
  | kept _ hlist =>
      rw [hlist]
      exact h i who
  | @cleared id _ hlist =>
      rw [hlist]
      by_cases hi : i = id
      · subst hi
        simp [StorageDoubleMap.clearPrefix]
      · simpa [StorageDoubleMap.clearPrefix, hi] using h i who
  | @added id account _ _ _ _ _ hlist =>
      rw [hlist]
      by_cases hi : i = id
      · subst hi
        rw [StorageDoubleMap.insert_self, StorageMap.get_insert]
        by_cases hwho : who = account
        · simp [hwho]
        · simpa [hwho] using h i who
      · simpa [StorageDoubleMap.insert_ne, hi] using h i who
  | @removed id account _ _ _ _ hlist =>
      rw [hlist]
      by_cases hi : i = id
      · subst hi
        rw [StorageDoubleMap.remove_self, StorageMap.get_remove]
        by_cases hwho : who = account
        · simp [hwho]
        · simpa [hwho] using h i who
      · simpa [StorageDoubleMap.remove_ne, hi] using h i who

theorem listed_of_reachable {ok : State T → Action T → Prop}
    (h : Reachable ok s) : Listed s := by
  refine Transition.Reach.invariant (I := Listed) ?_ ?_ h
  · rintro _ ⟨world, now, rfl⟩ id account
    exact fun hget => by cases hget
  · intro s a s' _ hs _ hstep
    cases a with
    | call => exact hs.move (dispatch_effect hstep).beside.whitelist
    | nextBlock | outside =>
        cases hstep
        exact hs

/-- On such a whitelist an account has an entry exactly if it is listed. -/
theorem Listed.isSome_eq (h : Listed s) (id : Nat) (account : T.AccountId) :
    ((s.campaignWhitelist id).get account).isSome = s.listed id account := by
  have hne := h id account
  unfold State.listed
  cases hget : (s.campaignWhitelist id).get account with
  | none => rfl
  | some b =>
      cases b with
      | true => rfl
      | false => exact absurd hget hne

end Thxnet.Crowdfunding
