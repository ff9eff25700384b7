import Thxnet.Crowdfunding.Lifecycle
import Thxnet.Frame.Expending

/-!
# Campaigns over the assets pallet

`LedgerBacked T` says that the runtime `T` pays through `pallet_balances` and
`pallet_assets`, both kept somewhere in the foreign storage.  As long as the
other pallets leave the supply of every asset above what its accounts hold, so
do the payments of this one.
-/

namespace Thxnet.Crowdfunding

open Thxnet.Lib Thxnet.Frame

variable {T : Config}

/-- The currencies of the runtime are the balances and the assets pallet. -/
structure LedgerBacked (T : Config) where
  rules : LedgerConfig
  get : T.World → Ledger T.AccountId T.AssetId
  put : T.World → Ledger T.AccountId T.AssetId → T.World
  get_put : ∀ w x, get (put w x) = x
  native_transfer : ∀ w source dest amount req,
    T.nativeCurrency.transfer w source dest amount req =
      ((get w).balances.transfer rules.toBalancesConfig source dest amount
        req).map fun x => put w { get w with balances := x }
  native_withdraw : ∀ w who amount reasons req,
    T.nativeCurrency.withdraw w who amount reasons req =
      ((get w).balances.withdraw rules.toBalancesConfig who amount reasons
        req).map fun x => put w { get w with balances := x }
  asset_transfer : ∀ w id source dest amount preservation,
    T.fungibles.transfer w id source dest amount preservation =
      ((get w).transfer rules id source dest amount preservation).map (put w)
  asset_burn : ∀ w id who amount preservation precision fortitude,
    T.fungibles.burnFrom w id who amount preservation precision fortitude =
      ((get w).burnFrom rules id who amount preservation precision).map (put w)

namespace LedgerBacked

variable (L : LedgerBacked T)

/-! ## The supply over a run -/

theorem keepsSupplied : TokenRelation fun w w' : T.World =>
    (L.get w).Supplied → (L.get w').Supplied where
  moved_zero := fun _ _ _ _ hs => hs
  burned_zero := fun _ _ _ hs => hs
  trans := fun h₁ h₂ hs => h₂ (h₁ hs)
  native_transfer := by
    intro w w' source dest amount req h hs
    rw [L.native_transfer, map_eq_ok] at h
    obtain ⟨x, _, rfl⟩ := h
    rw [L.get_put]
    exact ⟨hs.covers, hs.fits⟩
  native_withdraw := by
    intro w w' who amount reasons req h hs
    rw [L.native_withdraw, map_eq_ok] at h
    obtain ⟨x, _, rfl⟩ := h
    rw [L.get_put]
    exact ⟨hs.covers, hs.fits⟩
  asset_transfer := by
    intro w w' id source dest amount preservation h hs
    rw [L.asset_transfer] at h
    have hx := ok_of_map_put L.get_put h
    exact Ledger.transfer_supplied hs hx
  asset_burn := by
    intro w w' id who amount preservation precision fortitude h hs
    rw [L.asset_burn] at h
    have hx := ok_of_map_put L.get_put h
    exact Ledger.burnFrom_supplied hs hx

/-- What other pallets do leaves the supply in order. -/
def Orderly : Action T → Prop
  | .outside w => (L.get w).Supplied
  | .call _ _ => True
  | .nextBlock => True

theorem effect_supplied {b b' : Books T} {a : Action T} (h : Effect b a b')
    (horderly : L.Orderly a) (hs : (L.get b.world).Supplied) :
    (L.get b'.world).Supplied := by
  cases a with
  | outside =>
      cases h with
      | quiet hquiet => cases hquiet
      | outside => exact horderly
  | call | nextBlock =>
      exact h.world L.keepsSupplied (fun w hw => by cases hw) hs

/-- States reached from a genesis, and by doings of other pallets, in which the
supply is in order. -/
abbrev Reachable : State T → Prop :=
  Transition.Reach step (fun s => Genesis s ∧ (L.get s.world).Supplied)
    fun _ a => L.Orderly a

theorem supplied_of_reachable {s : State T} (h : L.Reachable s) :
    (L.get s.world).Supplied := by
  refine Transition.Reach.invariant
    (I := fun s : State T => (L.get s.world).Supplied) (fun _ h => h.2) ?_ h
  intro s a s' _ hI hok hstep
  exact L.effect_supplied (step_effect hstep) hok hI

end LedgerBacked

/-! ## A vault -/

/-- The constants of `mock.rs`. -/
def vaultRules : LedgerConfig where
  toBalancesConfig := unitBalances
  assetsIndex := 2

/-- The mock runtime over both pallets. -/
abbrev vault : Config :=
  mockRuntime (Ledger Nat Nat) (Ledger.currency vaultRules)
    (Ledger.fungibles vaultRules)

/-- The currencies of a vault are the pallets'. -/
def vaultBacked : LedgerBacked vault where
  rules := vaultRules
  get := fun w => w
  put := fun _ x => x
  get_put := fun _ _ => rfl
  native_transfer := fun _ _ _ _ _ => rfl
  native_withdraw := fun _ _ _ _ _ => rfl
  asset_transfer := fun _ _ _ _ _ _ => (congrFun Except.map_id _).symm
  asset_burn := fun _ _ _ _ _ _ _ => (congrFun Except.map_id _).symm

/-- Accounts 1 to 4 have 1000 of the native token and `each` of asset 7, whose
minimum balance is `least`. -/
def vaultEndowed (least each : Nat) : Ledger Nat Nat where
  balances :=
    { account := [1, 2, 3, 4].foldl
        (fun m who => m.insert who ⟨0, 1, 1, ⟨1000, 0, 0⟩⟩) .empty
      totalIssuance := 4000 }
  asset := StorageMap.empty.insert 7 ⟨4 * each, least, true, 4, 4, .live⟩
  account := [1, 2, 3, 4].foldl
    (fun m who => m.insert 7 who ⟨each, .liquid, .sufficient⟩) fun _ => .empty

theorem vaultEndowed_supplied {least each : Nat}
    (hfits : 4 * each ≤ maxValue 128) : (vaultEndowed least each).Supplied := by
  constructor
  · intro id
    by_cases hid : id = 7
    · subst hid
      have hfirst := StorageMap.sum_insert_new
        (StorageMap.get_empty (1 : Nat))
        (⟨each, .liquid, .sufficient⟩ : Assets.Account Nat)
        Assets.Account.balance
      simp only [StorageMap.sum_empty] at hfirst
      simp [vaultEndowed, Ledger.totalIssuance, StorageMap.sum_insert_new,
        hfirst]
      omega
    · simp [vaultEndowed, hid]
  · intro id
    by_cases hid : id = 7
    · subst hid
      simpa [vaultEndowed, Ledger.totalIssuance] using hfits
    · simp [vaultEndowed, Ledger.totalIssuance, hid]

end Thxnet.Crowdfunding
