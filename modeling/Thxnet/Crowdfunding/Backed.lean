import Thxnet.Crowdfunding.Ledger
import Thxnet.Crowdfunding.Lifecycle
import Thxnet.Frame.Transfers

/-!
# Campaigns over the balances pallet

`BalancesBacked T` says that the native currency of the runtime `T` is
`pallet_balances`, kept somewhere in the foreign storage.  What this adds to a
generic ledger is when a transfer succeeds, and that it can destroy dust.

The parties of a campaign, its creator and its investors, have signed a call,
so in admitted runs none of them is a sub-account.
-/

namespace Thxnet.Crowdfunding

open Thxnet.Lib Thxnet.Frame

variable {T : Config}

/-- The native currency is the balances pallet. -/
structure BalancesBacked (T : Config) where
  rules : BalancesConfig
  get : T.World → Balances T.AccountId
  put : T.World → Balances T.AccountId → T.World
  get_put : ∀ w x, get (put w x) = x
  minimum : T.nativeCurrency.minimumBalance = rules.existentialDeposit
  free : ∀ w who,
    T.nativeCurrency.freeBalance w who = ((get w).info who).data.free
  transfer : ∀ w source dest amount req,
    T.nativeCurrency.transfer w source dest amount req =
      ((get w).transfer rules source dest amount req).map (put w)
  withdraw : ∀ w who amount reasons req,
    T.nativeCurrency.withdraw w who amount reasons req =
      ((get w).withdraw rules who amount reasons req).map (put w)

theorem BalancesBacked.transfer_eq_ok (B : BalancesBacked T) {w w' : T.World}
    {source dest : T.AccountId} {amount : Nat} {req : ExistenceRequirement} :
    T.nativeCurrency.transfer w source dest amount req = .ok w' ↔
      ∃ x, (B.get w).transfer B.rules source dest amount req = .ok x ∧
        B.put w x = w' := by
  rw [B.transfer, map_eq_ok]

/-! ## The parties of a campaign -/

theorem creator_outsider {s : State T} (h : AdmittedReachable s) {id : Nat}
    {c : Campaign T} (hget : s.campaigns.get id = some c) :
    Outsider c.creator := by
  refine campaign_invariant (P := fun c => Outsider c.creator)
    (fun _ _ _ _ _ c hok hnew _ => ?_) (fun c c' hev hout => ?_) h hget
  · rw [hnew.creator]
    exact hok
  · rw [hev.creator]
    exact hout

/-- A deposit that has not been returned is at least the minimum balance. -/
theorem minimum_le_deposit {ok : State T → Action T → Prop} {s : State T}
    (h : Reachable ok s) {id : Nat} {c : Campaign T}
    (hget : s.campaigns.get id = some c) (hdeposit : c.creationDeposit ≠ 0) :
    T.nativeCurrency.minimumBalance ≤ c.creationDeposit := by
  refine campaign_invariant
    (P := fun c => c.creationDeposit ≠ 0 →
      T.nativeCurrency.minimumBalance ≤ c.creationDeposit)
    (fun _ _ _ _ _ c _ hnew hmin _ => ?_) (fun c c' hev hle hne => ?_)
    h hget hdeposit
  · rw [hnew.deposit]
    exact hmin
  · rcases hev.deposit with hsame | hzero
    · rw [hsame] at hne ⊢
      exact hle hne
    · exact absurd hzero.1 hne

/-- Everybody with a record has signed the investment. -/
theorem Effect.owners {b b' : Books T} {a : Action T} (h : Effect b a b')
    (hadm : Admitted b a) {id : Nat}
    (hI : ∀ who, ((b.investments id).get who).isSome = true → Outsider who) :
    ∀ who, ((b'.investments id).get who).isSome = true → Outsider who := by
  intro x hx
  by_cases ht : a.target b = some id
  swap
  · rw [(h.sameAt ht).records] at hx
    exact hI x hx
  cases h with
  | @invested who | @withdrawn who | @refunded who =>
      cases ht
      rcases eq_or_ne x who with rfl | hne
      · exact hadm
      · exact hI x (by simpa [hne] using hx)
  | _ => exact hI x hx

theorem owner_outsider {s : State T} (h : AdmittedReachable s) {id : Nat}
    {who : T.AccountId}
    (hrecord : ((s.investments id).get who).isSome = true) :
    Outsider who := by
  refine books_invariant
    (I := fun b => ∀ who, ((b.investments id).get who).isSome = true →
      Outsider who)
    (fun _ _ x hx => ?_) (fun _ _ _ _ hI hok he => he.owners hok hI) h who
    hrecord
  simp [State.genesis] at hx

/-! ## A bank -/

/-- Constants with a large existential deposit. -/
def bankRules : BalancesConfig where
  existentialDeposit := 10
  maxConsumers := 16
  palletIndex := 1
  ed_pos := by decide
  maxConsumers_pos := by decide

/-- The balances pallet for the native token, a purse for the assets. -/
structure Bank where
  native : Balances Nat
  assets : Purse

/-- The native side of a bank. -/
def bankCurrency : Currency Nat Bank where
  minimumBalance := bankRules.existentialDeposit
  freeBalance := fun b who => (b.native.info who).data.free
  transfer := fun b source dest amount req =>
    (b.native.transfer bankRules source dest amount req).map
      fun x => { b with native := x }
  withdraw := fun b who amount reasons req =>
    (b.native.withdraw bankRules who amount reasons req).map
      fun x => { b with native := x }

/-- The asset side of a bank. -/
def bankAssets : Fungibles Nat Nat Bank where
  balance := fun b id who => purseAssets.balance b.assets id who
  transfer := fun b id source dest amount preservation =>
    (purseAssets.transfer b.assets id source dest amount preservation).map
      fun x => { b with assets := x }
  burnFrom := fun b id who amount preservation precision fortitude =>
    (purseAssets.burnFrom b.assets id who amount preservation precision
      fortitude).map fun x => { b with assets := x }

/-- The mock runtime over a bank. -/
abbrev bank : Config := mockRuntime Bank bankCurrency bankAssets

/-- The native currency of a bank is the balances pallet. -/
def bankBacked : BalancesBacked bank where
  rules := bankRules
  get := Bank.native
  put := fun b x => { b with native := x }
  get_put := fun _ _ => rfl
  minimum := rfl
  free := fun _ _ => rfl
  transfer := fun _ _ _ _ _ => rfl
  withdraw := fun _ _ _ _ _ => rfl

/-- A bank in which accounts 1 to 4 have 1000 each. -/
def Bank.endowed : Bank where
  native :=
    { account := [1, 2, 3, 4].foldl
        (fun m who => m.insert who ⟨0, 1, 0, ⟨1000, 0, 0⟩⟩) .empty
      totalIssuance := 4000 }
  assets := Purse.endowed 1000

/-- The first state of runs over a bank. -/
def bankGenesis : State bank := State.genesis bank Bank.endowed 0

/-- The state after some requests over a bank. -/
def bankAfter (requests : List (Action bank)) : State bank :=
  Transition.final step bankGenesis requests

end Thxnet.Crowdfunding
