import Thxnet.Crowdfunding.Effects
import Thxnet.Crowdfunding.Mock

/-!
# Ledgers that move what they are asked to move

The pallet is generic over the two ledgers it pays through.  `ExactLedger` is
the idealised contract, `LossyLedger` the one that the pallets keep that drop
small rests.

What the accounting of a campaign sees of the world are the balances of the
sub-accounts.  `LosesAtMost` bounds what a call takes out of them.
-/

namespace Thxnet.Crowdfunding

open Thxnet.Lib Thxnet.Frame

variable {T : Config}

/-! ## Exact ledgers -/

/-- Transfers and burns that succeed do exactly what was asked. -/
abbrev ExactLedger (T : Config) : Prop :=
  ExactRule (balanceOf (T := T)) T.nativeCurrency T.fungibles

/-- They debit at least and credit at most what was asked. -/
abbrev LossyLedger (T : Config) : Prop :=
  LossyRule (balanceOf (T := T)) T.nativeCurrency T.fungibles

variable {req : ExistenceRequirement} {amount id : Nat}
    {currency : PaymentCurrency T.AssetId} {dest : T.AccountId} {w w' : T.World}

/-! ## What sub-accounts lose -/

/-- Different campaigns have different sub-accounts. -/
def DistinctAccounts (T : Config) : Prop :=
  ∀ id id', id < 2 ^ 32 → id' < 2 ^ 32 →
    T.campaignAccount id = T.campaignAccount id' → id = id'

/-- An account that is no campaign's sub-account. -/
def Outsider (who : T.AccountId) : Prop :=
  ∀ id, id < 2 ^ 32 → who ≠ T.campaignAccount id

/-- What the sub-account of a campaign holds. -/
def holding (w : T.World) (currency : PaymentCurrency T.AssetId) (id : Nat) :
    Nat :=
  balanceOf w currency (T.campaignAccount id)

/-- No sub-account loses anything, except that of `id`, which loses at most
`amount` of `currency`. -/
def LosesAtMost (w w' : T.World) (id : Nat)
    (currency : PaymentCurrency T.AssetId) (amount : Nat) : Prop :=
  ∀ id' cur, id' < 2 ^ 32 →
    holding w cur id' ≤ holding w' cur id'
      + (if id' = id ∧ cur = currency then amount else 0)

theorem LosesAtMost.trans {w₁ w₂ : T.World} {m n : Nat}
    (h₁ : LosesAtMost w w₁ id currency m)
    (h₂ : LosesAtMost w₁ w₂ id currency n) :
    LosesAtMost w w₂ id currency (m + n) := by
  intro id' cur hid
  have ha := h₁ id' cur hid
  have hb := h₂ id' cur hid
  split at ha <;> split at hb <;> simp_all <;> omega

theorem LosesAtMost.other {id' : Nat}
    (h : LosesAtMost w w' id currency amount) (hid : id' < 2 ^ 32)
    (hne : id' ≠ id) (cur : PaymentCurrency T.AssetId) :
    holding w cur id' ≤ holding w' cur id' := by
  simpa [hne] using h id' cur hid

theorem LosesAtMost.self (h : LosesAtMost w w' id currency amount)
    (hid : id < 2 ^ 32) :
    holding w currency id ≤ holding w' currency id + amount := by
  simpa using h id currency hid

/-- Money leaving one sub-account, wherever it goes. -/
private theorem losesAtMost_of_spent (hd : DistinctAccounts T)
    (hid : id < 2 ^ 32)
    (h : ∀ cur who, balanceOf w cur who ≤ balanceOf w' cur who + (if cur =
      currency ∧ who = T.campaignAccount id then amount else 0)) :
    LosesAtMost w w' id currency amount := by
  intro id' cur hid'
  have hm := h cur (T.campaignAccount id')
  unfold holding
  by_cases heq : id' = id ∧ cur = currency
  · rw [if_pos heq]
    rwa [if_pos ⟨heq.2, by rw [heq.1]⟩] at hm
  · rw [if_neg heq]
    have hne : ¬ (cur = currency ∧
        T.campaignAccount id' = T.campaignAccount id) :=
      fun ⟨hc, ha⟩ => heq ⟨hd id' id hid' hid ha, hc⟩
    rwa [if_neg hne] at hm

theorem losesAtMost_of_transferred (hd : DistinctAccounts T)
    (hid : id < 2 ^ 32)
    (h : Transferred Eq balanceOf currency (T.campaignAccount id) dest amount
      w w') : LosesAtMost w w' id currency amount := by
  refine losesAtMost_of_spent hd hid fun cur who => ?_
  rw [h cur who]
  exact Nat.le_add_right _ _

theorem losesAtMost_of_burned (hd : DistinctAccounts T) (hid : id < 2 ^ 32)
    (h : Burned Eq balanceOf currency (T.campaignAccount id) amount w w') :
    LosesAtMost w w' id currency amount :=
  losesAtMost_of_spent hd hid fun cur who => Nat.le_of_eq (h cur who).symm

/-- Money from outside: no sub-account loses, the receiving one gains. -/
theorem incoming_of_transferred {source : T.AccountId}
    (hout : Outsider source)
    (h : Transferred Eq balanceOf currency source (T.campaignAccount id) amount
      w w') :
    (∀ id' cur, id' < 2 ^ 32 → holding w cur id' ≤ holding w' cur id') ∧
      (id < 2 ^ 32 →
        holding w' currency id = holding w currency id + amount) := by
  constructor
  · intro id' cur hid'
    have hm := h cur (T.campaignAccount id')
    have hne : ¬ (cur = currency ∧ T.campaignAccount id' = source) :=
      fun ⟨_, ha⟩ => hout id' hid' ha.symm
    rw [if_neg hne] at hm
    unfold holding
    omega
  · intro hid
    have hm := h currency (T.campaignAccount id)
    have hne : ¬ (currency = currency ∧ T.campaignAccount id = source) :=
      fun ⟨_, ha⟩ => hout id hid ha.symm
    rw [if_neg hne, if_pos ⟨rfl, rfl⟩] at hm
    exact hm

/-- Money to the outside: the paying sub-account loses at least that. -/
theorem outgoing_of_transferred (hout : Outsider dest) (hid : id < 2 ^ 32)
    (h : Transferred LE.le balanceOf currency (T.campaignAccount id) dest amount
      w w') (cur : PaymentCurrency T.AssetId) :
    holding w' cur id + (if cur = currency then amount else 0) ≤
      holding w cur id := by
  have hm := h cur (T.campaignAccount id)
  have hne : ¬ (cur = currency ∧ T.campaignAccount id = dest) :=
    fun ⟨_, ha⟩ => hout id hid ha.symm
  rw [if_neg hne] at hm
  simpa [holding] using hm

theorem PaidOut.losesAtMost (hl : ExactLedger T) (hd : DistinctAccounts T)
    (hid : id < 2 ^ 32) {recipient who : T.AccountId} {fee : Nat}
    (h : PaidOut w w' id currency recipient who fee amount) :
    LosesAtMost w w' id currency (fee + amount) := by
  obtain ⟨w₁, hfee, hpay⟩ := h
  exact (losesAtMost_of_transferred hd hid (hl.transfer hfee)).trans
    (losesAtMost_of_transferred hd hid (hl.transfer hpay))

/-! ## Admitted steps -/

/-- Steps in which outsiders can only add to a sub-account: nobody signs as a
sub-account, and what other pallets do lowers no sub-account's balance. -/
def Admitted (b : Books T) : Action T → Prop
  | .call (.signed who) _ => Outsider who
  | .call .root _ => True
  | .call .none _ => True
  | .nextBlock => True
  | .outside w =>
      ∀ id cur, id < 2 ^ 32 → holding b.world cur id ≤ holding w cur id

/-- The runs in which outsiders can only add to sub-accounts. -/
abbrev AdmittedReachable (s : State T) : Prop :=
  Reachable (fun s a => Admitted s.toBooks a) s

/-! ## The purse is exact -/

private theorem moveUnits_ok {f : Nat → Nat} {source : Nat}
    (h : amount ≤ f source) (dest : Nat) :
    ∃ f', moveUnits f source dest amount = .ok f' := by
  simp only [moveUnits, do_eq_ok, takeUnits, if_pos h]
  exact ⟨_, _, rfl, rfl⟩

private theorem balanceOf_asset_ne (p : Purse) {id : Nat} (f : Nat → Nat)
    {cur : PaymentCurrency Nat} (who : Nat) (hne : cur ≠ .asset id) :
    @balanceOf purse { p with asset := Function.update p.asset id f } cur who =
      @balanceOf purse p cur who := by
  cases cur with
  | native => rfl
  | asset id' =>
      have hid : id' ≠ id := fun h => hne (congrArg _ h)
      simp [balanceOf, purseAssets, hid]

theorem purse_exact : ExactLedger purse where
  moved_zero := fun c source dest w cur who => by simp
  burned_zero := fun c who w cur x => by simp
  native_transfer := by
    intro w w' source dest amount req h
    simp only [purseCurrency, do_eq_ok] at h
    obtain ⟨f, hmove, rfl⟩ := h
    refine transferred_of_same ?_ (moveUnits_eq_ok hmove)
    rintro (_ | _) who hne
    · exact absurd rfl hne
    · rfl
  native_withdraw := by
    intro w w' who amount reasons req h
    simp only [purseCurrency, do_eq_ok] at h
    obtain ⟨f, htake, rfl⟩ := h
    refine burned_of_same ?_ (takeUnits_eq_ok htake)
    rintro (_ | _) who hne
    · exact absurd rfl hne
    · rfl
  asset_transfer := by
    intro w w' id source dest amount preservation h
    simp only [purseAssets, do_eq_ok] at h
    obtain ⟨f, hmove, rfl⟩ := h
    refine transferred_of_same (fun _ => balanceOf_asset_ne w f) fun who => ?_
    simpa [balanceOf, purseAssets] using moveUnits_eq_ok hmove who
  asset_burn := by
    intro w w' id who amount preservation precision fortitude h
    simp only [purseAssets, do_eq_ok] at h
    obtain ⟨f, htake, rfl⟩ := h
    refine burned_of_same (fun _ => balanceOf_asset_ne w f) fun who => ?_
    simpa [balanceOf, purseAssets] using takeUnits_eq_ok htake who

theorem purse_distinct : DistinctAccounts purse := by
  intro id id' _ _ h
  exact Nat.add_left_cancel h

theorem purse_pays {w : Purse} {cur : PaymentCurrency Nat} {source dest : Nat}
    (h : amount ≤ balanceOf (T := purse) w cur source) :
    ∃ w', doTransfer (T := purse) w cur source dest amount req = .ok w' := by
  unfold doTransfer transferWith
  by_cases hzero : amount = 0
  · exact ⟨w, if_pos hzero⟩
  · rw [if_neg hzero]
    cases cur with
    | native =>
        obtain ⟨f, hf⟩ := moveUnits_ok (f := w.native) h dest
        exact ⟨{ w with native := f }, bind_eq_ok.mpr ⟨f, hf, rfl⟩⟩
    | asset id =>
        obtain ⟨f, hf⟩ := moveUnits_ok (f := w.asset id) h dest
        exact ⟨{ w with asset := Function.update w.asset id f },
          bind_eq_ok.mpr ⟨f, hf, rfl⟩⟩

/-! ## Admitted requests over the mock runtimes -/

section MockRuntime

variable {World : Type} {native : Currency Nat World}
  {assets : Fungibles Nat Nat World}

theorem mock_outsider {who : Nat} (h : who < 1000) :
    @Outsider (mockRuntime World native assets) who := by
  intro id _ heq
  have hsub : who = 1000 + id := heq
  omega

/-- Requests that are calls by root or by accounts below 1000, or the passage
of a block. -/
def fromOutside : Action (mockRuntime World native assets) → Bool
  | .call (.signed who) _ => decide ((who : Nat) < 1000)
  | .call .root _ => true
  | .call .none _ => true
  | .nextBlock => true
  | .outside _ => false

theorem mock_admitted
    {requests : List (Action (mockRuntime World native assets))}
    (h : requests.all fromOutside = true) :
    ∀ a ∈ requests, ∀ s : State (mockRuntime World native assets),
      Admitted s.toBooks a := by
  intro a ha s
  have hout := List.all_eq_true.mp h a ha
  match a, hout with
  | .call (.signed who) _, hout => exact mock_outsider (of_decide_eq_true hout)
  | .call .root _, _ => trivial
  | .call .none _, _ => trivial
  | .nextBlock, _ => trivial

end MockRuntime

end Thxnet.Crowdfunding
