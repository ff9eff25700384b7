import Thxnet.Frame.Balances
import Thxnet.Lib.Draining

/-!
# What a transfer does to the accounts

The part of `pallet_balances` that pays out of an account which may die.  What
an account can pay is `spendable`, and each payment it covers goes through to an
account that can take it (`transfer_covered`).  What is left to spend is
`restAfter`: a rest below the existential deposit is destroyed, or cannot be
spent any more; `dustLimit` says from where on.

An account is `Unpinned` if no freeze and no consumer reference holds its
balance.  Only then can the whole of it leave (`transfer_all_iff`).

`Sound` states what the pallet maintains about its accounts and issuance.
-/

namespace Thxnet.Frame

open Thxnet.Lib

/-- What an account holds. -/
def AccountInfo.total (a : AccountInfo) : Nat := a.data.free + a.data.reserved

/-- What an account that may die can pay out: what is not frozen, and of the
existential deposit only what no consumer reference needs. -/
def AccountInfo.spendable (C : BalancesConfig) (a : AccountInfo) : Nat :=
  a.data.free -
    if a.data.free ≠ 0 ∧ ¬ (a.consumers = 0 ∨ 1 < a.providers) then
      max (a.data.frozen - a.data.reserved) C.existentialDeposit
    else a.data.frozen - a.data.reserved

/-- A smaller rest cannot be spent any more after a payment.  Only an account
with something reserved and another provider keeps it. -/
def AccountInfo.dustLimit (C : BalancesConfig) (a : AccountInfo) : Nat :=
  if a.data.reserved ≠ 0 ∧
      (if C.existentialDeposit ≤ a.data.free then 2 else 1) < a.providers then 0
  else C.existentialDeposit - (a.data.free - a.spendable C)

/-- An account with the existential deposit has a provider reference, and one
with holds or freezes a consumer reference. -/
structure AccountInfo.Consistent (C : BalancesConfig) (a : AccountInfo) :
    Prop where
  provided : C.existentialDeposit ≤ a.data.free → 0 < a.providers
  consumed : a.data.consumes = true → 0 < a.consumers

instance (C : BalancesConfig) (a : AccountInfo) : Decidable (a.Consistent C) :=
  decidable_of_iff ((C.existentialDeposit ≤ a.data.free → 0 < a.providers) ∧
      (a.data.consumes = true → 0 < a.consumers))
    ⟨fun h => ⟨h.1, h.2⟩, fun h => ⟨h.1, h.2⟩⟩

theorem AccountInfo.consistent_default (C : BalancesConfig) :
    (default : AccountInfo).Consistent C := by
  refine ⟨fun hfree => ?_, fun hcons => ?_⟩
  · exact absurd (Nat.lt_of_lt_of_le C.ed_pos hfree) (Nat.lt_irrefl 0)
  · cases hcons

namespace Balances

variable {A : Type} {C : BalancesConfig}

/-! ## Changes at one account -/

/-- Only the account of `who` has changed. -/
structure ChangesOnly (who : A) (w w' : Balances A) : Prop where
  get : ∀ x, x ≠ who → w'.account.get x = w.account.get x
  issuance : w'.totalIssuance = w.totalIssuance

theorem ChangesOnly.refl (who : A) (w : Balances A) : ChangesOnly who w w :=
  ⟨fun _ _ => rfl, rfl⟩

variable {dest source who : A} {w : Balances A} {amount : Nat}

theorem ChangesOnly.trans {w₁ w₂ : Balances A} (h : ChangesOnly who w w₁)
    (h' : ChangesOnly who w₁ w₂) : ChangesOnly who w w₂ :=
  ⟨fun x hx => (h'.get x hx).trans (h.get x hx),
    h'.issuance.trans h.issuance⟩

theorem ChangesOnly.info {w' : Balances A} (h : ChangesOnly who w w') {x : A}
    (hx : x ≠ who) : w'.info x = w.info x := by
  unfold Balances.info
  rw [h.get x hx]

variable [DecidableEq A]

theorem changesOnly_mutate (w : Balances A) (who : A)
    (f : AccountInfo → AccountInfo) : ChangesOnly who w (w.mutate who f) :=
  ⟨fun _ hx => w.account.get_insert_ne _ hx, rfl⟩

theorem changesOnly_remove (w : Balances A) (who : A) :
    ChangesOnly who w (w.remove who) :=
  ⟨fun _ hx => w.account.get_remove_ne hx, rfl⟩

@[simp] theorem info_mutate_self (w : Balances A) (who : A)
    (f : AccountInfo → AccountInfo) :
    (w.mutate who f).info who = f (w.info who) := by
  simp [info, mutate]

@[simp] theorem info_remove_self (w : Balances A) (who : A) :
    (w.remove who).info who = default := by
  simp [info, remove]

/-! ## References -/

theorem decProviders_ok (h : w.canDecProvider who = true) :
    ∃ w', w.decProviders who = .ok w' ∧ ChangesOnly who w w' := by
  unfold decProviders
  cases hget : w.account.get who with
  | none => exact ⟨w, rfl, .refl who w⟩
  | some a =>
      have hinfo : w.info who = a := by
        unfold info
        rw [hget]
        rfl
      simp only [canDecProvider, hinfo, Bool.or_eq_true,
        decide_eq_true_eq] at h
      dsimp only
      generalize hp : (if a.providers = 0 then 1 else a.providers) = p
      have hpa : p = 1 → ¬ 1 < a.providers := by
        intro hone
        split at hp <;> omega
      by_cases hdead : p = 1 ∧ a.consumers = 0 ∧ a.sufficients = 0
      · rw [if_pos hdead]
        exact ⟨_, rfl, changesOnly_remove w who⟩
      · rw [if_neg hdead, if_neg (by omega)]
        exact ⟨_, rfl, changesOnly_mutate w who _⟩

theorem decProviders_of_lt (h : 1 < (w.info who).providers) :
    w.decProviders who = .ok (w.mutate who fun _ =>
      { w.info who with providers := (w.info who).providers - 1 }) := by
  unfold decProviders
  cases hget : w.account.get who with
  | none =>
      unfold info at h
      rw [hget] at h
      exact absurd h (Nat.not_lt_zero 1)
  | some a =>
      have hinfo : w.info who = a := by
        unfold info
        rw [hget]
        rfl
      rw [hinfo] at h ⊢
      dsimp only
      rw [if_neg (show a.providers ≠ 0 by omega), if_neg (by omega),
        if_neg (by omega)]
      simp only [mutate, hinfo]

theorem incProviders_info (w : Balances A) (who : A) :
    0 < ((w.incProviders who).info who).providers ∧
      ((w.incProviders who).info who).consumers = (w.info who).consumers := by
  unfold incProviders
  rw [info_mutate_self]
  split
  · exact ⟨Nat.one_pos, rfl⟩
  · refine ⟨?_, rfl⟩
    simp only [saturatingAdd, maxValue]
    omega

theorem changesOnly_store (w : Balances A) (who : A) (data : AccountData) :
    ChangesOnly who w (w.store who data) := by
  unfold store
  split
  · exact changesOnly_mutate w who _
  · exact changesOnly_remove w who

theorem info_store_default (w : Balances A) (who : A) :
    ((w.store who default).info who).data = default := by
  unfold store
  split
  · rw [info_mutate_self]
  · rw [info_remove_self]
    rfl

theorem info_store (h : 0 < (w.info who).providers) (data : AccountData) :
    (w.store who data).info who = { w.info who with data := data } := by
  unfold store
  rw [if_pos (.inl h), info_mutate_self]

/-- When only the free balance changes, the consumer references stay as they
are, and the provider reference follows the existential deposit. -/
theorem adjustReferences_free {data : AccountData}
    (hcons : data.consumes = true → 0 < (w.info who).consumers) (n : Nat) :
    w.adjustReferences C who data { data with free := n } =
      if C.existentialDeposit ≤ n then
        .ok (if C.existentialDeposit ≤ data.free then w
          else w.incProviders who)
      else if C.existentialDeposit ≤ data.free then w.decProviders who
      else .ok w := by
  have hsame : ({ data with free := n } : AccountData).consumes =
      data.consumes := rfl
  have hdid : (decide (data ≠ default) && data.consumes) = data.consumes := by
    by_cases hdef : data = default
    · subst hdef
      rfl
    · simp [hdef]
  have hfew : ∀ w' : Balances A,
      (w'.info who).consumers = (w.info who).consumers →
      (data.consumes && decide ((w'.info who).consumers = 0)) = false := by
    intro w' hw'
    cases hc : data.consumes with
    | false => rfl
    | true =>
        have hpos := hcons hc
        simp [hw']
        omega
  unfold adjustReferences
  simp only [hsame, hdid]
  by_cases hn : C.existentialDeposit ≤ n <;>
    by_cases hfree : C.existentialDeposit ≤ data.free <;>
    simp [hn, hfree, hfew w rfl,
      hfew _ (incProviders_info w who).2, bind, Except.bind]

/-! ## What the pallet maintains -/

/-- The accounts add up to at most the issuance, which is a `u128`, and are
consistent. -/
structure Sound (C : BalancesConfig) (w : Balances A) : Prop where
  issued : w.account.sum AccountInfo.total ≤ w.totalIssuance
  issuance_lt : w.totalIssuance < 2 ^ 128
  consistent : ∀ who, (w.info who).Consistent C

omit [DecidableEq A] in
theorem info_of_notMem (h : who ∉ w.account.keys) : w.info who = default := by
  have hnone : w.account.get who = none := by
    simpa [w.account.mem_keys] using h
  unfold info
  rw [hnone]
  rfl

omit [DecidableEq A] in
/-- Only stored accounts need to be looked at. -/
theorem sound_of_keys
    (hissued : w.account.sum AccountInfo.total ≤ w.totalIssuance)
    (hlt : w.totalIssuance < 2 ^ 128)
    (hkeys : ∀ who ∈ w.account.keys, (w.info who).Consistent C) :
    w.Sound C := by
  refine ⟨hissued, hlt, fun who => ?_⟩
  by_cases hwho : who ∈ w.account.keys
  · exact hkeys who hwho
  · rw [info_of_notMem hwho]
    exact AccountInfo.consistent_default C

omit [DecidableEq A] in
theorem getD_total (w : Balances A) (who : A) :
    ((w.account.get who).map AccountInfo.total).getD 0 =
      (w.info who).total := by
  unfold info
  cases w.account.get who <;> rfl

theorem ChangesOnly.sum_total {w' : Balances A} (h : ChangesOnly who w w') :
    w'.account.sum AccountInfo.total + (w.info who).total =
      w.account.sum AccountInfo.total + (w'.info who).total := by
  have hsum := StorageMap.sum_of_agree h.get AccountInfo.total
  rwa [getD_total, getD_total] at hsum

theorem total_add_total_le (w : Balances A) {x y : A} (hne : y ≠ x) :
    (w.info x).total + (w.info y).total ≤
      w.account.sum AccountInfo.total := by
  have hx := (changesOnly_remove w x).sum_total
  have hy := (changesOnly_remove (w.remove x) y).sum_total
  rw [info_remove_self] at hx hy
  rw [(changesOnly_remove w x).info hne] at hy
  have hzero : (default : AccountInfo).total = 0 := rfl
  omega

theorem Sound.total_le (h : w.Sound C) (who : A) :
    (w.info who).total ≤ w.totalIssuance := by
  have hx := (changesOnly_remove w who).sum_total
  have hle := h.issued
  rw [info_remove_self] at hx
  have hzero : (default : AccountInfo).total = 0 := rfl
  omega

/-! ## Accounts nothing holds on to -/

/-- No freeze and no consumer reference holds the balance of an account. -/
structure Unpinned (w : Balances A) (who : A) : Prop where
  frozen_le : (w.info who).data.frozen ≤ (w.info who).data.reserved
  canDec : w.canDecProvider who = true

omit [DecidableEq A] in
theorem Unpinned.reducibleBalance (h : w.Unpinned who) (fortitude : Fortitude) :
    w.reducibleBalance C who .expendable fortitude =
      (w.info who).data.free := by
  have hnone := Nat.sub_eq_zero_of_le h.frozen_le
  unfold Balances.reducibleBalance
  cases fortitude <;> simp [h.canDec, hnone]

omit [DecidableEq A] in
theorem reducibleBalance_expendable (w : Balances A) (who : A) :
    w.reducibleBalance C who .expendable .polite =
      (w.info who).spendable C := by
  simp only [reducibleBalance, AccountInfo.spendable, canDecProvider]
  congr 2
  simp

omit [DecidableEq A] in
theorem spendable_le (w : Balances A) (who : A) (fortitude : Fortitude) :
    (w.info who).spendable C ≤ w.reducibleBalance C who .expendable fortitude ∧
      w.reducibleBalance C who .expendable fortitude ≤
        (w.info who).data.free := by
  rw [← reducibleBalance_expendable]
  unfold reducibleBalance
  cases fortitude <;> dsimp only <;> split <;> omega

/-- An account has `amount` beyond the existential deposit and beyond what is
frozen and not reserved. -/
structure Spares (C : BalancesConfig) (w : Balances A) (who : A)
    (amount : Nat) : Prop where
  minimum : amount + C.existentialDeposit ≤ (w.info who).data.free
  unfrozen : amount + ((w.info who).data.frozen - (w.info who).data.reserved) ≤
    (w.info who).data.free

omit [DecidableEq A] in
/-- What can be taken from an account that has to stay. -/
theorem le_reducibleBalance_preserve (hpos : amount ≠ 0) :
    amount ≤ w.reducibleBalance C who .preserve .polite ↔
      w.Spares C who amount := by
  have hiff : w.Spares C who amount ↔
      amount + C.existentialDeposit ≤ (w.info who).data.free ∧
      amount + ((w.info who).data.frozen - (w.info who).data.reserved) ≤
        (w.info who).data.free :=
    ⟨fun h => ⟨h.minimum, h.unfrozen⟩, fun h => ⟨h.1, h.2⟩⟩
  rw [hiff]
  unfold reducibleBalance
  simp only [if_true]
  omega

omit [DecidableEq A] in
theorem Spares.le_spendable (h : w.Spares C who amount) :
    amount ≤ (w.info who).spendable C := by
  obtain ⟨hed, hfrozen⟩ := h
  unfold AccountInfo.spendable
  split <;> omega

/-- What can be spent may be withdrawn, and what can be spared even from an
account that has to stay. -/
theorem canWithdraw_ok (hs : w.Sound C) (hpos : amount ≠ 0)
    (hle : amount ≤ (w.info who).spendable C) {keep : Bool}
    (hstay : keep = true → w.Spares C who amount) :
    (w.canDecProvider who = false →
      C.existentialDeposit ≤ (w.info who).data.free - amount) ∧
    ∃ rest, (w.canWithdraw C who amount).intoResult keep = .ok rest := by
  have htotal := hs.total_le who
  have hlt := hs.issuance_lt
  have hfree := (spendable_le (C := C) w who .polite).2
  rw [← reducibleBalance_expendable] at hle
  have hkeep : (w.canDecProvider who = false →
      C.existentialDeposit ≤ (w.info who).data.free - amount) ∧
      (w.info who).data.frozen - (w.info who).data.reserved ≤
        (w.info who).data.free - amount := by
    unfold reducibleBalance at hle
    dsimp only at hle
    split at hle
    · omega
    · next hnot =>
        refine ⟨fun hcan => ?_, by omega⟩
        simp only [hcan, Bool.not_false, Bool.and_true, decide_eq_true_eq,
          ne_eq, Decidable.not_not] at hnot
        omega
  have hfrozen : ¬ saturatingAdd 128 ((w.info who).data.free - amount)
      (w.info who).data.reserved < (w.info who).data.frozen := by
    unfold AccountInfo.total at htotal
    unfold saturatingAdd maxValue
    omega
  unfold AccountInfo.total at htotal
  refine ⟨hkeep.1, ?_⟩
  unfold Balances.canWithdraw
  dsimp only
  rw [if_neg hpos, if_neg (by omega), if_neg (by omega), if_neg (by omega),
    if_neg (fun h => Nat.not_lt.mpr (hkeep.1 h.2) h.1), if_neg hfrozen]
  split
  · next hdust =>
      cases keep with
      | false => exact ⟨_, rfl⟩
      | true =>
          have hmin := (hstay rfl).minimum
          omega
  · exact ⟨_, rfl⟩

omit [DecidableEq A] in
theorem canWithdraw_eq_ok {rest : Nat} {keepNonzero : Bool}
    (hpos : amount ≠ 0)
    (h : (w.canWithdraw C who amount).intoResult keepNonzero = .ok rest) :
    amount ≤ (w.info who).data.free ∧
    amount ≤ w.reducibleBalance C who .expendable .polite ∧
    ((w.info who).data.free - amount < C.existentialDeposit →
      w.canDecProvider who = true ∧ keepNonzero = false) := by
  unfold canWithdraw at h
  dsimp only at h
  rw [if_neg hpos] at h
  split at h
  · cases h
  split at h
  · cases h
  next hfree =>
    split at h
    · cases h
    next hliquid =>
      refine ⟨Nat.not_lt.mp hfree, Nat.not_lt.mp hliquid, fun hdust => ?_⟩
      split at h
      · cases h
      next hdie =>
        split at h
        · cases h
        refine ⟨by simpa [hdust] using hdie, ?_⟩
        cases keepNonzero with
        | true => cases h
        | false => rfl

omit [DecidableEq A] in
/-- Withdrawing everything from an account that may die needs it unpinned. -/
theorem unpinned_of_canWithdraw (hpos : (w.info who).data.free ≠ 0)
    {keepNonzero : Bool} {rest : Nat}
    (h : (w.canWithdraw C who (w.info who).data.free).intoResult keepNonzero =
      .ok rest) : keepNonzero = false ∧ w.Unpinned who := by
  have hed := C.ed_pos
  obtain ⟨_, hliquid, hdust⟩ := canWithdraw_eq_ok hpos h
  obtain ⟨hcan, hkeep⟩ := hdust (by omega)
  refine ⟨hkeep, ?_, hcan⟩
  unfold Balances.reducibleBalance at hliquid
  simp only [hcan, Bool.not_true, Bool.and_false, Bool.false_eq_true,
    if_false] at hliquid
  omega

/-! ## Writing the free balance -/

/-- A balance of at least the existential deposit is simply written. -/
theorem tryMutateAccount_keep {n : Nat}
    {f : AccountData → Except DispatchError AccountData}
    (hf : f (w.info who).data = .ok { (w.info who).data with free := n })
    (ha : (w.info who).Consistent C) (hn : C.existentialDeposit ≤ n) :
    ∃ w', w.tryMutateAccount C who f = .ok (w', none) ∧
      ChangesOnly who w w' ∧
      (w'.info who).data = { (w.info who).data with free := n } ∧
      (w'.info who).Consistent C ∧
      (C.existentialDeposit ≤ (w.info who).data.free →
        w'.info who = { w.info who with
          data := { (w.info who).data with free := n } }) := by
  generalize hw₁ : (if C.existentialDeposit ≤ (w.info who).data.free then w
    else w.incProviders who) = w₁
  have hfacts : ChangesOnly who w w₁ ∧ 0 < (w₁.info who).providers ∧
      (w₁.info who).consumers = (w.info who).consumers ∧
      (C.existentialDeposit ≤ (w.info who).data.free → w₁ = w) := by
    split at hw₁
    · next hfree =>
        subst hw₁
        exact ⟨.refl who w, ha.provided hfree, rfl, fun _ => rfl⟩
    · next hfree =>
        subst hw₁
        obtain ⟨hpos, hcons⟩ := incProviders_info w who
        exact ⟨changesOnly_mutate w who _, hpos, hcons, fun h => absurd h hfree⟩
  obtain ⟨hchange, hpos, hsame, hsame'⟩ := hfacts
  refine ⟨w₁.store who { (w.info who).data with free := n }, ?_,
    hchange.trans (changesOnly_store w₁ who _), ?_, ?_, fun hfree => ?_⟩
  · unfold tryMutateAccount
    rw [hf]
    simp only [bind, Except.bind, adjustReferences_free ha.consumed, if_pos hn,
      hw₁]
    rw [if_neg (fun h => Nat.not_lt.mpr hn h.1)]
    rfl
  · rw [info_store hpos]
  · rw [info_store hpos]
    exact ⟨fun _ => hpos, fun hc => hsame ▸ ha.consumed hc⟩
  · rw [info_store hpos, hsame' hfree]

/-- An account after its free balance has been lowered to `n`: unless nothing is
reserved, it gives up a provider reference with the existential deposit; if
nothing is, the rest goes with it. -/
structure Lowered (C : BalancesConfig) (a : AccountInfo) (n : Nat)
    (a' : AccountInfo) (dust : Nat) : Prop where
  kept : C.existentialDeposit ≤ n ∨ a.data.reserved ≠ 0 →
    a' = { a with
      data := { a.data with free := n }
      providers := a.providers -
        if n < C.existentialDeposit ∧ C.existentialDeposit ≤ a.data.free then 1
        else 0 } ∧ dust = 0
  lost : n < C.existentialDeposit → a.data.reserved = 0 →
    a'.data = default ∧ dust = n

/-- A smaller balance is written if the provider reference can be given up. -/
theorem tryMutateAccount_drop {n : Nat}
    {f : AccountData → Except DispatchError AccountData}
    (hf : f (w.info who).data = .ok { (w.info who).data with free := n })
    (ha : (w.info who).Consistent C)
    (hcan : w.canDecProvider who = true) (hn : n < C.existentialDeposit) :
    ∃ w' dust, w.tryMutateAccount C who f = .ok (w', dust) ∧
      ChangesOnly who w w' ∧
      Lowered C (w.info who) n (w'.info who) (dust.getD 0) := by
  have hresult : ∀ w₂, w.adjustReferences C who (w.info who).data
        { (w.info who).data with free := n } = .ok w₂ →
      w.tryMutateAccount C who f = .ok
        (if (w.info who).data.reserved = 0 then
          (w₂.store who default, if n = 0 then none else some n)
        else (w₂.store who { (w.info who).data with free := n }, none)) := by
    intro w₂ hadjust
    unfold tryMutateAccount
    rw [hf]
    simp only [bind, Except.bind, hadjust, hn, true_and]
    rfl
  rw [adjustReferences_free ha.consumed, if_neg (Nat.not_le.mpr hn)] at hresult
  by_cases hzero : (w.info who).data.reserved = 0
  · simp only [if_pos hzero] at hresult
    obtain ⟨w₁, hdec, hchange⟩ := decProviders_ok hcan
    obtain ⟨w₂, hadjust, hchange₂⟩ : ∃ w₂,
        (if C.existentialDeposit ≤ (w.info who).data.free then
          w.decProviders who else .ok w) = .ok w₂ ∧ ChangesOnly who w w₂ := by
      split
      · exact ⟨w₁, hdec, hchange⟩
      · exact ⟨w, rfl, .refl who w⟩
    refine ⟨_, _, hresult w₂ hadjust,
      hchange₂.trans (changesOnly_store w₂ who _), fun h => ?_, fun _ _ => ?_⟩
    · omega
    · refine ⟨info_store_default w₂ who, ?_⟩
      split
      · next hn0 => exact hn0.symm
      · rfl
  · simp only [if_neg hzero] at hresult
    -- what is reserved has a consumer, so there is another provider
    have hprov : 1 < (w.info who).providers := by
      have hpos := ha.consumed (by simp [AccountData.consumes, hzero])
      simp only [canDecProvider, Bool.or_eq_true, decide_eq_true_eq] at hcan
      omega
    by_cases hfree : C.existentialDeposit ≤ (w.info who).data.free
    · rw [if_pos hfree, decProviders_of_lt hprov] at hresult
      refine ⟨_, _, hresult _ rfl, (changesOnly_mutate w who _).trans
        (changesOnly_store _ who _), fun _ => ⟨?_, rfl⟩,
        fun _ h => absurd h hzero⟩
      rw [info_store (by rw [info_mutate_self]; dsimp only; omega),
        info_mutate_self, if_pos ⟨hn, hfree⟩]
    · rw [if_neg hfree] at hresult
      refine ⟨_, _, hresult w rfl, changesOnly_store w who _,
        fun _ => ⟨?_, rfl⟩, fun _ h => absurd h hzero⟩
      rw [info_store (by omega), if_neg (fun h => hfree h.2), Nat.sub_zero]

/-! ## Paying out of an account and into another -/

open Draining

section Lowered

variable {a a' : AccountInfo} {dust : Nat}

private theorem spendable_freed (h : a.consumers = 0 ∨ 1 < a.providers) :
    a.spendable C = a.data.free - (a.data.frozen - a.data.reserved) := by
  rw [AccountInfo.spendable, if_neg (fun hnot => hnot.2 h)]

private theorem spendable_pinned (hfree : a.data.free ≠ 0)
    (h : ¬ (a.consumers = 0 ∨ 1 < a.providers)) :
    a.spendable C = a.data.free -
      max (a.data.frozen - a.data.reserved) C.existentialDeposit := by
  rw [AccountInfo.spendable, if_pos ⟨hfree, h⟩]

private theorem spendable_kept (hle : amount ≤ a.spendable C)
    (hn : C.existentialDeposit ≤ a.data.free - amount)
    (h : a' = { a with data := { a.data with free := a.data.free - amount } }) :
    a'.spendable C = restAfter (a.dustLimit C) (a.spendable C) amount ∧
      a'.dustLimit C = a.dustLimit C := by
  have hed := C.ed_pos
  have hfree : a.spendable C ≤ a.data.free := Nat.sub_le _ _
  have hspend : a'.spendable C = a.spendable C - amount := by
    by_cases hfreed : a.consumers = 0 ∨ 1 < a.providers
    · rw [spendable_freed hfreed, spendable_freed (by rw [h]; exact hfreed), h]
      dsimp only
      omega
    · rw [spendable_pinned (by omega) hfreed,
        spendable_pinned (by rw [h]; dsimp only; omega)
          (by rw [h]; exact hfreed), h]
      dsimp only
      omega
  constructor
  · rw [hspend, restAfter, if_neg]
    unfold AccountInfo.dustLimit
    split_ifs <;> omega
  · have hheld : a'.data.free - a'.spendable C =
        a.data.free - a.spendable C := by
      rw [hspend, h]
      dsimp only
      omega
    unfold AccountInfo.dustLimit
    rw [hheld, h, if_pos hn,
      if_pos (show C.existentialDeposit ≤ a.data.free by omega)]

/-- What can be spent after a payment, and from where on it is lost. -/
theorem Lowered.spendable (ha : a.Consistent C)
    (hpos : amount ≠ 0) (hle : amount ≤ a.spendable C)
    (h : Lowered C a (a.data.free - amount) a' dust) :
    a'.spendable C = restAfter (a.dustLimit C) (a.spendable C) amount ∧
      (a'.spendable C = 0 ∨ a'.dustLimit C = a.dustLimit C) := by
  have hfree : a.spendable C ≤ a.data.free := Nat.sub_le _ _
  by_cases hn : C.existentialDeposit ≤ a.data.free - amount
  · obtain ⟨ha', -⟩ := h.kept (.inl hn)
    rw [if_neg (by omega), Nat.sub_zero] at ha'
    exact (spendable_kept hle hn ha').imp_right .inr
  · have hfreed : a.consumers = 0 ∨ 1 < a.providers := by
      by_contra hpinned
      rw [spendable_pinned (by omega) hpinned] at hle
      omega
    have hspend := spendable_freed (C := C) hfreed
    -- the rest is lost unless there is a further provider
    have hlost : a'.spendable C = 0 → a.dustLimit C = C.existentialDeposit -
          (a.data.free - a.spendable C) →
        a'.spendable C = restAfter (a.dustLimit C) (a.spendable C) amount ∧
          (a'.spendable C = 0 ∨ a'.dustLimit C = a.dustLimit C) := by
      intro hnone hlimit
      rw [hlimit, restAfter, if_pos (by omega)]
      exact ⟨hnone, .inl hnone⟩
    by_cases hzero : a.data.reserved = 0
    · obtain ⟨hdata, -⟩ := h.lost (Nat.not_le.mp hn) hzero
      refine hlost ?_ (if_neg fun h => h.1 hzero)
      rw [AccountInfo.spendable, hdata]
      exact Nat.zero_sub _
    · have hconsumed := ha.consumed (by simp [AccountData.consumes, hzero])
      obtain ⟨ha', -⟩ := h.kept (.inr hzero)
      by_cases hmore : (if C.existentialDeposit ≤ a.data.free then 2 else 1) <
          a.providers
      · have hlimit : a.dustLimit C = 0 := if_pos ⟨hzero, hmore⟩
        have hmore' : 1 < a'.providers := by
          rw [ha']
          dsimp only
          split_ifs at hmore ⊢ <;> omega
        refine ⟨?_, .inr ?_⟩
        · rw [hlimit, spendable_freed (.inr hmore'), hspend, ha', restAfter,
            if_neg (Nat.not_lt_zero _)]
          dsimp only
          omega
        · rw [hlimit, AccountInfo.dustLimit, if_pos]
          rw [ha'] at hmore' ⊢
          exact ⟨hzero, by rwa [if_neg hn]⟩
      · refine hlost ?_ (if_neg fun h => hmore h.2)
        have hless : ¬ (a'.consumers = 0 ∨ 1 < a'.providers) := by
          rw [ha']
          dsimp only
          split_ifs at hmore ⊢ <;> omega
        by_cases hnone : a'.data.free = 0
        · rw [AccountInfo.spendable, hnone]
          exact Nat.zero_sub _
        · rw [spendable_pinned hnone hless, ha']
          dsimp only
          omega

/-- An account stays consistent, and nothing but the payment and the dust is
taken from it. -/
theorem Lowered.consistent {n : Nat} (h : Lowered C a n a' dust)
    (hle : n ≤ a.data.free) (ha : a.Consistent C) :
    a'.Consistent C ∧ a'.total + dust + (a.data.free - n) = a.total := by
  by_cases hkeep : C.existentialDeposit ≤ n ∨ a.data.reserved ≠ 0
  · obtain ⟨rfl, rfl⟩ := h.kept hkeep
    refine ⟨⟨fun hn => ?_, ha.consumed⟩, ?_⟩
    · dsimp only at hn ⊢
      rw [if_neg (by omega)]
      exact ha.provided (by omega)
    · simp only [AccountInfo.total]
      omega
  · have hzero : a.data.reserved = 0 := by omega
    obtain ⟨hdata, rfl⟩ := h.lost (by omega) hzero
    obtain ⟨hprov, hcons⟩ := AccountInfo.consistent_default C
    rw [AccountInfo.total, AccountInfo.total, hdata, hzero]
    refine ⟨⟨fun hn => ?_, fun hc => ?_⟩, ?_⟩
    · rw [hdata] at hn
      exact absurd (hprov hn) (Nat.lt_irrefl 0)
    · rw [hdata] at hc
      cases hc
    · show 0 + 0 + _ + _ = _
      omega

end Lowered

/-- Out of an account every amount that can be spent can be taken. -/
theorem decreaseBalance_ok (hs : w.Sound C) (hpos : amount ≠ 0)
    (hle : amount ≤ (w.info who).spendable C) {p : Preservation}
    (hred : amount ≤ w.reducibleBalance C who p .polite) :
    ∃ w' dust, w.decreaseBalance C who amount p .polite =
        .ok (w'.handleDust dust) ∧ ChangesOnly who w w' ∧
      Lowered C (w.info who) ((w.info who).data.free - amount) (w'.info who)
        (dust.getD 0) := by
  have hlow := (canWithdraw_ok hs hpos hle
    (nofun : false = true → w.Spares C who amount)).1
  obtain ⟨hforce, hfree⟩ := spendable_le (C := C) w who .force
  generalize hf : (fun a : AccountData => do
    ensure (a.free - ((w.info who).data.free - amount) ≤
      w.reducibleBalance C who .expendable .force) (C.err .insufficientBalance)
    pure { a with free := (w.info who).data.free - amount }) = f
  have hwrite : f (w.info who).data = .ok { (w.info who).data with
      free := (w.info who).data.free - amount } := by
    rw [← hf]
    exact bind_eq_ok.mpr ⟨(), ensure_eq_ok.mpr (by omega), rfl⟩
  have hdecrease : ∀ w' dust, w.tryMutateAccount C who f = .ok (w', dust) →
      w.decreaseBalance C who amount p .polite = .ok (w'.handleDust dust) := by
    intro w' dust hmut
    unfold decreaseBalance writeBalance
    simp only [Nat.min_eq_left hred]
    refine bind_eq_ok.mpr ⟨(), ensure_eq_ok.mpr (by omega), ?_⟩
    exact bind_eq_ok.mpr ⟨(w', dust), by rw [hf, hmut], rfl⟩
  by_cases hkeep : C.existentialDeposit ≤ (w.info who).data.free - amount
  · obtain ⟨w', hmut, hchange, -, -, hinfo⟩ :=
      tryMutateAccount_keep hwrite (hs.consistent who) hkeep
    refine ⟨w', none, hdecrease w' none hmut, hchange, fun _ => ⟨?_, rfl⟩,
      fun h => absurd hkeep (Nat.not_le.mpr h)⟩
    rw [hinfo (by omega), if_neg (by omega), Nat.sub_zero]
  · have hcan : w.canDecProvider who = true := by
      by_contra hnot
      exact hkeep (hlow (Bool.eq_false_iff.mpr hnot))
    obtain ⟨w', dust, hmut, hrest⟩ := tryMutateAccount_drop hwrite
      (hs.consistent who) hcan (Nat.not_le.mp hkeep)
    exact ⟨w', dust, hdecrease w' dust hmut, hrest⟩

/-- Into a consistent account every amount can be put that fits and leaves it
with the existential deposit. -/
theorem increaseBalance_ok (ha : (w.info who).Consistent C) (hpos : amount ≠ 0)
    (hfits : (w.info who).data.free + amount < 2 ^ 128)
    (hed : C.existentialDeposit ≤ (w.info who).data.free + amount) :
    ∃ w', w.increaseBalance C who amount = .ok w' ∧ ChangesOnly who w w' ∧
      (w'.info who).data =
        { (w.info who).data with free := (w.info who).data.free + amount } ∧
      (w'.info who).Consistent C := by
  generalize hf : (fun a : AccountData => do
    ensure (a.free - ((w.info who).data.free + amount) ≤
      w.reducibleBalance C who .expendable .force) (C.err .insufficientBalance)
    pure { a with free := (w.info who).data.free + amount }) = f
  have hwrite : f (w.info who).data =
      .ok { (w.info who).data with
        free := (w.info who).data.free + amount } := by
    rw [← hf]
    refine bind_eq_ok.mpr ⟨(), ensure_eq_ok.mpr ?_, rfl⟩
    omega
  obtain ⟨w', hmut, hchange, hdata, ha', -⟩ :=
    tryMutateAccount_keep hwrite ha hed
  refine ⟨w', ?_, hchange, hdata, ha'⟩
  unfold increaseBalance writeBalance
  simp only [saturatingAdd_eq hfits]
  rw [if_neg (Nat.not_lt.mpr hed), if_neg (by omega)]
  exact bind_eq_ok.mpr ⟨(w', none), by rw [hf, hmut], rfl⟩

/-! ## Transfers -/

/-- What an account can take from another one always fits. -/
theorem deposit_fits (hs : w.Sound C) (hne : source ≠ dest)
    (hle : amount ≤ (w.info source).data.free) :
    (w.info dest).data.reserved + ((w.info dest).data.free + amount)
      < 2 ^ 128 := by
  have htotal := total_add_total_le w hne
  have hissued := hs.issued
  have hlt := hs.issuance_lt
  unfold AccountInfo.total at htotal hissued
  omega

theorem canDeposit_ok (hs : w.Sound C) (hne : source ≠ dest)
    (hle : amount ≤ (w.info source).data.free)
    (hed : C.existentialDeposit ≤ (w.info dest).data.free + amount) :
    (w.canDeposit C dest amount).intoResult = .ok () := by
  have hfits := deposit_fits hs hne hle
  unfold canDeposit
  dsimp only
  split
  · rfl
  · rw [if_neg (by unfold maxValue; omega), if_neg (by omega),
      if_neg (by unfold maxValue; omega)]
    rfl

private theorem sound_of_moved {w₁ w₂ : Balances A} (hs : w.Sound C)
    (hne : source ≠ dest) {dust : Option Nat}
    (hle : amount ≤ (w.info source).data.free)
    (hdec : ChangesOnly source w w₁)
    (hlow : Lowered C (w.info source) ((w.info source).data.free - amount)
      (w₁.info source) (dust.getD 0))
    (hinc : ChangesOnly dest (w₁.handleDust dust) w₂)
    (hdata₂ : (w₂.info dest).data = { (w.info dest).data with free := (w.info
      dest).data.free + amount })
    (hdest₂ : (w₂.info dest).Consistent C) : w₂.Sound C := by
  have hissuance : w₂.totalIssuance = w.totalIssuance - dust.getD 0 := by
    rw [hinc.issuance, ← hdec.issuance]
    rfl
  obtain ⟨hsource₁, htotal₁⟩ :=
    hlow.consistent (Nat.sub_le _ _) (hs.consistent source)
  have hdest : w₁.info dest = w.info dest := hdec.info hne.symm
  have hsum₁ := hdec.sum_total
  have hsum₂ := hinc.sum_total
  rw [show (w₁.handleDust dust).account = w₁.account from rfl,
    show (w₁.handleDust dust).info dest = w₁.info dest from rfl, hdest] at hsum₂
  have htotal₂ : (w₂.info dest).total = (w.info dest).total + amount := by
    simp only [AccountInfo.total, hdata₂]
    omega
  have hissued := hs.issued
  have hlt := hs.issuance_lt
  refine ⟨by omega, by omega, fun who => ?_⟩
  by_cases hwho : who = dest
  · rw [hwho]
    exact hdest₂
  rw [hinc.info hwho]
  by_cases hsrc : who = source
  · rw [hsrc]
    exact hsource₁
  · rw [show (w₁.handleDust dust).info who = w.info who from hdec.info hsrc]
    exact hs.consistent who

/-- An account pays every amount it can spend, or spare if it has to stay, to an
account that then has the existential deposit. -/
theorem transfer_covered (hs : w.Sound C) (hne : source ≠ dest)
    (hpos : amount ≠ 0) (hle : amount ≤ (w.info source).spendable C)
    (hed : C.existentialDeposit ≤ (w.info dest).data.free + amount)
    (req : ExistenceRequirement)
    (hstay : req = .keepAlive → w.Spares C source amount) :
    ∃ w', w.transfer C source dest amount req = .ok w' ∧ w'.Sound C ∧
      (w'.info dest).data.free = (w.info dest).data.free + amount ∧
      (∀ x, x ≠ source → x ≠ dest → w'.info x = w.info x) ∧
      (w'.info source).spendable C = restAfter ((w.info source).dustLimit C)
        ((w.info source).spendable C) amount ∧
      ((w'.info source).spendable C = 0 ∨
        (w'.info source).dustLimit C = (w.info source).dustLimit C) := by
  have hfree := hle.trans (Nat.le_trans (spendable_le w source .polite).1
    (spendable_le w source .polite).2)
  obtain ⟨p, hgo, hkeep, hred⟩ : ∃ p,
      w.transfer C source dest amount req =
        w.fungibleTransfer C source dest amount p ∧
      (decide (p ≠ .expendable) = true → w.Spares C source amount) ∧
      amount ≤ w.reducibleBalance C source p .polite := by
    unfold transfer
    rw [if_neg (by simp [hpos, hne])]
    cases req with
    | allowDeath =>
        refine ⟨.expendable, rfl, nofun, ?_⟩
        rwa [reducibleBalance_expendable]
    | keepAlive =>
        have hspares := hstay rfl
        exact ⟨.preserve, rfl, fun _ => hspares,
          (le_reducibleBalance_preserve hpos).mpr hspares⟩
  obtain ⟨rest, hwithdraw⟩ := (canWithdraw_ok hs hpos hle hkeep).2
  have hdeposit := canDeposit_ok hs hne hfree hed
  have hfits := deposit_fits hs hne hfree
  obtain ⟨w₁, dust, hdec, hchange₁, hlow⟩ := decreaseBalance_ok hs hpos hle hred
  have hdest : (w₁.handleDust dust).info dest = w.info dest :=
    hchange₁.info hne.symm
  obtain ⟨w₂, hinc, hchange₂, hdata₂, hdest₂⟩ :=
    @increaseBalance_ok A C dest (w₁.handleDust dust) amount _
      (by rw [hdest]; exact hs.consistent dest) hpos
      (by rw [hdest]; omega) (by rw [hdest]; exact hed)
  rw [hdest] at hdata₂
  have hsource : w₂.info source = w₁.info source := hchange₂.info hne
  rw [← hsource] at hlow
  refine ⟨w₂, ?_, ?_, by rw [hdata₂], fun x hs₁ hd₁ => ?_,
    hlow.spendable (hs.consistent source) hpos hle⟩
  · rw [hgo]
    unfold fungibleTransfer
    refine bind_eq_ok.mpr ⟨rest, hwithdraw, bind_eq_ok.mpr ⟨(), hdeposit, ?_⟩⟩
    rw [if_neg hne]
    refine bind_eq_ok.mpr ⟨_, hdec, ?_⟩
    rw [hinc]
    rfl
  · rw [hsource] at hlow
    exact sound_of_moved hs hne hfree hchange₁ hlow hchange₂ hdata₂ hdest₂
  · rw [hchange₂.info hd₁]
    exact hchange₁.info hs₁

theorem transfer_lacking (hne : source ≠ dest)
    (hlt : (w.info source).spendable C < amount) (req : ExistenceRequirement) :
    ∀ w', w.transfer C source dest amount req ≠ .ok w' := by
  intro w' h
  unfold transfer fungibleTransfer at h
  rw [if_neg (by simp [hne]; omega)] at h
  obtain ⟨rest, hwithdraw, -⟩ := bind_eq_ok.mp h
  have hle := (canWithdraw_eq_ok (by omega) hwithdraw).2.1
  rw [reducibleBalance_expendable] at hle
  omega

/-- The whole balance of an account can be transferred exactly when the account
may die and nothing pins it. -/
theorem transfer_all_iff (hs : w.Sound C) (hne : source ≠ dest)
    (hpos : (w.info source).data.free ≠ 0)
    (hed : C.existentialDeposit ≤ (w.info dest).data.free + (w.info
      source).data.free) (req : ExistenceRequirement) :
    (∃ w', w.transfer C source dest (w.info source).data.free req = .ok w' ∧
      (w'.info dest).data.free =
        (w.info dest).data.free + (w.info source).data.free) ↔
      req = .allowDeath ∧ w.Unpinned source := by
  constructor
  · rintro ⟨w', h, -⟩
    unfold transfer fungibleTransfer at h
    rw [if_neg (by simp [hne, hpos])] at h
    obtain ⟨rest, hwithdraw, -⟩ := bind_eq_ok.mp h
    obtain ⟨hkeep, hu⟩ := unpinned_of_canWithdraw hpos hwithdraw
    cases req with
    | allowDeath => exact ⟨rfl, hu⟩
    | keepAlive => cases hkeep
  · rintro ⟨rfl, hu⟩
    have hspend := hu.reducibleBalance (C := C) .polite
    rw [reducibleBalance_expendable] at hspend
    obtain ⟨w', hw', -, hdest, -⟩ := transfer_covered hs hne hpos
      (Nat.le_of_eq hspend.symm) hed .allowDeath nofun
    exact ⟨w', hw', hdest⟩

end Balances

end Thxnet.Frame
