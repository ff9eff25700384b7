import Thxnet.Frame.Assets
import Thxnet.Frame.Transfers

/-!
# What is set aside

A pallet that reserves deposits relies on the currency keeping them apart.
`Reserves C` is that contract: what each account has set aside, which storages
are in order, and that each operation of the currency `C` changes what is set
aside by what it was asked to, and nothing else.

`pallet_balances` keeps the contract in storages that are `Anchored`, where an
account with holds or freezes has a provider.  `pallet_assets` does not touch
what is set aside.
-/

namespace Thxnet.Frame

open Thxnet.Lib

/-! ## The contract -/

/-- What accounts have set aside in a currency, and how the operations of the
currency change it in storages that are in order. -/
structure Reserves {A W : Type} [DecidableEq A] (C : ReservableCurrency A W)
    where
  reserved : W → A → Nat
  InOrder : W → Prop
  reserve : ∀ {w w' who amount}, InOrder w → C.reserve w who amount = .ok w' →
    InOrder w' ∧ ∀ x, reserved w' x =
      reserved w x + (if x = who then amount else 0)
  unreserve : ∀ {w} who amount, InOrder w →
    InOrder (C.unreserve w who amount) ∧
    ∀ x, reserved (C.unreserve w who amount) x =
      reserved w x - (if x = who then amount else 0)
  transfer : ∀ {w w' source dest amount req}, InOrder w →
    C.transfer w source dest amount req = .ok w' →
    InOrder w' ∧ ∀ x, reserved w' x = reserved w x
  withdraw : ∀ {w w' who amount reasons req}, InOrder w →
    C.withdraw w who amount reasons req = .ok w' →
    InOrder w' ∧ ∀ x, reserved w' x = reserved w x

/-! ## The balances pallet -/

namespace Balances

variable {A : Type} {C : BalancesConfig}

/-- An account with holds or freezes has a provider, and free balances are
`u128`. -/
structure Anchored (w : Balances A) : Prop where
  provided : ∀ who, (w.info who).data.consumes = true →
    0 < (w.info who).providers
  fits : ∀ who, (w.info who).data.free ≤ maxValue 128

/-- The storage `w'` has `reserved` set aside, and no more frozen than `w`. -/
structure Leaves (w w' : Balances A) (reserved : A → Nat) : Prop where
  anchored : w'.Anchored
  reserved : ∀ x, (w'.info x).data.reserved = reserved x
  frozen_le : ∀ x, (w'.info x).data.frozen ≤ (w.info x).data.frozen

/-- What is set aside. -/
def reservedBalance (w : Balances A) (who : A) : Nat :=
  (w.info who).data.reserved

variable {who : A} {r : A → Nat} {data : AccountData}
    {f : AccountData → Except DispatchError AccountData} {w w' w₁ : Balances A}
    {amount value : Nat} {dust : Option Nat}

/-- Only stored accounts need to be looked at. -/
theorem anchored_of_keys
    (hkeys : ∀ who ∈ w.account.keys, ((w.info who).data.consumes = true → 0 <
      (w.info who).providers) ∧ (w.info who).data.free ≤ maxValue 128) :
    w.Anchored := by
  refine ⟨fun who hcons => ?_, fun who => ?_⟩ <;>
    by_cases hwho : who ∈ w.account.keys
  · exact (hkeys who hwho).1 hcons
  · rw [info_of_notMem hwho] at hcons
    cases hcons
  · exact (hkeys who hwho).2
  · rw [info_of_notMem hwho]
    exact Nat.zero_le _

theorem Leaves.refl (h : w.Anchored) : Leaves w w w.reservedBalance :=
  ⟨h, fun _ => rfl, fun _ => Nat.le_refl _⟩

theorem Leaves.trans {w₂ : Balances A} {r' : A → Nat} (h : Leaves w w₁ r)
    (h' : Leaves w₁ w₂ r') : Leaves w w₂ r' :=
  ⟨h'.anchored, h'.reserved,
    fun x => (h'.frozen_le x).trans (h.frozen_le x)⟩

theorem Leaves.reservedBalance_eq (h : Leaves w w' r) :
    w'.reservedBalance = r :=
  funext h.reserved

theorem consumes_eq_false {d : AccountData} :
    d.consumes = false ↔ d.reserved = 0 ∧ d.frozen = 0 := by
  simp [AccountData.consumes]

theorem Leaves.dropImbalance (h : Leaves w w' r) (amount : Nat) :
    Leaves w (w'.dropImbalance amount) r :=
  ⟨⟨h.anchored.provided, h.anchored.fits⟩, h.reserved, h.frozen_le⟩

variable [DecidableEq A]

/-! ### References -/

theorem incConsumers_eq_ok :
    w.incConsumers C who = .ok w' ↔
      0 < (w.info who).providers ∧ (w.info who).consumers < C.maxConsumers ∧
      w.mutate who (fun a =>
        { a with consumers := saturatingAdd 32 a.consumers 1 }) = w' := by
  simp only [incConsumers, do_eq_ok]

/-- An account with a consumer does not lose its last provider. -/
theorem decProviders_of_consumers (h : w.decProviders who = .ok w') :
    ChangesOnly who w w' ∧
      (0 < (w.info who).consumers → 0 < (w'.info who).providers) := by
  unfold decProviders at h
  cases hget : w.account.get who with
  | none =>
      rw [hget] at h
      cases h
      refine ⟨.refl who w, fun hpos => ?_⟩
      unfold info at hpos
      rw [hget] at hpos
      exact absurd hpos (Nat.lt_irrefl 0)
  | some a =>
      have hinfo : w.info who = a := by
        unfold info
        rw [hget]
        rfl
      rw [hget] at h
      dsimp only at h
      generalize hp : (if a.providers = 0 then 1 else a.providers) = p at h
      have hpos : 0 < p := by
        by_cases ha : a.providers = 0
        · rw [if_pos ha] at hp
          omega
        · rw [if_neg ha] at hp
          omega
      rw [hinfo]
      by_cases hdead : p = 1 ∧ a.consumers = 0 ∧ a.sufficients = 0
      · rw [if_pos hdead] at h
        cases h
        exact ⟨changesOnly_remove w who, fun h => by omega⟩
      · rw [if_neg hdead] at h
        by_cases hlast : p = 1 ∧ 0 < a.consumers
        · rw [if_pos hlast] at h
          cases h
        · rw [if_neg hlast] at h
          cases h
          refine ⟨changesOnly_mutate w who _, fun hcons => ?_⟩
          rw [info_mutate_self]
          show 0 < p - 1
          omega

omit [DecidableEq A] in
private theorem did_consume (d : AccountData) :
    (decide (d ≠ default) && d.consumes) = d.consumes := by
  by_cases hdef : d = default
  · rw [hdef]
    rfl
  · simp [hdef]

/-- The first two adjustments leave an account with holds or freezes its
provider. -/
private theorem Anchored.prepared {w₂ : Balances A} {gains releases : Bool}
    (h : w.Anchored)
    (hw₁ : (if gains = true then w.incProviders who else w) = w₁)
    (hw₂ : (if releases = true then w₁.decConsumers who else w₁) = w₂) :
    ChangesOnly who w w₂ ∧
      ((w.info who).data.consumes = true → 0 < (w₂.info who).providers) := by
  have hfacts₁ : ChangesOnly who w w₁ ∧
      ((w.info who).data.consumes = true → 0 < (w₁.info who).providers) := by
    subst hw₁
    split
    · exact ⟨changesOnly_mutate w who _, fun _ => (incProviders_info w who).1⟩
    · exact ⟨.refl who w, h.provided who⟩
  subst hw₂
  split
  · refine ⟨hfacts₁.1.trans (changesOnly_mutate w₁ who _), fun hc => ?_⟩
    rw [decConsumers, info_mutate_self]
    exact hfacts₁.2 hc
  · exact hfacts₁

/-- References are taken and given up such that an account that is to have
holds or freezes has a provider. -/
theorem Anchored.adjustReferences (h : w.Anchored)
    (hadjust : w.adjustReferences C who (w.info who).data data = .ok w') :
    ChangesOnly who w w' ∧
      (data.consumes = true → 0 < (w'.info who).providers) := by
  simp only [Balances.adjustReferences, bind_eq_ok, did_consume] at hadjust
  obtain ⟨w₃, h₃, w₄, h₄, h₅⟩ := hadjust
  generalize hw₁ : (if (!decide (C.existentialDeposit ≤
    (w.info who).data.free) && decide (C.existentialDeposit ≤ data.free)) =
      true then w.incProviders who else w) = w₁ at h₃
  generalize hw₂ : (if ((w.info who).data.consumes && !data.consumes) = true
    then w₁.decConsumers who else w₁) = w₂ at h₃
  have hfacts₂ := h.prepared hw₁ hw₂
  have hfacts₃ : ChangesOnly who w w₃ ∧
      (data.consumes = true → 0 < (w₃.info who).providers) := by
    split at h₃
    · obtain ⟨hprov, _, rfl⟩ := incConsumers_eq_ok.mp h₃
      refine ⟨hfacts₂.1.trans (changesOnly_mutate w₂ who _), fun _ => ?_⟩
      rw [info_mutate_self]
      exact hprov
    · next hnot =>
        cases h₃
        refine ⟨hfacts₂.1, fun hc => hfacts₂.2 ?_⟩
        simpa [hc] using hnot
  have hfacts₄ : ChangesOnly who w w₄ ∧ (data.consumes = true →
      0 < (w₄.info who).providers ∧ 0 < (w₄.info who).consumers) := by
    split at h₄
    · obtain ⟨hprov, _, rfl⟩ := incConsumers_eq_ok.mp h₄
      refine ⟨hfacts₃.1.trans (changesOnly_mutate w₃ who _), fun _ => ?_⟩
      rw [info_mutate_self]
      refine ⟨hprov, ?_⟩
      simp only [saturatingAdd, maxValue]
      omega
    · next hnot =>
        cases h₄
        refine ⟨hfacts₃.1, fun hc => ⟨hfacts₃.2 hc, ?_⟩⟩
        simp [hc] at hnot
        omega
  split at h₅
  · obtain ⟨hchange, hkept⟩ := decProviders_of_consumers h₅
    exact ⟨hfacts₄.1.trans hchange, fun hc => hkept (hfacts₄.2 hc).2⟩
  · cases h₅
    exact ⟨hfacts₄.1, fun hc => (hfacts₄.2 hc).1⟩

/-- With more free balance, and no holds or freezes where there were none, the
references can be adjusted. -/
theorem Anchored.adjustReferences_ok (h : w.Anchored)
    (hfree : (w.info who).data.free ≤ data.free)
    (hcons : data.consumes = true → (w.info who).data.consumes = true) :
    ∃ w', w.adjustReferences C who (w.info who).data data = .ok w' := by
  simp only [Balances.adjustReferences, did_consume]
  generalize hw₁ : (if (!decide (C.existentialDeposit ≤
    (w.info who).data.free) && decide (C.existentialDeposit ≤ data.free)) =
      true then w.incProviders who else w) = w₁
  generalize hw₂ : (if ((w.info who).data.consumes && !data.consumes) = true
    then w₁.decConsumers who else w₁) = w₂
  have hheld := (h.prepared hw₁ hw₂).2
  have hnew : (!(w.info who).data.consumes && data.consumes) = false := by
    cases hc : data.consumes with
    | false => exact Bool.and_false _
    | true => rw [hcons hc]; rfl
  have hlost : (decide (C.existentialDeposit ≤ (w.info who).data.free) &&
      !decide (C.existentialDeposit ≤ data.free)) = false := by
    by_cases hed : C.existentialDeposit ≤ (w.info who).data.free
    · simp [hed.trans hfree]
    · simp [hed]
  simp only [hnew, hlost, Bool.false_eq_true, if_false]
  obtain ⟨w₄, h₄⟩ : ∃ w₄, (if (data.consumes &&
      decide ((w₂.info who).consumers = 0)) = true then
        w₂.incConsumers C who else .ok w₂) = .ok w₄ := by
    split
    · next hbump =>
        simp only [Bool.and_eq_true, decide_eq_true_eq] at hbump
        exact ⟨_, incConsumers_eq_ok.mpr ⟨hheld (hcons hbump.1),
          by rw [hbump.2]; exact C.maxConsumers_pos, rfl⟩⟩
    · exact ⟨w₂, rfl⟩
  exact ⟨w₄, bind_eq_ok.mpr ⟨w₂, rfl, bind_eq_ok.mpr ⟨w₄, h₄, rfl⟩⟩⟩

/-! ### Writing an account -/

private theorem leaves_of_changesOnly (h : w.Anchored)
    (hchange : ChangesOnly who w w')
    (hheld : (w'.info who).data.consumes = true → 0 < (w'.info who).providers)
    (hfits : (w'.info who).data.free ≤ maxValue 128)
    (hfrozen : (w'.info who).data.frozen ≤ (w.info who).data.frozen) :
    Leaves w w' (Function.update w.reservedBalance who
      (w'.info who).data.reserved) := by
  refine ⟨⟨fun x hx => ?_, fun x => ?_⟩, fun x => ?_, fun x => ?_⟩ <;>
    by_cases hne : x = who
  · subst hne
    exact hheld hx
  · rw [hchange.info hne] at hx ⊢
    exact h.provided x hx
  · subst hne
    exact hfits
  · rw [hchange.info hne]
    exact h.fits x
  · subst hne
    rw [Function.update_self]
  · rw [Function.update_of_ne hne, hchange.info hne]
    rfl
  · subst hne
    exact hfrozen
  · rw [hchange.info hne]

private theorem leaves_store (h : w.Anchored) (hchange : ChangesOnly who w w₁)
    (hheld : data.consumes = true → 0 < (w₁.info who).providers)
    (hfits : data.free ≤ maxValue 128)
    (hfrozen : data.frozen ≤ (w.info who).data.frozen) :
    Leaves w (w₁.store who data)
      (Function.update w.reservedBalance who data.reserved) := by
  have hchanged := hchange.trans (changesOnly_store w₁ who data)
  by_cases hkept : 0 < (w₁.info who).providers ∨ 0 < (w₁.info who).sufficients
  · have hinfo : (w₁.store who data).info who =
        { w₁.info who with data := data } := by
      rw [store, if_pos hkept, info_mutate_self]
    have hleaves := leaves_of_changesOnly h hchanged
      (by rw [hinfo]; exact hheld) (by rw [hinfo]; exact hfits)
      (by rw [hinfo]; exact hfrozen)
    rwa [hinfo] at hleaves
  · -- the account goes, and there was nothing to set aside
    have hinfo : (w₁.store who data).info who = default := by
      rw [store, if_neg hkept, info_remove_self]
    have hnone : data.consumes = false := by
      cases hc : data.consumes with
      | false => rfl
      | true => exact absurd (.inl (hheld hc)) hkept
    have hleaves := leaves_of_changesOnly h hchanged
      (by rw [hinfo]; intro hc; cases hc) (by rw [hinfo]; exact Nat.zero_le _)
      (by rw [hinfo]; exact Nat.zero_le _)
    rw [hinfo] at hleaves
    rwa [(consumes_eq_false.mp hnone).1]

/-- An account that is written to has set aside what was written. -/
theorem Anchored.tryMutateAccount (h : w.Anchored)
    (hmut : w.tryMutateAccount C who f = .ok (w', dust))
    (hf : f (w.info who).data = .ok data) (hfits : data.free ≤ maxValue 128)
    (hfrozen : data.frozen ≤ (w.info who).data.frozen) :
    Leaves w w' (Function.update w.reservedBalance who data.reserved) := by
  simp only [Balances.tryMutateAccount, hf, do_eq_ok, Except.ok.injEq,
    exists_eq_left'] at hmut
  obtain ⟨w₁, hadjust, heq⟩ := hmut
  obtain ⟨hchange, hheld⟩ := h.adjustReferences hadjust
  split at heq
  · next hdust =>
      cases heq
      rw [hdust.2]
      exact leaves_store h hchange (fun hc => by cases hc) (Nat.zero_le _)
        (Nat.zero_le _)
  · cases heq
    exact leaves_store h hchange hheld hfits hfrozen

theorem Anchored.writeFree {n : Nat} (h : w.Anchored)
    (hmut : w.tryMutateAccount C who f = .ok (w', dust))
    (hf : f (w.info who).data = .ok { (w.info who).data with free := n })
    (hfits : n ≤ maxValue 128) : Leaves w w' w.reservedBalance := by
  have hleaves := h.tryMutateAccount hmut hf hfits (Nat.le_refl _)
  rwa [show ({ (w.info who).data with free := n } : AccountData).reserved =
    w.reservedBalance who from rfl, Function.update_eq_self] at hleaves

theorem Anchored.changesOnly (h : w.Anchored)
    (hmut : w.tryMutateAccount C who f = .ok (w', dust)) :
    ChangesOnly who w w' := by
  simp only [Balances.tryMutateAccount, do_eq_ok] at hmut
  obtain ⟨data, _, w₁, hadjust, heq⟩ := hmut
  have hchange := (h.adjustReferences hadjust).1
  split at heq
  · cases heq
    exact hchange.trans (changesOnly_store w₁ who _)
  · cases heq
    exact hchange.trans (changesOnly_store w₁ who _)

/-! ### What the operations write -/

/-- `try_mutate_account` has written `data` to the account of `who`. -/
def Writes (C : BalancesConfig) (w : Balances A) (who : A) (data : AccountData)
    (p : Balances A × Option Nat) : Prop :=
  ∃ f, w.tryMutateAccount C who f = .ok p ∧ f (w.info who).data = .ok data

theorem tryMutateAccount_writes {p : Balances A × Option Nat}
    (hmut : w.tryMutateAccount C who f = .ok p) :
    ∃ data, f (w.info who).data = .ok data ∧ Writes C w who data p := by
  obtain ⟨data, hf, _⟩ := bind_eq_ok.mp hmut
  exact ⟨data, hf, f, hmut, hf⟩

private theorem writeBalance_writes {p : Balances A × Option Nat}
    (hok : w.writeBalance C who amount = .ok p) :
    Writes C w who { (w.info who).data with free := amount } p := by
  obtain ⟨data, hf, hwrites⟩ := tryMutateAccount_writes hok
  simp only [do_eq_ok] at hf
  obtain ⟨_, rfl⟩ := hf
  exact hwrites

theorem decreaseBalance_writes {preservation : Preservation}
    {fortitude : Fortitude}
    (hok : w.decreaseBalance C who amount preservation fortitude = .ok w') :
    let taken := min amount (w.reducibleBalance C who preservation fortitude)
    taken ≤ (w.info who).data.free ∧ ∃ w₁ dust, w' = w₁.handleDust dust ∧
      Writes C w who
        { (w.info who).data with free := (w.info who).data.free - taken }
        (w₁, dust) := by
  simp only [Balances.decreaseBalance, do_eq_ok] at hok
  obtain ⟨hfree, ⟨w₁, dust⟩, hwrite, heq⟩ := hok
  cases heq
  exact ⟨hfree, w₁, dust, rfl, writeBalance_writes hwrite⟩

theorem increaseBalance_writes (hok : w.increaseBalance C who amount = .ok w') :
    w' = w ∨ ∃ w₁ dust, w' = w₁.handleDust dust ∧
      Writes C w who { (w.info who).data with
        free := saturatingAdd 128 (w.info who).data.free amount }
        (w₁, dust) := by
  unfold Balances.increaseBalance at hok
  dsimp only at hok
  split at hok
  · cases hok
    exact .inl rfl
  · split at hok
    · cases hok
      exact .inl rfl
    · obtain ⟨⟨w₁, dust⟩, hwrite, heq⟩ := bind_eq_ok.mp hok
      cases heq
      exact .inr ⟨w₁, dust, rfl, writeBalance_writes hwrite⟩

variable {liveness : ExistenceRequirement}

theorem withdraw_writes {reasons : WithdrawReasons}
    (hok : w.withdraw C who value reasons liveness = .ok w') :
    w' = w ∨ ∃ w₁ dust,
      w' = (w₁.handleRawDust C dust).dropImbalance value ∧
      Writes C w who
        { (w.info who).data with free := (w.info who).data.free - value }
        (w₁, dust) := by
  unfold Balances.withdraw at hok
  split at hok
  · cases hok
    exact .inl rfl
  · obtain ⟨⟨w₁, dust⟩, hmut, heq⟩ := bind_eq_ok.mp hok
    cases heq
    obtain ⟨data, hf, hwrites⟩ := tryMutateAccount_writes hmut
    simp only [do_eq_ok] at hf
    obtain ⟨_, _, _, rfl⟩ := hf
    exact .inr ⟨w₁, dust, rfl, hwrites⟩

theorem reserve_writes (hok : w.reserve C who value = .ok w') :
    value = 0 ∧ w' = w ∨ value ≤ (w.info who).data.free ∧ ∃ w₁ dust,
      w' = w₁.handleRawDust C dust ∧ Writes C w who
        { (w.info who).data with
          free := (w.info who).data.free - value
          reserved := (w.info who).data.reserved + value } (w₁, dust) := by
  unfold Balances.reserve at hok
  by_cases hzero : value = 0
  · rw [if_pos hzero] at hok
    cases hok
    exact .inl ⟨hzero, rfl⟩
  · rw [if_neg hzero] at hok
    obtain ⟨⟨w₁, dust⟩, hmut, heq⟩ := bind_eq_ok.mp hok
    cases heq
    obtain ⟨data, hf, hwrites⟩ := tryMutateAccount_writes hmut
    simp only [do_eq_ok] at hf
    obtain ⟨hcovered, _, _, rfl⟩ := hf
    exact .inr ⟨hcovered, w₁, dust, rfl, hwrites⟩

/-! ### `ReservableCurrency` -/

omit [DecidableEq A] in
theorem update_reservedBalance [DecidableEq A] (w : Balances A) (who : A)
    {n : Nat} {g : A → Nat}
    (hself : n = g who) (hne : ∀ x, x ≠ who → g x = w.reservedBalance x) :
    Function.update w.reservedBalance who n = g := by
  funext x
  by_cases hx : x = who
  · subst hx
    rw [Function.update_self, hself]
  · rw [Function.update_of_ne hx, hne x hx]

theorem Anchored.reserve (h : w.Anchored)
    (hok : w.reserve C who value = .ok w') :
    Leaves w w' fun x =>
      w.reservedBalance x + (if x = who then value else 0) := by
  rcases reserve_writes hok with ⟨hzero, rfl⟩ |
    ⟨_, w₁, dust, rfl, f, hmut, hf⟩
  · simpa [hzero] using Leaves.refl h
  · refine Leaves.dropImbalance ?_ _
    have hleaves := h.tryMutateAccount hmut hf
      ((Nat.sub_le _ _).trans (h.fits who)) (Nat.le_refl _)
    rwa [update_reservedBalance w who (g := fun x =>
      w.reservedBalance x + (if x = who then value else 0))
      (by rw [if_pos rfl]; rfl) (fun x hx => by rw [if_neg hx]; rfl)]
      at hleaves

/-- What is reserved can always be released. -/
theorem Anchored.unreserve (h : w.Anchored) (who : A) (value : Nat) :
    Leaves w (w.unreserve C who value) fun x =>
      w.reservedBalance x - (if x = who then value else 0) := by
  unfold Balances.unreserve
  by_cases hnone : value = 0 ∨
      (w.info who).data.free + (w.info who).data.reserved = 0
  · rw [if_pos hnone]
    have hsame : (fun x => w.reservedBalance x - (if x = who then value else 0))
        = w.reservedBalance := by
      funext x
      by_cases hx : x = who
      · subst hx
        rw [if_pos rfl]
        unfold reservedBalance
        omega
      · rw [if_neg hx]
        rfl
    rw [hsame]
    exact .refl h
  · rw [if_neg hnone]
    have hfits := h.fits who
    obtain ⟨w₁, hadjust⟩ : ∃ w₁, w.adjustReferences C who (w.info who).data
        { (w.info who).data with
          reserved := (w.info who).data.reserved -
            min (w.info who).data.reserved value
          free := saturatingAdd 128 (w.info who).data.free
            (min (w.info who).data.reserved value) } = .ok w₁ :=
      h.adjustReferences_ok (by
        show _ ≤ saturatingAdd 128 _ _
        unfold saturatingAdd
        omega)
      (by
        simp only [AccountData.consumes, Bool.or_eq_true, decide_eq_true_eq]
        omega)
    obtain ⟨⟨w₂, dust⟩, hmut⟩ : ∃ p, w.tryMutateAccount C who (fun a => .ok
        { a with
          reserved := a.reserved - min a.reserved value
          free := saturatingAdd 128 a.free (min a.reserved value) }) =
        .ok p :=
      ⟨_, bind_eq_ok.mpr ⟨_, rfl, bind_eq_ok.mpr ⟨w₁, hadjust, rfl⟩⟩⟩
    rw [hmut]
    refine Leaves.dropImbalance ?_ _
    have hleaves := h.tryMutateAccount hmut rfl (Nat.min_le_right _ _)
      (Nat.le_refl _)
    rwa [update_reservedBalance w who (g := fun x =>
      w.reservedBalance x - (if x = who then value else 0))
      (by
        rw [if_pos rfl]
        show _ - min _ _ = (w.info who).data.reserved - value
        omega) (fun x hx => by rw [if_neg hx]; rfl)] at hleaves

omit [DecidableEq A] in
theorem creditReserved_eq_ok {a a' : AccountData} {status : BalanceStatus}
    (h : creditReserved a amount status = .ok a')
    (hfits : a.free ≤ maxValue 128) :
    a'.free ≤ maxValue 128 ∧ a'.frozen = a.frozen ∧
      a'.reserved = a.reserved + (if status = .reserved then amount else 0) ∧
      a'.free + a'.reserved = a.free + a.reserved + amount := by
  cases status with
  | free =>
      simp only [creditReserved, do_eq_ok] at h
      obtain ⟨hsum, rfl⟩ := h
      refine ⟨hsum, rfl, rfl, ?_⟩
      show a.free + amount + a.reserved = _
      omega
  | reserved =>
      simp only [creditReserved, do_eq_ok] at h
      obtain ⟨_, rfl⟩ := h
      refine ⟨hfits, rfl, rfl, ?_⟩
      show a.free + (a.reserved + amount) = _
      omega

/-- What is moved is taken off one account, and set aside again in the other if
that was asked for. -/
theorem Anchored.repatriateReserved {slashed beneficiary : A}
    {status : BalanceStatus} (h : w.Anchored)
    (hok : w.repatriateReserved C slashed beneficiary value status = .ok w') :
    Leaves w w' fun x => w.reservedBalance x -
      (if x = slashed
        then min value (w.reducibleTotalBalanceOnHold slashed) else 0) +
      (if x = beneficiary ∧ status = .reserved
        then min value (w.reducibleTotalBalanceOnHold slashed) else 0) := by
  have hhold : w.reducibleTotalBalanceOnHold slashed ≤
      w.reservedBalance slashed := Nat.sub_le _ _
  unfold Balances.repatriateReserved at hok
  by_cases hzero : value = 0
  · rw [if_pos hzero] at hok
    cases hok
    simpa [hzero] using Leaves.refl h
  rw [if_neg hzero] at hok
  generalize hactual : min value (w.reducibleTotalBalanceOnHold slashed) =
    actual at hok ⊢
  have hle : actual ≤ w.reservedBalance slashed := by omega
  dsimp only at hok
  by_cases hself : slashed = beneficiary
  · subst hself
    rw [if_pos rfl] at hok
    cases status with
    | free =>
        cases hok
        simpa using h.unreserve slashed _
    | reserved =>
        cases hok
        have hsame : (fun x => w.reservedBalance x -
            (if x = slashed then actual else 0) +
            (if x = slashed ∧ BalanceStatus.reserved = .reserved
              then actual else 0)) = w.reservedBalance := by
          funext x
          by_cases hx : x = slashed
          · subst hx
            simp only [and_self, if_true]
            omega
          · simp [hx]
        rw [hsame]
        exact .refl h
  · rw [if_neg hself] at hok
    simp only [do_eq_ok] at hok
    obtain ⟨_, credited, hcredit, ⟨w₁, dust₁⟩, hmut₁, ⟨w₂, dust₂⟩, hmut₂,
      heq⟩ := hok
    cases heq
    refine Leaves.dropImbalance (Leaves.dropImbalance ?_ _) _
    have hleaves₁ := h.tryMutateAccount hmut₁ rfl (h.fits slashed)
      (Nat.le_refl _)
    have hother : w₁.info beneficiary = w.info beneficiary :=
      (h.changesOnly hmut₁).info (Ne.symm hself)
    obtain ⟨hfree, hfrozen, hreserved, _⟩ := creditReserved_eq_ok hcredit
      (h.fits beneficiary)
    have hleaves₂ := hleaves₁.anchored.tryMutateAccount hmut₂ rfl hfree
      (by rw [hother, hfrozen])
    refine ⟨hleaves₂.anchored, fun x => ?_,
      (hleaves₁.trans hleaves₂).frozen_le⟩
    rw [hleaves₂.reserved x, hleaves₁.reservedBalance_eq, hreserved]
    by_cases hb : x = beneficiary
    · subst hb
      rw [Function.update_self, if_neg (Ne.symm hself)]
      simp [reservedBalance]
    · have hnot : ¬ (x = beneficiary ∧ status = .reserved) :=
        fun hx => hb hx.1
      rw [Function.update_of_ne hb, if_neg hnot]
      by_cases hx : x = slashed
      · subst hx
        rw [Function.update_self, if_pos rfl]
        rfl
      · rw [Function.update_of_ne hx, if_neg hx]
        rfl

/-! ### `Currency` -/

theorem Anchored.decreaseBalance {preservation : Preservation}
    {fortitude : Fortitude} (h : w.Anchored)
    (hok : w.decreaseBalance C who amount preservation fortitude = .ok w') :
    Leaves w w' w.reservedBalance := by
  obtain ⟨_, w₁, dust, rfl, f, hmut, hf⟩ := decreaseBalance_writes hok
  refine Leaves.dropImbalance ?_ _
  exact h.writeFree hmut hf ((Nat.sub_le _ _).trans (h.fits who))

theorem Anchored.increaseBalance (h : w.Anchored)
    (hok : w.increaseBalance C who amount = .ok w') :
    Leaves w w' w.reservedBalance := by
  rcases increaseBalance_writes hok with rfl | ⟨w₁, dust, rfl, f, hmut, hf⟩
  · exact .refl h
  · refine Leaves.dropImbalance ?_ _
    exact h.writeFree hmut hf (Nat.min_le_right _ _)

theorem Anchored.transfer {source dest : A} {req : ExistenceRequirement}
    (h : w.Anchored) (hok : w.transfer C source dest value req = .ok w') :
    Leaves w w' w.reservedBalance := by
  unfold Balances.transfer at hok
  split at hok
  · cases hok
    exact .refl h
  · simp only [fungibleTransfer, bind_eq_ok] at hok
    obtain ⟨_, _, _, _, hok⟩ := hok
    split at hok
    · cases hok
      exact .refl h
    · obtain ⟨w₁, hdec, heq⟩ := bind_eq_ok.mp hok
      cases heq
      have hleaves := h.decreaseBalance hdec
      cases hinc : w₁.increaseBalance C dest value with
      | error => exact hleaves
      | ok =>
          have hleaves₂ := hleaves.anchored.increaseBalance hinc
          rw [hleaves.reservedBalance_eq] at hleaves₂
          exact hleaves.trans hleaves₂

theorem Anchored.withdraw {reasons : WithdrawReasons} (h : w.Anchored)
    (hok : w.withdraw C who value reasons liveness = .ok w') :
    Leaves w w' w.reservedBalance := by
  rcases withdraw_writes hok with rfl | ⟨w₁, dust, rfl, f, hmut, hf⟩
  · exact .refl h
  · refine Leaves.dropImbalance (Leaves.dropImbalance ?_ _) _
    exact h.writeFree hmut hf ((Nat.sub_le _ _).trans (h.fits who))

/-! ### References of the assets pallet -/

/-- An account whose data does not change, and which keeps its providers. -/
theorem Anchored.mutate (h : w.Anchored) (who : A)
    {f : AccountInfo → AccountInfo}
    (hf : ∀ a, (f a).data = a.data ∧ (f a).providers = a.providers) :
    Leaves w (w.mutate who f) w.reservedBalance := by
  have hinfo := info_mutate_self w who f
  obtain ⟨hdata, hprov⟩ := hf (w.info who)
  rw [← hinfo] at hdata hprov
  have hleaves := leaves_of_changesOnly h (changesOnly_mutate w who f)
    (by rw [hdata, hprov]; exact h.provided who)
    (by rw [hdata]; exact h.fits who) (by rw [hdata])
  rwa [hdata, show (w.info who).data.reserved = w.reservedBalance who from rfl,
    Function.update_eq_self] at hleaves

/-- An account without a provider has nothing set aside. -/
theorem Anchored.remove (h : w.Anchored) (who : A)
    (hprov : (w.info who).providers = 0) :
    Leaves w (w.remove who) w.reservedBalance := by
  have hnone : (w.info who).data.consumes = false := by
    cases hc : (w.info who).data.consumes with
    | false => rfl
    | true =>
        have hpos := h.provided who hc
        omega
  have hgone := info_remove_self w who
  have hleaves := leaves_of_changesOnly h (changesOnly_remove w who)
    (by rw [hgone]; intro hc; cases hc) (by rw [hgone]; exact Nat.zero_le _)
    (by rw [hgone]; exact Nat.zero_le _)
  rwa [hgone, show (default : AccountInfo).data.reserved =
    w.reservedBalance who from (consumes_eq_false.mp hnone).1.symm,
    Function.update_eq_self] at hleaves

/-- What holds of two storages whenever references for assets are taken and
given up between them: data and providers stay, or an account without a provider
goes. -/
structure ReferenceRule (Q : Balances A → Balances A → Prop) : Prop where
  refl : ∀ w, Q w w
  trans : ∀ {w₁ w₂ w₃}, Q w₁ w₂ → Q w₂ w₃ → Q w₁ w₃
  mutate : ∀ w who f,
    (∀ a, (f a).data = a.data ∧ (f a).providers = a.providers) →
    Q w (w.mutate who f)
  remove : ∀ w who, (w.info who).providers = 0 → Q w (w.remove who)

theorem leaves_rule : ReferenceRule fun w w' : Balances A =>
    w.Anchored → Leaves w w' w.reservedBalance where
  refl := fun _ => .refl
  trans := by
    intro w₁ w₂ w₃ h₁₂ h₂₃ h
    have hleaves := h₁₂ h
    have hleaves' := h₂₃ hleaves.anchored
    rw [hleaves.reservedBalance_eq] at hleaves'
    exact hleaves.trans hleaves'
  mutate := fun _ who _ hf h => h.mutate who hf
  remove := fun _ who hprov h => h.remove who hprov

section ReferenceRule

variable {Q : Balances A → Balances A → Prop} (hQ : ReferenceRule Q)
include hQ

theorem ReferenceRule.incSufficients (w : Balances A) (who : A) :
    Q w (w.incSufficients who) := by
  refine hQ.mutate w who _ fun a => ?_
  by_cases ha : a.providers = 0 ∧ a.sufficients = 0
  · rw [if_pos ha]
    exact ⟨rfl, rfl⟩
  · rw [if_neg ha]
    exact ⟨rfl, rfl⟩

theorem ReferenceRule.decSufficients (w : Balances A) (who : A) :
    Q w (w.decSufficients who) := by
  unfold Balances.decSufficients
  cases hget : w.account.get who with
  | none => exact hQ.refl w
  | some a =>
      have hinfo : w.info who = a := by
        unfold info
        rw [hget]
        rfl
      dsimp only
      split
      · next hlast => exact hQ.remove w who (hinfo ▸ hlast.2)
      · exact hQ.mutate w who _ fun _ => ⟨rfl, rfl⟩

end ReferenceRule

end Balances

/-! ### The pallet keeps the contract -/

section Backed

variable {A W : Type} [DecidableEq A]

/-- The currency is the balances pallet, whose storage is a part of the
world. -/
structure BalancesBacked (C : ReservableCurrency A W) where
  rules : BalancesConfig
  get : W → Balances A
  put : W → Balances A → W
  get_put : ∀ w x, get (put w x) = x
  transfer : ∀ w source dest amount req,
    C.transfer w source dest amount req =
      ((get w).transfer rules source dest amount req).map (put w)
  withdraw : ∀ w who amount reasons req,
    C.withdraw w who amount reasons req =
      ((get w).withdraw rules who amount reasons req).map (put w)
  reserve : ∀ w who amount,
    C.reserve w who amount = ((get w).reserve rules who amount).map (put w)
  unreserve : ∀ w who amount,
    C.unreserve w who amount = put w ((get w).unreserve rules who amount)

/-- The balances pallet keeps what is set aside apart. -/
def BalancesBacked.reserves {C : ReservableCurrency A W}
    (B : BalancesBacked C) : Reserves C where
  reserved := fun w => (B.get w).reservedBalance
  InOrder := fun w => (B.get w).Anchored
  reserve := by
    intro w w' who amount hw hok
    rw [B.reserve] at hok
    have hb := ok_of_map_put B.get_put hok
    exact ⟨(hw.reserve hb).anchored, (hw.reserve hb).reserved⟩
  unreserve := by
    intro w who amount hw
    rw [B.unreserve, B.get_put]
    exact ⟨(hw.unreserve who amount).anchored,
      (hw.unreserve who amount).reserved⟩
  transfer := by
    intro w w' source dest amount req hw hok
    rw [B.transfer] at hok
    have hb := ok_of_map_put B.get_put hok
    exact ⟨(hw.transfer hb).anchored, (hw.transfer hb).reserved⟩
  withdraw := by
    intro w w' who amount reasons req hw hok
    rw [B.withdraw] at hok
    have hb := ok_of_map_put B.get_put hok
    exact ⟨(hw.withdraw hb).anchored, (hw.withdraw hb).reserved⟩

end Backed

/-! ## The assets pallet -/

namespace Ledger

variable {A I : Type} [DecidableEq A] [DecidableEq I] {C : LedgerConfig}

variable {who : A} {id : I} {w w' : Ledger A I} {amount : Nat}
  {Q : Balances A → Balances A → Prop} (hQ : Balances.ReferenceRule Q)
include hQ

variable {reason : Assets.ExistenceReason A}

omit [DecidableEq I] in
private theorem newAccount_rule {b b' : Balances A} {d d' : Assets.Details}
    (hok : newAccount C b who d = .ok (b', d', reason)) : Q b b' := by
  obtain ⟨_, _, hok⟩ := bind_eq_ok.mp hok
  split at hok
  · cases hok
    exact hQ.incSufficients b who
  · cases hinc : b.incConsumers C.toBalancesConfig who with
    | error =>
        rw [hinc] at hok
        cases hok
    | ok =>
        rw [hinc] at hok
        obtain ⟨_, _, heq⟩ := bind_eq_ok.mp hok
        cases heq
        obtain ⟨_, _, rfl⟩ := Balances.incConsumers_eq_ok.mp hinc
        exact hQ.mutate b who _ fun _ => ⟨rfl, rfl⟩

omit [DecidableEq I] in
private theorem deadAccount_rule {b b' : Balances A} {d d' : Assets.Details}
    (hok : deadAccount b who d reason = some (b', d')) : Q b b' := by
  cases reason with
  | consumer =>
      cases hok
      exact hQ.mutate b who _ fun _ => ⟨rfl, rfl⟩
  | sufficient =>
      cases hok
      exact hQ.decSufficients b who
  | depositRefunded =>
      cases hok
      exact hQ.refl b
  | depositHeld | depositFrom => cases hok

theorem decreaseBalance_rule {keepAlive : Bool} {p : Ledger A I × Nat}
    (hok : w.decreaseBalance C id who amount keepAlive = .ok p) :
    Q w.balances p.1.balances := by
  unfold decreaseBalance at hok
  split at hok
  · cases hok
    exact hQ.refl _
  · simp only [do_eq_ok] at hok
    obtain ⟨d, _, _, actual, _, a, _, rfl⟩ := hok
    generalize hdead : (if a.balance - actual < d.minBalance then
      deadAccount w.balances who d a.reason else none) = dead
    cases dead with
    | none => exact hQ.refl _
    | some p =>
        obtain ⟨b, d'⟩ := p
        split at hdead
        · exact deadAccount_rule hQ hdead
        · cases hdead

theorem increaseBalance_rule (hok : w.increaseBalance C id who amount = .ok w') :
    Q w.balances w'.balances := by
  unfold increaseBalance at hok
  split at hok
  · cases hok
    exact hQ.refl _
  · simp only [bind_eq_ok] at hok
    obtain ⟨_, _, d, _, _, _, hok⟩ := hok
    cases hget : (w.account id).get who with
    | some =>
        rw [hget] at hok
        cases hok
        exact hQ.refl _
    | none =>
        rw [hget] at hok
        simp only [bind_eq_ok] at hok
        obtain ⟨_, _, ⟨b, d', reason⟩, hnew, heq⟩ := hok
        cases heq
        exact newAccount_rule hQ hnew

theorem transfer_rule {source dest : A} {preservation : Preservation}
    (hok : w.transfer C id source dest amount preservation = .ok w') :
    Q w.balances w'.balances := by
  simp only [transfer, bind_eq_ok] at hok
  obtain ⟨_, _, _, _, hok⟩ := hok
  split at hok
  · cases hok
    exact hQ.refl _
  · obtain ⟨⟨w₁, taken⟩, hdec, heq⟩ := bind_eq_ok.mp hok
    cases heq
    have hfirst := decreaseBalance_rule hQ hdec
    cases hinc : w₁.increaseBalance C id dest amount with
    | error => exact hfirst
    | ok => exact hQ.trans hfirst (increaseBalance_rule hQ hinc)

theorem burnFrom_rule {preservation : Preservation} {precision : Precision}
    (hok : w.burnFrom C id who amount preservation precision = .ok w') :
    Q w.balances w'.balances := by
  simp only [burnFrom, bind_eq_ok] at hok
  obtain ⟨_, _, _, _, ⟨w₁, taken⟩, hdec, heq⟩ := hok
  cases heq
  exact decreaseBalance_rule hQ (p := (w₁, taken)) hdec

end Ledger

end Thxnet.Frame
