import Thxnet.Frame.Preserving

/-!
# Supply and expendable debits of the assets pallet

The supply of an asset covers the balances of its accounts (`Supplied`);
transfers and burns keep it so.

A debit that may kill its account takes the rest along when less than the
minimum balance remains (`spent`).  `payThenBurn_iff` says when an account can
make a payment and then burn something, each exactly: in between, too, it has
to keep the minimum balance.
-/

namespace Thxnet.Frame

open Thxnet.Lib

namespace Ledger

variable {A I : Type} {C : LedgerConfig}

/-! ## What a debit or a credit touches -/

/-- The part of the details that payments do not change. -/
def terms (d : Assets.Details) : Nat × Nat × Assets.Status :=
  (d.supply, d.minBalance, d.status)

/-- At most one account has changed, and none of the terms. -/
structure Touches (id : I) (who : A) (w w' : Ledger A I) : Prop where
  others : ∀ i x, ¬ (i = id ∧ x = who) →
    (w'.account i).get x = (w.account i).get x
  details : ∀ i, (w'.asset.get i).map terms = (w.asset.get i).map terms

theorem Touches.refl (id : I) (who : A) (w : Ledger A I) :
    Touches id who w w :=
  ⟨fun _ _ _ => rfl, fun _ => rfl⟩

variable {who : A} {a : Assets.Account A} {d d' : Assets.Details}
    {keepAlive : Bool} {id : I} {w w' : Ledger A I} {amount : Nat}

theorem Touches.get (h : Touches id who w w') {x : A} (hx : x ≠ who) :
    (w'.account id).get x = (w.account id).get x :=
  h.others id x fun heq => hx heq.2

theorem Touches.balance (h : Touches id who w w') {x : A} (hx : x ≠ who) :
    w'.balance id x = w.balance id x := by
  unfold Ledger.balance
  rw [h.get hx]

theorem Touches.totalIssuance (h : Touches id who w w') (i : I) :
    w'.totalIssuance i = w.totalIssuance i := by
  have hterms := congrArg (Option.map Prod.fst) (h.details i)
  unfold Ledger.totalIssuance
  rw [Option.map_map, Option.map_map] at hterms
  exact congrArg (Option.getD · 0) hterms

theorem Touches.asset (h : Touches id who w w') (hd : w.asset.get id = some d) :
    ∃ d', w'.asset.get id = some d' ∧ terms d' = terms d := by
  have hterms := h.details id
  rw [hd] at hterms
  obtain ⟨d', hd', heq⟩ := Option.map_eq_some_iff.mp hterms
  exact ⟨d', hd', heq⟩

/-- What one account has more or less, all of them have. -/
theorem Touches.sum [DecidableEq A] (h : Touches id who w w') :
    (w'.account id).sum Assets.Account.balance + w.balance id who =
      (w.account id).sum Assets.Account.balance + w'.balance id who :=
  StorageMap.sum_of_agree (fun _ hx => h.get hx) _

theorem touches_insert [DecidableEq I] (hd : w.asset.get id = some d)
    (hterms : terms d' = terms d) (b : Balances A)
    {m : StorageDoubleMap I A (Assets.Account A)}
    (hm : ∀ i x, ¬ (i = id ∧ x = who) → (m i).get x = (w.account i).get x) :
    Touches id who w ⟨b, w.asset.insert id d', m⟩ where
  others := hm
  details := by
    intro i
    dsimp only
    rw [StorageMap.get_insert]
    by_cases hi : i = id
    · rw [if_pos hi, hi, hd, Option.map_some, Option.map_some, hterms]
    · rw [if_neg hi]

/-- Whatever a decrease checks leaves the amount and the dust in the
account. -/
theorem canDecrease_le (ha : (w.account id).get who = some a) {dust : Nat}
    (hle : amount ≤ a.balance) {keepNonzero : Bool}
    (h : (w.canDecrease id who amount keepAlive).intoResult keepNonzero = .ok
      dust) : amount + dust ≤ a.balance := by
  unfold canDecrease at h
  cases hd : w.asset.get id with
  | none =>
      simp only [hd] at h
      cases h
  | some =>
      simp only [hd, ha] at h
      split at h
      · cases h
      split at h
      · cases h
      split at h
      · cases h
        omega
      split at h
      · cases h
      split at h
      · cases h
      split at h
      · split at h
        · cases h
        · -- the rest goes along
          have hdust : (if keepNonzero = true then
              .error (.token .notExpendable) else .ok (a.balance - amount) :
                Except DispatchError Nat) = .ok dust := h
          split at hdust
          · cases hdust
          · cases hdust
            omega
      · cases h
        omega

theorem prepDebit_le (ha : (w.account id).get who = some a) {taken : Nat}
    (h : w.prepDebit C id who amount keepAlive = .ok taken) :
    taken ≤ a.balance := by
  simp only [prepDebit, do_eq_ok] at h
  obtain ⟨most, hmost, dust, hdust, rfl⟩ := h
  obtain ⟨d, a', _, _, ha', _, rfl⟩ := reducibleBalance_eq_ok.mp hmost
  cases ha.symm.trans ha'
  have hle : min (min (if keepAlive then a.balance - d.minBalance
      else a.balance) d.supply) amount ≤ a.balance := by
    split <;> omega
  exact (saturatingAdd_le _ _ _).trans (canDecrease_le ha hle hdust)

variable [DecidableEq A]

variable {reason : Assets.ExistenceReason A}

theorem deadAccount_terms {b b' : Balances A}
    (h : deadAccount b who d reason = some (b', d')) : terms d' = terms d := by
  cases reason <;> cases h <;> rfl

theorem newAccount_terms {b b' : Balances A}
    (h : newAccount C b who d = .ok (b', d', reason)) : terms d' = terms d := by
  simp only [newAccount, do_eq_ok] at h
  obtain ⟨_, h⟩ := h
  cases hsuf : d.isSufficient with
  | true =>
      rw [hsuf] at h
      cases h
      rfl
  | false =>
      simp only [hsuf, Bool.false_eq_true, if_false] at h
      cases hinc : b.incConsumers C.toBalancesConfig who with
      | error =>
          rw [hinc] at h
          cases h
      | ok =>
          simp only [hinc, do_eq_ok] at h
          cases h.2
          rfl

variable [DecidableEq I]

theorem decreaseBalance_touches {taken : Nat}
    (h : w.decreaseBalance C id who amount keepAlive = .ok (w', taken)) :
    Touches id who w w' ∧
      w'.balance id who + taken ≤ w.balance id who := by
  unfold decreaseBalance at h
  by_cases hzero : amount = 0
  · rw [if_pos hzero] at h
    cases h
    exact ⟨.refl .., by omega⟩
  rw [if_neg hzero] at h
  simp only [do_eq_ok] at h
  obtain ⟨d, hd, _, actual, hprep, a, ha, h⟩ := h
  have hle := prepDebit_le ha hprep
  have hbalance : w.balance id who = a.balance := by
    simp [Ledger.balance, ha]
  cases hdead : (if a.balance - actual < d.minBalance then
      deadAccount w.balances who d a.reason else none) with
  | some r =>
      simp only [hdead] at h
      cases h
      refine ⟨touches_insert hd ?_ _ fun i x hx => ?_, ?_⟩
      · split at hdead
        · exact deadAccount_terms hdead
        · cases hdead
      · exact StorageDoubleMap.get_remove_ne _ hx
      · simp [Ledger.balance, ha]
        omega
  | none =>
      simp only [hdead] at h
      cases h
      refine ⟨⟨fun i x hx => ?_, fun _ => rfl⟩, ?_⟩
      · exact StorageDoubleMap.get_insert_ne _ _ hx
      · simp [Ledger.balance, ha]
        omega

theorem increaseBalance_touches
    (h : w.increaseBalance C id who amount = .ok w') :
    Touches id who w w' ∧
      w'.balance id who ≤ w.balance id who + amount := by
  unfold increaseBalance at h
  by_cases hzero : amount = 0
  · rw [if_pos hzero] at h
    cases h
    exact ⟨.refl .., by omega⟩
  rw [if_neg hzero] at h
  simp only [do_eq_ok] at h
  obtain ⟨_, _, d, hd, _, h⟩ := h
  cases ha : (w.account id).get who with
  | some a =>
      simp only [ha] at h
      cases h
      refine ⟨⟨fun i x hx => StorageDoubleMap.get_insert_ne _ _ hx,
        fun _ => rfl⟩, ?_⟩
      have hle := saturatingAdd_le 128 a.balance amount
      simpa [Ledger.balance, ha] using hle
  | none =>
      simp only [ha, do_eq_ok] at h
      obtain ⟨_, ⟨b, d', reason⟩, hnew, h⟩ := h
      cases h
      refine ⟨touches_insert hd (newAccount_terms hnew) _ fun i x hx =>
        StorageDoubleMap.get_insert_ne _ _ hx, ?_⟩
      simp [Ledger.balance, ha]

/-! ## Supply -/

/-- The supply of every asset covers the balances of its accounts, and fits a
`u128`. -/
structure Supplied (w : Ledger A I) : Prop where
  covers : ∀ id, (w.account id).sum Assets.Account.balance ≤ w.totalIssuance id
  fits : ∀ id, w.totalIssuance id ≤ maxValue 128

section

omit [DecidableEq A] [DecidableEq I]

theorem totalIssuance_eq (hd : w.asset.get id = some d) :
    w.totalIssuance id = d.supply := by
  simp [Ledger.totalIssuance, hd]

theorem balance_eq (ha : (w.account id).get who = some a) :
    w.balance id who = a.balance := by
  simp [Ledger.balance, ha]

theorem Supplied.balance_le (h : w.Supplied)
    (ha : (w.account id).get who = some a) (hd : w.asset.get id = some d) :
    a.balance ≤ d.supply := by
  have hle := StorageMap.le_sum Assets.Account.balance ha
  have hcovers := h.covers id
  rw [totalIssuance_eq hd] at hcovers
  omega

theorem Supplied.supply_le (h : w.Supplied) (hd : w.asset.get id = some d) :
    d.supply ≤ maxValue 128 := by
  rw [← totalIssuance_eq hd]
  exact h.fits id

end

omit [DecidableEq A] in
theorem Supplied.touched (h : w.Supplied) (ht : Touches id who w w')
    (hle : (w'.account id).sum Assets.Account.balance ≤ w.totalIssuance id) :
    w'.Supplied where
  covers := by
    intro i
    rw [ht.totalIssuance]
    by_cases hi : i = id
    · rw [hi]
      exact hle
    · have hsame : w'.account i = w.account i :=
        StorageMap.ext fun x => ht.others i x fun heq => hi heq.1
      rw [hsame]
      exact h.covers i
  fits := by
    intro i
    rw [ht.totalIssuance]
    exact h.fits i

/-! ## Debits that may kill the account -/

/-- An unfrozen account of a live asset has `amount`. -/
structure Spendable (w : Ledger A I) (id : I) (who : A) (amount : Nat)
    (d : Assets.Details) (a : Assets.Account A) : Prop where
  details : w.asset.get id = some d
  live : d.status = .live
  account : (w.account id).get who = some a
  liquid : a.status.isFrozen = false
  enough : amount ≤ a.balance

/-- What a debit of `amount` takes: everything, if less than the minimum
balance would remain. -/
def spent (d : Assets.Details) (a : Assets.Account A) (amount : Nat) : Nat :=
  if a.balance - amount < d.minBalance then a.balance else amount

omit [DecidableEq A] [DecidableEq I] in
theorem spent_eq_iff :
    spent d a amount = amount ↔
      d.minBalance ≤ a.balance - amount ∨ a.balance = amount := by
  unfold spent
  split <;> omega

omit [DecidableEq A] [DecidableEq I] in
theorem spent_le (h : amount ≤ a.balance) : spent d a amount ≤ a.balance := by
  unfold spent
  split <;> omega

section Debit

variable {w : Ledger A I} {id : I} {who : A} {amount : Nat}
  {d : Assets.Details} {a : Assets.Account A}

section

omit [DecidableEq A] [DecidableEq I]

theorem Spendable.unique {n : Nat} {a' : Assets.Account A}
    (h : w.Spendable id who amount d a) (h' : w.Spendable id who n d' a') :
    d' = d ∧ a' = a :=
  ⟨Option.some.inj (h'.details.symm.trans h.details),
    Option.some.inj (h'.account.symm.trans h.account)⟩

theorem Spendable.mono {n : Nat} (h : w.Spendable id who amount d a)
    (hle : n ≤ amount) : w.Spendable id who n d a :=
  { h with enough := hle.trans h.enough }

theorem spendable_of_canDecrease {rest : Nat} {keepNonzero : Bool}
    (hpos : amount ≠ 0) (hd : w.asset.get id = some d)
    (hlive : d.status = .live)
    (h : (w.canDecrease id who amount false).intoResult keepNonzero =
      .ok rest) : ∃ a, w.Spendable id who amount d a := by
  unfold Ledger.canDecrease at h
  simp only [hd] at h
  split at h
  · cases h
  rw [if_neg (by rw [hlive]; nofun)] at h
  split at h
  · cases h
  next a ha =>
    split at h
    · cases h
    next hliquid =>
      split at h
      · cases h
      · exact ⟨a, hd, hlive, ha, by simpa using hliquid, by omega⟩

variable (hs : w.Supplied) (hpos : amount ≠ 0)
  (h : w.Spendable id who amount d a)
include hs hpos h

theorem Spendable.canDecrease :
    (w.canDecrease id who amount false).intoResult false =
      .ok (spent d a amount - amount) := by
  have hle := hs.balance_le h.account h.details
  have henough := h.enough
  unfold Ledger.canDecrease spent
  simp only [h.details, h.account]
  rw [if_neg (by omega), if_neg (by rw [h.live]; nofun), if_neg hpos,
    if_neg (by simp [h.liquid]), if_neg (by omega)]
  by_cases hrest : a.balance - amount < d.minBalance
  · rw [if_pos hrest, if_pos hrest]
    rfl
  · rw [if_neg hrest, if_neg hrest, Nat.sub_self]
    rfl

theorem Spendable.prepDebit :
    w.prepDebit C id who amount false = .ok (spent d a amount) := by
  have hle := hs.balance_le h.account h.details
  have hfits := hs.supply_le h.details
  have henough := h.enough
  have hred : w.reducibleBalance C id who false =
      .ok (min a.balance d.supply) :=
    reducibleBalance_eq_ok.mpr ⟨d, a, h.details, h.live, h.account, h.liquid,
      rfl⟩
  have hmin : min (min a.balance d.supply) amount = amount := by omega
  have hsum : saturatingAdd 128 amount (spent d a amount - amount) =
      spent d a amount := by
    unfold spent saturatingAdd
    split <;> omega
  unfold Ledger.prepDebit
  refine bind_eq_ok.mpr ⟨_, hred, bind_eq_ok.mpr
    ⟨spent d a amount - amount, ?_, ?_⟩⟩
  · rw [hmin]
    exact h.canDecrease hs hpos
  · rw [hmin, hsum]
    rfl

end

/-- The debit takes what is spent, and leaves the account as long as the
minimum balance remains. -/
theorem Spendable.decreaseBalance (hs : w.Supplied) (hpos : amount ≠ 0)
    (h : w.Spendable id who amount d a) :
    ∃ w', w.decreaseBalance C id who amount false =
        .ok (w', spent d a amount) ∧
      w'.balance id who = a.balance - spent d a amount ∧
      (d.minBalance ≤ a.balance - amount →
        (w'.account id).get who =
          some { a with balance := a.balance - amount }) := by
  have hprep := h.prepDebit (C := C) hs hpos
  unfold Ledger.decreaseBalance
  simp only [if_neg hpos, do_eq_ok]
  by_cases hrest : a.balance - amount < d.minBalance
  · have hspent : spent d a amount = a.balance := if_pos hrest
    rw [hspent] at hprep ⊢
    cases hdead : (if a.balance - a.balance < d.minBalance then
        deadAccount w.balances who d a.reason else none) with
    | some r =>
        refine ⟨_, ⟨d, h.details, h.live, _, hprep, a, h.account,
          by rw [hdead]⟩, ?_, fun hle => absurd hrest (by omega)⟩
        simp [Ledger.balance]
    | none =>
        refine ⟨_, ⟨d, h.details, h.live, _, hprep, a, h.account,
          by rw [hdead]⟩, ?_, fun hle => absurd hrest (by omega)⟩
        simp [Ledger.balance]
  · have hspent : spent d a amount = amount := if_neg hrest
    rw [hspent] at hprep ⊢
    refine ⟨_, ⟨d, h.details, h.live, _, hprep, a, h.account,
      by rw [if_neg hrest]⟩, ?_, fun _ => ?_⟩
    · simp [Ledger.balance]
    · simp

theorem le_taken (hs : w.Supplied) {keep : Bool} {rest taken : Nat}
    (hcan : (w.canDecrease id who amount false).intoResult keep = .ok rest)
    (h : w.decreaseBalance C id who amount keep = .ok (w', taken)) :
    amount ≤ taken := by
  by_cases hpos : amount = 0
  · omega
  obtain ⟨d, hd, hlive⟩ := live_of_decreaseBalance hpos h
  cases keep with
  | true =>
      obtain ⟨a, hspares⟩ := spares_of_canDecrease hpos hd hlive hcan
      have hfits : amount ≤ maxValue 128 :=
        hspares.supply.trans (hs.supply_le hd)
      cases (hspares.decreaseBalance hpos hfits).symm.trans h
      exact Nat.le_refl _
  | false =>
      obtain ⟨a, hspend⟩ := spendable_of_canDecrease hpos hd hlive hcan
      obtain ⟨w₁, hdec, _⟩ := hspend.decreaseBalance (C := C) hs hpos
      cases hdec.symm.trans h
      have henough := hspend.enough
      unfold spent
      split <;> omega

end Debit

/-! ## Payments and burns keep the supply -/

theorem transfer_supplied (hs : w.Supplied) {source dest : A}
    {preservation : Preservation}
    (h : w.transfer C id source dest amount preservation = .ok w') :
    w'.Supplied := by
  by_cases hself : source = dest
  · subst hself
    rw [transfer_self h]
    exact hs
  simp only [Ledger.transfer, if_neg hself, do_eq_ok] at h
  obtain ⟨rest, hcan, _, _, ⟨w₁, taken⟩, htake, rfl⟩ := h
  obtain ⟨ht, hdebit⟩ := decreaseBalance_touches htake
  have hle := le_taken hs hcan htake
  have hsum := ht.sum
  have hcovers := hs.covers id
  have hs₁ : w₁.Supplied := hs.touched ht (by omega)
  cases hinc : w₁.increaseBalance C id dest amount with
  | error => exact hs₁
  | ok w₂ =>
      obtain ⟨ht₂, hcredit⟩ := increaseBalance_touches hinc
      have hsum₂ := ht₂.sum
      show w₂.Supplied
      refine hs₁.touched ht₂ ?_
      rw [ht.totalIssuance]
      omega

omit [DecidableEq A] in
theorem totalIssuance_set {n : Nat} (h : n ≤ w.totalIssuance id) :
    (w.setTotalIssuance id n).totalIssuance id = n := by
  unfold Ledger.totalIssuance at h ⊢
  unfold setTotalIssuance
  rw [StorageMap.get_modify_self]
  cases hd : w.asset.get id with
  | some => rfl
  | none =>
      rw [hd] at h
      exact (Nat.le_zero.mp h).symm

omit [DecidableEq A] in
theorem totalIssuance_set_ne (w : Ledger A I) {i : I} (n : Nat) (hi : i ≠ id) :
    (w.setTotalIssuance id n).totalIssuance i = w.totalIssuance i := by
  unfold Ledger.totalIssuance setTotalIssuance
  rw [StorageMap.get_modify_ne _ _ hi]

theorem burnFrom_supplied (hs : w.Supplied) {preservation : Preservation}
    {precision : Precision}
    (h : w.burnFrom C id who amount preservation precision = .ok w') :
    w'.Supplied := by
  simp only [Ledger.burnFrom, do_eq_ok] at h
  obtain ⟨_, _, ⟨w₁, taken⟩, htake, rfl⟩ := h
  obtain ⟨ht, hdebit⟩ := decreaseBalance_touches htake
  have hsum := ht.sum
  have hcovers := hs.covers id
  have hs₁ : w₁.Supplied := hs.touched ht (by omega)
  have hset : (w₁.setTotalIssuance id (w₁.totalIssuance id - taken)
      ).totalIssuance id = w₁.totalIssuance id - taken :=
    totalIssuance_set (Nat.sub_le _ _)
  rw [ht.totalIssuance] at hset ⊢
  constructor
  · intro i
    by_cases hi : i = id
    · subst hi
      rw [hset]
      show (w₁.account i).sum _ ≤ _
      omega
    · rw [totalIssuance_set_ne _ _ hi]
      exact hs₁.covers i
  · intro i
    by_cases hi : i = id
    · have hfits := hs.fits id
      rw [hi, hset]
      omega
    · rw [totalIssuance_set_ne _ _ hi]
      exact hs₁.fits i

/-! ## A payment and a burn -/

section Payment

variable {w w' : Ledger A I} {id : I} {source dest : A} {amount : Nat}

/-- What an expendable transfer takes from its source. -/
theorem transfer_spends (hs : w.Supplied) (hne : source ≠ dest)
    (hpos : amount ≠ 0)
    (h : w.transfer C id source dest amount .expendable = .ok w') :
    ∃ d a, w.Spendable id source amount d a ∧
      w'.balance id source = a.balance - spent d a amount ∧
      (d.minBalance ≤ a.balance - amount →
        (w'.account id).get source =
          some { a with balance := a.balance - amount }) ∧
      ∃ d', w'.asset.get id = some d' ∧ terms d' = terms d := by
  simp only [Ledger.transfer, if_neg hne, do_eq_ok] at h
  obtain ⟨rest, hcan, _, _, ⟨w₁, taken⟩, htake, rfl⟩ := h
  obtain ⟨d, hd, hlive⟩ := live_of_decreaseBalance hpos htake
  obtain ⟨a, hspend⟩ := spendable_of_canDecrease hpos hd hlive hcan
  obtain ⟨w₂, hdec, hbalance, halive⟩ :=
    hspend.decreaseBalance (C := C) hs hpos
  cases hdec.symm.trans htake
  obtain ⟨ht, _⟩ := decreaseBalance_touches htake
  obtain ⟨d₁, hd₁, hterms₁⟩ := ht.asset hd
  refine ⟨d, a, hspend, ?_⟩
  cases hinc : w₁.increaseBalance C id dest amount with
  | error => exact ⟨hbalance, halive, d₁, hd₁, hterms₁⟩
  | ok =>
      obtain ⟨ht₃, _⟩ := increaseBalance_touches hinc
      obtain ⟨d₃, hd₃, hterms₃⟩ := ht₃.asset hd₁
      exact ⟨(ht₃.balance hne).trans hbalance,
        fun hle => (ht₃.get hne).trans (halive hle), d₃, hd₃,
        hterms₃.trans hterms₁⟩

theorem room_of_transfer (hne : source ≠ dest) (hpos : amount ≠ 0)
    (hd : w.asset.get id = some d) (ha : (w.account id).get dest = some a)
    (h : w.transfer C id source dest amount .expendable = .ok w')
    (harrived : w'.balance id dest = w.balance id dest + amount) :
    a.status.isBlocked = false ∧ d.supply + amount ≤ maxValue 128 := by
  simp only [Ledger.transfer, if_neg hne, do_eq_ok] at h
  obtain ⟨rest, _, _, _, ⟨w₁, taken⟩, htake, rfl⟩ := h
  obtain ⟨ht, _⟩ := decreaseBalance_touches htake
  obtain ⟨d₁, hd₁, hterms⟩ := ht.asset hd
  cases hinc : w₁.increaseBalance C id dest amount with
  | error =>
      -- the swallowed error leaves the receiver with what it had
      simp only [hinc, ht.balance hne.symm] at harrived
      omega
  | ok =>
      obtain ⟨hcan, _⟩ := canTake_of_increaseBalance hpos hinc
      have hsupply : d₁.supply = d.supply := congrArg Prod.fst hterms
      unfold canIncrease at hcan
      simp only [hd₁, ht.get hne.symm, ha] at hcan
      grind

/-- An account that can be spent from pays an open account, if the supply
leaves room for the amount. -/
theorem Spendable.transfer (hs : w.Supplied) (hne : source ≠ dest)
    (hpos : amount ≠ 0) {b : Assets.Account A}
    (h : w.Spendable id source amount d b)
    (ha : (w.account id).get dest = some a) (hopen : a.status.isBlocked = false)
    (hroom : d.supply + amount ≤ maxValue 128) :
    ∃ w', w.transfer C id source dest amount .expendable = .ok w' ∧
      w'.balance id dest = w.balance id dest + amount := by
  have hle := hs.balance_le ha h.details
  obtain ⟨w₁, hdec, _⟩ := h.decreaseBalance (C := C) hs hpos
  obtain ⟨ht, _⟩ := decreaseBalance_touches hdec
  obtain ⟨d₁, hd₁, hterms⟩ := ht.asset h.details
  have hsupply : d₁.supply = d.supply := congrArg Prod.fst hterms
  have hlive : d₁.status = .live :=
    (congrArg (Prod.snd ∘ Prod.snd) hterms).trans h.live
  have ha₁ : (w₁.account id).get dest = some a := (ht.get hne.symm).trans ha
  have htake : w₁.CanTake C id dest amount := by
    refine ⟨?_, fun hnone => ?_⟩
    · simp only [canIncrease, hd₁, ha₁, hsupply, hopen]
      rw [if_neg (by omega), if_neg (by simp), if_neg (by omega)]
    · rw [ha₁] at hnone
      cases hnone
  have hcan : w.canIncrease C id dest amount false = .success := by
    simp only [canIncrease, h.details, ha, hopen]
    rw [if_neg (by simp), if_neg (by simp), if_neg (by omega)]
  obtain ⟨w₂, hinc, harrived⟩ := htake.increaseBalance hpos hd₁ hlive
  refine ⟨w₂, ?_, by rw [harrived, ht.balance hne.symm]⟩
  simp only [Ledger.transfer, if_neg hne, do_eq_ok]
  refine ⟨_, h.canDecrease hs hpos, (),
    DepositConsequence.intoResult_eq_ok.mpr hcan, _, hdec, ?_⟩
  simp only [hinc]

end Payment

section Burn

variable {w w' : Ledger A I} {id : I} {who : A} {amount : Nat}

omit [DecidableEq A] [DecidableEq I] in
theorem spendable_of_reducible (hpos : amount ≠ 0)
    (h : amount ≤ w.reducible C id who .expendable) :
    ∃ d a, w.Spendable id who amount d a := by
  unfold reducible at h
  cases hred : w.reducibleBalance C id who false with
  | error =>
      simp only [ne_eq, not_true_eq_false, decide_false, hred] at h
      omega
  | ok =>
      simp only [ne_eq, not_true_eq_false, decide_false, hred] at h
      obtain ⟨d, a, hd, hlive, ha, hliquid, rfl⟩ :=
        reducibleBalance_eq_ok.mp hred
      exact ⟨d, a, hd, hlive, ha, hliquid, h.trans (Nat.min_le_left _ _)⟩

/-- What an exact burn takes from its account and from the supply. -/
theorem burnFrom_spends (hs : w.Supplied) (hpos : amount ≠ 0)
    (h : w.burnFrom C id who amount .expendable .exact = .ok w') :
    ∃ d a, w.Spendable id who amount d a ∧
      w'.balance id who = a.balance - spent d a amount ∧
      w'.totalIssuance id = d.supply - spent d a amount ∧
      ∀ x, x ≠ who → w'.balance id x = w.balance id x := by
  simp only [Ledger.burnFrom, do_eq_ok] at h
  obtain ⟨hexact, _, ⟨w₁, taken⟩, htake, rfl⟩ := h
  have hmin : min (w.reducible C id who .expendable) amount = amount :=
    hexact.resolve_right (by decide)
  have hle : amount ≤ w.reducible C id who .expendable := by omega
  rw [hmin] at htake
  obtain ⟨d, a, hspend⟩ := spendable_of_reducible hpos hle
  obtain ⟨w₂, hdec, hbalance, _⟩ := hspend.decreaseBalance (C := C) hs hpos
  cases hdec.symm.trans htake
  obtain ⟨ht, _⟩ := decreaseBalance_touches htake
  refine ⟨d, a, hspend, hbalance, ?_, fun x hx => ht.balance hx⟩
  rw [totalIssuance_set (Nat.sub_le _ _), ht.totalIssuance,
    totalIssuance_eq hspend.details]

theorem Spendable.burnFrom (hs : w.Supplied) (hpos : amount ≠ 0)
    (h : w.Spendable id who amount d a) :
    ∃ w', w.burnFrom C id who amount .expendable .exact = .ok w' := by
  have hle := hs.balance_le h.account h.details
  have henough := h.enough
  have hred : w.reducible C id who .expendable = min a.balance d.supply := by
    have hok : w.reducibleBalance C id who false =
        .ok (min a.balance d.supply) :=
      reducibleBalance_eq_ok.mpr ⟨d, a, h.details, h.live, h.account, h.liquid,
        rfl⟩
    simp only [reducible, ne_eq, not_true_eq_false, decide_false, hok]
  have hmin : min (w.reducible C id who .expendable) amount = amount := by
    omega
  obtain ⟨w₁, hdec, _⟩ := h.decreaseBalance (C := C) hs hpos
  simp only [Ledger.burnFrom, do_eq_ok, hmin]
  refine ⟨_, .inl trivial, ?_, _, hdec, rfl⟩
  rw [totalIssuance_eq h.details]
  omega

end Burn

/-- Pay `paid` to another account and burn `burned`; nothing is done about an
amount of zero. -/
def payThenBurn (C : LedgerConfig) (w : Ledger A I) (id : I)
    (source dest : A) (paid burned : Nat) :
    Except DispatchError (Ledger A I) := do
  let w₁ ← (if paid = 0 then .ok w
    else w.transfer C id source dest paid .expendable)
  if burned = 0 then .ok w₁
  else w₁.burnFrom C id source burned .expendable .exact

/-- `paid` has arrived, `burned` is gone from the supply, and the source has
lost exactly both. -/
structure Settled (w w' : Ledger A I) (id : I) (source dest : A)
    (paid burned : Nat) : Prop where
  arrived : w'.balance id dest = w.balance id dest + paid
  taken : w'.balance id source + (paid + burned) = w.balance id source
  burnt : w'.totalIssuance id + burned = w.totalIssuance id

/-- The source has both amounts in an unfrozen account of a live asset.  Either
the minimum balance remains with it, or nothing does; then it must have had the
minimum balance between the payment and the burn, if there are both.  What is
paid goes to an account that is not blocked, and fits a `u128` with the
supply. -/
structure Releases (w : Ledger A I) (id : I) (source : A)
    (receiver : Assets.Account A) (paid burned : Nat) (d : Assets.Details)
    (a : Assets.Account A) : Prop where
  spendable : w.Spendable id source (paid + burned) d a
  rest : d.minBalance ≤ a.balance - (paid + burned) ∨
    (a.balance = paid + burned ∧
      (paid = 0 ∨ burned = 0 ∨ d.minBalance ≤ burned))
  room : paid ≠ 0 → receiver.status.isBlocked = false ∧
    d.supply + paid ≤ maxValue 128

section PayThenBurn

variable {w : Ledger A I} {id : I} {source dest : A} {paid burned : Nat}
  {receiver : Assets.Account A}

variable (hs : w.Supplied)
include hs

private theorem releases_of_burn (hpos : burned ≠ 0)
    (h : w.burnFrom C id source burned .expendable .exact = .ok w')
    (htaken : w'.balance id source + burned = w.balance id source) :
    ∃ d a, w.Releases id source receiver 0 burned d a := by
  obtain ⟨d, a, hspend, hbalance, _⟩ := burnFrom_spends hs hpos h
  have hle := spent_le (d := d) hspend.enough
  rw [hbalance, balance_eq hspend.account] at htaken
  have hspent : spent d a burned = burned := by omega
  have hrest := spent_eq_iff.mp hspent
  refine ⟨d, a, ?_, ?_, fun hzero => absurd rfl hzero⟩
  · rwa [Nat.zero_add]
  · rw [Nat.zero_add]
    exact hrest.imp_right fun heq => ⟨heq, .inl rfl⟩

variable (hne : source ≠ dest)
include hne

private theorem Releases.burn (hpos : burned ≠ 0)
    (h : w.Releases id source receiver 0 burned d a) :
    ∃ w', w.burnFrom C id source burned .expendable .exact = .ok w' ∧
      w.Settled w' id source dest 0 burned := by
  have hspend := h.spendable.mono (Nat.le_add_left burned 0)
  obtain ⟨w', hburn⟩ := hspend.burnFrom (C := C) hs hpos
  obtain ⟨d', a', hspend', hbalance, hissuance, hothers⟩ :=
    burnFrom_spends hs hpos hburn
  obtain ⟨rfl, rfl⟩ := hspend.unique hspend'
  have hrest := h.rest
  rw [Nat.zero_add] at hrest
  have hspent : spent d' a' burned = burned :=
    spent_eq_iff.mpr (hrest.imp_right And.left)
  have hle := hs.balance_le hspend.account hspend.details
  have henough := hspend.enough
  refine ⟨w', hburn, hothers dest hne.symm, ?_, ?_⟩
  · rw [hbalance, balance_eq hspend.account]
    omega
  · rw [hissuance, totalIssuance_eq hspend.details]
    omega

variable (hdest : (w.account id).get dest = some receiver)
include hdest

private theorem releases_of_transfer (hpos : paid ≠ 0)
    (h : w.transfer C id source dest paid .expendable = .ok w')
    (harrived : w'.balance id dest = w.balance id dest + paid)
    (htaken : w'.balance id source + paid = w.balance id source) :
    ∃ d a, w.Releases id source receiver paid 0 d a := by
  obtain ⟨d, a, hspend, hbalance, _⟩ := transfer_spends hs hne hpos h
  have hle := spent_le (d := d) hspend.enough
  rw [hbalance, balance_eq hspend.account] at htaken
  have hspent : spent d a paid = paid := by omega
  have hrest := spent_eq_iff.mp hspent
  exact ⟨d, a, hspend, hrest.imp_right fun heq => ⟨heq, .inr (.inl rfl)⟩,
    fun _ => room_of_transfer hne hpos hspend.details hdest h harrived⟩

private theorem releases_of_both (hpaid : paid ≠ 0) (hburned : burned ≠ 0)
    {w₁ : Ledger A I}
    (hpay : w.transfer C id source dest paid .expendable = .ok w₁)
    (hburn : w₁.burnFrom C id source burned .expendable .exact = .ok w')
    (harrived : w'.balance id dest = w.balance id dest + paid)
    (htaken : w'.balance id source + (paid + burned) = w.balance id source) :
    ∃ d a, w.Releases id source receiver paid burned d a := by
  obtain ⟨d, a, hspend, hbalance, _, d', hd', hterms⟩ :=
    transfer_spends hs hne hpaid hpay
  obtain ⟨d₁, a₁, hspend₁, hbalance₁, _, hothers⟩ :=
    burnFrom_spends (transfer_supplied hs hpay) hburned hburn
  cases hd'.symm.trans hspend₁.details
  have hmin : d'.minBalance = d.minBalance :=
    congrArg (Prod.fst ∘ Prod.snd) hterms
  have henough := hspend.enough
  have henough₁ := hspend₁.enough
  rw [balance_eq hspend₁.account] at hbalance
  -- had the payment killed the source, there would be nothing to burn
  have halive : d.minBalance ≤ a.balance - paid := by
    by_contra hdies
    have hspent : spent d a paid = a.balance := if_pos (by omega)
    omega
  have hspent : spent d a paid = paid :=
    spent_eq_iff.mpr (.inl halive)
  have hle₁ := spent_le (d := d') henough₁
  rw [hbalance₁, balance_eq hspend.account] at htaken
  have hspent₁ : spent d' a₁ burned = burned := by omega
  have hrest := spent_eq_iff.mp hspent₁
  refine ⟨d, a, { hspend with enough := by omega }, ?_, fun _ => ?_⟩
  · rcases hrest with hrest | hrest
    · exact .inl (by omega)
    · exact .inr ⟨by omega, .inr (.inr (by omega))⟩
  · refine room_of_transfer hne hpaid hspend.details hdest hpay ?_
    rw [← hothers dest hne.symm, harrived]

private theorem Releases.pay (hpos : paid ≠ 0)
    (h : w.Releases id source receiver paid burned d a) :
    ∃ w₁, w.transfer C id source dest paid .expendable = .ok w₁ ∧
      w.Settled w₁ id source dest paid 0 ∧
      (burned ≠ 0 →
        ∃ d' a', w₁.Releases id source receiver 0 burned d' a') := by
  have hspend := h.spendable.mono (Nat.le_add_right paid burned)
  have hfull := h.spendable.enough
  obtain ⟨hopen, hroom⟩ := h.room hpos
  obtain ⟨w₁, hpay, harrived⟩ :=
    hspend.transfer (C := C) hs hne hpos hdest hopen hroom
  obtain ⟨d₀, a₀, hspend₀, hbalance, halive, d', hd', hterms⟩ :=
    transfer_spends hs hne hpos hpay
  obtain ⟨rfl, rfl⟩ := hspend.unique hspend₀
  have hkept : d₀.minBalance ≤ a₀.balance - paid ∨
      (a₀.balance = paid ∧ burned = 0) := by
    rcases h.rest with hrest | ⟨heq, hzero | hzero | hrest⟩ <;> omega
  have hspent : spent d₀ a₀ paid = paid :=
    spent_eq_iff.mpr (hkept.imp_right And.left)
  refine ⟨w₁, hpay, ⟨harrived, ?_, ?_⟩, fun hburned => ?_⟩
  · rw [hbalance, balance_eq hspend.account]
    omega
  · rw [totalIssuance_eq hd', totalIssuance_eq hspend.details]
    exact congrArg Prod.fst hterms
  · have hmin : d'.minBalance = d₀.minBalance :=
      congrArg (Prod.fst ∘ Prod.snd) hterms
    have hlive : d'.status = .live :=
      (congrArg (Prod.snd ∘ Prod.snd) hterms).trans hspend.live
    refine ⟨d', _, ⟨hd', hlive, halive (by omega), hspend.liquid, ?_⟩, ?_,
      fun hzero => absurd rfl hzero⟩
    · dsimp only
      omega
    · dsimp only
      rcases h.rest with hrest | ⟨heq, _⟩
      · exact .inl (by omega)
      · exact .inr ⟨by omega, .inl rfl⟩

/-- **A payment and a burn** succeed, and are exact, if and only if the account
can release both amounts. -/
theorem payThenBurn_iff (hpos : paid + burned ≠ 0) :
    (∃ w', w.payThenBurn C id source dest paid burned = .ok w' ∧
      w.Settled w' id source dest paid burned) ↔
    ∃ d a, w.Releases id source receiver paid burned d a := by
  simp only [payThenBurn, bind_eq_ok]
  constructor
  · rintro ⟨w', ⟨w₁, hpay, hburn⟩, hsettled⟩
    have htaken := hsettled.taken
    by_cases hpaid : paid = 0
    · subst hpaid
      rw [if_pos rfl] at hpay
      cases hpay
      have hburned : burned ≠ 0 := by omega
      rw [if_neg hburned] at hburn
      exact releases_of_burn hs hburned hburn (by omega)
    rw [if_neg hpaid] at hpay
    by_cases hburned : burned = 0
    · subst hburned
      rw [if_pos rfl] at hburn
      cases hburn
      exact releases_of_transfer hs hne hdest hpaid hpay hsettled.arrived
        htaken
    · rw [if_neg hburned] at hburn
      exact releases_of_both hs hne hdest hpaid hburned hpay hburn
        hsettled.arrived htaken
  · rintro ⟨d, a, h⟩
    by_cases hpaid : paid = 0
    · subst hpaid
      have hburned : burned ≠ 0 := by omega
      obtain ⟨w', hburn, hsettled⟩ := h.burn (C := C) hs hne hburned
      exact ⟨w', ⟨w, if_pos rfl, by rwa [if_neg hburned]⟩, hsettled⟩
    obtain ⟨w₁, hpay, hpayed, hrest⟩ := h.pay (C := C) hs hne hdest hpaid
    by_cases hburned : burned = 0
    · subst hburned
      exact ⟨w₁, ⟨w₁, by rwa [if_neg hpaid], if_pos rfl⟩, hpayed⟩
    · obtain ⟨d', a', h'⟩ := hrest hburned
      obtain ⟨w', hburn, hburnt⟩ :=
        h'.burn (C := C) (transfer_supplied hs hpay) hne hburned
      refine ⟨w', ⟨w₁, by rwa [if_neg hpaid], by rwa [if_neg hburned]⟩,
        ?_, ?_, ?_⟩
      · rw [hburnt.arrived, hpayed.arrived, Nat.add_zero]
      · have h₁ := hburnt.taken
        have h₂ := hpayed.taken
        omega
      · rw [hburnt.burnt]
        exact hpayed.burnt

end PayThenBurn

end Ledger

end Thxnet.Frame
