import Thxnet.Frame.Preserving
import Thxnet.Rwa.Counting
import Thxnet.Rwa.Mock

/-!
# Deposits on their way out

Deposits lie in the pallet account and leave it by transfers that keep it alive.
Over `pallet_balances` and `pallet_assets` (`LedgerBacked`) such a transfer
cannot take what the account needs to exist.  `deposit_leaves_iff` says when an
exit or a settlement returns the deposit: what remains in the pallet account has
to be at least the minimum balance, whoever it is owed to.  The last deposit
remains unless somebody else has left that much there.
-/

namespace Thxnet.Rwa

open Thxnet.Lib Thxnet.Frame

variable {R : Config}

/-! ## The ledgers -/

/-- The currencies of the runtime are the balances and the assets pallet. -/
structure LedgerBacked (R : Config) where
  rules : LedgerConfig
  get : R.World → Ledger R.AccountId R.AssetId
  put : R.World → Ledger R.AccountId R.AssetId → R.World
  get_put : ∀ w x, get (put w x) = x
  free : ∀ w who,
    R.nativeCurrency.freeBalance w who = ((get w).balances.info who).data.free
  native_transfer : ∀ w source dest amount req,
    R.nativeCurrency.transfer w source dest amount req =
      ((get w).balances.transfer rules.toBalancesConfig source dest amount
        req).map fun x => put w { get w with balances := x }
  balance : ∀ w id who, R.fungibles.balance w id who = (get w).balance id who
  asset_transfer : ∀ w id source dest amount preservation,
    R.fungibles.transfer w id source dest amount preservation =
      ((get w).transfer rules id source dest amount preservation).map (put w)

/-- What an account can spend of a currency. -/
def available (w : R.World) (c : PaymentCurrency R.AssetId)
    (who : R.AccountId) : Nat :=
  match c with
  | .native => R.nativeCurrency.freeBalance w who
  | .asset id => R.fungibles.balance w id who

/-- The pallet account can spare `amount`, and `dest` can take it. -/
def LedgerBacked.Spares (L : LedgerBacked R) (w : R.World)
    (c : PaymentCurrency R.AssetId) (dest : R.AccountId) (amount : Nat) :
    Prop :=
  match c with
  | .native =>
      (L.get w).balances.Spares L.rules.toBalancesConfig R.palletAccount
        amount ∧
      L.rules.existentialDeposit ≤
        ((L.get w).balances.info dest).data.free + amount
  | .asset id =>
      (∃ d a, (L.get w).Spares id R.palletAccount amount d a) ∧
        (L.get w).CanTake L.rules id dest amount

/-- Something can leave the pallet account for `dest`. -/
def LedgerBacked.CanLeave (L : LedgerBacked R) (w : R.World)
    (c : PaymentCurrency R.AssetId) (dest : R.AccountId) (amount : Nat) :
    Prop :=
  amount = 0 ∨ (dest ≠ R.palletAccount ∧ L.Spares w c dest amount)

section Transfers

variable (L : LedgerBacked R) {w : R.World} {dest : R.AccountId} {amount : Nat}

private theorem native_arrives (hpos : amount ≠ 0) :
    (∃ w', doTransfer w .native R.palletAccount dest amount = .ok w' ∧
      available w' .native dest = available w .native dest + amount) ↔
    ∃ x, (L.get w).balances.transfer L.rules.toBalancesConfig R.palletAccount
        dest amount .keepAlive = .ok x ∧
      (x.info dest).data.free =
        ((L.get w).balances.info dest).data.free + amount := by
  simp only [doTransfer, transferWith, if_neg hpos, L.native_transfer,
    map_eq_ok, available, L.free]
  constructor
  · rintro ⟨_, ⟨x, hx, rfl⟩, hfree⟩
    rw [L.get_put] at hfree
    exact ⟨x, hx, hfree⟩
  · rintro ⟨x, hx, hfree⟩
    refine ⟨_, ⟨x, hx, rfl⟩, ?_⟩
    rw [L.get_put]
    exact hfree

private theorem asset_arrives {id : R.AssetId} (hpos : amount ≠ 0) :
    (∃ w', doTransfer w (.asset id) R.palletAccount dest amount = .ok w' ∧
      available w' (.asset id) dest = available w (.asset id) dest + amount) ↔
    ∃ x, (L.get w).transfer L.rules id R.palletAccount dest amount .preserve =
        .ok x ∧
      x.balance id dest = (L.get w).balance id dest + amount := by
  simp only [doTransfer, transferWith, if_neg hpos, L.asset_transfer,
    map_eq_ok, available, L.balance]
  constructor
  · rintro ⟨_, ⟨x, hx, rfl⟩, hbalance⟩
    rw [L.get_put] at hbalance
    exact ⟨x, hx, hbalance⟩
  · rintro ⟨x, hx, hbalance⟩
    refine ⟨_, ⟨x, hx, rfl⟩, ?_⟩
    rw [L.get_put]
    exact hbalance

/-- A transfer out of the pallet account arrives exactly when the amount can
leave. -/
theorem LedgerBacked.doTransfer_iff
    (hsound : (L.get w).balances.Sound L.rules.toBalancesConfig)
    {c : PaymentCurrency R.AssetId} (hfits : amount < 2 ^ 128) :
    (∃ w', doTransfer w c R.palletAccount dest amount = .ok w' ∧
      available w' c dest = available w c dest + amount) ↔
      L.CanLeave w c dest amount := by
  by_cases hzero : amount = 0
  · simp [doTransfer, transferWith, LedgerBacked.CanLeave, hzero]
  unfold LedgerBacked.CanLeave
  rw [or_iff_right hzero]
  by_cases hself : dest = R.palletAccount
  · -- paying itself, the pallet account has as much as before
    simp only [hself, ne_eq, not_true_eq_false, false_and, iff_false]
    cases c with
    | native =>
        rw [native_arrives L hzero]
        rintro ⟨x, hx, hfree⟩
        rw [Balances.transfer_self] at hx
        cases hx
        omega
    | asset =>
        rw [asset_arrives L hzero]
        rintro ⟨x, hx, hbalance⟩
        rw [Ledger.transfer_self hx] at hbalance
        omega
  · rw [and_iff_right hself]
    cases c with
    | native =>
        rw [native_arrives L hzero]
        exact Balances.transfer_keepAlive_iff hsound (Ne.symm hself) hzero
    | asset =>
        rw [asset_arrives L hzero]
        exact Ledger.transfer_preserve_iff (Ne.symm hself) hzero
          (Nat.le_sub_one_of_lt hfits)

end Transfers

/-! ## The calls -/

/-- A call succeeds and the payer has the deposit. -/
def Returns (s : State R) (asset : AssetInfo R) (p : Participation R)
    (r : Except DispatchError (State R)) : Prop :=
  ∃ s', r = .ok s' ∧
    available s'.world asset.policy.depositCurrency p.payer =
      available s.world asset.policy.depositCurrency p.payer + p.depositHeld

section Calls

variable {s : State R} {id pid : Nat} {asset : AssetInfo R}
  {p : Participation R}

private theorem trySettleExpiry_of_lapsed (id pid : Nat)
    (hlapsed : p.lapsed s.now = true) {w : R.World}
    (hpay : doTransfer s.world asset.policy.depositCurrency R.palletAccount
      p.payer p.depositHeld = .ok w) :
    ∃ s₁ p₁, trySettleExpiry s id pid p asset = .ok (s₁, p₁, true) ∧
      s₁.world = w := by
  simp only [trySettleExpiry, trySettleExpiryInner, if_pos hlapsed, hpay]
  exact ⟨_, _, rfl, rfl⟩

private theorem trySettleExpiry_of_current (hlapsed : p.lapsed s.now = false) :
    trySettleExpiry s id pid p asset = .ok (s, p, false) := by
  simp only [trySettleExpiry, trySettleExpiryInner, hlapsed]
  rfl

theorem settleExpired_signer (who who' : R.AccountId) :
    settleExpiredParticipation s (.signed who) id pid =
      settleExpiredParticipation s (.signed who') id pid := rfl

/-- A settlement goes through exactly when the transfer of the deposit does,
and its world is the one the transfer leaves. -/
theorem settleExpired_eq_ok (hget : s.rwaAssets.get id = some asset)
    (hp : (s.participations id).get pid = some p)
    (hlapsed : p.lapsed s.now = true) (who : R.AccountId) (w : R.World) :
    (∃ s', settleExpiredParticipation s (.signed who) id pid = .ok s' ∧
      s'.world = w) ↔
      doTransfer s.world asset.policy.depositCurrency R.palletAccount p.payer
        p.depositHeld = .ok w := by
  simp only [settleExpiredParticipation, do_eq_ok, ensureSigned_eq_ok]
  constructor
  · rintro ⟨s', ⟨_, _, asset₁, hget₁, p₁, hp₁, ⟨s₁, p₂, settled⟩, hsettle, _,
      rfl⟩, rfl⟩
    cases hget.symm.trans hget₁
    cases hp.symm.trans hp₁
    rcases trySettleExpiry_cases hsettle with
      ⟨_, hcurrent, _⟩ | ⟨_, _, _, w, hpay, hbooks⟩
    · rw [hlapsed] at hcurrent
      cases hcurrent
    · rw [hbooks]
      exact hpay
  · intro hpay
    obtain ⟨s₁, p₁, hsettle, hworld⟩ :=
      trySettleExpiry_of_lapsed id pid hlapsed hpay
    exact ⟨s₁, ⟨who, rfl, asset, hget, p, hp, _, hsettle, rfl, rfl⟩, hworld⟩

/-- The same for the exit, also of a participation that has lapsed. -/
theorem exit_eq_ok (hget : s.rwaAssets.get id = some asset)
    (hp : (s.participations id).get pid = some p)
    (hactive : p.status.isActive = true) (w : R.World) :
    (∃ s', exitParticipation s (.signed p.payer) id pid = .ok s' ∧
      s'.world = w) ↔
      doTransfer s.world asset.policy.depositCurrency R.palletAccount p.payer
        p.depositHeld = .ok w := by
  simp only [exitParticipation, do_eq_ok, ensureSigned_eq_ok]
  constructor
  · rintro ⟨s', ⟨_, _, p₁, hp₁, _, asset₁, hget₁, ⟨s₁, p₂, settled⟩, hsettle,
      h⟩, rfl⟩
    cases hget.symm.trans hget₁
    cases hp.symm.trans hp₁
    rcases trySettleExpiry_cases hsettle with
      ⟨rfl, _, rfl, rfl⟩ | ⟨rfl, _, _, w, hpay, hbooks⟩
    · simp only [Bool.false_eq_true, if_false, refundAndClose, do_eq_ok] at h
      obtain ⟨_, w, hpay, rfl⟩ := h
      exact hpay
    · simp only [if_true, pure_eq_ok] at h
      rw [← h, hbooks]
      exact hpay
  · intro hpay
    by_cases hlapsed : p.lapsed s.now = true
    · obtain ⟨s₁, p₁, hsettle, hworld⟩ :=
        trySettleExpiry_of_lapsed id pid hlapsed hpay
      exact ⟨s₁, ⟨p.payer, rfl, p, hp, rfl, asset, hget, _, hsettle, rfl⟩,
        hworld⟩
    · exact ⟨_, ⟨p.payer, rfl, p, hp, rfl, asset, hget, _,
        trySettleExpiry_of_current (by simpa using hlapsed), bind_eq_ok.mpr
          ⟨(), ensure_eq_ok.mpr hactive, bind_eq_ok.mpr ⟨w, hpay, rfl⟩⟩⟩, rfl⟩

/-- A call that goes through exactly when the transfer of the deposit does
returns the deposit exactly when it can leave. -/
private theorem returns_iff (L : LedgerBacked R)
    (hsound : (L.get s.world).balances.Sound L.rules.toBalancesConfig)
    (hfits : p.depositHeld < 2 ^ 128) {r : Except DispatchError (State R)}
    (hr : ∀ w, (∃ s', r = .ok s' ∧ s'.world = w) ↔
      doTransfer s.world asset.policy.depositCurrency R.palletAccount p.payer
        p.depositHeld = .ok w) :
    Returns s asset p r ↔ L.CanLeave s.world asset.policy.depositCurrency
      p.payer p.depositHeld := by
  rw [← L.doTransfer_iff hsound hfits]
  constructor
  · rintro ⟨s', hok, hpaid⟩
    exact ⟨s'.world, (hr _).mp ⟨s', hok, rfl⟩, hpaid⟩
  · rintro ⟨w, hpay, hpaid⟩
    obtain ⟨s', hok, rfl⟩ := (hr w).mpr hpay
    exact ⟨s', hok, hpaid⟩

end Calls

/-- Over the balances and the assets pallet, an active participation can be
left, and once its term is over be settled, with the deposit returned to the
payer exactly when the pallet account can spare it. -/
theorem deposit_leaves_iff (L : LedgerBacked R)
    {ok : State R → Action R → Prop} {s : State R} (hs : Reachable ok s)
    (hsound : (L.get s.world).balances.Sound L.rules.toBalancesConfig)
    {id pid : Nat} {p : Participation R}
    (hp : (s.participations id).get pid = some p)
    (hactive : p.status.isActive = true) (hfits : p.depositHeld < 2 ^ 128) :
    ∃ asset, s.rwaAssets.get id = some asset ∧
      (Returns s asset p (exitParticipation s (.signed p.payer) id pid) ↔
        L.CanLeave s.world asset.policy.depositCurrency p.payer
          p.depositHeld) ∧
      (p.lapsed s.now = true → ∀ who,
        (Returns s asset p
            (settleExpiredParticipation s (.signed who) id pid) ↔
          L.CanLeave s.world asset.policy.depositCurrency p.payer
            p.depositHeld)) := by
  obtain ⟨asset, hget⟩ := registered_of_participation hs hp
  exact ⟨asset, hget, returns_iff L hsound hfits (exit_eq_ok hget hp hactive),
    fun hlapsed who =>
      returns_iff L hsound hfits (settleExpired_eq_ok hget hp hlapsed who)⟩

/-! ## A till -/

/-- The existential deposit of `mock.rs`. -/
def tillRules : LedgerConfig where
  toBalancesConfig := unitBalances
  assetsIndex := 2

/-- The balances pallet as the native currency. -/
def tillCurrency : ReservableCurrency Nat (Ledger Nat Nat) where
  minimumBalance := tillRules.existentialDeposit
  freeBalance := fun w who => (w.balances.info who).data.free
  transfer := fun w source dest amount req =>
    (w.balances.transfer tillRules.toBalancesConfig source dest amount req).map
      fun x => { w with balances := x }
  withdraw := fun w who amount reasons req =>
    (w.balances.withdraw tillRules.toBalancesConfig who amount reasons req).map
      fun x => { w with balances := x }
  reserve := fun w who amount =>
    (w.balances.reserve tillRules.toBalancesConfig who amount).map
      fun x => { w with balances := x }
  unreserve := fun w who amount =>
    { w with
      balances := w.balances.unreserve tillRules.toBalancesConfig who amount }

/-- The assets pallet for the other tokens. -/
def tillAssets : Fungibles Nat Nat (Ledger Nat Nat) where
  balance := fun w id who => w.balance id who
  transfer := fun w id source dest amount preservation =>
    w.transfer tillRules id source dest amount preservation
  burnFrom := fun w id who amount preservation precision _ =>
    w.burnFrom tillRules id who amount preservation precision

/-- The mock runtime over both pallets. -/
abbrev till : Config := mockRuntime (Ledger Nat Nat) tillCurrency tillAssets

/-- Both currencies of a till are the pallets'. -/
def tillBacked : LedgerBacked till where
  rules := tillRules
  get := fun w => w
  put := fun _ x => x
  get_put := fun _ _ => rfl
  free := fun _ _ => rfl
  native_transfer := fun _ _ _ _ _ => rfl
  balance := fun _ _ _ => rfl
  asset_transfer := fun _ _ _ _ _ _ => (congrFun Except.map_id _).symm

/-- Accounts 1 to 4 have 1000 of the native token and of asset 7; the pallet
account does not exist. -/
def tillEndowed : Ledger Nat Nat where
  balances :=
    { account := [1, 2, 3, 4].foldl
        (fun m who => m.insert who ⟨0, 1, 1, ⟨1000, 0, 0⟩⟩) .empty
      totalIssuance := 4000 }
  asset := StorageMap.empty.insert 7 ⟨4000, 1, true, 4, 4, .live⟩
  account := [1, 2, 3, 4].foldl
    (fun m who => m.insert 7 who ⟨1000, .liquid, .sufficient⟩) fun _ => .empty

/-- The first state of runs over a till. -/
def tillGenesis : State till := ⟨Store.genesis till tillEndowed, 1⟩

/-- The state after some requests over a till. -/
def tillAfter (requests : List (Action till)) : State till :=
  Transition.final step tillGenesis requests

/-- An asset with a deposit of 50 for five blocks, and everybody in `payers` in
it. -/
def joined (currency : PaymentCurrency Nat) (payers : List Nat) :
    List (Action till) :=
  .call .unguarded (.signed 1) (.registerAsset 1
    { depositCurrency := currency
      entryFee := 0
      deposit := 50
      maxDuration := some 5
      maxParticipants := none
      requiresApproval := false } []) ::
  payers.map fun who =>
    .call .unguarded (.signed who) (.requestParticipation 0 [who])

/-- The state after one request. -/
def lone (currency : PaymentCurrency Nat) : State till :=
  tillAfter (joined currency [2])

/-- The same five blocks later. -/
def loneLapsed (currency : PaymentCurrency Nat) : State till :=
  tillAfter (joined currency [2] ++ List.replicate 5 .nextBlock)

private theorem tillGenesis_empty (c : PaymentCurrency Nat) :
    available tillGenesis.world c till.palletAccount = 0 := by
  cases c with
  | native => decide
  | asset id =>
      by_cases hid : id = 7
      · subst hid
        decide
      · simp [available, tillGenesis, Store.genesis, tillAssets, Ledger.balance,
          tillEndowed, hid]

/-- The only deposit in a currency does not leave the pallet account, neither by
an exit nor, five blocks later, by a settlement. -/
theorem last_deposit_stuck :
    (∀ c, available tillGenesis.world c till.palletAccount = 0) ∧
    ∀ c, c = .native ∨ c = .asset 7 →
      Transition.exec step tillGenesis (joined c [2]) = .ok (lone c) ∧
      (∃ p, ((lone c).participations 0).get 0 = some p ∧
        p.status.isActive = true ∧ p.payer = 2 ∧ p.depositHeld = 50) ∧
      failure (exitParticipation (lone c) (.signed 2) 0 0) =
        some (.token .notExpendable) ∧
      Transition.exec step tillGenesis
        (joined c [2] ++ List.replicate 5 .nextBlock) = .ok (loneLapsed c) ∧
      (∃ p, ((loneLapsed c).participations 0).get 0 = some p ∧
        p.lapsed (loneLapsed c).now = true) ∧
      ∀ who, failure (settleExpiredParticipation (loneLapsed c) (.signed who) 0
        0) = some (.token .notExpendable) := by
  refine ⟨tillGenesis_empty, ?_⟩
  rintro c (rfl | rfl)
  · exact ⟨Transition.exec_final (by decide +kernel),
      exists_participation (s := lone .native) (by decide +kernel),
      by decide +kernel, Transition.exec_final (by decide +kernel),
      exists_participation (s := loneLapsed .native) (by decide +kernel),
      fun who => by rw [settleExpired_signer who 2]; decide +kernel⟩
  · exact ⟨Transition.exec_final (by decide +kernel),
      exists_participation (s := lone (.asset 7)) (by decide +kernel),
      by decide +kernel, Transition.exec_final (by decide +kernel),
      exists_participation (s := loneLapsed (.asset 7)) (by decide +kernel),
      fun who => by rw [settleExpired_signer who 2]; decide +kernel⟩

/-- With another deposit in escrow the first one leaves. -/
theorem deposit_leaves_other :
    ∃ (asset : AssetInfo till) (p : Participation till),
      ((tillAfter (joined .native [2, 3])).participations 0).get 0 = some p ∧
      p.status.isActive = true ∧
      Returns (tillAfter (joined .native [2, 3])) asset p
        (exitParticipation (tillAfter (joined .native [2, 3]))
          (.signed p.payer) 0 0) := by
  obtain ⟨p, hp, hactive, hpayer, hdeposit⟩ :
      ∃ p : Participation till,
        ((tillAfter (joined .native [2, 3])).participations 0).get 0 = some p ∧
        p.status.isActive = true ∧ p.payer = 2 ∧ p.depositHeld = 50 :=
    exists_participation (by decide +kernel)
  have hs : Reachable (fun _ _ => True) (tillAfter (joined .native [2, 3])) :=
    .exec (.init ⟨_, _, rfl⟩) (fun _ _ _ => trivial)
      (Transition.exec_final (by decide +kernel))
  have hsound : (tillAfter (joined .native [2, 3])).world.balances.Sound
      tillRules.toBalancesConfig :=
    Balances.sound_of_keys (by decide +kernel) (by decide +kernel)
      (by decide +kernel)
  obtain ⟨asset, hget, hexit, -⟩ := deposit_leaves_iff tillBacked hs hsound hp
    hactive (by omega)
  obtain ⟨asset', hget', hcurrency⟩ :
      ∃ asset : AssetInfo till,
        (tillAfter (joined .native [2, 3])).rwaAssets.get 0 = some asset ∧
        asset.policy.depositCurrency = .native :=
    exists_asset (by decide +kernel)
  cases hget.symm.trans hget'
  refine ⟨asset, p, hp, hactive, hexit.mpr ?_⟩
  rw [hcurrency, hpayer, hdeposit]
  exact .inr ⟨by decide, ⟨by decide +kernel, by decide +kernel⟩,
    by decide +kernel⟩

end Thxnet.Rwa
