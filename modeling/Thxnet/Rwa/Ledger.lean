import Thxnet.Rwa.Mock
import Thxnet.Rwa.Register

/-!
# Ledgers that move what they are asked to move

The pallet is generic over the ledgers it pays through.  `ExactLedger` is the
idealised contract: besides `ExactRule`, setting something aside changes
nothing about who holds it.

The deposits of all participations lie in one account.  What it is paid and
pays is only what the pallet means to move if no payer and no beneficiary is
that account itself, and if the sums do not overflow: `Decent` is kept by the
steps that name neither.
-/

namespace Thxnet.Rwa

open Thxnet.Lib Thxnet.Frame
open Thxnet.Crowdfunding (takeUnits_eq_ok moveUnits_eq_ok)

variable {R : Config}

/-! ## Exact ledgers -/

/-- A ledger in which transfers and burns that succeed do exactly what was
asked, with what everybody holds in it.  What is reserved is still held. -/
structure ExactLedger (R : Config) where
  holding : R.World → PaymentCurrency R.AssetId → R.AccountId → Nat
  rule : ExactRule holding R.nativeCurrency.toCurrency R.fungibles
  native_reserve : ∀ {w w' source amount},
    R.nativeCurrency.reserve w source amount = .ok w' →
    ∀ c who, holding w' c who = holding w c who
  native_unreserve : ∀ w source amount c who,
    holding (R.nativeCurrency.unreserve w source amount) c who =
      holding w c who

section Exact

variable (L : ExactLedger R) {w w' : R.World}
  {currency : PaymentCurrency R.AssetId} {source dest : R.AccountId}
  {amount : Nat}

theorem Reservations.holding_eq {w w' : R.World} (h : Reservations w w')
    (c : PaymentCurrency R.AssetId) (who : R.AccountId) :
    L.holding w' c who = L.holding w c who := by
  induction h with
  | refl => rfl
  | reserve h => exact L.native_reserve h c who
  | unreserve w source amount => exact L.native_unreserve w source amount c who
  | trans _ _ ih ih' => exact ih'.trans ih

/-- What the pallet account holds. -/
def ExactLedger.escrow (w : R.World) (c : PaymentCurrency R.AssetId) : Nat :=
  L.holding w c R.palletAccount

theorem escrow_paidIn (hne : source ≠ R.palletAccount)
    (h : doTransfer w currency source R.palletAccount amount = .ok w')
    (c : PaymentCurrency R.AssetId) :
    L.escrow w' c = L.escrow w c + (if c = currency then amount else 0) := by
  have hmoved := L.rule.transfer h c R.palletAccount
  simpa [hne.symm, ExactLedger.escrow] using hmoved

theorem escrow_paidOut (hne : dest ≠ R.palletAccount)
    (h : doTransfer w currency R.palletAccount dest amount = .ok w')
    (c : PaymentCurrency R.AssetId) :
    L.escrow w' c + (if c = currency then amount else 0) = L.escrow w c := by
  have hmoved := L.rule.transfer h c R.palletAccount
  simpa [hne.symm, ExactLedger.escrow] using hmoved

theorem escrow_paidPast (hsource : source ≠ R.palletAccount)
    (hdest : dest ≠ R.palletAccount)
    (h : doTransfer w currency source dest amount = .ok w')
    (c : PaymentCurrency R.AssetId) : L.escrow w' c = L.escrow w c := by
  have hmoved := L.rule.transfer h c R.palletAccount
  simpa [hsource.symm, hdest.symm, ExactLedger.escrow] using hmoved

end Exact

/-! ## Accounts and amounts -/

/-- An asset whose fee does not go to the pallet account, and whose deposit and
fee do not overflow together. -/
def AssetInfo.Decent (asset : AssetInfo R) : Prop :=
  asset.beneficiary ≠ R.palletAccount ∧
    asset.policy.deposit + asset.policy.entryFee < 2 ^ 128

/-- Every asset is decent, and nobody's deposit was paid by the pallet
account. -/
structure Decent (b : Books R) : Prop where
  asset : ∀ id asset, b.rwaAssets.get id = some asset → asset.Decent
  payer : ∀ id pid p, (b.participations id).get pid = some p →
    p.payer ≠ R.palletAccount

/-- The steps that name no pallet account and no overflowing amounts. -/
def Action.Decent : Action R → Prop
  | .call _ _ (.registerAsset beneficiary policy _) =>
      beneficiary ≠ R.palletAccount ∧
        policy.deposit + policy.entryFee < 2 ^ 128
  | .call _ _ (.updateAssetPolicy _ policy) =>
      policy.deposit + policy.entryFee < 2 ^ 128
  | .call _ _ (.updateBeneficiary _ beneficiary) =>
      beneficiary ≠ R.palletAccount
  | .call _ o (.requestParticipation _ _) => o ≠ .signed R.palletAccount
  | .call _ _ (.transferParticipation _ _ payer) => payer ≠ R.palletAccount
  | _ => True

section Decent

variable {b b' : Books R} {id pid : Nat}

variable {asset : AssetInfo R} {p : Participation R}
    {m : StorageMap Nat (AssetInfo R)}

private theorem decent_update {old : AssetInfo R}
    (hm : ∀ i a, m.get i = some a → a.Decent) (hget : m.get id = some old)
    (hsame : old.Decent → asset.Decent) :
    ∀ i a, (m.insert id asset).get i = some a → a.Decent :=
  StorageMap.forall_insert hm (hsame (hm id old hget))

private theorem decent_modify {f : AssetInfo R → AssetInfo R}
    (hm : ∀ i a, m.get i = some a → a.Decent)
    (hf : ∀ a : AssetInfo R, a.Decent → (f a).Decent) :
    ∀ i a, (m.modify id f).get i = some a → a.Decent := by
  intro i a' hget
  by_cases hi : i = id
  · rw [hi, StorageMap.get_modify_self] at hget
    obtain ⟨a, ha, rfl⟩ := Option.map_eq_some_iff.mp hget
    exact hf a (hm id a ha)
  · rw [StorageMap.get_modify_ne _ _ hi] at hget
    exact hm i a' hget

private theorem payer_update {m : StorageDoubleMap Nat Nat (Participation R)}
    {old : Participation R}
    (hm : ∀ i q p, (m i).get q = some p → p.payer ≠ R.palletAccount)
    (hget : (m id).get pid = some old) (hsame : p.payer = old.payer) :
    ∀ i q p', (m.insert id pid p i).get q = some p' →
      p'.payer ≠ R.palletAccount :=
  StorageDoubleMap.forall_insert hm (hsame ▸ hm id pid old hget)

theorem Decent.markRetired (hb : Decent b)
    (hget : b.rwaAssets.get id = some asset) :
    Decent (b.markRetired id asset) :=
  ⟨decent_update hb.asset hget fun h => h, hb.payer⟩

theorem Decent.closed {old : Participation R} {status : ParticipationStatus}
    (hb : Decent b) (hget : (b.participations id).get pid = some old)
    (hsame : p.payer = old.payer) : Decent (b.closed id pid p status) :=
  ⟨decent_modify hb.asset fun _ h => h, payer_update hb.payer hget hsame⟩

theorem Decent.move {a : Action R} {now : Nat} (h : Move a now b b')
    (ha : a.Decent) (hb : Decent b) : Decent b' := by
  cases h with
  | outside | requeued | slashDistributionSet | ownerProposed
  | ownerCancelled => exact ⟨hb.asset, hb.payer⟩
  | initialized =>
      refine Books.initialized_induct ⟨hb.asset, hb.payer⟩ ?_
      intro b₁ id asset _ hb₁ hget _
      exact hb₁.markRetired hget
  | registered ha' =>
      subst ha'
      exact ⟨StorageMap.forall_insert hb.asset ha, hb.payer⟩
  | policyUpdated ha' hget =>
      subst ha'
      exact ⟨StorageMap.forall_insert hb.asset ⟨(hb.asset _ _ hget).1, ha⟩,
        hb.payer⟩
  | statusSet hget => exact ⟨decent_update hb.asset hget fun h => h, hb.payer⟩
  | sunset _ hget | metadataSet _ hget =>
      exact ⟨decent_update hb.asset hget fun h => h, hb.payer⟩
  | @retired _ _ _ asset _ hget =>
      refine Decent.markRetired ?_ ?_
      · unfold Books.dropSchedule
        split <;> exact ⟨hb.asset, hb.payer⟩
      · unfold Books.dropSchedule
        split <;> exact hget
  | requested ha' =>
      subst ha'
      exact ⟨decent_modify hb.asset fun _ h => h,
        StorageDoubleMap.forall_insert hb.payer fun h =>
          ha (congrArg Origin.signed h)⟩
  | approved _ _ _ hp | renewed _ _ _ hp =>
      exact ⟨hb.asset, payer_update hb.payer hp rfl⟩
  | rejected =>
      exact ⟨decent_modify hb.asset fun _ h => h,
        StorageDoubleMap.forall_remove hb.payer⟩
  | closed _ hp => exact Decent.closed ⟨hb.asset, hb.payer⟩ hp rfl
  | leftLast _ _ hp => exact Decent.closed ⟨hb.asset, hb.payer⟩ hp rfl
  | slashed _ _ _ _ hp => exact Decent.closed ⟨hb.asset, hb.payer⟩ hp rfl
  | reopened _ _ _ hp =>
      exact ⟨decent_modify hb.asset fun _ h => h,
        payer_update hb.payer hp rfl⟩
  | holderAdded _ _ hp | holderDropped _ _ hp =>
      exact ⟨hb.asset, payer_update hb.payer hp rfl⟩
  | ownerAccepted _ _ hget =>
      exact ⟨decent_update hb.asset hget fun h => h, hb.payer⟩
  | beneficiarySet ha' hget =>
      subst ha'
      exact ⟨StorageMap.forall_insert hb.asset ⟨ha, (hb.asset _ _ hget).2⟩,
        hb.payer⟩
  | payerChanged ha' =>
      subst ha'
      exact ⟨hb.asset, StorageDoubleMap.forall_insert hb.payer ha⟩

end Decent

/-! ## The vault is exact -/

/-- What an account of a vault holds, set aside or not. -/
def vaultHolding (v : Vault) (c : PaymentCurrency Nat) (who : Nat) : Nat :=
  match c with
  | .native => v.native who + v.reserved who
  | .asset id => v.asset id who

private theorem vaultHolding_asset_ne (v : Vault) {id : Nat} (f : Nat → Nat)
    {c : PaymentCurrency Nat} (who : Nat) (hne : c ≠ .asset id) :
    vaultHolding { v with asset := Function.update v.asset id f } c who =
      vaultHolding v c who := by
  cases c with
  | native => rfl
  | asset id' =>
      have hid : id' ≠ id := fun h => hne (congrArg _ h)
      simp [vaultHolding, hid]

private theorem vault_exact :
    ExactRule vaultHolding vaultCurrency.toCurrency vaultAssets where
  moved_zero := fun c source dest w cur who => by simp
  burned_zero := fun c who w cur x => by simp
  native_transfer := by
    intro w w' source dest amount req h
    simp only [vaultCurrency, do_eq_ok] at h
    obtain ⟨f, hmove, rfl⟩ := h
    refine transferred_of_same ?_ fun who => ?_
    · rintro (_ | _) who hne
      · exact absurd rfl hne
      · rfl
    · have hx := moveUnits_eq_ok hmove who
      simp only [vaultHolding]
      omega
  native_withdraw := by
    intro w w' source amount reasons req h
    simp only [vaultCurrency, do_eq_ok] at h
    obtain ⟨f, htake, rfl⟩ := h
    refine burned_of_same ?_ fun who => ?_
    · rintro (_ | _) who hne
      · exact absurd rfl hne
      · rfl
    · have hx := takeUnits_eq_ok htake who
      simp only [vaultHolding]
      omega
  asset_transfer := by
    intro w w' id source dest amount preservation h
    simp only [vaultAssets, do_eq_ok] at h
    obtain ⟨f, hmove, rfl⟩ := h
    refine transferred_of_same (fun _ => vaultHolding_asset_ne w f) fun who => ?_
    simpa [vaultHolding] using moveUnits_eq_ok hmove who
  asset_burn := by
    intro w w' id source amount preservation precision fortitude h
    simp only [vaultAssets, do_eq_ok] at h
    obtain ⟨f, htake, rfl⟩ := h
    refine burned_of_same (fun _ => vaultHolding_asset_ne w f) fun who => ?_
    simpa [vaultHolding] using takeUnits_eq_ok htake who

/-- The accounting of a vault. -/
def vaultLedger : ExactLedger vault where
  holding := vaultHolding
  rule := vault_exact
  native_reserve := by
    intro w w' source amount h c who
    simp only [vaultCurrency, do_eq_ok] at h
    obtain ⟨f, htake, rfl⟩ := h
    have hx := takeUnits_eq_ok htake who
    cases c with
    | asset => rfl
    | native =>
        by_cases hwho : who = source
        · subst hwho
          simp only [if_true] at hx
          simp only [vaultHolding, Function.update_self]
          omega
        · simp only [if_neg hwho] at hx
          simp only [vaultHolding, Function.update_of_ne hwho]
          omega
  native_unreserve := by
    intro w source amount c who
    cases c with
    | asset => rfl
    | native =>
        by_cases hwho : who = source
        · subst hwho
          simp only [vaultCurrency, vaultHolding, Function.update_self]
          omega
        · simp only [vaultCurrency, vaultHolding, Function.update_of_ne hwho]

end Thxnet.Rwa
