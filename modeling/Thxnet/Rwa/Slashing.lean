import Thxnet.Rwa.Ledger

/-!
# What a slash takes

A slash is split by the shares of the asset's distribution.  Every share but
the last is rounded to the nearest unit; the last recipient gets what is left,
and nothing if the others have already been paid more than the whole.

`slashPayments` is the list of payments the loop makes, and `payAll` makes them;
`distributeSlash_eq` shows that the loop does just that.  The payments add up to
the slashed amount exactly when the upward roundings gain no more than the
downward ones lose and the last share is worth (`RoundsWithin`).  Otherwise the
excess comes out of what other participants have deposited.
-/

namespace Thxnet.Rwa

open Thxnet.Lib Thxnet.Frame

variable {R : Config}

/-- The payments of the loop of `do_distribute_slash`. -/
def slashPayments (total : Nat) :
    Nat → List (SlashRecipient R) → List (SlashRecipientKind R.AccountId × Nat)
  | _, [] => []
  | distributed, r :: rest =>
      let amount := shareAmount total distributed r.share rest.isEmpty
      if amount = 0 then slashPayments total distributed rest
      else
        (r.kind, amount) ::
          slashPayments total (saturatingAdd 128 distributed amount) rest

/-- Make payments out of the pallet account, one after the other. -/
def payAll (w : R.World) (currency : PaymentCurrency R.AssetId)
    (beneficiary : R.AccountId) (reporter : Option R.AccountId)
    (payments : List (SlashRecipientKind R.AccountId × Nat)) :
    Except DispatchError R.World :=
  payments.foldlM
    (fun w q => paySlash w currency beneficiary reporter q.2 q.1) w

/-- The sum of some payments. -/
def paidTotal (payments : List (SlashRecipientKind R.AccountId × Nat)) : Nat :=
  (payments.map Prod.snd).sum

theorem distributeSlash_eq (currency : PaymentCurrency R.AssetId)
    (beneficiary : R.AccountId) (reporter : Option R.AccountId) (total : Nat)
    (recipients : List (SlashRecipient R)) (w : R.World) (distributed : Nat) :
    distributeSlash currency beneficiary reporter total w distributed
        recipients =
      payAll w currency beneficiary reporter
        (slashPayments total distributed recipients) := by
  induction recipients generalizing w distributed with
  | nil => rfl
  | cons r rest ih =>
      unfold distributeSlash slashPayments
      dsimp only
      split
      · exact ih w distributed
      · rw [payAll, List.foldlM_cons]
        exact congrArg _ (funext fun w' => ih w' _)

/-! ## The sum of the payments -/

/-- What is paid: the rounded shares of all but the last recipient, and what
they leave of the whole. -/
private theorem paidTotal_append {total : Nat} (htotal : total ≤ maxValue 128)
    (recipients : List (SlashRecipient R)) (last : SlashRecipient R)
    {distributed : Nat} (hd : distributed ≤ maxValue 128) :
    paidTotal (slashPayments total distributed (recipients ++ [last])) =
      (recipients.map fun r => permill.mul r.share total).sum +
        (total - (distributed +
          (recipients.map fun r => permill.mul r.share total).sum)) := by
  induction recipients generalizing distributed with
  | nil =>
      simp only [List.nil_append, slashPayments, shareAmount, List.isEmpty_nil,
        if_true, List.map_nil, List.sum_nil]
      split
      · next hzero => simp [paidTotal, hzero]
      · simp [paidTotal]
  | cons r rest ih =>
      have hmore : (rest ++ [last]).isEmpty = false := by simp
      simp only [List.cons_append, slashPayments, shareAmount, hmore,
        Bool.false_eq_true, if_false, List.map_cons, List.sum_cons]
      split
      · next hzero =>
          rw [ih hd, hzero]
          omega
      · have hd' : saturatingAdd 128 distributed (permill.mul r.share total) ≤
            maxValue 128 := Nat.min_le_right _ _
        have hrest := ih hd'
        simp only [paidTotal, List.map_cons, List.sum_cons] at hrest ⊢
        rw [hrest]
        unfold saturatingAdd
        omega

variable {dist : List (SlashRecipient R)} {currency : PaymentCurrency R.AssetId}

private theorem sum_share_of_totalParts (h : totalParts dist = permill.accuracy)
    :
    (dist.map SlashRecipient.share).sum = permill.accuracy := by
  have hfold : ∀ (l : List (SlashRecipient R)) (n : Nat), n ≤ maxValue 32 →
      l.foldl (fun acc r => saturatingAdd 32 acc r.share) n =
        min (n + (l.map SlashRecipient.share).sum) (maxValue 32) := by
    intro l
    induction l with
    | nil =>
        intro n hn
        simp [hn]
    | cons r l ih =>
        intro n hn
        have hn' : saturatingAdd 32 n r.share ≤ maxValue 32 :=
          Nat.min_le_right _ _
        rw [List.foldl_cons, ih _ hn', List.map_cons, List.sum_cons]
        unfold saturatingAdd
        omega
  have hsum := hfold dist 0 (Nat.zero_le _)
  rw [show dist.foldl _ 0 = permill.accuracy from h] at hsum
  have hlt : permill.accuracy < maxValue 32 := by decide
  omega

/-- In millionths of a unit: the upward roundings of all shares but the last
gain no more than the downward ones lose and the last share is worth. -/
def RoundsWithin (shares : List Nat) (amount : Nat) : Prop :=
  (shares.dropLast.map fun x => roundGain permill.accuracy (x * amount)).sum ≤
    (shares.dropLast.map fun x => roundLoss permill.accuracy (x * amount)).sum
      + shares.getLastD 0 * amount

instance (shares : List Nat) (amount : Nat) :
    Decidable (RoundsWithin shares amount) :=
  inferInstanceAs (Decidable (_ ≤ _))

variable {amount : Nat} {reporter : Option R.AccountId}

/-- The payments of an accepted distribution add up to the whole exactly when
its shares round within it. -/
theorem paidTotal_eq_iff (hparts : totalParts dist = permill.accuracy)
    (hfits : amount < 2 ^ 128) :
    paidTotal (slashPayments amount 0 dist) = amount ↔
      RoundsWithin (dist.map SlashRecipient.share) amount := by
  have hsum := sum_share_of_totalParts hparts
  rcases List.eq_nil_or_concat dist with rfl | ⟨recipients, last, rfl⟩
  · cases hsum
  rw [List.concat_eq_append] at hsum ⊢
  have hshare : ∀ r ∈ recipients, r.share ≤ permill.accuracy := by
    intro r hr
    have hle := List.le_sum_of_mem
      (List.mem_map_of_mem (f := SlashRecipient.share)
        (List.mem_append_left [last] hr))
    omega
  have hround : recipients.map (fun r => permill.mul r.share amount) =
      (recipients.map fun r => r.share * amount).map
        (roundNearest permill.accuracy) := by
    rw [List.map_map]
    exact List.map_congr_left fun r hr => permill.mul_eq (hshare r hr) amount
  have hwhole : (recipients.map fun r => r.share * amount).sum
      + last.share * amount = permill.accuracy * amount := by
    rw [← hsum, List.sum_map_mul_right, ← Nat.add_mul]
    simp
  have hiff := sum_roundNearest_le_iff permill.accuracy_pos hwhole
  rw [paidTotal_append (by unfold maxValue; omega) recipients last
    (Nat.zero_le _), hround]
  simp only [List.map_map] at hiff
  simp only [RoundsWithin, List.map_append, List.map_cons, List.map_nil,
    List.dropLast_concat, List.getLastD_concat, List.map_map]
  simp only [Function.comp_def] at hiff ⊢
  rw [← hiff]
  omega

/-! ## Slashes -/

theorem doDistributeSlash_eq {b : Books R} {id : Nat}
    {dist : BoundedVec (SlashRecipient R) R.maxSlashRecipients}
    (hdist : b.assetSlashDistribution.get id = some dist)
    (hparts : totalParts dist.toList = permill.accuracy)
    (currency : PaymentCurrency R.AssetId) (amount : Nat)
    (beneficiary : R.AccountId) (reporter : Option R.AccountId) :
    doDistributeSlash b currency amount id beneficiary reporter =
      payAll b.world currency beneficiary reporter
        (slashPayments amount 0 dist.toList) := by
  have hne : dist.toList ≠ [] := by
    intro hnil
    rw [hnil] at hparts
    cases hparts
  rw [doDistributeSlash, hdist]
  dsimp only
  rw [if_neg hne, distributeSlash_eq]

/-- Nobody a slash may pay is the pallet account. -/
structure PaysOutsiders (dist : List (SlashRecipient R))
    (beneficiary : R.AccountId) (reporter : Option R.AccountId) : Prop where
  beneficiary : beneficiary ≠ R.palletAccount
  reporter : reporter ≠ some R.palletAccount
  account : ∀ r ∈ dist, r.kind ≠ .account R.palletAccount

private theorem paySlash_escrow (L : ExactLedger R) {w w' : R.World}
    {beneficiary : R.AccountId} {kind : SlashRecipientKind R.AccountId}
    (hbeneficiary : beneficiary ≠ R.palletAccount)
    (hreporter : reporter ≠ some R.palletAccount)
    (hkind : kind ≠ .account R.palletAccount)
    (h : paySlash w currency beneficiary reporter amount kind = .ok w') :
    L.escrow w' currency + amount = L.escrow w currency := by
  have hout : ∀ dest, dest ≠ R.palletAccount →
      doTransfer w currency R.palletAccount dest amount = .ok w' →
      L.escrow w' currency + amount = L.escrow w currency := by
    intro dest hdest hpay
    simpa using escrow_paidOut L hdest hpay currency
  cases kind with
  | beneficiary => exact hout _ hbeneficiary h
  | reporter =>
      refine hout _ ?_ h
      cases reporter with
      | none => exact hbeneficiary
      | some => exact fun hwho => hreporter (congrArg some hwho)
  | account => exact hout _ (fun hwho => hkind (congrArg _ hwho)) h
  | burn =>
      simpa [ExactLedger.escrow] using
        L.rule.burn h currency R.palletAccount

private theorem payAll_escrow (L : ExactLedger R) {beneficiary : R.AccountId}
    (hbeneficiary : beneficiary ≠ R.palletAccount)
    (hreporter : reporter ≠ some R.palletAccount)
    {payments : List (SlashRecipientKind R.AccountId × Nat)} {w w' : R.World}
    (hkind : ∀ q ∈ payments, q.1 ≠ .account R.palletAccount)
    (h : payAll w currency beneficiary reporter payments = .ok w') :
    L.escrow w' currency + paidTotal payments = L.escrow w currency := by
  induction payments generalizing w with
  | nil =>
      cases h
      rfl
  | cons q rest ih =>
      rw [payAll, List.foldlM_cons, bind_eq_ok] at h
      obtain ⟨w₁, hone, hrest⟩ := h
      have hfirst := paySlash_escrow L hbeneficiary hreporter
        (hkind q (by simp)) hone
      have hlast := ih (fun q hq => hkind q (by simp [hq])) hrest
      simp only [paidTotal, List.map_cons, List.sum_cons] at hlast ⊢
      omega

private theorem kind_of_mem_slashPayments {total distributed : Nat}
    {recipients : List (SlashRecipient R)}
    {q : SlashRecipientKind R.AccountId × Nat}
    (h : q ∈ slashPayments total distributed recipients) :
    ∃ r ∈ recipients, r.kind = q.1 := by
  induction recipients generalizing distributed with
  | nil => cases h
  | cons r rest ih =>
      unfold slashPayments at h
      dsimp only at h
      split at h
      · obtain ⟨r', hr', hkind⟩ := ih h
        exact ⟨r', List.mem_cons_of_mem _ hr', hkind⟩
      · rcases List.mem_cons.mp h with rfl | h
        · exact ⟨r, List.mem_cons_self, rfl⟩
        · obtain ⟨r', hr', hkind⟩ := ih h
          exact ⟨r', List.mem_cons_of_mem _ hr', hkind⟩

/-- The money of an accepted slash: the payments of the distribution, and the
rest of the deposit to the payer. -/
theorem slashParticipation_payments {s s' : State R} {g : LifecycleGuard}
    {o : Origin R.AccountId} {id pid : Nat} {asset : AssetInfo R}
    {p : Participation R}
    {dist : BoundedVec (SlashRecipient R) R.maxSlashRecipients}
    (hget : s.rwaAssets.get id = some asset)
    (hp : (s.participations id).get pid = some p)
    (hdist : s.assetSlashDistribution.get id = some dist)
    (hparts : totalParts dist.toList = permill.accuracy)
    (h : slashParticipation g s o id pid amount reporter = .ok s') :
    ∃ w, payAll s.world asset.policy.depositCurrency asset.beneficiary reporter
        (slashPayments amount 0 dist.toList) = .ok w ∧
      doTransfer w asset.policy.depositCurrency R.palletAccount p.payer
        (p.depositHeld - amount) = .ok s'.world := by
  simp only [slashParticipation, refundAndClose, do_eq_ok] at h
  obtain ⟨_, _, asset', hget', p', hp', _, _, _, _, _, _, w, hslash, w', hpay,
    rfl⟩ := h
  cases hget'.symm.trans hget
  cases hp'.symm.trans hp
  rw [doDistributeSlash_eq hdist hparts] at hslash
  exact ⟨w, hslash, hpay⟩

/-- `do_distribute_slash` pays out and burns the slashed amount, and
`slash_participation` takes the deposit out of the pallet account, exactly when
the shares round within the amount.  The payments are those the loop makes; over
an exact ledger, and if nobody paid is the pallet account itself, their sum is
what the account loses. -/
theorem slash_conserves_iff {s : State R} {g : LifecycleGuard}
    {o : Origin R.AccountId} {id pid amount : Nat}
    {reporter : Option R.AccountId} {asset : AssetInfo R} {p : Participation R}
    {dist : BoundedVec (SlashRecipient R) R.maxSlashRecipients}
    (hget : s.rwaAssets.get id = some asset)
    (hp : (s.participations id).get pid = some p)
    (hdist : s.assetSlashDistribution.get id = some dist)
    (hparts : totalParts dist.toList = permill.accuracy)
    (hamount : amount ≤ p.depositHeld) (hfits : p.depositHeld < 2 ^ 128) :
    doDistributeSlash s.toBooks asset.policy.depositCurrency amount id
        asset.beneficiary reporter =
      payAll s.world asset.policy.depositCurrency asset.beneficiary reporter
        (slashPayments amount 0 dist.toList) ∧
    (paidTotal (slashPayments amount 0 dist.toList) = amount ↔
      RoundsWithin (dist.toList.map SlashRecipient.share) amount) ∧
    ∀ s', slashParticipation g s o id pid amount reporter = .ok s' →
      (∃ w, payAll s.world asset.policy.depositCurrency asset.beneficiary
          reporter (slashPayments amount 0 dist.toList) = .ok w ∧
        doTransfer w asset.policy.depositCurrency R.palletAccount p.payer
          (p.depositHeld - amount) = .ok s'.world) ∧
      (paidTotal (slashPayments amount 0 dist.toList)
          + (p.depositHeld - amount) = p.depositHeld ↔
        RoundsWithin (dist.toList.map SlashRecipient.share) amount) ∧
      ∀ L : ExactLedger R, p.payer ≠ R.palletAccount →
        PaysOutsiders dist.toList asset.beneficiary reporter →
        (L.escrow s'.world asset.policy.depositCurrency + p.depositHeld =
            L.escrow s.world asset.policy.depositCurrency ↔
          RoundsWithin (dist.toList.map SlashRecipient.share) amount) := by
  have hiff := paidTotal_eq_iff hparts (Nat.lt_of_le_of_lt hamount hfits)
  refine ⟨doDistributeSlash_eq hdist hparts _ _ _ _, hiff, fun s' h =>
    ⟨slashParticipation_payments hget hp hdist hparts h, ?_,
      fun L hpayer hpays => ?_⟩⟩
  · rw [← hiff]
    omega
  · obtain ⟨w, hall, hrest⟩ :=
      slashParticipation_payments hget hp hdist hparts h
    have hpaid := payAll_escrow L hpays.beneficiary hpays.reporter
      (fun q hq => by
        obtain ⟨r, hr, hkind⟩ := kind_of_mem_slashPayments hq
        exact hkind ▸ hpays.account r hr) hall
    have hback := escrow_paidOut L hpayer hrest asset.policy.depositCurrency
    rw [if_pos rfl] at hback
    rw [← hiff]
    omega

/-- A third to the beneficiary, and the rest burnt. -/
def thirdBurnt : BoundedVec (SlashRecipient vault) 3 :=
  ⟨[⟨.beneficiary, 333333⟩, ⟨.burn, 666667⟩], by decide⟩

/-- Two participants, and shares for a slash. -/
def slashRequests : List (Action vault) :=
  [registered defaultPolicy, signedBy 2 (.requestParticipation 0 [2]),
    signedBy 3 (.requestParticipation 0 [3]),
    signedBy 1 (.setSlashDistribution 0 thirdBurnt)]

/-- A slash of ten out of a deposit of fifty leaves the other deposit alone. -/
theorem slash_conserves_third :
    ∃ s', slashParticipation .unguarded (vaultAfter slashRequests) .root 0 0 10
        none = .ok s' ∧
      vaultLedger.escrow s'.world .native + 50 =
        vaultLedger.escrow (vaultAfter slashRequests).world .native := by
  obtain ⟨asset, hget, hbeneficiary, hcurrency⟩ := exists_asset
    (s := vaultAfter slashRequests)
    (p := fun asset => asset.beneficiary = 9 ∧
      asset.policy.depositCurrency = .native) (by decide +kernel)
  obtain ⟨p, hp, hpayer, hheld⟩ := exists_participation
    (s := vaultAfter slashRequests)
    (p := fun p => p.payer = 2 ∧ p.depositHeld = 50) (by decide +kernel)
  have hdist : (vaultAfter slashRequests).assetSlashDistribution.get 0 =
      some thirdBurnt := rfl
  obtain ⟨s', hslash⟩ : ∃ s', step (vaultAfter slashRequests)
      (byRoot (.slashParticipation 0 0 10 none)) = .ok s' :=
    ⟨_, Transition.step_final (by decide +kernel)⟩
  refine ⟨s', hslash, ?_⟩
  have hiff := ((slash_conserves_iff hget hp hdist (by decide) (by omega)
    (by omega)).2.2 s' hslash).2.2 vaultLedger (by rw [hpayer]; decide)
    ⟨by rw [hbeneficiary]; decide, nofun, by decide⟩
  rw [hcurrency, hheld] at hiff
  exact hiff.mpr (by decide)

/-- The vault with the number of slash recipients of the production runtime. -/
abbrev vaultFive : Config := { vault with maxSlashRecipients := 5 }

/-- Five recipients with a fifth each. -/
def fifths : BoundedVec (SlashRecipient vaultFive) 5 :=
  ⟨[⟨.beneficiary, 200000⟩, ⟨.reporter, 200000⟩, ⟨.account 7, 200000⟩,
    ⟨.burn, 200000⟩, ⟨.account 8, 200000⟩], by decide⟩

/-- Two participants, and five shares for a slash. -/
def fifthRequests : List (Action vaultFive) :=
  [.call .unguarded (.signed 1) (.registerAsset 9
      { depositCurrency := .native
        entryFee := 0
        deposit := 50
        maxDuration := none
        maxParticipants := none
        requiresApproval := false } []),
    .call .unguarded (.signed 2) (.requestParticipation 0 [2]),
    .call .unguarded (.signed 3) (.requestParticipation 0 [3]),
    .call .unguarded (.signed 1) (.setSlashDistribution 0 fifths)]

/-- The first state of runs with five slash recipients. -/
def fifthGenesis : State vaultFive :=
  ⟨Store.genesis vaultFive vaultGenesis.world, 1⟩

/-- A slash of three is rounded up four times: four units are paid, and the
slash of a deposit of fifty takes fifty-one out of the pallet account. -/
theorem slash_takes_other_deposit :
    paidTotal (slashPayments 3 0 fifths.toList) = 4 ∧
    ∃ s s' : State vaultFive, Reachable (fun _ _ => True) s ∧
      s.assetSlashDistribution.get 0 = some fifths ∧
      (∃ p, (s.participations 0).get 0 = some p ∧ p.depositHeld = 50) ∧
      slashParticipation .unguarded s .root 0 0 3 none = .ok s' ∧
      s'.world.native 1000 + 51 = s.world.native 1000 := by
  refine ⟨by decide, Transition.final step fifthGenesis fifthRequests,
    Transition.final step fifthGenesis (fifthRequests ++
      [.call .unguarded .root (.slashParticipation 0 0 3 none)]), ?_, rfl, ?_,
    ?_, by decide +kernel⟩
  · exact .exec (.init ⟨_, _, rfl⟩) (fun _ _ _ => trivial)
      (Transition.exec_final (by decide +kernel))
  · exact exists_participation (by decide +kernel)
  · rfl

end Thxnet.Rwa
