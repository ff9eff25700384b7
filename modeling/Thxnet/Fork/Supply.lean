import Thxnet.Fork.Authorities
import Thxnet.Fork.Storage

/-!
# The token supply of a forked chain

The accounts of the live chain are kept, and the accounts that the fresh
genesis endows are written over them.  The total issuance is an entry of the
fresh genesis too, so it is the sum of the fresh endowments, whatever the live
accounts hold.  `supply_covered_iff` says when that is enough: when the endowed
accounts hold all of the live supply.
-/

namespace Thxnet.Fork

open Thxnet.Lib

/-! ## Accounts -/

/-- `AccountInfo`, with the `AccountData` of the balances pallet. -/
structure AccountInfo where
  nonce : Nat
  consumers : Nat
  providers : Nat
  sufficients : Nat
  free : Nat
  reserved : Nat
  frozen : Nat
  flags : Nat
  deriving DecidableEq, Repr

/-- The codec of `AccountInfo`. -/
def AccountInfo.codec : Codec AccountInfo :=
  (Codec.u32.pair <| Codec.u32.pair <| Codec.u32.pair <| Codec.u32.pair <|
    Codec.u128.pair <| Codec.u128.pair <| Codec.u128.pair Codec.u128).via
    (fun a => (a.nonce, a.consumers, a.providers, a.sufficients, a.free,
      a.reserved, a.frozen, a.flags))
    (fun (nonce, consumers, providers, sufficients, free, reserved, frozen,
      flags) => ⟨nonce, consumers, providers, sufficients, free, reserved,
        frozen, flags⟩)
    fun _ => rfl

/-- The first part of the keys of `System.Account`. -/
def accountsKey : List UInt8 := itemKey "System" "Account"

/-- The key of an account, under `Blake2_128Concat`. -/
def accountKey (who : List UInt8) : List UInt8 :=
  accountsKey ++ (Blake2.blake2_128 who ++ who)

/-- The key of `Balances.TotalIssuance`. -/
def totalIssuanceKey : List UInt8 := itemKey "Balances" "TotalIssuance"

/-- Whether a key is one of `System.Account`. -/
def isAccountKey (key : List UInt8) : Bool := accountsKey.isPrefixOf key

/-- What an encoded account holds; nothing if it cannot be decoded. -/
def accountBalance (value : List UInt8) : Nat :=
  match AccountInfo.codec.decode value with
  | .ok (info, _) => info.free + info.reserved
  | .error _ => 0

/-- What counts of an entry in the sum of all balances. -/
def countedBalance (key value : List UInt8) : Nat :=
  if isAccountKey key then accountBalance value else 0

/-- The sum of the balances of all accounts. -/
def balancesSum (s : Storage) : Nat := s.top.total countedBalance

/-- What an account holds. -/
def balanceAt (s : Storage) (who : List UInt8) : Nat :=
  ((s.top.get (accountKey who)).map accountBalance).getD 0

/-- `Balances.TotalIssuance`. -/
def totalIssuance (s : Storage) : Nat :=
  match s.top.get totalIssuanceKey with
  | none => 0
  | some value =>
      match Codec.u128.decode value with
      | .ok (n, _) => n
      | .error _ => 0

theorem isAccountKey_accountKey (who : List UInt8) :
    isAccountKey (accountKey who) = true := by
  rw [isAccountKey, accountKey, List.isPrefixOf_iff_prefix]
  exact List.prefix_append _ _

theorem accountKey_injective {who who' : List UInt8}
    (h : accountKey who = accountKey who') : who = who' := by
  have htail := List.append_cancel_left h
  exact (List.append_inj htail (by simp)).2

/-! ## The filter keeps accounts -/

private theorem accounts_not_listed :
    (∀ p ∈ palletHashes, p ≠ twox128 (ascii "System")) ∧
      ∀ p ∈ itemHashes, p ≠ accountsKey := by
  decide +kernel

private theorem length_palletHashes : ∀ p ∈ palletHashes, p.length = 16 := by
  intro p hp
  obtain ⟨name, _, rfl⟩ := List.mem_map.mp hp
  exact length_twox128 _

private theorem length_itemHashes : ∀ p ∈ itemHashes, p.length = 32 := by
  intro p hp
  obtain ⟨item, _, rfl⟩ := List.mem_map.mp hp
  exact length_itemKey _ _

private theorem eq_of_isPrefixOf {p q l : List UInt8}
    (hp : p.isPrefixOf (q ++ l) = true) (h : p.length = q.length) : p = q := by
  obtain ⟨rest, hrest⟩ := List.isPrefixOf_iff_prefix.mp hp
  exact (List.append_inj hrest h).1

theorem shouldDrop_accountKey {key : List UInt8}
    (h : isAccountKey key = true) : shouldDrop key = false := by
  obtain ⟨rest, rfl⟩ := List.isPrefixOf_iff_prefix.mp h
  have hlength : (accountsKey ++ rest).length = 32 + rest.length := by
    rw [List.length_append, accountsKey, length_itemKey]
  have hexact : (dropExact.any fun exact => accountsKey ++ rest ==
      ascii exact) = false := by
    rw [List.any_eq_false]
    intro exact hmem heq
    have hlen := congrArg List.length (eq_of_beq heq)
    have hshort : ∀ e ∈ dropExact, (ascii e).length < 32 := by decide
    have hlt := hshort exact hmem
    omega
  have hpallets : (palletHashes.any fun p =>
      p.isPrefixOf (accountsKey ++ rest)) = false := by
    rw [List.any_eq_false]
    intro p hp hstarts
    rw [accountsKey, itemKey, List.append_assoc] at hstarts
    exact accounts_not_listed.1 p hp (eq_of_isPrefixOf hstarts
      (by rw [length_palletHashes p hp, length_twox128]))
  have hitems : (itemHashes.any fun p =>
      p.isPrefixOf (accountsKey ++ rest)) = false := by
    rw [List.any_eq_false]
    intro p hp hstarts
    exact accounts_not_listed.2 p hp (eq_of_isPrefixOf hstarts
      (by rw [length_itemHashes p hp, accountsKey, length_itemKey]))
  simp [shouldDrop, hexact, hpallets, hitems]

/-! ## The fresh genesis -/

/-- The flag of accounts under the new rules of reference counting. -/
def isNewLogic : Nat := 2 ^ 127

/-- The account, or a new one. -/
def accountOf (s : Storage) (who : List UInt8) : AccountInfo :=
  match s.top.get (accountKey who) with
  | none => ⟨0, 0, 0, 0, 0, 0, 0, isNewLogic⟩
  | some value =>
      match AccountInfo.codec.decode value with
      | .ok (info, _) => info
      | .error _ => ⟨0, 0, 0, 0, 0, 0, 0, isNewLogic⟩

/-- One more provider, and the endowment as the account's data. -/
def endow (s : Storage) (endowment : List UInt8 × Nat) : Storage :=
  let info := accountOf s endowment.1
  s.put (accountKey endowment.1) (AccountInfo.codec.encode
    { info with
      providers := info.providers + 1
      free := endowment.2
      reserved := 0
      frozen := 0
      flags := isNewLogic })

/-- `build` of the balances pallet. -/
def buildBalances (existentialDeposit : Nat)
    (balances : List (List UInt8 × Nat)) (s : Storage) :
    Except String Storage := do
  let total := (balances.map Prod.snd).sum
  let s := s.put totalIssuanceKey (Codec.u128.encode total)
  if balances.any fun b => decide (b.2 < existentialDeposit) then
    .error "the balance of any account should always be at least the existential deposit."
  if ¬ (balances.map Prod.fst).Nodup then
    .error "duplicate balances in genesis."
  pure (balances.foldl endow s)

/-- The accounts of a storage are those of a list, with what they hold. -/
structure Listed (s : Storage) (endowed : List (List UInt8 × Nat)) : Prop where
  balance : ∀ e ∈ endowed, ∃ value,
    s.top.get (accountKey e.1) = some value ∧ accountBalance value = e.2
  only : ∀ key value, s.top.get key = some value →
    isAccountKey key = true → ∃ e ∈ endowed, key = accountKey e.1

/-- The fresh genesis endows exactly the given accounts. -/
structure Endows (fresh : Storage) (endowed : List (List UInt8 × Nat)) : Prop
    extends Listed fresh endowed where
  nodup : (endowed.map Prod.fst).Nodup
  fits : (endowed.map Prod.snd).sum < 2 ^ 128
  issuance : fresh.top.get totalIssuanceKey =
    some (Codec.u128.encode (endowed.map Prod.snd).sum)

theorem totalIssuanceKey_ne (who : List UInt8) :
    totalIssuanceKey ≠ accountKey who := by
  intro heq
  have hlength := congrArg List.length heq
  simp only [totalIssuanceKey, accountKey, accountsKey, List.length_append,
    length_itemKey, Blake2.length_blake2_128] at hlength
  omega

theorem accountBalance_encode {info : AccountInfo}
    (h : AccountInfo.codec.Valid info) :
    accountBalance (AccountInfo.codec.encode info) =
      info.free + info.reserved := by
  rw [accountBalance, AccountInfo.codec.decode_encode_nil h]

variable {endowed : List (List UInt8 × Nat)} {fresh s : Storage}

theorem Listed.endow (h : Listed s endowed) {e : List UInt8 × Nat}
    (hnew : e.1 ∉ endowed.map Prod.fst) (hfits : e.2 < 2 ^ 128) :
    Listed (Fork.endow s e) (endowed ++ [e]) := by
  have hnone : s.top.get (accountKey e.1) = none := by
    cases hget : s.top.get (accountKey e.1) with
    | none => rfl
    | some value =>
        obtain ⟨e', he', hkey⟩ := h.only _ value hget
          (isAccountKey_accountKey e.1)
        rw [accountKey_injective hkey] at hnew
        exact absurd (List.mem_map_of_mem he') hnew
  have hinfo : accountOf s e.1 = ⟨0, 0, 0, 0, 0, 0, 0, isNewLogic⟩ := by
    rw [accountOf, hnone]
  have hself : (Fork.endow s e).top.get (accountKey e.1) =
      some (AccountInfo.codec.encode ⟨0, 0, 1, 0, e.2, 0, 0, isNewLogic⟩) := by
    rw [Fork.endow, hinfo]
    exact StorageMap.get_insert_self ..
  have hvalid : AccountInfo.codec.Valid ⟨0, 0, 1, 0, e.2, 0, 0, isNewLogic⟩ := by
    show 0 < 256 ^ 4 ∧ 0 < 256 ^ 4 ∧ 1 < 256 ^ 4 ∧ 0 < 256 ^ 4 ∧
      e.2 < 256 ^ 16 ∧ 0 < 256 ^ 16 ∧ 0 < 256 ^ 16 ∧ 2 ^ 127 < 256 ^ 16
    omega
  constructor
  · intro e' he'
    rcases List.mem_append.mp he' with hold | hlast
    · obtain ⟨value, hget, hvalue⟩ := h.balance e' hold
      refine ⟨value, ?_, hvalue⟩
      have hne : accountKey e'.1 ≠ accountKey e.1 := by
        intro heq
        rw [← accountKey_injective heq] at hnew
        exact hnew (List.mem_map_of_mem hold)
      exact (StorageMap.get_insert_ne _ _ hne).trans hget
    · rw [List.mem_singleton.mp hlast]
      exact ⟨_, hself, accountBalance_encode hvalid⟩
  · intro key value hget hkey
    by_cases heq : key = accountKey e.1
    · exact ⟨e, List.mem_append_right _ (List.mem_singleton_self e), heq⟩
    · obtain ⟨e', he', hkey'⟩ := h.only key value
        ((StorageMap.get_insert_ne _ _ heq).symm.trans hget) hkey
      exact ⟨e', List.mem_append_left _ he', hkey'⟩

theorem Listed.foldl {done rest : List (List UInt8 × Nat)} (h : Listed s done)
    (hnodup : ((done ++ rest).map Prod.fst).Nodup)
    (hfits : ∀ e ∈ rest, e.2 < 2 ^ 128) :
    Listed (rest.foldl Fork.endow s) (done ++ rest) := by
  induction rest generalizing s done with
  | nil => rwa [List.append_nil]
  | cons e rest ih =>
      obtain ⟨he, hrest⟩ := List.forall_mem_cons.mp hfits
      have hnew : e.1 ∉ done.map Prod.fst := by
        rw [List.map_append, List.map_cons] at hnodup
        intro hmem
        exact (List.nodup_append.mp hnodup).2.2 e.1 hmem e.1 List.mem_cons_self
          rfl
      rw [List.append_cons] at hnodup ⊢
      exact ih (h.endow hnew he) hnodup hrest

theorem issuance_foldl (rest : List (List UInt8 × Nat)) (s : Storage) :
    (rest.foldl endow s).top.get totalIssuanceKey =
      s.top.get totalIssuanceKey := by
  induction rest generalizing s with
  | nil => rfl
  | cons e rest ih =>
      rw [List.foldl_cons, ih]
      exact StorageMap.get_insert_ne _ _ (totalIssuanceKey_ne e.1)

/-- What the balances pallet builds from nothing. -/
def genesisOf (existentialDeposit : Nat)
    (balances : List (List UInt8 × Nat)) : Storage :=
  (buildBalances existentialDeposit balances
    ⟨.empty, .empty⟩).toOption.getD ⟨.empty, .empty⟩

theorem genesisOf_endows {existentialDeposit : Nat}
    {balances : List (List UInt8 × Nat)}
    (hleast : ∀ b ∈ balances, existentialDeposit ≤ b.2)
    (hnodup : (balances.map Prod.fst).Nodup)
    (hfits : (balances.map Prod.snd).sum < 2 ^ 128) :
    Endows (genesisOf existentialDeposit balances) balances := by
  let start : Storage := (⟨.empty, .empty⟩ : Storage).put totalIssuanceKey
    (Codec.u128.encode (balances.map Prod.snd).sum)
  have hstart : Listed start [] := by
    constructor
    · intro e he
      cases he
    · intro key value hget hkey
      by_cases heq : key = totalIssuanceKey
      · subst heq
        exact absurd hkey (by decide +kernel)
      · have hempty := (StorageMap.get_insert_ne _ _ heq).symm.trans hget
        cases hempty
  have hlisted := hstart.foldl hnodup fun e he =>
    Nat.lt_of_le_of_lt (List.le_sum_of_mem (List.mem_map_of_mem he)) hfits
  have hbuilt : genesisOf existentialDeposit balances =
      balances.foldl endow start := by
    have hsmall : (balances.any fun b => decide (b.2 < existentialDeposit)) =
        false := by
      rw [List.any_eq_false]
      intro b hb
      simpa using hleast b hb
    unfold genesisOf buildBalances
    simp only [hsmall, hnodup, not_true_eq_false, Bool.false_eq_true, if_false]
    rfl
  rw [List.nil_append, ← hbuilt] at hlisted
  refine ⟨hlisted, hnodup, hfits, ?_⟩
  rw [hbuilt, issuance_foldl]
  exact StorageMap.get_insert_self ..

/-! ## The supply of the merge -/

theorem countedBalance_accountKey (who value : List UInt8) :
    countedBalance (accountKey who) value = accountBalance value := by
  rw [countedBalance, if_pos (isAccountKey_accountKey who)]

/-- The sum over accounts that are listed, where the others hold nothing. -/
theorem total_eq_sum_accounts {m : StorageMap (List UInt8) (List UInt8)}
    (hnodup : (endowed.map Prod.fst).Nodup)
    (honly : ∀ key value, m.get key = some value → isAccountKey key = true → ∃ e
      ∈ endowed, key = accountKey e.1) :
    m.total countedBalance = (endowed.map fun e =>
      ((m.get (accountKey e.1)).map accountBalance).getD 0).sum := by
  have hkeys : (endowed.map fun e => accountKey e.1).Nodup := by
    have hmap := hnodup.map (f := accountKey) fun _ _ => accountKey_injective
    rwa [List.map_map] at hmap
  rw [StorageMap.total_eq_sum_map hkeys]
  · rw [List.map_map]
    refine congrArg List.sum (List.map_congr_left fun e _ => ?_)
    have hcounted : countedBalance (accountKey e.1) = accountBalance :=
      funext (countedBalance_accountKey e.1)
    rw [Function.comp_apply, hcounted]
  · intro key value hget hnot
    rw [countedBalance]
    by_cases hkey : isAccountKey key = true
    · obtain ⟨e, he, rfl⟩ := honly key value hget hkey
      exact absurd (List.mem_map_of_mem he) hnot
    · rw [if_neg hkey]

theorem Endows.balancesSum_eq (h : Endows fresh endowed) :
    balancesSum fresh = (endowed.map Prod.snd).sum := by
  rw [balancesSum, total_eq_sum_accounts h.nodup h.only]
  refine congrArg List.sum (List.map_congr_left fun e he => ?_)
  obtain ⟨value, hget, hvalue⟩ := h.balance e he
  rw [hget, ← hvalue]
  rfl

/-- The issuance that an entry of the fresh genesis says. -/
theorem Endows.totalIssuance_eq (h : Endows fresh endowed)
    (hget : s.top.get totalIssuanceKey = some (Codec.u128.encode (endowed.map
      Prod.snd).sum)) : totalIssuance s = (endowed.map Prod.snd).sum := by
  have hvalid : Codec.u128.Valid (endowed.map Prod.snd).sum := by
    show _ < 256 ^ 16
    have hfits := h.fits
    omega
  rw [totalIssuance, hget]
  dsimp only
  rw [Codec.u128.decode_encode_nil hvalid]

/-- The total issuance of the fresh genesis replaces that of the live chain. -/
theorem Endows.totalIssuance_merge (h : Endows fresh endowed)
    (filtered : Storage) :
    totalIssuance (mergeStorage filtered fresh) =
      (endowed.map Prod.snd).sum :=
  h.totalIssuance_eq
    (StorageMap.get_merge_of_some h.issuance fun _ value => value)

/-- What the live accounts hold that the fresh genesis does not write. -/
def keptSum (live fresh : Storage) : Nat :=
  (live.top.filter fun key => (fresh.top.get key).isNone).total countedBalance

/-- The filter drops no account. -/
theorem balancesSum_merge (h : Endows fresh endowed) (live : Storage) :
    balancesSum (mergeStorage (filterForkedStorage live) fresh) =
      (endowed.map Prod.snd).sum + keptSum live fresh := by
  rw [balancesSum, mergeStorage, StorageMap.total_merge, keptSum,
    filterForkedStorage, StorageMap.total_filter, StorageMap.total_filter,
    StorageMap.total_filter, ← h.balancesSum_eq, balancesSum]
  refine congrArg (fresh.top.total countedBalance + ·) ?_
  refine StorageMap.total_congr fun key => ?_
  by_cases hkey : isAccountKey key = true
  · simp [shouldDrop_accountKey hkey]
  · simp [countedBalance, hkey]

/-- The live supply is what the endowed accounts hold and what is kept. -/
theorem balancesSum_live (h : Endows fresh endowed) (live : Storage) :
    balancesSum live = keptSum live fresh +
      (endowed.map fun e => balanceAt live e.1).sum := by
  rw [balancesSum, keptSum, ← StorageMap.total_filter_add live.top
    (fun key => (fresh.top.get key).isNone)]
  refine congrArg (_ + ·) ?_
  rw [total_eq_sum_accounts h.nodup]
  · refine congrArg List.sum (List.map_congr_left fun e he => ?_)
    obtain ⟨value, hget, _⟩ := h.balance e he
    rw [StorageMap.get_filter, hget, balanceAt]
    rfl
  · intro key value hget hkey
    rw [StorageMap.get_filter] at hget
    cases hfresh : fresh.top.get key with
    | none =>
        rw [hfresh] at hget
        cases hget
    | some v => exact h.only key v hfresh hkey

/-- The total issuance of the merge covers the accounts of the merge just if the
endowed accounts hold all of the live supply. -/
theorem supply_covered_iff {live fresh : Storage}
    {endowed : List (List UInt8 × Nat)}
    (hlive : totalIssuance live = balancesSum live)
    (hfresh : Endows fresh endowed) :
    balancesSum (mergeStorage (filterForkedStorage live) fresh) ≤
        totalIssuance (mergeStorage (filterForkedStorage live) fresh) ↔
      totalIssuance live =
        (endowed.map fun e => balanceAt live e.1).sum := by
  have hsplit := balancesSum_live hfresh live
  rw [balancesSum_merge hfresh, hfresh.totalIssuance_merge, hlive]
  omega

/-- The fresh genesis of a fork, as far as its balances go. -/
def freshGenesis : Storage :=
  genesisOf (thx / 1000) (freshBalances [] devAuthoritySet)

private theorem freshGenesis_endows :
    Endows freshGenesis (freshBalances [] devAuthoritySet) :=
  genesisOf_endows (by decide +kernel) (by decide +kernel) (by decide +kernel)

/-- A live chain with one account. -/
def liveHeldBy (who : List UInt8) (amount : Nat) : Storage :=
  genesisOf (thx / 1000) [(who, amount)]

private theorem liveHeldBy_endows (who : List UInt8) {amount : Nat}
    (hleast : thx / 1000 ≤ amount) (hfits : amount < 2 ^ 128) :
    Endows (liveHeldBy who amount) [(who, amount)] :=
  genesisOf_endows (by simpa using hleast) (List.nodup_singleton _)
    (by simpa using hfits)

private theorem balanceAt_liveHeldBy (who : List UInt8) {amount : Nat}
    (hleast : thx / 1000 ≤ amount) (hfits : amount < 2 ^ 128) :
    balanceAt (liveHeldBy who amount) =
      fun other => if other = who then amount else 0 := by
  have hendows := liveHeldBy_endows who hleast hfits
  funext other
  rw [balanceAt]
  by_cases heq : other = who
  · obtain ⟨value, hget, hvalue⟩ := hendows.balance _
      (List.mem_singleton_self _)
    rw [if_pos heq, heq, hget]
    exact hvalue
  · rw [if_neg heq]
    cases hget : (liveHeldBy who amount).top.get (accountKey other) with
    | none => rfl
    | some value =>
        obtain ⟨e, he, hkey⟩ := hendows.only _ value hget
          (isAccountKey_accountKey other)
        rw [List.mem_singleton.mp he] at hkey
        exact absurd (accountKey_injective hkey) heq

/-- If an authority holds the live supply, its entry is replaced and the supply
is covered. -/
theorem supply_covered_iff_alice :
    totalIssuance (liveHeldBy Keyring.alice.public (5 * thx)) =
        balancesSum (liveHeldBy Keyring.alice.public (5 * thx)) ∧
      balancesSum (mergeStorage (filterForkedStorage
          (liveHeldBy Keyring.alice.public (5 * thx))) freshGenesis) ≤
        totalIssuance (mergeStorage (filterForkedStorage
          (liveHeldBy Keyring.alice.public (5 * thx))) freshGenesis) := by
  have hendows := liveHeldBy_endows Keyring.alice.public
    (show thx / 1000 ≤ 5 * thx by decide) (by decide)
  have hlive : totalIssuance (liveHeldBy Keyring.alice.public (5 * thx)) =
      balancesSum (liveHeldBy Keyring.alice.public (5 * thx)) :=
    (hendows.totalIssuance_eq hendows.issuance).trans
      hendows.balancesSum_eq.symm
  refine ⟨hlive, (supply_covered_iff hlive freshGenesis_endows).mpr ?_⟩
  rw [hendows.totalIssuance_eq hendows.issuance,
    balanceAt_liveHeldBy _ (by decide) (by decide)]
  decide +kernel

/-- Any other account is kept, but what it holds is not issued. -/
theorem supply_not_covered :
    totalIssuance (liveHeldBy (List.replicate 32 7) thx) =
        balancesSum (liveHeldBy (List.replicate 32 7) thx) ∧
      Endows freshGenesis (freshBalances [] devAuthoritySet) ∧
      totalIssuance (mergeStorage (filterForkedStorage
          (liveHeldBy (List.replicate 32 7) thx)) freshGenesis) = 120 * thx ∧
      balancesSum (mergeStorage (filterForkedStorage
          (liveHeldBy (List.replicate 32 7) thx)) freshGenesis) =
        121 * thx := by
  have hendows := liveHeldBy_endows (List.replicate 32 7)
    (show thx / 1000 ≤ thx by decide) (by decide)
  have hsum := balancesSum_live freshGenesis_endows
    (liveHeldBy (List.replicate 32 7) thx)
  have hnone : ((freshBalances [] devAuthoritySet).map fun e =>
      balanceAt (liveHeldBy (List.replicate 32 7) thx) e.1).sum = 0 := by
    rw [balanceAt_liveHeldBy _ (by decide) (by decide)]
    decide +kernel
  rw [hendows.balancesSum_eq, hnone] at hsum
  refine ⟨(hendows.totalIssuance_eq hendows.issuance).trans
    hendows.balancesSum_eq.symm, freshGenesis_endows, ?_, ?_⟩
  · rw [freshGenesis_endows.totalIssuance_merge]
    decide
  · rw [balancesSum_merge freshGenesis_endows]
    have hfresh : ((freshBalances [] devAuthoritySet).map Prod.snd).sum =
        120 * thx := by
      decide
    simp only [List.map_cons, List.map_nil, List.sum_singleton] at hsum
    omega

end Thxnet.Fork
