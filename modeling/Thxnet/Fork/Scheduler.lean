import Thxnet.Fork.Authorities
import Thxnet.Fork.Storage
import Thxnet.Parachains.SessionInfo

/-!
# The scheduler of a forked chain

When the fresh genesis is built, the session handlers run before the parachains
are registered, so the scheduler sees no parachain and forms no groups.
`fix_para_scheduler_state` writes the scheduler's entries, and the session
information of the first session, as if the parachains had been there.

The entries are bytes in the storage; the theorems say what the runtime reads
from them.
-/

namespace Thxnet.Fork

open Thxnet.Lib Thxnet.Parachains

/-! ## Keys -/

/-- `Session.Validators`. -/
def sessionValidatorsKey : List UInt8 := itemKey "Session" "Validators"

/-- `Paras.Parachains`. -/
def parasParachainsKey : List UInt8 := itemKey "Paras" "Parachains"

/-- `ParaScheduler.ValidatorGroups`. -/
def validatorGroupsKey : List UInt8 := itemKey "ParaScheduler" "ValidatorGroups"

/-- `ParaScheduler.AvailabilityCores`. -/
def availabilityCoresKey : List UInt8 :=
  itemKey "ParaScheduler" "AvailabilityCores"

/-- `ParaScheduler.SessionStartBlock`. -/
def sessionStartBlockKey : List UInt8 :=
  itemKey "ParaScheduler" "SessionStartBlock"

/-- `ParaSessionInfo.Sessions(0)`; the key of the map is not hashed. -/
def sessionZeroKey : List UInt8 :=
  itemKey "ParaSessionInfo" "Sessions" ++ Codec.u32.encode 0

/-! ## The session information -/

/-- `default_parachains_host_configuration`. -/
def defaultParachainsHostConfiguration : HostConfiguration where
  asyncBackingParams := ⟨3, 2⟩
  schedulerParams :=
    { groupRotationFrequency := 20
      maxValidatorsPerCore := none
      lookahead := 2
      numCores := 0 }
  nodeFeatures := [true, true, false, false, false, false, false, false]
  maxValidators := none
  disputePeriod := 6
  noShowSlots := 2
  nDelayTranches := 25
  zerothDelayTrancheWidth := 0
  neededApprovals := 2
  relayVrfModuloSamples := 2

/-- The session information, if the session handlers have not stored any. -/
def freshSessionInfo (validators : List (List UInt8)) : SessionInfo where
  activeValidatorIndices := List.range validators.length
  randomSeed := List.replicate 32 0
  disputePeriod := 0
  validators := validators
  discoveryKeys := []
  assignmentKeys := []
  validatorGroups := []
  nCores := 0
  zerothDelayTrancheWidth := 0
  relayVrfModuloSamples := 0
  nDelayTranches := 0
  noShowSlots := 0
  neededApprovals := 0

/-- The error of a decoder, with what was decoded. -/
def decodeError (what error : String) : String :=
  "decode " ++ what ++ ": " ++ error

/-- The session information to be patched. -/
def readSessionZero (storage : Storage) : Except String SessionInfo :=
  match storage.top.get sessionZeroKey with
  | some existingBytes =>
      match SessionInfo.codec.decode existingBytes with
      | .ok (info, _) => .ok info
      | .error e => .error (decodeError "ParaSessionInfo.Sessions(0)" e)
  | none =>
      match storage.top.get sessionValidatorsKey with
      | none => .error "Session.Validators missing — cannot build SessionInfo(0)"
      | some sessBytes =>
          match keysCodec.decode sessBytes with
          | .ok (validators, _) => .ok (freshSessionInfo validators)
          | .error e => .error (decodeError "Session.Validators" e)

/-- The fields that are patched. -/
def patchSessionInfo (info : SessionInfo) (nCores : Nat)
    (validatorGroups : List (List Nat)) : SessionInfo :=
  let cfg := defaultParachainsHostConfiguration
  { info with
    validatorGroups := validatorGroups
    nCores := nCores
    zerothDelayTrancheWidth := cfg.zerothDelayTrancheWidth
    relayVrfModuloSamples := cfg.relayVrfModuloSamples
    nDelayTranches := cfg.nDelayTranches
    noShowSlots := cfg.noShowSlots
    neededApprovals := cfg.neededApprovals
    disputePeriod := cfg.disputePeriod
    discoveryKeys := devAuthoritySet.map (·.discovery)
    assignmentKeys := devAuthoritySet.map (·.assignment) }

/-- `fix_para_session_info_session_zero`. -/
def fixParaSessionInfoSessionZero (storage : Storage) (nCores : Nat)
    (validatorGroups : List (List Nat)) : Storage × Except String Unit :=
  match readSessionZero storage with
  | .error e => (storage, .error e)
  | .ok info =>
      (storage.put sessionZeroKey (SessionInfo.codec.encode
        (patchSessionInfo info nCores validatorGroups)), .ok ())

/-! ## The scheduler's entries -/

/-- The number of elements that an entry begins with. -/
def lengthPrefix (what : String) (bytes : List UInt8) : Except String Nat :=
  match Codec.compact.decode bytes with
  | .ok (n, _) => .ok n
  | .error e => .error (decodeError (what ++ " length prefix") e)

/-- `n_validators`. -/
def nValidators (storage : Storage) : Except String Nat :=
  match storage.top.get sessionValidatorsKey with
  | none => .error "Session.Validators missing from merged storage"
  | some bytes => lengthPrefix "Session.Validators" bytes

/-- `n_parachains`. -/
def nParachains (storage : Storage) : Except String Nat :=
  match storage.top.get parasParachainsKey with
  | none => .ok 0
  | some bytes => lengthPrefix "Paras.Parachains" bytes

/-- The groups that are written. -/
def forkGroups (nValidators nCores : Nat) : List (List Nat) :=
  if nCores = 0 ∨ nValidators = 0 then []
  else
    let base := nValidators / nCores
    let larger := nValidators % nCores
    ((List.range larger).map fun i =>
      let off := (base + 1) * i
      (List.range (base + 1)).map fun j => (off + j) % 2 ^ 32) ++
    (List.range (nCores - larger)).map fun i =>
      let off := larger * (base + 1) + i * base
      (List.range base).map fun j => (off + j) % 2 ^ 32

/-- The cores that are written: as many zero bytes as there are cores. -/
def coresEncoded (nCores : Nat) : List UInt8 :=
  Codec.compact.encode nCores ++ List.replicate nCores 0

/-- The three entries. -/
def writeScheduler (storage : Storage) (nCores : Nat)
    (groups : List (List Nat)) : Storage :=
  ((storage.put validatorGroupsKey (Codec.u32.vec.vec.encode groups)).put
    availabilityCoresKey (coresEncoded nCores)).put
      sessionStartBlockKey (Codec.u32.encode 0)

/-- `fix_para_scheduler_state`.  The entries are written before the session
information is patched, and stay if that fails. -/
def fixParaSchedulerState (storage : Storage) :
    Storage × Except String Unit :=
  match nValidators storage with
  | .error e => (storage, .error e)
  | .ok nValidators =>
      match nParachains storage with
      | .error e => (storage, .error e)
      | .ok nParachains =>
          let parathreadCores := 0
          let nCores := max (nParachains + parathreadCores) 0
          let groups := forkGroups nValidators nCores
          fixParaSessionInfoSessionZero
            (writeScheduler storage nCores groups) nCores groups

/-! ## What is written -/

private theorem scheduler_keys_ne :
    validatorGroupsKey ≠ availabilityCoresKey ∧
      validatorGroupsKey ≠ sessionStartBlockKey ∧
      availabilityCoresKey ≠ sessionStartBlockKey := by
  decide +kernel

theorem ne_sessionZeroKey (pallet item : String) :
    itemKey pallet item ≠ sessionZeroKey := by
  intro heq
  have hlength := congrArg List.length heq
  rw [sessionZeroKey, List.length_append, length_itemKey, length_itemKey]
    at hlength
  change 32 = 32 + 4 at hlength
  omega

private theorem fixSessionZero_get_of_ne (storage : Storage) (nCores : Nat)
    (groups : List (List Nat)) {key : List UInt8} (h : key ≠ sessionZeroKey) :
    (fixParaSessionInfoSessionZero storage nCores groups).1.top.get key =
      storage.top.get key := by
  unfold fixParaSessionInfoSessionZero
  cases readSessionZero storage with
  | error => rfl
  | ok => exact StorageMap.get_insert_ne _ _ h

theorem lengthPrefix_lt {what : String} {bytes : List UInt8} {n : Nat}
    (h : lengthPrefix what bytes = .ok n) : n < 2 ^ 32 := by
  unfold lengthPrefix at h
  cases hdecode : Codec.compact.decode bytes with
  | error =>
      rw [hdecode] at h
      cases h
  | ok =>
      rw [hdecode] at h
      cases h
      exact Codec.decodeCompact_lt hdecode

variable {storage : Storage} {validators : Nat}

theorem nValidators_lt {n : Nat} (h : nValidators storage = .ok n) :
    n < 2 ^ 32 := by
  unfold nValidators at h
  cases hget : storage.top.get sessionValidatorsKey with
  | none =>
      rw [hget] at h
      cases h
  | some =>
      rw [hget] at h
      exact lengthPrefix_lt h

theorem nParachains_lt {n : Nat} (h : nParachains storage = .ok n) :
    n < 2 ^ 32 := by
  unfold nParachains at h
  cases hget : storage.top.get parasParachainsKey with
  | none =>
      rw [hget] at h
      cases h
      decide
  | some =>
      rw [hget] at h
      exact lengthPrefix_lt h

section Fixed

variable {storage : Storage} {validators parachains : Nat}

theorem fixParaSchedulerState_eq (hvalidators : nValidators storage =
    .ok validators) (hparachains : nParachains storage = .ok parachains) :
    fixParaSchedulerState storage =
      fixParaSessionInfoSessionZero
        (writeScheduler storage parachains (forkGroups validators parachains))
        parachains (forkGroups validators parachains) := by
  unfold fixParaSchedulerState
  rw [hvalidators]
  dsimp only
  rw [hparachains]
  dsimp only
  rw [Nat.add_zero, Nat.max_zero]

/-- The three entries after the fix, whether or not the session information
could be patched. -/
theorem fixed_entries (hvalidators : nValidators storage = .ok validators)
    (hparachains : nParachains storage = .ok parachains) :
    (fixParaSchedulerState storage).1.top.get validatorGroupsKey =
        some (Codec.u32.vec.vec.encode (forkGroups validators parachains)) ∧
      (fixParaSchedulerState storage).1.top.get availabilityCoresKey =
        some (coresEncoded parachains) ∧
      (fixParaSchedulerState storage).1.top.get sessionStartBlockKey =
        some (Codec.u32.encode 0) := by
  obtain ⟨hgroupsCores, hgroupsStart, hcoresStart⟩ := scheduler_keys_ne
  rw [fixParaSchedulerState_eq hvalidators hparachains]
  refine ⟨(fixSessionZero_get_of_ne _ _ _ (ne_sessionZeroKey _ _)).trans ?_,
    (fixSessionZero_get_of_ne _ _ _ (ne_sessionZeroKey _ _)).trans ?_,
    (fixSessionZero_get_of_ne _ _ _ (ne_sessionZeroKey _ _)).trans ?_⟩
  · refine (StorageMap.get_insert_ne _ _ hgroupsStart).trans ?_
    refine (StorageMap.get_insert_ne _ _ hgroupsCores).trans ?_
    exact StorageMap.get_insert_self ..
  · refine (StorageMap.get_insert_ne _ _ hcoresStart).trans ?_
    exact StorageMap.get_insert_self ..
  · exact StorageMap.get_insert_self ..

end Fixed

/-! ## Groups and cores -/

theorem forkGroups_eq (validators nCores : Nat) :
    forkGroups validators nCores = shuffledGroups validators nCores := rfl

theorem coresEncoded_eq (nCores : Nat) :
    coresEncoded nCores =
      CoreOccupied.codec.vec.encode (List.replicate nCores .free) := by
  have hbytes : ∀ n, (List.replicate n CoreOccupied.free).flatMap
      CoreOccupied.codec.encode = List.replicate n 0 := by
    intro n
    induction n with
    | zero => rfl
    | succ n ih =>
        rw [List.replicate_succ, List.flatMap_cons, ih]
        rfl
  show _ = Codec.compact.encode (List.replicate nCores _).length ++ _
  rw [List.length_replicate, hbytes, coresEncoded]

theorem decode_coresEncoded {nCores : Nat} (h : nCores < 2 ^ 32) :
    CoreOccupied.codec.vec.decode (coresEncoded nCores) =
      .ok (List.replicate nCores .free, []) := by
  rw [coresEncoded_eq]
  refine Codec.decode_encode_nil _ ⟨?_, ?_⟩
  · rwa [List.length_replicate]
  · intro core hcore
    rw [List.eq_of_mem_replicate hcore]
    trivial

/-- Indices below the count are in one group. -/
theorem existsUnique_group {nCores v : Nat} (hcores : 0 < nCores)
    (hvalidators : validators < 2 ^ 32) (hv : v < validators) :
    ∃! i : Nat, ∃ group, (forkGroups validators nCores)[i]? = some group ∧
      v ∈ group := by
  have hflatten := flatten_shuffledGroups hcores hvalidators
  rw [← forkGroups_eq] at hflatten
  refine existsUnique_of_nodup ?_ ?_
  · rw [hflatten]
    exact List.nodup_range
  · rw [hflatten]
    exact List.mem_range.mpr hv

/-- A storage value as the runtime reads it. -/
def valueOr {α : Type} (c : Codec α) (storage : Storage) (key : List UInt8)
    (default : α) : α :=
  match storage.top.get key with
  | none => default
  | some bytes =>
      match c.decode bytes with
      | .ok (a, _) => a
      | .error _ => default

theorem valueOr_encode {α : Type} {c : Codec α} {key : List UInt8} {a : α}
    (hget : storage.top.get key = some (c.encode a)) (h : c.Valid a)
    (default : α) : valueOr c storage key default = a := by
  rw [valueOr, hget]
  dsimp only
  rw [c.decode_encode_nil h]

/-- The scheduler's state as the runtime reads it. -/
def readScheduler (storage : Storage) : SchedulerState where
  validatorGroups := valueOr Codec.u32.vec.vec storage validatorGroupsKey []
  availabilityCores :=
    valueOr CoreOccupied.codec.vec storage availabilityCoresKey []
  sessionStartBlock := valueOr Codec.u32 storage sessionStartBlockKey 0

theorem valid_forkGroups {nCores : Nat} (hvalidators : validators < 2 ^ 32)
    (hcores : nCores < 2 ^ 32) :
    Codec.u32.vec.vec.Valid (forkGroups validators nCores) := by
  constructor
  · rw [forkGroups_eq, length_shuffledGroups]
    split <;> omega
  · intro group hgroup
    have hpos : 0 < nCores := by
      refine Nat.pos_of_ne_zero fun hzero => ?_
      rw [forkGroups, if_pos (.inl hzero)] at hgroup
      cases hgroup
    have hsublist := List.sublist_flatten_of_mem hgroup
    rw [forkGroups_eq, flatten_shuffledGroups hpos hvalidators] at hsublist
    constructor
    · have hlength := hsublist.length_le
      rw [List.length_range] at hlength
      omega
    · intro v hv
      have hlt := List.mem_range.mp (hsublist.subset hv)
      show v < 256 ^ 4
      omega

theorem readScheduler_fixed {parachains : Nat}
    (hvalidators : nValidators storage = .ok validators)
    (hparachains : nParachains storage = .ok parachains) :
    readScheduler (fixParaSchedulerState storage).1 =
      ⟨forkGroups validators parachains, List.replicate parachains .free,
        0⟩ := by
  obtain ⟨hgroups, hcores, hstart⟩ := fixed_entries hvalidators hparachains
  rw [readScheduler, valueOr_encode hgroups (valid_forkGroups
    (nValidators_lt hvalidators) (nParachains_lt hparachains)),
    valueOr_encode hstart (show 0 < 256 ^ 4 by decide), valueOr, hcores]
  dsimp only
  rw [decode_coresEncoded (nParachains_lt hparachains)]

/-- What the fix writes is what the scheduler would have written for as many
validators and cores.  With at least one parachain, the groups are a partition
of the validators into groups of nearly one size, one for each core. -/
theorem scheduler_state_matches {storage : Storage}
    {validators parachains : Nat}
    (hvalidators : nValidators storage = .ok validators)
    (hparachains : nParachains storage = .ok parachains) :
    ∃ groups cores,
      (fixParaSchedulerState storage).1.top.get validatorGroupsKey =
        some (Codec.u32.vec.vec.encode groups) ∧
      (∀ (V : Type) (keys : List V) config coreCount block before,
        keys.length = validators →
        sessionCores validators config coreCount = parachains →
        (Scheduler.initializerOnNewSession keys config coreCount block
          before).validatorGroups = groups) ∧
      (0 < parachains → ∀ v < validators,
        ∃! i : Nat, ∃ group, groups[i]? = some group ∧ v ∈ group) ∧
      (∀ group ∈ groups, ∀ group' ∈ groups,
        group.length ≤ group'.length + 1) ∧
      (0 < validators → 0 < parachains → groups.length = parachains) ∧
      (fixParaSchedulerState storage).1.top.get availabilityCoresKey =
        some cores ∧
      CoreOccupied.codec.vec.decode cores =
        .ok (List.replicate parachains .free, []) := by
  obtain ⟨hgroups, hcores, _⟩ := fixed_entries hvalidators hparachains
  refine ⟨_, _, hgroups, ?_, ?_, ?_, ?_, hcores,
    decode_coresEncoded (nParachains_lt hparachains)⟩
  · intro V keys config coreCount block before hlength hcount
    show shuffledGroups keys.length
      (sessionCores keys.length config coreCount) = _
    rw [hlength, hcount, forkGroups_eq]
  · intro hpos v hv
    exact existsUnique_group hpos (nValidators_lt hvalidators) hv
  · intro group hgroup group' hgroup'
    have hsize := length_of_mem_shuffledGroups hgroup
    have hsize' := length_of_mem_shuffledGroups hgroup'
    omega
  · intro hpos _
    rw [forkGroups_eq, length_shuffledGroups, if_neg (by omega)]

/-- The entries of the validators and of the parachains. -/
def forkedStorage (validators : List (List UInt8)) (parachains : List Nat) :
    Storage :=
  ((⟨.empty, .empty⟩ : Storage).put sessionValidatorsKey
    (keysCodec.encode validators)).put parasParachainsKey
      (Codec.u32.vec.encode parachains)

/-- The authorities and one parachain. -/
theorem scheduler_state_matches_six :
    nValidators (forkedStorage (devAuthoritySet.map (·.stash)) [1003]) =
        .ok 6 ∧
      nParachains (forkedStorage (devAuthoritySet.map (·.stash)) [1003]) =
        .ok 1 ∧
      ∃ groups, (fixParaSchedulerState (forkedStorage
          (devAuthoritySet.map (·.stash)) [1003])).1.top.get
            validatorGroupsKey = some (Codec.u32.vec.vec.encode groups) ∧
        groups.length = 1 := by
  have hvalidators : nValidators (forkedStorage
      (devAuthoritySet.map (·.stash)) [1003]) = .ok 6 := by
    rfl
  have hparachains : nParachains (forkedStorage
      (devAuthoritySet.map (·.stash)) [1003]) = .ok 1 := by
    rfl
  obtain ⟨groups, _, hgroups, _, _, _, hlength, _⟩ :=
    scheduler_state_matches hvalidators hparachains
  exact ⟨hvalidators, hparachains, groups, hgroups,
    hlength (by decide) (by decide)⟩

/-- Without a parachain there is no core and no group. -/
theorem groups_without_parachains :
    nValidators (forkedStorage (devAuthoritySet.map (·.stash)) []) = .ok 6 ∧
      nParachains (forkedStorage (devAuthoritySet.map (·.stash)) []) = .ok 0 ∧
      ¬ ∀ v < 6, ∃! i : Nat, ∃ group,
        (readScheduler (fixParaSchedulerState (forkedStorage
          (devAuthoritySet.map (·.stash)) [])).1).validatorGroups[i]? =
            some group ∧ v ∈ group := by
  have hvalidators : nValidators (forkedStorage
      (devAuthoritySet.map (·.stash)) []) = .ok 6 := by
    rfl
  have hparachains : nParachains (forkedStorage
      (devAuthoritySet.map (·.stash)) []) = .ok 0 := by
    rfl
  refine ⟨hvalidators, hparachains, fun h => ?_⟩
  obtain ⟨i, ⟨group, hgroup, _⟩, _⟩ := h 0 (by decide)
  rw [readScheduler_fixed hvalidators hparachains] at hgroup
  cases hgroup

end Thxnet.Fork
