import Thxnet.Fork.Scheduler

/-!
# The keys of the first session on a forked chain

The session handlers get the validators of the first session in the order of
the staking election and list them in a shuffled one.  The fix keeps this list
and writes the other keys in the order of the authorities, and groups of as many
validators as the session has, not only the active ones.
`session_keys_aligned_iff` says when the keys still belong together.
-/

namespace Thxnet.Fork

open Thxnet.Lib Thxnet.Parachains

/-! ## What the session handlers store -/

/-- The keys of the authorities for backing. -/
def devValidators : List (List UInt8) := devAuthoritySet.map (·.validator)

/-- The session information that the handlers store at genesis for the
validators, in the order in which these are handed to them. -/
def genesisSessions (config : HostConfiguration)
    (allValidators : List (List UInt8)) (shuffle : Shuffle allValidators.length)
    (randomSeed : List UInt8) (discoveryKeys accountIds : List (List UInt8))
    (scheduler : SchedulerState) (s : SessionInfoState) : SessionInfoState :=
  let (shared, validators) :=
    Shared.initializerOnNewSession 0 config allValidators shuffle
  SessionInfo.initializerOnNewSession ⟨0, validators, randomSeed⟩ config
    discoveryKeys accountIds shared scheduler s

variable {info : SessionInfo}

/-! ## Keys that belong together -/

/-- The keys at an index are those of one authority. -/
def KeysAligned (info : SessionInfo) : Prop :=
  ∀ i < info.validators.length, ∃ a ∈ devAuthoritySet,
    info.validators[i]? = some a.validator ∧
      info.assignmentKeys[i]? = some a.assignment ∧
      info.discoveryKeys[i]? = some a.discovery

/-- The groups are of validators. -/
def GroupsInRange (info : SessionInfo) : Prop :=
  ∀ group ∈ info.validatorGroups, ∀ v ∈ group, v < info.validators.length

private theorem keys_eq : ∀ a ∈ devAuthoritySet,
    a.assignment = a.validator ∧ a.discovery = a.validator := by
  decide

private theorem assignments_eq :
    devAuthoritySet.map (·.assignment) = devValidators :=
  List.map_congr_left fun a ha => (keys_eq a ha).1

private theorem discoveries_eq :
    devAuthoritySet.map (·.discovery) = devValidators :=
  List.map_congr_left fun a ha => (keys_eq a ha).2

/-- With the other keys in the order of the authorities, the validators are to
be in this order too. -/
theorem keysAligned_iff
    (hassignment : info.assignmentKeys = devAuthoritySet.map (·.assignment))
    (hdiscovery : info.discoveryKeys = devAuthoritySet.map (·.discovery)) :
    KeysAligned info ↔ info.validators <+: devValidators := by
  rw [List.prefix_iff_getElem?]
  constructor
  · intro h i hi
    obtain ⟨a, ha, hvalidator, hkey, _⟩ := h i hi
    rw [hassignment, assignments_eq, (keys_eq a ha).1] at hkey
    rw [hkey, ← hvalidator, List.getElem?_eq_getElem hi]
  · intro h i hi
    have hget := h i hi
    obtain ⟨a, ha, hvalidator⟩ := List.mem_map.mp (List.mem_of_getElem? hget)
    refine ⟨a, ha, ?_, ?_, ?_⟩
    · rw [List.getElem?_eq_getElem hi, hvalidator]
    · rw [hassignment, assignments_eq, hget, (keys_eq a ha).1, hvalidator]
    · rw [hdiscovery, discoveries_eq, hget, (keys_eq a ha).2, hvalidator]

/-- The groups of all authorities are groups of active ones just if all are
active. -/
theorem groupsInRange_iff {parachains n : Nat} :
    (∀ group ∈ forkGroups devAuthoritySet.length parachains,
        ∀ v ∈ group, v < n) ↔
      parachains = 0 ∨ devAuthoritySet.length ≤ n := by
  by_cases hzero : parachains = 0
  · subst hzero
    simp [forkGroups]
  have hflatten := flatten_shuffledGroups (Nat.pos_of_ne_zero hzero)
    (show devAuthoritySet.length < 2 ^ 32 by decide)
  rw [← forkGroups_eq] at hflatten
  constructor
  · intro h
    right
    have hmem : 5 ∈ (forkGroups devAuthoritySet.length parachains).flatten := by
      rw [hflatten]
      decide
    obtain ⟨group, hgroup, hv⟩ := List.mem_flatten.mp hmem
    exact h group hgroup 5 hv
  · rintro (h | h) group hgroup v hv
    · exact absurd h hzero
    · have hmem := List.mem_flatten.mpr ⟨group, hgroup, hv⟩
      rw [hflatten] at hmem
      exact Nat.lt_of_lt_of_le (List.mem_range.mp hmem) h

/-! ## The patched information -/

theorem readSessionZero_writeScheduler {storage : Storage} {nCores : Nat}
    {groups : List (List Nat)}
    (hstored : storage.top.get sessionZeroKey = some (SessionInfo.codec.encode
      info)) (hvalid : SessionInfo.codec.Valid info) :
    readSessionZero (writeScheduler storage nCores groups) = .ok info := by
  have hget : (writeScheduler storage nCores groups).top.get sessionZeroKey =
      some (SessionInfo.codec.encode info) := by
    refine (StorageMap.get_insert_ne _ _ (ne_sessionZeroKey _ _).symm).trans ?_
    refine (StorageMap.get_insert_ne _ _ (ne_sessionZeroKey _ _).symm).trans ?_
    refine (StorageMap.get_insert_ne _ _ (ne_sessionZeroKey _ _).symm).trans ?_
    exact hstored
  rw [readSessionZero, hget]
  dsimp only
  rw [SessionInfo.codec.decode_encode_nil hvalid]

private theorem defaults_fit :
    defaultParachainsHostConfiguration.disputePeriod < 256 ^ 4 ∧
      defaultParachainsHostConfiguration.zerothDelayTrancheWidth < 256 ^ 4 ∧
      defaultParachainsHostConfiguration.relayVrfModuloSamples < 256 ^ 4 ∧
      defaultParachainsHostConfiguration.nDelayTranches < 256 ^ 4 ∧
      defaultParachainsHostConfiguration.noShowSlots < 256 ^ 4 ∧
      defaultParachainsHostConfiguration.neededApprovals < 256 ^ 4 := by
  decide

theorem valid_patchSessionInfo {nCores : Nat} {groups : List (List Nat)}
    (hvalid : SessionInfo.codec.Valid info) (hcores : nCores < 2 ^ 32)
    (hgroups : Codec.u32.vec.vec.Valid groups) :
    SessionInfo.codec.Valid (patchSessionInfo info nCores groups) := by
  rw [SessionInfo.valid_iff] at hvalid ⊢
  obtain ⟨hactive, hseed, _, hvalidators, _⟩ := hvalid
  have hkeys : (devValidators.length < 2 ^ 32 ∧
      ∀ k ∈ devValidators, k.length = 32) := by
    decide
  obtain ⟨hperiod, hconfig⟩ := defaults_fit
  refine ⟨hactive, hseed, hperiod, hvalidators, ?_, ?_, hgroups, hcores,
    hconfig⟩
  · show (devAuthoritySet.map (·.discovery)).length < 2 ^ 32 ∧ _
    rw [discoveries_eq]
    exact hkeys
  · show (devAuthoritySet.map (·.assignment)).length < 2 ^ 32 ∧ _
    rw [assignments_eq]
    exact hkeys

theorem readSessionZero_fixed {storage : Storage}
    {validators parachains : Nat}
    (hvalidators : nValidators storage = .ok validators)
    (hparachains : nParachains storage = .ok parachains)
    (hstored : storage.top.get sessionZeroKey = some (SessionInfo.codec.encode
      info)) (hvalid : SessionInfo.codec.Valid info) :
    readSessionZero (fixParaSchedulerState storage).1 =
      .ok (patchSessionInfo info parachains
        (forkGroups validators parachains)) := by
  have hpatched := valid_patchSessionInfo hvalid (nParachains_lt hparachains)
    (valid_forkGroups (nValidators_lt hvalidators)
      (nParachains_lt hparachains))
  rw [fixParaSchedulerState_eq hvalidators hparachains,
    fixParaSessionInfoSessionZero,
    readSessionZero_writeScheduler hstored hvalid]
  dsimp only
  rw [readSessionZero, Storage.put, StorageMap.get_insert_self]
  dsimp only
  rw [SessionInfo.codec.decode_encode_nil hpatched]

/-- The handlers store the validators with the active indices.  After the fix
the keys belong together and the groups are of validators just if these are in
the order of the authorities and, with at least one parachain, all of them. -/
theorem session_keys_aligned_iff {storage : Storage} {parachains : Nat}
    (hvalidators : nValidators storage = .ok devAuthoritySet.length)
    (hparachains : nParachains storage = .ok parachains)
    {config : HostConfiguration} {allValidators : List (List UInt8)}
    {shuffle : Shuffle allValidators.length} {randomSeed : List UInt8}
    {discoveryKeys accountIds : List (List UInt8)} {scheduler : SchedulerState}
    {s : SessionInfoState} {info : SessionInfo}
    (hinfo : (genesisSessions config allValidators shuffle randomSeed
      discoveryKeys accountIds scheduler s).sessions.get 0 = some info)
    (hstored : storage.top.get sessionZeroKey =
      some (SessionInfo.codec.encode info))
    (hvalid : SessionInfo.codec.Valid info) :
    info.validators =
        takeActiveSubset info.activeValidatorIndices allValidators ∧
    ∃ patched,
      readSessionZero (fixParaSchedulerState storage).1 = .ok patched ∧
      (KeysAligned patched ∧ GroupsInRange patched ↔
        info.validators <+: devValidators ∧
          (parachains = 0 ∨
            devAuthoritySet.length ≤ info.validators.length)) := by
  refine ⟨?_, _,
    readSessionZero_fixed hvalidators hparachains hstored hvalid, ?_⟩
  · obtain ⟨hkeys, hactive⟩ := SessionInfo.stored hinfo
    rw [hkeys, hactive]
  · rw [keysAligned_iff rfl rfl]
    unfold GroupsInRange patchSessionInfo
    dsimp only
    rw [groupsInRange_iff]

/-! ## Two shuffles

The election of the fresh genesis hands the validators over in the order of
their accounts.
-/

/-- The validators in the order of their accounts. -/
def electedValidators : List (List UInt8) :=
  [Keyring.ferdie, .dave, .bob, .charlie, .alice, .eve].map Keyring.public

/-- The information that the handlers store for them. -/
def storedInfo (shuffle : Shuffle electedValidators.length) : SessionInfo :=
  ((genesisSessions defaultParachainsHostConfiguration electedValidators shuffle
    (List.replicate 32 0) [] [] ⟨[], [], 0⟩
    ⟨[], 0, .empty, .empty⟩).sessions.get 0).getD (freshSessionInfo [])

/-- A merged storage with this information, and one parachain. -/
def storageFor (shuffle : Shuffle electedValidators.length) : Storage :=
  (forkedStorage (devAuthoritySet.map (·.stash)) [1003]).put sessionZeroKey
    (SessionInfo.codec.encode (storedInfo shuffle))

/-- The shuffle that leaves the order as it is. -/
def unshuffled : Shuffle electedValidators.length :=
  ⟨[0, 1, 2, 3, 4, 5], List.Perm.refl _⟩

/-- The shuffle to the order of the authorities. -/
def toAuthorities : Shuffle electedValidators.length :=
  ⟨[4, 2, 3, 1, 5, 0], by decide⟩

private theorem storedInfo_get (shuffle : Shuffle electedValidators.length) :
    (genesisSessions defaultParachainsHostConfiguration electedValidators
      shuffle (List.replicate 32 0) [] [] ⟨[], [], 0⟩
      ⟨[], 0, .empty, .empty⟩).sessions.get 0 = some (storedInfo shuffle) :=
  rfl

private theorem storageFor_counts (shuffle : Shuffle electedValidators.length) :
    nValidators (storageFor shuffle) = .ok devAuthoritySet.length ∧
      nParachains (storageFor shuffle) = .ok 1 :=
  ⟨rfl, rfl⟩

private theorem storageFor_stored (shuffle : Shuffle electedValidators.length) :
    (storageFor shuffle).top.get sessionZeroKey =
      some (SessionInfo.codec.encode (storedInfo shuffle)) :=
  StorageMap.get_insert_self ..

theorem session_keys_aligned_iff_toAuthorities :
    ∃ patched,
      readSessionZero (fixParaSchedulerState (storageFor toAuthorities)).1 =
        .ok patched ∧
      KeysAligned patched ∧ GroupsInRange patched := by
  obtain ⟨hvalidators, hparachains⟩ := storageFor_counts toAuthorities
  obtain ⟨_, patched, hread, hiff⟩ := session_keys_aligned_iff hvalidators
    hparachains (storedInfo_get toAuthorities) (storageFor_stored toAuthorities)
    ((SessionInfo.valid_iff _).mpr (by decide))
  exact ⟨patched, hread, hiff.mpr (by decide)⟩

/-- The validator at index 0 is the last authority, with the keys of the
first. -/
theorem session_keys_mixed :
    (genesisSessions defaultParachainsHostConfiguration electedValidators
        unshuffled (List.replicate 32 0) [] [] ⟨[], [], 0⟩
        ⟨[], 0, .empty, .empty⟩).sessions.get 0 =
        some (storedInfo unshuffled) ∧
      (storageFor unshuffled).top.get sessionZeroKey =
        some (SessionInfo.codec.encode (storedInfo unshuffled)) ∧
      ∃ patched,
        readSessionZero (fixParaSchedulerState (storageFor unshuffled)).1 =
          .ok patched ∧
        patched.validators[0]? = some Keyring.ferdie.public ∧
        patched.assignmentKeys[0]? = some Keyring.alice.public ∧
        patched.discoveryKeys[0]? = some Keyring.alice.public ∧
        ¬ KeysAligned patched := by
  obtain ⟨hvalidators, hparachains⟩ := storageFor_counts unshuffled
  refine ⟨storedInfo_get unshuffled, storageFor_stored unshuffled, _,
    readSessionZero_fixed hvalidators hparachains (storageFor_stored unshuffled)
    ((SessionInfo.valid_iff _).mpr (by decide)), rfl, rfl, rfl, ?_⟩
  rw [keysAligned_iff rfl rfl]
  decide

end Thxnet.Fork
