import Thxnet.Lib.Blake2
import Thxnet.Lib.StorageMap
import Thxnet.Lib.XxHash

/-!
# The storage of a forked chain

`fork-genesis` starts a chain from the state of a live one: it filters out what
belongs to the old validators, builds a fresh genesis for the new ones, and
writes the fresh entries over the filtered ones.
-/

namespace Thxnet.Fork

open Thxnet.Lib

/-- A child trie, with the description that its root key belongs to. -/
structure StorageChild where
  data : StorageMap (List UInt8) (List UInt8)
  childInfo : List UInt8

/-- `sp_core::storage::Storage`. -/
structure Storage where
  top : StorageMap (List UInt8) (List UInt8)
  childrenDefault : StorageMap (List UInt8) StorageChild

/-- Write an entry. -/
def Storage.put (s : Storage) (key value : List UInt8) : Storage :=
  { s with top := s.top.insert key value }

/-- The key of a storage value, and the first part of the keys of a map. -/
def itemKey (pallet item : String) : List UInt8 :=
  twox128 (ascii pallet) ++ twox128 (ascii item)

@[simp] theorem length_itemKey (pallet item : String) :
    (itemKey pallet item).length = 32 := by
  rw [itemKey, List.length_append, length_twox128, length_twox128]

/-! ## The filter -/

/-- `DROP_PALLETS`. -/
def dropPallets : List String :=
  ["AuthorityDiscovery", "Babe", "Dmp", "ElectionProviderMultiPhase",
    "FastUnstake", "Grandpa", "Historical", "Hrmp", "MessageQueue", "Offences",
    "ParaInclusion", "ParaInherent", "ParaScheduler", "ParaSessionInfo",
    "Paras", "ParasDisputes", "ParasSlashing", "Session", "Staking", "Ump",
    "VoterList"]

/-- `DROP_ITEMS`. -/
def dropItems : List (String × String) :=
  [("System", "AllExtrinsicsLen"), ("System", "BlockHash"),
    ("System", "BlockWeight"), ("System", "EventCount"), ("System", "Events"),
    ("System", "ExecutionPhase"), ("System", "ExtrinsicCount"),
    ("System", "ExtrinsicData"), ("System", "LastRuntimeUpgrade"),
    ("System", "Number"), ("Timestamp", "DidUpdate"), ("Timestamp", "Now")]

/-- `DROP_EXACT`. -/
def dropExact : List String := [":extrinsic_index", ":intrablock_entropy"]

/-- The hashes of the dropped pallets. -/
def palletHashes : List (List UInt8) :=
  dropPallets.map fun name => twox128 (ascii name)

/-- The hashes of the dropped items. -/
def itemHashes : List (List UInt8) :=
  dropItems.map fun item => itemKey item.1 item.2

/-- `should_drop`. -/
def shouldDrop (key : List UInt8) : Bool :=
  if dropExact.any fun exact => key == ascii exact then true
  else if 16 ≤ key.length ∧ palletHashes.any fun p => p.isPrefixOf key then true
  else if 32 ≤ key.length ∧ itemHashes.any fun p => p.isPrefixOf key then true
  else false

/-- `filter_forked_storage`. -/
def filterForkedStorage (storage : Storage) : Storage where
  top := storage.top.filter fun key => !shouldDrop key
  childrenDefault := storage.childrenDefault

/-! ## The merge -/

/-- `merge_storage`. -/
def mergeStorage (filtered fresh : Storage) : Storage where
  top := filtered.top.merge fresh.top fun _ value => value
  childrenDefault :=
    filtered.childrenDefault.merge fresh.childrenDefault fun old freshChild =>
      let entry := old.getD ⟨.empty, freshChild.childInfo⟩
      { entry with
        data := entry.data.merge freshChild.data fun _ value => value }

end Thxnet.Fork
