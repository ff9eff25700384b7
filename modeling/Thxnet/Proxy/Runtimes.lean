import Thxnet.Proxy.Pallet

/-!
# The proxy types of the two runtimes

The calls of the leafchain runtime and of the rootchain runtime, as far as the
filters of their proxy types tell them apart, and the two implementations of
`InstanceFilter`.  What a call consists of beyond its name is kept in encoded
form.
-/

namespace Thxnet.Proxy

open Thxnet.Frame

/-- The names of the calls of `pallet_identity`. -/
inductive IdentityCall where
  | addRegistrar
  | setIdentity
  | setSubs
  | clearIdentity
  | requestJudgement
  | cancelRequest
  | setFee
  | setAccountId
  | setFields
  | provideJudgement
  | killIdentity
  | addSub
  | renameSub
  | removeSub
  | quitSub
  | addUsernameAuthority
  | removeUsernameAuthority
  | setUsernameFor
  | acceptUsername
  | removeExpiredApproval
  | setPrimaryUsername
  | removeDanglingUsername
  deriving DecidableEq, Repr

/-- `is_superset`, which the two runtimes write alike: beyond equal types, the
type `any` is a superset of all and `nonTransfer` of all but `any`. -/
def supersetOf {T : Type} [DecidableEq T] (any nonTransfer x y : T) : Bool :=
  if x = y then true
  else if x = any then true
  else if y = any then false
  else if x = nonTransfer then true
  else false

/-! ## The leafchain -/

namespace Leafchain

/-- The proxy types, in the order of their discriminants. -/
inductive ProxyType where
  | any
  | nonTransfer
  | governance
  | staking
  | identityJudgement
  | cancelProxy
  deriving DecidableEq, Ord, Repr

/-- The other pallets that have calls, `Identity` apart. -/
inductive Pallet where
  | system
  | parachainSystem
  | timestamp
  | multisig
  | balances
  | assets
  | nfts
  | treasury
  | collatorSelection
  | session
  | trustlessAgent
  | xcmpQueue
  | polkadotXcm
  | cumulusXcm
  | dmpQueue
  | messageQueue
  | rwa
  | crowdfunding
  | sudo
  deriving DecidableEq, Repr

/-- A call of one of the other pallets. -/
inductive PalletCall where
  | of (pallet : Pallet) (call : Encoded)
  | identity (call : IdentityCall) (arguments : Encoded)
  deriving DecidableEq, Repr

section Filter

variable {A H : Type}

/-- `filter`. -/
def filter (t : ProxyType) (c : RuntimeCall A ProxyType H PalletCall) : Bool :=
  match t with
  | .any => true
  | .nonTransfer =>
      match c with
      | .pallet (.of .system _) => true
      | .pallet (.of .timestamp _) => true
      | .pallet (.of .session _) => true
      | .utility _ => true
      | .proxy _ => true
      | .pallet (.of .multisig _) => true
      | .pallet (.of .assets _) => true
      | .pallet (.of .nfts _) => true
      | .pallet (.of .trustlessAgent _) => true
      | _ => false
  | .governance =>
      match c with
      | .utility _ => true
      | _ => false
  | .staking =>
      match c with
      | .pallet (.of .session _) => true
      | .utility _ => true
      | _ => false
  | .identityJudgement =>
      match c with
      | .pallet (.identity .provideJudgement _) => true
      | .utility _ => true
      | _ => false
  | .cancelProxy =>
      match c with
      | .proxy (.rejectAnnouncement _ _) => true
      | _ => false

end Filter

/-- `is_superset`. -/
def isSuperset (x y : ProxyType) : Bool := supersetOf .any .nonTransfer x y

/-- `InstanceFilter` for the proxy types of the leafchain. -/
def instanceFilter (A H : Type) :
    InstanceFilter ProxyType (RuntimeCall A ProxyType H PalletCall) where
  default := .any
  filter := filter
  isSuperset := isSuperset

end Leafchain

/-! ## The rootchain -/

namespace Rootchain

/-- The proxy types, in the order of their discriminants. -/
inductive ProxyType where
  | any
  | nonTransfer
  | governance
  | staking
  | identityJudgement
  | cancelProxy
  | auction
  | nominationPools
  deriving DecidableEq, Ord, Repr

/-- The other pallets that have calls, but for those whose calls the filters
tell apart. -/
inductive Pallet where
  | system
  | scheduler
  | preimage
  | babe
  | timestamp
  | balances
  | staking
  | session
  | grandpa
  | democracy
  | council
  | technicalCommittee
  | phragmenElection
  | technicalMembership
  | treasury
  | claims
  | multisig
  | bounties
  | childBounties
  | electionProviderMultiPhase
  | voterList
  | nominationPools
  | fastUnstake
  | configuration
  | parasShared
  | paraInclusion
  | paraInherent
  | paras
  | initializer
  | hrmp
  | parasDisputes
  | parasSlashing
  | slots
  | auctions
  | crowdloan
  | xcmPallet
  | messageQueue
  | assets
  | nfts
  | dao
  | finalityRescue
  | parasSudoWrapper
  | sudo
  deriving DecidableEq, Repr

/-- The names of the calls of `pallet_indices`. -/
inductive IndicesCall where
  | claim
  | transfer
  | free
  | forceTransfer
  | freeze
  deriving DecidableEq, Repr

/-- The names of the calls of `pallet_vesting`. -/
inductive VestingCall where
  | vest
  | vestOther
  | vestedTransfer
  | forceVestedTransfer
  | mergeSchedules
  | forceRemoveVestingSchedule
  deriving DecidableEq, Repr

/-- The names of the calls of `paras_registrar`. -/
inductive RegistrarCall where
  | register
  | forceRegister
  | deregister
  | swap
  | removeLock
  | reserve
  | addLock
  | scheduleCodeUpgrade
  | setCurrentHead
  deriving DecidableEq, Repr

/-- A call of one of the other pallets. -/
inductive PalletCall where
  | of (pallet : Pallet) (call : Encoded)
  | identity (call : IdentityCall) (arguments : Encoded)
  | indices (call : IndicesCall) (arguments : Encoded)
  | vesting (call : VestingCall) (arguments : Encoded)
  | registrar (call : RegistrarCall) (arguments : Encoded)
  deriving DecidableEq, Repr

section Filter

variable {A H : Type}

/-- `filter`. -/
def filter (t : ProxyType) (c : RuntimeCall A ProxyType H PalletCall) : Bool :=
  match t with
  | .any => true
  | .nonTransfer =>
      match c with
      | .pallet (.of .system _) => true
      | .pallet (.of .scheduler _) => true
      | .pallet (.of .babe _) => true
      | .pallet (.of .timestamp _) => true
      | .pallet (.indices .claim _) => true
      | .pallet (.indices .free _) => true
      | .pallet (.indices .freeze _) => true
      | .pallet (.of .staking _) => true
      | .pallet (.of .session _) => true
      | .pallet (.of .grandpa _) => true
      | .pallet (.of .treasury _) => true
      | .pallet (.of .bounties _) => true
      | .pallet (.of .childBounties _) => true
      | .pallet (.of .democracy _) => true
      | .pallet (.of .council _) => true
      | .pallet (.of .technicalCommittee _) => true
      | .pallet (.of .phragmenElection _) => true
      | .pallet (.of .technicalMembership _) => true
      | .pallet (.of .claims _) => true
      | .pallet (.vesting .vest _) => true
      | .pallet (.vesting .vestOther _) => true
      | .utility _ => true
      | .pallet (.identity _ _) => true
      | .proxy _ => true
      | .pallet (.of .multisig _) => true
      | .pallet (.registrar .register _) => true
      | .pallet (.registrar .deregister _) => true
      | .pallet (.registrar .reserve _) => true
      | .pallet (.of .crowdloan _) => true
      | .pallet (.of .slots _) => true
      | .pallet (.of .auctions _) => true
      | .pallet (.of .voterList _) => true
      | .pallet (.of .nominationPools _) => true
      | .pallet (.of .fastUnstake _) => true
      | _ => false
  | .governance =>
      match c with
      | .pallet (.of .treasury _) => true
      | .pallet (.of .bounties _) => true
      | .utility _ => true
      | .pallet (.of .childBounties _) => true
      | .pallet (.of .democracy _) => true
      | .pallet (.of .council _) => true
      | .pallet (.of .technicalCommittee _) => true
      | .pallet (.of .phragmenElection _) => true
      | .pallet (.of .technicalMembership _) => true
      | _ => false
  | .staking =>
      match c with
      | .pallet (.of .staking _) => true
      | .pallet (.of .session _) => true
      | .utility _ => true
      | .pallet (.of .fastUnstake _) => true
      | .pallet (.of .voterList _) => true
      | .pallet (.of .nominationPools _) => true
      | _ => false
  | .nominationPools =>
      match c with
      | .pallet (.of .nominationPools _) => true
      | .utility _ => true
      | _ => false
  | .identityJudgement =>
      match c with
      | .pallet (.identity .provideJudgement _) => true
      | .utility _ => true
      | _ => false
  | .cancelProxy =>
      match c with
      | .proxy (.rejectAnnouncement _ _) => true
      | _ => false
  | .auction =>
      match c with
      | .pallet (.of .auctions _) => true
      | .pallet (.of .crowdloan _) => true
      | .pallet (.registrar _ _) => true
      | .pallet (.of .slots _) => true
      | _ => false

end Filter

/-- `is_superset`. -/
def isSuperset (x y : ProxyType) : Bool := supersetOf .any .nonTransfer x y

/-- `InstanceFilter` for the proxy types of the rootchain. -/
def instanceFilter (A H : Type) :
    InstanceFilter ProxyType (RuntimeCall A ProxyType H PalletCall) where
  default := .any
  filter := filter
  isSuperset := isSuperset

end Rootchain

end Thxnet.Proxy
