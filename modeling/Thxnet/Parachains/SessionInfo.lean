import Thxnet.Lib.StorageMap
import Thxnet.Parachains.Scheduler

/-!
# Session information

At the beginning of a session the shared pallet shuffles the validators and may
keep only some of them.  The session information lists the validators in this
order, and the keys of every other kind are to be in the same order.
-/

namespace Thxnet.Parachains

open Thxnet.Lib

variable {V : Type}

/-! ## Active validators -/

/-- `take_active_subset`. -/
def takeActiveSubset (active : List Nat) (set : List V) : List V :=
  active.filterMap fun i => set[i]?

/-- `split_active_subset`. -/
def splitActiveSubset (active : List Nat) (all : List V) : List V × List V :=
  (takeActiveSubset active all,
    (all.zipIdx.filter fun p => decide (p.2 ∉ active)).map Prod.fst)

/-- `take_active_subset_and_inactive`. -/
def takeActiveSubsetAndInactive (active : List Nat) (all : List V) : List V :=
  let (a, i) := splitActiveSubset active all
  a ++ i

/-- The indices of the validators in an order that the session's random seed
gives. -/
abbrev Shuffle (n : Nat) := {l : List Nat // l.Perm (List.range n)}

/-- The storage of the shared pallet that a new session writes. -/
structure SharedState (V : Type) where
  currentSessionIndex : Nat
  activeValidatorIndices : List Nat
  activeValidatorKeys : List V

/-- `shared::initializer_on_new_session`. -/
def Shared.initializerOnNewSession (sessionIndex : Nat)
    (newConfig : HostConfiguration) (allValidators : List V)
    (shuffle : Shuffle allValidators.length) : SharedState V × List V :=
  let shuffledIndices := match newConfig.maxValidators with
    | some most => shuffle.1.take most
    | none => shuffle.1
  let activeValidatorKeys := takeActiveSubset shuffledIndices allValidators
  (⟨sessionIndex, shuffledIndices, activeValidatorKeys⟩, activeValidatorKeys)

/-! ## The information of a session -/

/-- `SessionInfo`. -/
structure SessionInfo where
  activeValidatorIndices : List Nat
  randomSeed : List UInt8
  disputePeriod : Nat
  validators : List (List UInt8)
  discoveryKeys : List (List UInt8)
  assignmentKeys : List (List UInt8)
  validatorGroups : List (List Nat)
  nCores : Nat
  zerothDelayTrancheWidth : Nat
  relayVrfModuloSamples : Nat
  nDelayTranches : Nat
  noShowSlots : Nat
  neededApprovals : Nat
  deriving DecidableEq, Repr

/-- The codec of lists of keys. -/
def keysCodec : Codec (List (List UInt8)) := (Codec.bytes 32).vec

/-- The codec of `SessionInfo`. -/
def SessionInfo.codec : Codec SessionInfo :=
  (Codec.u32.vec.pair <| (Codec.bytes 32).pair <| Codec.u32.pair <|
    keysCodec.pair <| keysCodec.pair <| keysCodec.pair <|
    Codec.u32.vec.vec.pair <| Codec.u32.pair <| Codec.u32.pair <|
    Codec.u32.pair <| Codec.u32.pair <| Codec.u32.pair Codec.u32).via
    (fun i => (i.activeValidatorIndices, i.randomSeed, i.disputePeriod,
      i.validators, i.discoveryKeys, i.assignmentKeys, i.validatorGroups,
      i.nCores, i.zerothDelayTrancheWidth, i.relayVrfModuloSamples,
      i.nDelayTranches, i.noShowSlots, i.neededApprovals))
    (fun (active, seed, period, validators, discovery, assignment, groups,
      nCores, width, samples, tranches, slots, approvals) =>
      ⟨active, seed, period, validators, discovery, assignment, groups, nCores,
        width, samples, tranches, slots, approvals⟩)
    fun _ => rfl

/-- What the types of the fields say. -/
theorem SessionInfo.valid_iff (info : SessionInfo) :
    SessionInfo.codec.Valid info ↔
      (info.activeValidatorIndices.length < 2 ^ 32 ∧
        ∀ i ∈ info.activeValidatorIndices, i < 256 ^ 4) ∧
      info.randomSeed.length = 32 ∧
      info.disputePeriod < 256 ^ 4 ∧
      (info.validators.length < 2 ^ 32 ∧
        ∀ k ∈ info.validators, k.length = 32) ∧
      (info.discoveryKeys.length < 2 ^ 32 ∧
        ∀ k ∈ info.discoveryKeys, k.length = 32) ∧
      (info.assignmentKeys.length < 2 ^ 32 ∧
        ∀ k ∈ info.assignmentKeys, k.length = 32) ∧
      (info.validatorGroups.length < 2 ^ 32 ∧
        ∀ g ∈ info.validatorGroups, g.length < 2 ^ 32 ∧
          ∀ v ∈ g, v < 256 ^ 4) ∧
      info.nCores < 256 ^ 4 ∧
      info.zerothDelayTrancheWidth < 256 ^ 4 ∧
      info.relayVrfModuloSamples < 256 ^ 4 ∧
      info.nDelayTranches < 256 ^ 4 ∧
      info.noShowSlots < 256 ^ 4 ∧
      info.neededApprovals < 256 ^ 4 :=
  Iff.rfl

/-- `SessionChangeNotification`, as far as the session information reads it. -/
structure SessionChangeNotification where
  sessionIndex : Nat
  validators : List (List UInt8)
  randomSeed : List UInt8

/-- The storage of the session information. -/
structure SessionInfoState where
  assignmentKeysUnsafe : List (List UInt8)
  earliestStoredSession : Nat
  sessions : StorageMap Nat SessionInfo
  accountKeys : StorageMap Nat (List (List UInt8))

/-- The sessions that the window has left behind are removed. -/
def removeSessions (s : SessionInfoState) (old new : Nat) : SessionInfoState :=
  (List.range' old (new - old)).foldl (fun s idx =>
    { s with
      sessions := s.sessions.remove idx
      accountKeys := s.accountKeys.remove idx }) s

/-- `session_info::initializer_on_new_session`. -/
def SessionInfo.initializerOnNewSession
    (notification : SessionChangeNotification) (config : HostConfiguration)
    (discoveryKeys accountIds : List (List UInt8))
    (shared : SharedState (List UInt8)) (scheduler : SchedulerState)
    (s : SessionInfoState) : SessionInfoState :=
  let newSessionIndex := notification.sessionIndex
  let oldEarliest := s.earliestStoredSession
  let newEarliest := max (newSessionIndex - config.disputePeriod) oldEarliest
  let s :=
    if oldEarliest ≠ 0 ∨ (s.sessions.get 0).isSome then
      { removeSessions s oldEarliest newEarliest with
        earliestStoredSession := newEarliest }
    else { s with earliestStoredSession := newSessionIndex }
  let activeSet := shared.activeValidatorIndices
  { s with
    accountKeys := s.accountKeys.insert newSessionIndex
      (takeActiveSubset activeSet accountIds)
    sessions := s.sessions.insert newSessionIndex
      { validators := notification.validators
        discoveryKeys := takeActiveSubsetAndInactive activeSet discoveryKeys
        assignmentKeys := takeActiveSubset activeSet s.assignmentKeysUnsafe
        validatorGroups := scheduler.validatorGroups
        nCores := scheduler.availabilityCores.length
        zerothDelayTrancheWidth := config.zerothDelayTrancheWidth
        relayVrfModuloSamples := config.relayVrfModuloSamples
        nDelayTranches := config.nDelayTranches
        noShowSlots := config.noShowSlots
        neededApprovals := config.neededApprovals
        activeValidatorIndices := activeSet
        randomSeed := notification.randomSeed
        disputePeriod := config.disputePeriod } }

/-- The new session is stored with the notification's validators and the active
indices. -/
theorem SessionInfo.stored {notification : SessionChangeNotification}
    {config : HostConfiguration} {discoveryKeys accountIds : List (List UInt8)}
    {shared : SharedState (List UInt8)} {scheduler : SchedulerState}
    {s : SessionInfoState} {info : SessionInfo}
    (h : (SessionInfo.initializerOnNewSession notification config discoveryKeys
      accountIds shared scheduler s).sessions.get notification.sessionIndex =
        some info) :
    info.validators = notification.validators ∧
      info.activeValidatorIndices = shared.activeValidatorIndices := by
  have hget := (StorageMap.get_insert_self _ _ _).symm.trans h
  cases hget
  exact ⟨rfl, rfl⟩

end Thxnet.Parachains
