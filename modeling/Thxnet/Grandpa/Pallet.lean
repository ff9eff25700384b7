import Thxnet.Frame.Support
import Thxnet.Lib.Rounding
import Thxnet.Lib.StorageMap
import Thxnet.Lib.Transition

/-!
# The GRANDPA pallet and the rescue of finality

`pallet_grandpa` of the framework, as far as changes of the authorities go: a
change is scheduled by a new session, signalled to the clients by a log at the
end of the block it was scheduled in, and enacted at the end of the block it is
due in.  `pallet_finality_rescue` throws away what is pending and schedules a
forced change to the authorities there are.  It writes the storage of the other
pallet directly.

Block numbers are `u32`, the set id is a `u64`; what the code adds to them wraps
around.  The logs and events here are those of all blocks so far.
-/

namespace Thxnet.Grandpa

open Thxnet.Lib Thxnet.Frame

/-! ## Types and storage -/

/-- The parameters of the two pallets. -/
structure Config where
  AccountId : Type
  AuthorityId : Type
  decAuthorityId : DecidableEq AuthorityId
  maxSetIdSessionEntries : Nat
  rescueCooldown : Nat
  grandpaIndex : Nat
  finalityRescueIndex : Nat

instance (R : Config) : DecidableEq R.AuthorityId := R.decAuthorityId

/-- Authorities with their weights. -/
abbrev Config.AuthorityList (R : Config) : Type := List (R.AuthorityId × Nat)

/-- The errors of `pallet_grandpa`. -/
inductive Error where
  | pauseFailed
  | resumeFailed
  | changePending
  | tooSoon
  | invalidKeyOwnershipProof
  | invalidEquivocationProof
  | duplicateOffenceReport
  deriving DecidableEq, Repr

/-- The errors of `pallet_finality_rescue`. -/
inductive RescueError where
  | cooldownNotElapsed
  | noAuthorities
  | scheduleChangeFailed
  deriving DecidableEq, Repr

/-- An error of `pallet_grandpa`. -/
def Config.err (R : Config) (e : Error) : DispatchError :=
  .module ⟨R.grandpaIndex, e.ctorIdx⟩

/-- An error of `pallet_finality_rescue`. -/
def Config.rescueErr (R : Config) (e : RescueError) : DispatchError :=
  .module ⟨R.finalityRescueIndex, e.ctorIdx⟩

/-- `StoredPendingChange`. -/
structure StoredPendingChange (R : Config) where
  scheduledAt : Nat
  delay : Nat
  nextAuthorities : R.AuthorityList
  forced : Option Nat

/-- `StoredState`. -/
inductive StoredState where
  | live
  | pendingPause (scheduledAt delay : Nat)
  | paused
  | pendingResume (scheduledAt delay : Nat)
  deriving DecidableEq, Repr

/-- The consensus logs `on_finalize` deposits. -/
inductive ConsensusLog (R : Config) where
  | scheduledChange (delay : Nat) (nextAuthorities : R.AuthorityList)
  | forcedChange (median delay : Nat) (nextAuthorities : R.AuthorityList)
  | pause (delay : Nat)
  | resume (delay : Nat)

/-- The events of the two pallets. -/
inductive Event (R : Config) where
  | newAuthorities (authoritySet : R.AuthorityList)
  | paused
  | resumed
  | finalityRescueExecuted (blockNumber median authorityCount oldSetId
      newSetId : Nat)

/-- The storage of the two pallets, the number of the block, and the logs and
events. -/
structure State (R : Config) where
  blockNumber : Nat
  state : StoredState
  pendingChange : Option (StoredPendingChange R)
  nextForced : Option Nat
  stalled : Option (Nat × Nat)
  currentSetId : Nat
  setIdSession : StorageMap Nat Nat
  authorities : R.AuthorityList
  lastRescueBlock : Option Nat
  logs : List (ConsensusLog R)
  events : List (Event R)

variable {R : Config} (s : State R)

namespace State

/-- The state after the genesis build. -/
def genesis (authorities : R.AuthorityList) : State R where
  blockNumber := 0
  state := .live
  pendingChange := none
  nextForced := none
  stalled := none
  currentSetId := 0
  setIdSession := StorageMap.empty.insert 0 0
  authorities := authorities
  lastRescueBlock := none
  logs := []
  events := []

/-- Append a log. -/
def depositLog (log : ConsensusLog R) : State R :=
  { s with logs := s.logs ++ [log] }

/-- Append an event. -/
def depositEvent (e : Event R) : State R :=
  { s with events := s.events ++ [e] }

/-! ## Scheduling -/

/-- `schedule_change`. -/
def scheduleChange (nextAuthorities : R.AuthorityList) (inBlocks : Nat)
    (forced : Option Nat) : Except DispatchError (State R) := do
  ensure (s.pendingChange.isNone = true) (R.err .changePending)
  let s ← (match forced with
    | some _ => do
        ensure (s.nextForced.all (fun next => next ≤ s.blockNumber) = true)
          (R.err .tooSoon)
        pure { s with
          nextForced := some
            (wrappingAdd 32 s.blockNumber (inBlocks * 2 % 2 ^ 32)) }
    | none => pure s)
  pure { s with
    pendingChange := some ⟨s.blockNumber, inBlocks, nextAuthorities, forced⟩ }

/-- The attempt of `on_new_session` to schedule a change; it uses up the note
that finality has stalled. -/
def sessionChange (validators : List R.AuthorityId) :
    Except DispatchError (State R) :=
  match s.stalled with
  | some (furtherWait, median) =>
      { s with stalled := none }.scheduleChange (validators.map (·, 1))
        furtherWait (some median)
  | none => s.scheduleChange (validators.map (·, 1)) 0 none

/-- The set id after a change has been scheduled, and without the session of
the one that is too old. -/
def nextSet : State R :=
  let currentSetId := wrappingAdd 64 s.currentSetId 1
  { s with
    currentSetId := currentSetId
    setIdSession :=
      if max R.maxSetIdSessionEntries 1 ≤ currentSetId then
        s.setIdSession.remove (currentSetId - max R.maxSetIdSessionEntries 1)
      else s.setIdSession }

/-- `on_new_session`. -/
def onNewSession (changed : Bool) (validators : List R.AuthorityId)
    (sessionIndex : Nat) : State R :=
  let s :=
    if changed || s.stalled.isSome then
      match s.sessionChange validators with
      | .ok s' => s'.nextSet
      | .error _ => { s with stalled := none }
    else s
  { s with setIdSession := s.setIdSession.insert s.currentSetId sessionIndex }

/-- `note_stalled`. -/
def noteStalled (origin : Origin R.AccountId)
    (delay bestFinalizedBlockNumber : Nat) :
    Except DispatchError (State R) := do
  ensureRoot origin
  pure { s with stalled := some (delay, bestFinalizedBlockNumber) }

/-! ## The end of a block -/

/-- The signal of a change. -/
def changeLog (c : StoredPendingChange R) : ConsensusLog R :=
  match c.forced with
  | some median => .forcedChange median c.delay c.nextAuthorities
  | none => .scheduledChange c.delay c.nextAuthorities

/-- The part of `on_finalize` for the pending change. -/
def finalizeChange (blockNumber : Nat) : State R :=
  match s.pendingChange with
  | some c =>
      let s := if blockNumber = c.scheduledAt then s.depositLog (changeLog c)
        else s
      if blockNumber = wrappingAdd 32 c.scheduledAt c.delay then
        { s.depositEvent (.newAuthorities c.nextAuthorities) with
          authorities := c.nextAuthorities
          pendingChange := none }
      else s
  | none => s

/-- The part of `on_finalize` for pauses. -/
def finalizeState (blockNumber : Nat) : State R :=
  match s.state with
  | .pendingPause scheduledAt delay =>
      let s := if blockNumber = scheduledAt then s.depositLog (.pause delay)
        else s
      if blockNumber = wrappingAdd 32 scheduledAt delay then
        { s.depositEvent .paused with state := .paused }
      else s
  | .pendingResume scheduledAt delay =>
      let s := if blockNumber = scheduledAt then s.depositLog (.resume delay)
        else s
      if blockNumber = wrappingAdd 32 scheduledAt delay then
        { s.depositEvent .resumed with state := .live }
      else s
  | .live => s
  | .paused => s

/-- `on_finalize`. -/
def onFinalize (blockNumber : Nat) : State R :=
  (s.finalizeChange blockNumber).finalizeState blockNumber

/-! ## The rescue -/

/-- The raw storage writes that clear what is pending. -/
def clearPending : State R :=
  { s with pendingChange := none, nextForced := none, stalled := none }

/-- `rescue_finality`. -/
def rescueFinality (origin : Origin R.AccountId) (median : Nat) :
    Except DispatchError (State R) := do
  ensureRoot origin
  whenSome s.lastRescueBlock fun last =>
    ensure (wrappingAdd 32 last R.rescueCooldown ≤ s.blockNumber)
      (R.rescueErr .cooldownNotElapsed)
  let s := s.clearPending
  ensure (s.authorities ≠ []) (R.rescueErr .noAuthorities)
  let s ← okOr (s.scheduleChange s.authorities 0 (some median)).toOption
    (R.rescueErr .scheduleChangeFailed)
  let newSetId := wrappingAdd 64 s.currentSetId 1
  pure
    { s.depositEvent (.finalityRescueExecuted s.blockNumber median
        (s.authorities.length % 2 ^ 32) s.currentSetId newSetId) with
      currentSetId := newSetId
      lastRescueBlock := some s.blockNumber }

/-- `frame_system::initialize`. -/
def initializeBlock (number : Nat) : State R :=
  { s with blockNumber := number }

end State

/-! ## Blocks -/

/-- What can happen in a block. -/
inductive Request (R : Config) where
  | newSession (changed : Bool) (validators : List R.AuthorityId)
      (sessionIndex : Nat)
  | noteStalled (origin : Origin R.AccountId)
      (delay bestFinalizedBlockNumber : Nat)
  | rescueFinality (origin : Origin R.AccountId) (median : Nat)

/-- The effect of a request. -/
def request : Request R → Except DispatchError (State R)
  | .newSession changed validators sessionIndex =>
      .ok (s.onNewSession changed validators sessionIndex)
  | .noteStalled origin delay best => s.noteStalled origin delay best
  | .rescueFinality origin median => s.rescueFinality origin median

/-- `execute_block`: the next number, what happens in the block, and
`on_finalize`.  A call that fails changes nothing. -/
def executeBlock (block : List (Request R)) : State R :=
  let s := Transition.settle request (s.initializeBlock (s.blockNumber + 1)) block
  s.onFinalize s.blockNumber

/-- The state after some blocks. -/
def executeBlocks (blocks : List (List (Request R))) : State R :=
  blocks.foldl executeBlock s

end Thxnet.Grandpa
