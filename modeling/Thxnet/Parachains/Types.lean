import Thxnet.Lib.Scale

/-!
# Host configuration and availability cores

The parts of the relay chain's parachains state that several of its pallets
read: the host configuration, as far as the scheduler, the session information
and the async-backing upgrade use it, and the entries of the scheduler's cores.
-/

namespace Thxnet.Parachains

open Thxnet.Lib

/-! ## The host configuration -/

/-- `AsyncBackingParams`. -/
structure AsyncBackingParams where
  maxCandidateDepth : Nat
  allowedAncestryLen : Nat
  deriving DecidableEq, Repr

/-- `SchedulerParams`. -/
structure SchedulerParams where
  groupRotationFrequency : Nat
  maxValidatorsPerCore : Option Nat
  lookahead : Nat
  numCores : Nat
  deriving DecidableEq, Repr

/-- `HostConfiguration`.  The node features are a bit vector, the first bit
first. -/
structure HostConfiguration where
  asyncBackingParams : AsyncBackingParams
  schedulerParams : SchedulerParams
  nodeFeatures : List Bool
  maxValidators : Option Nat
  disputePeriod : Nat
  noShowSlots : Nat
  nDelayTranches : Nat
  zerothDelayTrancheWidth : Nat
  neededApprovals : Nat
  relayVrfModuloSamples : Nat
  deriving DecidableEq, Repr

/-! ## Availability cores -/

/-- `Assignment`. -/
inductive Assignment where
  | pool (paraId coreIndex : Nat)
  | bulk (paraId : Nat)
  deriving DecidableEq, Repr

/-- The codec of `Assignment`. -/
def Assignment.codec : Codec Assignment :=
  (Codec.variants "Assignment" (Codec.u32.pair Codec.u32) Codec.u32).via
    (fun
      | .pool paraId coreIndex => .inl (paraId, coreIndex)
      | .bulk paraId => .inr paraId)
    (fun
      | .inl (paraId, coreIndex) => .pool paraId coreIndex
      | .inr paraId => .bulk paraId)
    (fun a => by cases a <;> rfl)

/-- `ParasEntry`. -/
structure ParasEntry where
  assignment : Assignment
  availabilityTimeouts : Nat
  ttl : Nat
  deriving DecidableEq, Repr

/-- The codec of `ParasEntry`. -/
def ParasEntry.codec : Codec ParasEntry :=
  (Assignment.codec.pair <| Codec.u32.pair Codec.u32).via
    (fun e => (e.assignment, e.availabilityTimeouts, e.ttl))
    (fun (assignment, availabilityTimeouts, ttl) =>
      ⟨assignment, availabilityTimeouts, ttl⟩)
    fun _ => rfl

/-- `CoreOccupied`. -/
inductive CoreOccupied where
  | free
  | paras (entry : ParasEntry)
  deriving DecidableEq, Repr

/-- The codec of `CoreOccupied`. -/
def CoreOccupied.codec : Codec CoreOccupied :=
  (Codec.variants "CoreOccupied" Codec.unit ParasEntry.codec).via
    (fun
      | .free => .inl ()
      | .paras entry => .inr entry)
    (fun
      | .inl _ => .free
      | .inr entry => .paras entry)
    (fun c => by cases c <;> rfl)

end Thxnet.Parachains
