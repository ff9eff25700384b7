import Mathlib.Algebra.GroupWithZero.Nat
import Thxnet.Frame.Support

/-!
# Cross-consensus messages

Locations, weights and the instructions of an XCM (version 4).  Two
instructions carry programs that are run here later on: `SetErrorHandler` and
`SetAppendix`.  What a message has other chains run, and the assets it names,
is kept in encoded form.
-/

namespace Thxnet.Xcm

open Thxnet.Lib Thxnet.Frame

/-! ## Locations -/

/-- `BodyId`. -/
inductive BodyId where
  | unit
  | moniker (name : Encoded)
  | index (i : Nat)
  | executive
  | technical
  | legislative
  | judicial
  | defense
  | administration
  | treasury
  deriving DecidableEq, Repr

/-- `Junction`. -/
inductive Junction where
  | parachain (id : Nat)
  | accountId32 (network : Option Encoded) (id : Encoded)
  | accountIndex64 (network : Option Encoded) (index : Nat)
  | accountKey20 (network : Option Encoded) (key : Encoded)
  | palletInstance (index : Nat)
  | generalIndex (index : Nat)
  | generalKey (length : Nat) (data : Encoded)
  | onlyChild
  | plurality (id : BodyId) (part : Encoded)
  | globalConsensus (network : Encoded)
  deriving DecidableEq, Repr

/-- `Location`: so many consensus systems up, and then down. -/
structure Location where
  parents : Nat
  interior : List Junction
  deriving DecidableEq, Repr

/-- `Parent`, which for a leafchain is the relay chain. -/
def Location.parent : Location := ⟨1, []⟩

/-- `MAX_JUNCTIONS`. -/
def maxJunctions : Nat := 8

/-- `append_with` of a location below. -/
def Location.appendWith (l : Location) (suffix : List Junction) :
    Option Location :=
  if suffix.length + l.interior.length > maxJunctions then none
  else some ⟨l.parents, l.interior ++ suffix⟩

/-- `relative_to`: how `viewer` addresses a location that is given from the
top. -/
def relativeTo : List Junction → List Junction → Location
  | x :: xs, y :: ys =>
      if x = y then relativeTo xs ys else ⟨(y :: ys).length, x :: xs⟩
  | xs, viewer => ⟨viewer.length, xs⟩

/-! ## Weights -/

/-- The largest `u64`. -/
def u64Max : Nat := 2 ^ 64 - 1

/-- `Weight`. -/
structure Weight where
  refTime : Nat
  proofSize : Nat
  deriving DecidableEq, Repr

namespace Weight

/-- `Weight::zero`. -/
def zero : Weight := ⟨0, 0⟩

/-- `saturating_add`. -/
def saturatingAdd (a b : Weight) : Weight :=
  ⟨min (a.refTime + b.refTime) u64Max, min (a.proofSize + b.proofSize) u64Max⟩

/-- `checked_add`. -/
def checkedAdd (a b : Weight) : Option Weight :=
  if a.refTime + b.refTime ≤ u64Max ∧ a.proofSize + b.proofSize ≤ u64Max then
    some ⟨a.refTime + b.refTime, a.proofSize + b.proofSize⟩
  else none

/-- `checked_sub`. -/
def checkedSub (a b : Weight) : Option Weight :=
  if b.refTime ≤ a.refTime ∧ b.proofSize ≤ a.proofSize then
    some ⟨a.refTime - b.refTime, a.proofSize - b.proofSize⟩
  else none

/-- `all_gte`. -/
def allGte (a b : Weight) : Bool :=
  b.refTime ≤ a.refTime && b.proofSize ≤ a.proofSize

end Weight

/-- `WeightLimit`. -/
inductive WeightLimit where
  | unlimited
  | limited (weight : Weight)
  deriving DecidableEq, Repr

/-! ## Errors -/

/-- `XcmError`. -/
inductive XcmError where
  | overflow
  | unimplemented
  | untrustedReserveLocation
  | untrustedTeleportLocation
  | locationFull
  | locationNotInvertible
  | badOrigin
  | invalidLocation
  | assetNotFound
  | failedToTransactAsset
  | notWithdrawable
  | locationCannotHold
  | exceedsMaxMessageSize
  | destinationUnsupported
  | transport
  | unroutable
  | unknownClaim
  | failedToDecode
  | maxWeightInvalid
  | notHoldingFees
  | tooExpensive
  | trap (code : Nat)
  | expectationFalse
  | palletNotFound
  | nameMismatch
  | versionIncompatible
  | holdingWouldOverflow
  | exportError
  | reanchorFailed
  | noDeal
  | feesNotMet
  | lockError
  | noPermission
  | unanchored
  | notDepositable
  | unhandledXcmVersion
  | weightLimitReached (weight : Weight)
  | barrier
  | weightNotComputable
  | exceedsStackLimit
  deriving DecidableEq, Repr

/-- `ProcessMessageError`. -/
inductive ProcessMessageError where
  | badFormat
  | corrupt
  | unsupported
  | overweight (weight : Weight)
  | yield
  | stackLimitReached
  deriving DecidableEq, Repr

/-- `MaybeErrorCode`. -/
inductive MaybeErrorCode where
  | success
  | error (code : Encoded)
  | truncatedError (code : Encoded)
  deriving DecidableEq, Repr

/-! ## Instructions -/

/-- `QueryResponseInfo`. -/
structure QueryResponseInfo where
  destination : Location
  queryId : Nat
  maxWeight : Weight
  deriving DecidableEq, Repr

/-- `Instruction`.  Assets are encoded one by one, so that they can be
counted. -/
inductive Instruction where
  | withdrawAsset (assets : List Encoded)
  | reserveAssetDeposited (assets : List Encoded)
  | receiveTeleportedAsset (assets : List Encoded)
  | queryResponse (queryId : Nat) (response : Encoded) (maxWeight : Weight)
      (querier : Option Location)
  | transferAsset (assets : List Encoded) (beneficiary : Location)
  | transferReserveAsset (assets : List Encoded) (dest : Location)
      (xcm : Encoded)
  | transact (originKind : Nat) (requireWeightAtMost : Weight) (call : Encoded)
  | hrmpNewChannelOpenRequest (sender maxMessageSize maxCapacity : Nat)
  | hrmpChannelAccepted (recipient : Nat)
  | hrmpChannelClosing (initiator sender recipient : Nat)
  | clearOrigin
  | descendOrigin (who : List Junction)
  | reportError (info : QueryResponseInfo)
  | depositAsset (assets : Encoded) (beneficiary : Location)
  | depositReserveAsset (assets : Encoded) (dest : Location) (xcm : Encoded)
  | exchangeAsset (give : Encoded) (want : List Encoded) (maximal : Bool)
  | initiateReserveWithdraw (assets : Encoded) (reserve : Location)
      (xcm : Encoded)
  | initiateTeleport (assets : Encoded) (dest : Location) (xcm : Encoded)
  | reportHolding (info : QueryResponseInfo) (assets : Encoded)
  | buyExecution (fees : Encoded) (weightLimit : WeightLimit)
  | refundSurplus
  | setErrorHandler (handler : List Instruction)
  | setAppendix (appendix : List Instruction)
  | clearError
  | claimAsset (assets : List Encoded) (ticket : Location)
  | trap (code : Nat)
  | subscribeVersion (queryId : Nat) (maxResponseWeight : Weight)
  | unsubscribeVersion
  | burnAsset (assets : List Encoded)
  | expectAsset (assets : List Encoded)
  | expectOrigin (origin : Option Location)
  | expectError (error : Option (Nat × XcmError))
  | expectTransactStatus (status : MaybeErrorCode)
  | queryPallet (moduleName : Encoded) (info : QueryResponseInfo)
  | expectPallet (index : Nat) (name moduleName : Encoded)
      (crateMajor minCrateMinor : Nat)
  | reportTransactStatus (info : QueryResponseInfo)
  | clearTransactStatus
  | universalOrigin (junction : Junction)
  | exportMessage (network : Encoded) (destination : List Junction)
      (xcm : Encoded)
  | lockAsset (asset : Encoded) (unlocker : Location)
  | unlockAsset (asset : Encoded) (target : Location)
  | noteUnlockable (asset : Encoded) (owner : Location)
  | requestUnlock (asset : Encoded) (locker : Location)
  | setFeesMode (jitWithdraw : Bool)
  | setTopic (topic : Encoded)
  | clearTopic
  | aliasOrigin (target : Location)
  | unpaidExecution (weightLimit : WeightLimit) (checkOrigin : Option Location)

/-- `Xcm`. -/
abbrev Program : Type := List Instruction

/-! ## Weighing -/

section Weigher

variable (unitWeightCost : Weight)

mutual

/-- `instr_weight_with_limit`, with what is left of the limit. -/
def instrWeightWithLimit : Instruction → Nat → Option (Weight × Nat)
  | .transact _ requireWeightAtMost _, limit => do
      let total ← unitWeightCost.checkedAdd requireWeightAtMost
      return (total, limit)
  | .setErrorHandler xcm, limit => do
      let (weight, limit) ←
        if xcm.length ≤ limit then
          weightFrom .zero xcm (limit - xcm.length)
        else none
      let total ← unitWeightCost.checkedAdd weight
      return (total, limit)
  | .setAppendix xcm, limit => do
      let (weight, limit) ←
        if xcm.length ≤ limit then
          weightFrom .zero xcm (limit - xcm.length)
        else none
      let total ← unitWeightCost.checkedAdd weight
      return (total, limit)
  | _, limit => some (unitWeightCost, limit)

/-- The loop of `weight_with_limit`. -/
def weightFrom : Weight → List Instruction → Nat → Option (Weight × Nat)
  | r, [], limit => some (r, limit)
  | r, m :: rest, limit => do
      let (weight, limit) ← instrWeightWithLimit m limit
      let r ← r.checkedAdd weight
      weightFrom r rest limit

end

/-- `weight_with_limit`. -/
def weightWithLimit (message : Program) (limit : Nat) :
    Option (Weight × Nat) :=
  if message.length ≤ limit then
    weightFrom unitWeightCost .zero message (limit - message.length)
  else none

/-- `FixedWeightBounds::instr_weight`. -/
def instrWeight (instruction : Instruction) : Option Weight :=
  (instrWeightWithLimit unitWeightCost instruction (2 ^ 32 - 1)).map Prod.fst

end Weigher

end Thxnet.Xcm
