import Mathlib.Data.List.Destutter
import Mathlib.Data.List.Sort
import Thxnet.Dao.Types
import Thxnet.Lib.Rounding
import Thxnet.Lib.Transition

/-!
# The dispatchables of the DAO pallet

The calls of `lib.rs` over the storage of the pallet, and the steps of a chain
that runs it: calls, the passing of time, and what other pallets do to the
balances.

The clock is in whole seconds of a `u64` of milliseconds, so adding the voting
periods to it does not overflow.  Weights and tallies are `u128` and wrap, as
do the two lengths from which one is subtracted.
-/

namespace Thxnet.Dao

open Thxnet.Lib Thxnet.Frame

/-! ## Duplicates -/

section Duplicates

variable {α : Type} [DecidableEq α]

/-- `Vec::dedup`: drop every entry equal to the one before. -/
def dedupAdjacent (l : List α) : List α :=
  l.destutter (· ≠ ·)

/-- If nothing is dropped from a sorted list, it has no duplicate. -/
theorem dedupAdjacent_of_length {r : α → α → Prop} [DecidableRel r]
    [Std.Total r] [IsTrans α r] [Std.Antisymm r] {l : List α}
    (h : (l.insertionSort r).length =
      (dedupAdjacent (l.insertionSort r)).length) :
    dedupAdjacent (l.insertionSort r) = l.insertionSort r ∧ l.Nodup := by
  have hsame : dedupAdjacent (l.insertionSort r) = l.insertionSort r :=
    (List.destutter_sublist _ _).eq_of_length h.symm
  refine ⟨hsame, (l.perm_insertionSort r).nodup_iff.mp ?_⟩
  have hdedup := (l.pairwise_insertionSort r).destutter_eq_dedup
  exact List.dedup_eq_self.mp (hdedup.symm.trans hsame)

end Duplicates

/-! ## Storage -/

/-- The storage items, the events, the balances and the time. -/
structure State (R : Config) where
  topicCount : Option Nat
  topicCollection : StorageMap Nat (TopicDetails R)
  ballotBox : StorageDoubleMap Nat Nat Nat
  votingRightTokenCollection : StorageDoubleMap Nat R.AccountId Nat
  events : List (Event R)
  world : R.World
  now : Nat

/-- The state before the pallet has been used. -/
def State.genesis (R : Config) (world : R.World) (now : Nat) : State R where
  topicCount := none
  topicCollection := .empty
  ballotBox := fun _ => .empty
  votingRightTokenCollection := fun _ => .empty
  events := []
  world := world
  now := now

variable {R : Config} (s : State R) (origin : Origin R.AccountId)

/-- Append an event. -/
def State.depositEvent (s : State R) (e : Event R) : State R :=
  { s with events := s.events ++ [e] }

/-! ## Texts -/

/-- `simdutf8::basic::from_utf8`. -/
def fromUtf8 (bytes : List UInt8) : Option String :=
  String.fromUTF8? ⟨bytes.toArray⟩

/-- `check_title` and `check_description`: valid UTF-8 with a number of
characters within bounds. -/
def checkText (minimum maximum : Nat) (e : Failure) (text : List UInt8) :
    Except Failure Unit := do
  let str ← okOr (fromUtf8 text) e
  ensure (minimum ≤ str.length ∧ str.length ≤ maximum) e

/-- `check_title`. -/
def checkTitle (title : List UInt8) : Except Failure Unit :=
  checkText R.topicTitleMinimumLength R.topicTitleMaximumLength
    (R.err .invalidTitle) title

/-- `check_description`. -/
def checkDescription (desc : List UInt8) : Except Failure Unit :=
  checkText R.topicDescriptionMinimumLength R.topicDescriptionMaximumLength
    (R.err .invalidDescription) desc

/-- The check of one option: valid UTF-8 with a number of bytes within
bounds. -/
def checkOption (option : List UInt8) : Except Failure Unit := do
  let _ ← okOr (fromUtf8 option) (R.err .invalidOption)
  ensure (R.topicOptionMinimumLength ≤ option.length ∧
    option.length ≤ R.topicOptionMaximumLength) (R.err .invalidOption)

/-- The order of byte strings. -/
def bytesLe : List UInt8 → List UInt8 → Bool
  | [], _ => true
  | _ :: _, [] => false
  | a :: as, b :: bs => a < b || (a = b && bytesLe as bs)

/-- `check_options`. -/
def checkOptions (options : List (List UInt8)) : Except Failure Unit := do
  let sorted := options.insertionSort fun a b => bytesLe a b = true
  ensure ((dedupAdjacent sorted).length = options.length)
    (R.err .duplicatedOption)
  ensure (2 ≤ options.length) (R.err .optionTooFew)
  ensure (options.length ≤ R.topicOptionMaximumNumber) (R.err .optionTooMany)
  options.forM fun option => checkOption (R := R) option

/-! ## Topics -/

/-- The options of a topic, bounded. -/
def boundedOptions : List (List UInt8) →
    BoundedVec R.Text R.topicOptionMaximumNumber →
    Except Failure (BoundedVec R.Text R.topicOptionMaximumNumber)
  | [], opts => .ok opts
  | option :: rest, opts => do
      let text ← okOr (BoundedVec.tryFrom option) (R.err .optionTooLong)
      let opts ← okOr (opts.tryPush text) (R.err .optionTooMany)
      boundedOptions rest opts

/-- The id the next topic is raised under. -/
def State.nextTopicId (s : State R) : Nat := s.topicCount.getD 0

/-- `do_raise_topic`. -/
def doRaiseTopic (raiser : R.AccountId) (title description : List UInt8)
    (votingPeriodStart votingPeriodEnd : Nat) (options : List (List UInt8))
    (requiredAnswerNumber : Nat) : Except Failure (State R) := do
  ensure (s.now + oneHour ≤ votingPeriodStart ∧
      votingPeriodStart ≤ s.now + threeMonths)
    (R.err .invalidVotingPeriodStart)
  ensure (votingPeriodStart + threeHours ≤ votingPeriodEnd ∧
      votingPeriodEnd ≤ votingPeriodStart + threeMonths)
    (R.err .invalidVotingPeriodEnd)
  checkTitle (R := R) title
  checkDescription (R := R) description
  checkOptions (R := R) options
  ensure (1 ≤ requiredAnswerNumber ∧
      requiredAnswerNumber ≤ wrappingSub 32 options.length 1)
    (R.err .invalidAnswerNumber)
  let topicId := s.nextTopicId
  let opts ← boundedOptions options default
  let title ← okOr (BoundedVec.tryFrom title) (R.err .titleTooLong)
  let description ← okOr (BoundedVec.tryFrom description)
    (R.err .descriptionTooLong)
  let details : TopicDetails R :=
    { raiser := raiser
      title := title
      description := description
      votingPeriodStart := votingPeriodStart
      votingPeriodEnd := votingPeriodEnd
      options := opts
      requiredAnswerNumber := requiredAnswerNumber }
  pure
    { s.depositEvent (.topicRaised topicId raiser) with
      topicCollection := s.topicCollection.insert topicId details
      topicCount := some (saturatingAdd 64 topicId 1) }

/-- `raise_topic`. -/
def raiseTopic (title description : List UInt8)
    (votingPeriodStart votingPeriodEnd : Nat) (options : List (List UInt8))
    (requiredAnswerNumber : Nat) : Except Failure (State R) := do
  let raiser ← raised (ensureSigned origin)
  ensure (R.topicRaiserBalanceLowerBound ≤ R.totalBalance s.world raiser)
    (R.err .insufficientBalance)
  doRaiseTopic s raiser title description votingPeriodStart votingPeriodEnd
    options requiredAnswerNumber

/-- `force_raise_topic`. -/
def forceRaiseTopic (raiser : R.AccountId) (title description : List UInt8)
    (votingPeriodStart votingPeriodEnd : Nat) (options : List (List UInt8))
    (requiredAnswerNumber : Nat) : Except Failure (State R) := do
  raised (ensureOrigin R.forceOrigin origin)
  doRaiseTopic s raiser title description votingPeriodStart votingPeriodEnd
    options requiredAnswerNumber

/-! ## Voting rights -/

/-- The weight of a voting right: the balance times the ratio. -/
def weightPerRequiredOption (world : R.World) (voter : R.AccountId)
    (ratio : Nat) : Nat :=
  R.totalBalance world voter * ratio % 2 ^ 128

/-- Issue one voting right; one without weight is not recorded. -/
def issueTo (topicId ratio : Nat) (s : State R) (voter : R.AccountId) :
    Except Failure (State R) := do
  ensure (((s.votingRightTokenCollection topicId).get voter).isSome = false)
    (R.err .votingRightTokenIssued)
  let weight := weightPerRequiredOption s.world voter ratio
  if 0 < weight then
    pure
      { s.depositEvent (.votingRightTokenIssued topicId voter weight) with
        votingRightTokenCollection :=
          s.votingRightTokenCollection.insert topicId voter weight }
  else pure s

/-- `issue_voting_right_token`. -/
def issueVotingRightToken (topicId : Nat) (voters : List R.AccountId)
    (weightRatioForVoters : Option Nat) : Except Failure (State R) := do
  let _raiser ← raised (ensureSigned origin)
  let ratio := weightRatioForVoters.getD 1
  ensure (0 < ratio ∧ ratio ≤ 10000) (R.err .invalidWeightRatio)
  let details ← okOr (s.topicCollection.get topicId) (R.err .unknownTopic)
  ensure (s.now ≤ details.votingPeriodEnd) (R.err .voteClosed)
  voters.foldlM (issueTo topicId ratio) s

/-! ## Votes -/

/-- Add the weight to the tally of an option. -/
def castVote (topicId weight : Nat) (box : StorageDoubleMap Nat Nat Nat)
    (option : Nat) : StorageDoubleMap Nat Nat Nat :=
  box.insert topicId option
    ((((box topicId).get option).getD 0 + weight) % 2 ^ 128)

/-- The weight of the right to vote on a topic. -/
def voteWeight (topicId : Nat) (voter : R.AccountId) : Except Failure Nat := do
  let weight ← okOr ((s.votingRightTokenCollection topicId).get voter)
    (R.err .voterHasNoVotingRight)
  ensure (0 < weight) (R.err .voterHasVoted)
  pure weight

/-- `vote_topic`. -/
def voteTopic (topicId : Nat) (options : R.Options) :
    Except Failure (State R) := do
  let details ← okOr (s.topicCollection.get topicId) (R.err .unknownTopic)
  ensure (details.votingPeriodStart ≤ s.now) (R.err .voteNotOpen)
  ensure (s.now ≤ details.votingPeriodEnd) (R.err .voteClosed)
  let voter ← raised (ensureSigned origin)
  let weight ← voteWeight s topicId voter
  let sorted := options.toList.insertionSort (· ≤ ·)
  let chosen := dedupAdjacent sorted
  ensure (sorted.length = chosen.length) (R.err .duplicatedVoting)
  ensure (chosen.length = details.requiredAnswerNumber)
    (R.err .invalidAnswerNumber)
  let last ← okOr chosen.getLast? .panicked
  ensure (last ≤ wrappingSub 64 details.options.toList.length 1)
    (R.err .invalidOption)
  pure
    { s.depositEvent (.topicVoted topicId voter options) with
      ballotBox := chosen.foldl (castVote topicId weight) s.ballotBox
      votingRightTokenCollection :=
        s.votingRightTokenCollection.insert topicId voter 0 }

/-! ## Steps -/

/-- The calls of the pallet. -/
inductive Call (R : Config) where
  | raiseTopic (title description : List UInt8)
      (votingPeriodStart votingPeriodEnd : Nat) (options : List (List UInt8))
      (requiredAnswerNumber : Nat)
  | forceRaiseTopic (raiser : R.AccountId) (title description : List UInt8)
      (votingPeriodStart votingPeriodEnd : Nat) (options : List (List UInt8))
      (requiredAnswerNumber : Nat)
  | issueVotingRightToken (topicId : Nat) (voters : List R.AccountId)
      (weightRatioForVoters : Option Nat)
  | voteTopic (topicId : Nat) (options : R.Options)

/-- Run a call. -/
def dispatch : Call R → Except Failure (State R)
  | .raiseTopic title description start finish options number =>
      raiseTopic s origin title description start finish options number
  | .forceRaiseTopic raiser title description start finish options number =>
      forceRaiseTopic s origin raiser title description start finish options
        number
  | .issueVotingRightToken topicId voters ratio =>
      issueVotingRightToken s origin topicId voters ratio
  | .voteTopic topicId options => voteTopic s origin topicId options

/-- One step of the chain. -/
inductive Action (R : Config) where
  | call (origin : Origin R.AccountId) (call : Call R)
  | elapse (seconds : Nat)
  | outside (world : R.World)

/-- The effect of a step. -/
def step (s : State R) : Action R → Except Failure (State R)
  | .call origin call => dispatch s origin call
  | .elapse seconds => .ok { s with now := s.now + seconds }
  | .outside world => .ok { s with world := world }

/-- The states in which the pallet has not been used yet. -/
def Genesis (s : State R) : Prop :=
  ∃ world now, s = State.genesis R world now

end Thxnet.Dao
