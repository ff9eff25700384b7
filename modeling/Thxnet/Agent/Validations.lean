import Mathlib.Data.Set.Basic
import Thxnet.Agent.Effects
import Thxnet.Agent.Mock

/-!
# Who may validate, and when

Two gates of the validation registry.  The whitelist decides who registers as
a validator: `whitelist_removal` says what a removal does to the accounts it
lets through, and that the last removal opens it.  The deadline of a request
decides when its requester may cancel it; `windows_disjoint_iff` says when it
also ends the submissions.
-/

namespace Thxnet.Agent

open Thxnet.Lib Thxnet.Frame

variable {R : Config}

/-! ## The whitelist -/

section Whitelist

variable {s : State R} {v : R.AccountId}

/-- The accounts that are no validators and pass the check of
`register_validator` against the whitelist. -/
def Books.admitted (b : Books R) : Set R.AccountId :=
  {who | b.validators.get who = none ∧ passesWhitelist b who = true}

/-- While there is an entry, the check asks for the own one. -/
theorem passesWhitelist_of_entry {b : Books R} {u who : R.AccountId}
    (h : (b.validatorWhitelist.get u).isSome = true) :
    passesWhitelist b who = (b.validatorWhitelist.get who).getD false := by
  obtain ⟨flag, hflag⟩ := Option.isSome_iff_exists.mp h
  have hany : (b.validatorWhitelist.any fun _ => true) = true :=
    (StorageMap.any_eq_true _ _).mpr ⟨u, flag, hflag, rfl⟩
  simp [passesWhitelist, hany]

/-- Without an entry, the check passes everybody. -/
theorem passesWhitelist_of_empty {b : Books R} {who : R.AccountId}
    (h : ∀ u, b.validatorWhitelist.get u = none) :
    passesWhitelist b who = true := by
  have hany : (b.validatorWhitelist.any fun _ => true) = false := by
    refine Bool.eq_false_iff.mpr fun hany => ?_
    obtain ⟨u, flag, hflag, _⟩ := (StorageMap.any_eq_true _ _).mp hany
    rw [h u] at hflag
    cases hflag
  simp [passesWhitelist, hany]

/-- While another entry remains, the check after a removal passes the others
that it passed before. -/
theorem passesWhitelist_remove {b : Books R} {u v who : R.AccountId}
    (hu : u ≠ v) (hentry : (b.validatorWhitelist.get u).isSome = true) :
    passesWhitelist
      { b with validatorWhitelist := b.validatorWhitelist.remove v } who =
        true ↔ who ≠ v ∧ passesWhitelist b who = true := by
  have hentry' : ((b.validatorWhitelist.remove v).get u).isSome = true := by
    rw [StorageMap.get_remove_ne _ hu]
    exact hentry
  rw [passesWhitelist_of_entry hentry, passesWhitelist_of_entry hentry']
  show ((b.validatorWhitelist.remove v).get who).getD false = true ↔ _
  by_cases hwho : who = v
  · subst hwho
    rw [StorageMap.get_remove_self]
    exact iff_of_false (fun h => by cases h) fun h => h.1 rfl
  · rw [StorageMap.get_remove_ne _ hwho]
    exact (and_iff_right hwho).symm

theorem removeValidatorFromWhitelist_eq_ok {origin : Origin R.AccountId}
    (ho : R.validatorManagerOrigin origin = true)
    (hv : (s.validatorWhitelist.get v).getD false = true) :
    removeValidatorFromWhitelist s origin v = .ok
      ((s.put { s.toBooks with
        validatorWhitelist := s.validatorWhitelist.remove v }).depositEvent
          (.validatorRemovedFromWhitelist v)) := by
  simp only [removeValidatorFromWhitelist, ensureOrigin, do_eq_ok]
  exact ⟨ho, hv, trivial⟩

/-- The manager can remove every account on the whitelist.  As long as another
entry remains, whoever passes the check afterwards has passed it before, the
account removed passes it no longer, and nothing changes for the others.  The
removal of the last entry lets every account pass. -/
theorem whitelist_removal {origin : Origin R.AccountId}
    (ho : R.validatorManagerOrigin origin = true)
    (hv : (s.validatorWhitelist.get v).getD false = true) :
    ∃ s', step s (.call origin (.removeValidatorFromWhitelist v)) = .ok s' ∧
      ((∃ u, u ≠ v ∧ (s.validatorWhitelist.get u).isSome = true) →
        s'.toBooks.admitted ⊆ s.toBooks.admitted ∧ v ∉ s'.toBooks.admitted ∧
        ∀ who, who ≠ v → who ∈ s.toBooks.admitted → who ∈ s'.toBooks.admitted) ∧
      ((∀ u, u ≠ v → s.validatorWhitelist.get u = none) →
        s'.toBooks.admitted = {who | s.validators.get who = none}) := by
  refine ⟨_, removeValidatorFromWhitelist_eq_ok ho hv, ?_, ?_⟩
  · rintro ⟨u, hu, hentry⟩
    refine ⟨?_, ?_, ?_⟩
    · rintro who ⟨hnew, hpass⟩
      exact ⟨hnew, ((passesWhitelist_remove hu hentry).mp hpass).2⟩
    · rintro ⟨_, hpass⟩
      exact ((passesWhitelist_remove hu hentry).mp hpass).1 rfl
    · rintro who hwho ⟨hnew, hpass⟩
      exact ⟨hnew, (passesWhitelist_remove hu hentry).mpr ⟨hwho, hpass⟩⟩
  · intro hlast
    refine Set.ext fun who => ⟨fun h => h.1, fun h => ⟨h, ?_⟩⟩
    refine passesWhitelist_of_empty fun u => ?_
    show (s.validatorWhitelist.remove v).get u = none
    by_cases hu : u = v
    · rw [hu, StorageMap.get_remove_self]
    · rw [StorageMap.get_remove_ne _ hu, hlast u hu]

/-! ### A concrete whitelist

Account 3 alone is on the whitelist, and nobody is registered.
-/

/-- The state with one whitelisted account. -/
def oneListed : State bank := bankAfter [byRoot (.addValidatorToWhitelist 3)]

/-- The state after the removal of the account. -/
def noneListed : State bank :=
  bankAfter [byRoot (.addValidatorToWhitelist 3),
    byRoot (.removeValidatorFromWhitelist 3)]

/-- Another account is on the whitelist. -/
def twoListed : State bank :=
  bankAfter [byRoot (.addValidatorToWhitelist 3),
    byRoot (.addValidatorToWhitelist 4)]

/-- While account 4 stays on the whitelist, account 3 can be shut out. -/
theorem whitelist_removal_two :
    ∃ s', step twoListed (byRoot (.removeValidatorFromWhitelist 3)) = .ok s' ∧
      s'.toBooks.admitted ⊆ twoListed.toBooks.admitted ∧
      3 ∉ s'.toBooks.admitted := by
  have hroot : bank.validatorManagerOrigin .root = true := by decide
  obtain ⟨s', hstep, hother, _⟩ := whitelist_removal (s := twoListed) (v := 3)
    hroot (by decide +kernel)
  obtain ⟨hsub, hout, _⟩ := hother ⟨4, by decide, by decide +kernel⟩
  exact ⟨s', hstep, hsub, hout⟩

/-- The removal of account 3, the only one on the whitelist, shuts nobody out:
account 4, which did not pass before, passes now, and so does account 3. -/
theorem whitelist_reopened :
    Reachable (fun _ _ => True) oneListed ∧
    step oneListed (byRoot (.removeValidatorFromWhitelist 3)) =
      .ok noneListed ∧
    4 ∉ oneListed.toBooks.admitted ∧ 4 ∈ noneListed.toBooks.admitted ∧
    3 ∈ noneListed.toBooks.admitted := by
  refine ⟨bankAfter_reachable (by decide +kernel), rfl, ?_, ?_, ?_⟩
  · rintro ⟨_, hpass⟩
    exact absurd hpass (by decide +kernel)
  · exact ⟨by decide +kernel, by decide +kernel⟩
  · exact ⟨by decide +kernel, by decide +kernel⟩

end Whitelist

/-! ## The windows of a request -/

section Windows

variable {s : State R} {requestId : Nat} {request : ValidationRequest R}

/-- Some validator's submission to the request would be accepted now. -/
def Submissible (s : State R) (requestId : Nat) : Prop :=
  ∃ who score uri hash tags s', step s (.call (.signed who)
    (.submitValidation requestId score uri hash tags)) = .ok s'

/-- A cancellation of the request by `who` would be accepted now. -/
def Cancellable (s : State R) (requestId : Nat) (who : R.AccountId) : Prop :=
  ∃ s', step s (.call (.signed who) (.cancelValidationRequest requestId)) =
    .ok s'

/-- The windows of a request: submissions are accepted before its deadline and
until it is completed, a cancellation from the deadline on, and the requester's
cancellation never while a submission is. -/
structure Windowed (s : State R) (requestId : Nat)
    (request : ValidationRequest R) : Prop where
  submission : Submissible s requestId →
    s.now < request.deadline ∧ request.completed = false
  cancellation : ∀ who, Cancellable s requestId who → request.deadline ≤ s.now
  disjoint : ¬ (Submissible s requestId ∧
    Cancellable s requestId request.requester)

theorem cancellable_iff {who : R.AccountId}
    (h : s.validationRequests.get requestId = some request) :
    Cancellable s requestId who ↔ request.requester = who ∧
      request.completed = false ∧ request.deadline ≤ s.now := by
  show (∃ s', cancelValidationRequest s (.signed who) requestId = .ok s') ↔ _
  simp only [cancelValidationRequest, do_eq_ok, ensureSigned_eq_ok,
    Origin.signed.injEq, h, Option.some.injEq]
  constructor
  · rintro ⟨_, _, rfl, _, rfl, hrequester, hopen, hdeadline, _⟩
    exact ⟨hrequester, hopen, hdeadline⟩
  · rintro ⟨hrequester, hopen, hdeadline⟩
    exact ⟨_, who, rfl, request, rfl, hrequester, hopen, hdeadline, rfl⟩

/-- A validator that has not answered the request and would be paid for it. -/
def Answerer (s : State R) (requestId : Nat) (request : ValidationRequest R)
    (who : R.AccountId) : Prop :=
  ∃ v, s.validators.get who = some v ∧ v.active = true ∧
    (s.validationResponses requestId).get who = none ∧
    ∃ world, payReward s.world request who = .ok world

/-- A submission needs no more than a validator: neither the deadline of the
request nor its completion is looked at. -/
theorem submissible_iff (hash : R.Hash)
    (h : s.validationRequests.get requestId = some request) :
    Submissible s requestId ↔ ∃ who, Answerer s requestId request who := by
  constructor
  · rintro ⟨who, score, uri, hash, tags, haccepted⟩
    obtain ⟨request', v, hrequest, hv, hactive, hnew, _, hpaid⟩ :=
      submitValidation_enabled_iff.mp haccepted
    cases h.symm.trans hrequest
    exact ⟨who, v, hv, hactive, hnew, hpaid⟩
  · rintro ⟨who, v, hv, hactive, hnew, hpaid⟩
    have hdata : ∃ data, validateFeedbackData (R := R) 0 [] [] = .ok data :=
      ⟨_, rfl⟩
    exact ⟨who, 0, [], hash, [], submitValidation_enabled_iff.mpr
      ⟨request, v, h, hv, hactive, hnew, hdata, hpaid⟩⟩

/-- The windows of a request are kept exactly while it is neither due nor
completed, and where no validator is left to answer it. -/
theorem windows_disjoint_iff (hash : R.Hash)
    (h : s.validationRequests.get requestId = some request) :
    Windowed s requestId request ↔
      (s.now < request.deadline ∧ request.completed = false) ∨
      ¬ ∃ who, Answerer s requestId request who := by
  constructor
  · intro hwindows
    by_cases hsome : ∃ who, Answerer s requestId request who
    · exact .inl (hwindows.submission ((submissible_iff hash h).mpr hsome))
    · exact .inr hsome
  · intro hcond
    have hsubmission : Submissible s requestId →
        s.now < request.deadline ∧ request.completed = false := by
      intro hsubmit
      rcases hcond with hopen | hnone
      · exact hopen
      · exact absurd ((submissible_iff hash h).mp hsubmit) hnone
    refine ⟨hsubmission, ?_, ?_⟩
    · intro who hcancel
      exact ((cancellable_iff h).mp hcancel).2.2
    · rintro ⟨hsubmit, hcancel⟩
      have hearly := (hsubmission hsubmit).1
      have hlate := ((cancellable_iff h).mp hcancel).2.2
      omega

/-! ### A concrete race

Account 2 asks for a validation of the agent of account 1, and account 4
registers as a validator.  The deadline passes without an answer.
-/

/-- The requests up to the deadline. -/
def unanswered : List (Action bank) :=
  [signedBy 1 (.registerAgent [] []), signedBy 2 (.requestValidation 0 500),
    signedBy 4 (.registerValidator 10000)]

/-- The state before the deadline. -/
def pending : State bank := bankAfter unanswered

/-- The state after the deadline. -/
def overdue : State bank :=
  bankAfter (unanswered ++ List.replicate 100 .nextBlock)

/-- The request of account 2. -/
def theRequest : ValidationRequest bank where
  agentId := 0
  requester := 2
  reward := 500
  createdAt := 1
  deadline := 101
  completed := false

/-- The answer of account 4. -/
def answer : Action bank := signedBy 4 (.submitValidation 0 90 [] 0 [])

/-- The cancellation by account 2. -/
def cancellation : Action bank := signedBy 2 (.cancelValidationRequest 0)

/-- Before the deadline the request is in its first window. -/
theorem windows_disjoint_iff_pending : Windowed pending 0 theRequest :=
  (windows_disjoint_iff (R := bank) 0 rfl).mpr
    (.inl (by decide +kernel))

/-- After the deadline the requester may cancel, and the validator may still
answer: then the reward is the validator's, and the cancellation is refused. -/
theorem windows_overlap :
    Reachable (fun _ _ => True) overdue ∧
    overdue.validationRequests.get 0 = some theRequest ∧
    Cancellable overdue 0 2 ∧ Submissible overdue 0 ∧
    ¬ Windowed overdue 0 theRequest ∧
    Lib.failure (Transition.exec step overdue [answer, cancellation]) =
      some (bank.err .validationRequestCompleted) := by
  have hcancel : Cancellable overdue 0 2 :=
    isOk_iff_exists.mp (by decide +kernel)
  have hsubmit : Submissible overdue 0 :=
    ⟨4, 90, [], 0, [], isOk_iff_exists.mp (by decide +kernel)⟩
  refine ⟨bankAfter_reachable (by decide +kernel), rfl, hcancel,
    hsubmit, ?_, by decide +kernel⟩
  intro hwindows
  exact hwindows.disjoint ⟨hsubmit, hcancel⟩

end Windows

end Thxnet.Agent
