import Thxnet.Dao.Effects

/-!
# Topics on which no call panics

`vote_topic` takes the last of the chosen options with an `expect`, and one from
the number of options of the topic.  Neither list is empty: a topic asks for at
least one answer and has at least two options, because raising it has checked
both (`State.WellFormed`).
-/

namespace Thxnet.Dao

open Thxnet.Lib Thxnet.Frame

variable {R : Config}

/-! ## Failures that are errors -/

@[simp] theorem Config.err_ne_panicked (e : Error) : R.err e ≠ .panicked := by
  intro h
  cases h

@[simp] theorem raised_ne_panicked {α : Type} (x : Except DispatchError α) :
    raised x ≠ .error .panicked := by
  cases x <;> simp [raised]

@[simp] theorem checkText_ne_panicked {minimum maximum : Nat} {e : Failure}
    {text : List UInt8} (he : e ≠ .panicked) :
    checkText minimum maximum e text ≠ .error .panicked := by
  simp [checkText, bind_eq_error, ensure_eq_error, okOr_eq_error, he]

theorem checkOption_ne_panicked (option : List UInt8) :
    checkOption (R := R) option ≠ .error .panicked := by
  simp [checkOption, bind_eq_error, ensure_eq_error, okOr_eq_error]

@[simp] theorem checkOptions_ne_panicked (options : List (List UInt8)) :
    checkOptions (R := R) options ≠ .error .panicked := by
  simp [checkOptions, bind_eq_error, ensure_eq_error,
    forM_ne_error checkOption_ne_panicked]

@[simp] theorem boundedOptions_ne_panicked (options : List (List UInt8))
    (opts : BoundedVec R.Text R.topicOptionMaximumNumber) :
    boundedOptions options opts ≠ .error .panicked := by
  induction options generalizing opts with
  | nil => simp [boundedOptions]
  | cons option rest ih =>
      simp [boundedOptions, bind_eq_error, okOr_eq_error, ih]

theorem doRaiseTopic_ne_panicked (s : State R) (raiser : R.AccountId)
    (title description : List UInt8) (start finish : Nat)
    (options : List (List UInt8)) (number : Nat) :
    doRaiseTopic s raiser title description start finish options number ≠
      .error .panicked := by
  simp [-bind_pure_comp, doRaiseTopic, checkTitle, checkDescription,
    bind_eq_error, ensure_eq_error, okOr_eq_error, pure_ne_error]

/-! ## Votes -/

theorem voteTopic_ne_panicked {s : State R} (h : s.WellFormed)
    (origin : Origin R.AccountId) (topicId : Nat) (options : R.Options) :
    voteTopic s origin topicId options ≠ .error .panicked := by
  intro hpanic
  simp only [voteTopic, voteWeight, bind_eq_error, ensure_eq_error,
    okOr_eq_error, pure_ne_error, okOr_eq_ok, ensure_eq_ok,
    Config.err_ne_panicked, raised_ne_panicked, and_false, exists_false,
    false_or, or_false, exists_const] at hpanic
  obtain ⟨details, htopic, _, _, _, _, _, _, _, hlength, hnone, _⟩ := hpanic
  -- as many options were chosen as the topic asks for
  have hone := (h topicId details htopic).answers.1
  rw [← hlength, List.getLast?_eq_none_iff.mp hnone] at hone
  exact absurd hone (by decide)

/-! ## Every call -/

theorem issueTo_ne_panicked (topicId ratio : Nat) (s : State R)
    (voter : R.AccountId) :
    issueTo topicId ratio s voter ≠ .error .panicked := by
  simp only [issueTo, ne_eq, bind_eq_error, ensure_eq_error,
    Config.err_ne_panicked, and_false, false_or]
  rintro ⟨_, _, hpanic⟩
  split at hpanic
  · exact pure_ne_error _ hpanic
  · exact pure_ne_error _ hpanic

theorem State.WellFormed.dispatch_ne_panicked {s : State R} (h : s.WellFormed)
    (origin : Origin R.AccountId) (call : Call R) :
    dispatch s origin call ≠ .error .panicked := by
  cases call with
  | raiseTopic =>
      simp [dispatch, raiseTopic, bind_eq_error, ensure_eq_error,
        doRaiseTopic_ne_panicked]
  | forceRaiseTopic =>
      simp [dispatch, forceRaiseTopic, bind_eq_error, doRaiseTopic_ne_panicked]
  | issueVotingRightToken topicId _ ratio =>
      simp [dispatch, issueVotingRightToken, bind_eq_error, ensure_eq_error,
        okOr_eq_error,
        foldlM_ne_error (issueTo_ne_panicked topicId (ratio.getD 1))]
  | voteTopic topicId options =>
      exact voteTopic_ne_panicked h origin topicId options

/-- After any requests, those that fail included, the stored topics have two
options or more, all different, ask for fewer answers than that but for one at
least, and are open for three hours or more; and no call panics. -/
theorem topics_checked_and_no_panic (world : R.World) (now : Nat)
    (requests : List (Action R)) :
    let s := Transition.settle step (State.genesis R world now) requests
    (∀ id d, s.topicCollection.get id = some d →
      2 ≤ d.options.toList.length ∧ d.options.toList.Nodup ∧
      1 ≤ d.requiredAnswerNumber ∧
      d.requiredAnswerNumber < d.options.toList.length ∧
      d.votingPeriodStart + threeHours ≤ d.votingPeriodEnd) ∧
    ∀ origin call, dispatch s origin call ≠ .error .panicked := by
  intro s
  have hs : s.WellFormed := by
    refine Transition.settle_invariant (fun s a s' h hstep => ?_) ?_ requests
    · exact (step_effect hstep).wellFormed h
    · intro id d hd
      cases hd
  refine ⟨fun id d hd => ?_, hs.dispatch_ne_panicked⟩
  have hd := hs id d hd
  exact ⟨hd.two, hd.distinct, hd.answers.1, hd.answers.2, hd.period⟩

end Thxnet.Dao
