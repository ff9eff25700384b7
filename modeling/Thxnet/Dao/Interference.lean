import Thxnet.Dao.Ballots

/-!
# Who sets the weights

`issue_voting_right_token` calls its signer the raiser, but does not compare it
with the raiser of the topic: anyone may issue rights, with any ratio, and a
right once issued cannot be issued again, so that a batch of the raiser with
one such voter fails as a whole (`outsider_interferes`).

A run is compared with the same requests without the issues of others
(`own`).  `weights_raiser_only_iff` says exactly which issues of others make a
difference: those that grant weight to someone.  Requests that fail are part of
the runs here.
-/

namespace Thxnet.Dao

open Thxnet.Lib Thxnet.Frame Transition

variable {R : Config}

/-! ## Runs with and without the issues of others -/

section Requests

variable (raiser : R.AccountId) (id : Nat)

/-- Rights on the topic `id` issued by another account than `raiser`. -/
def isOutsiders : Action R → Bool
  | .call (.signed who) (.issueVotingRightToken topicId _ _) =>
      topicId = id && who ≠ raiser
  | _ => false

/-- Rights on the topic `id` issued by `raiser`. -/
def isRaisers : Action R → Bool
  | .call (.signed who) (.issueVotingRightToken topicId _ _) =>
      topicId = id && who = raiser
  | _ => false

/-- The requests without the issues of others. -/
def own (requests : List (Action R)) : List (Action R) :=
  requests.filter fun a => !isOutsiders raiser id a

/-- Which issues of the raiser succeed. -/
def outcomes (s : State R) (requests : List (Action R)) : List Bool :=
  ((attempts step s requests).filter fun p => isRaisers raiser id p.2).map
    fun p => (step p.1 p.2).isOk

/-- Two lists of requests, from two states, end with the same weights and the
same issues of the raiser succeed. -/
structure Agree (s : State R) (requests : List (Action R)) (s' : State R)
    (requests' : List (Action R)) : Prop where
  weights : ∀ v,
    ((settle step s requests).votingRightTokenCollection id).get v =
      ((settle step s' requests').votingRightTokenCollection id).get v
  outcomes : outcomes raiser id s requests = outcomes raiser id s' requests'

end Requests

/-- The issue passes all checks, and gives weight to someone. -/
def grantsWeight (s : State R) : Action R → Bool
  | .call (.signed _) (.issueVotingRightToken topicId voters ratio) =>
      decide (0 < ratio.getD 1 ∧ ratio.getD 1 ≤ 10000) &&
      (s.topicCollection.get topicId).any
        (fun details => s.now ≤ details.votingPeriodEnd) &&
      voters.all (fun v =>
        ((s.votingRightTokenCollection topicId).get v).isNone) &&
      voters.all (fun v =>
        weightPerRequiredOption s.world v (ratio.getD 1) = 0 ||
          voters.count v = 1) &&
      voters.any (fun v => 0 < weightPerRequiredOption s.world v (ratio.getD 1))
  | _ => false

/-! ## When an issue grants weight -/

section Issue

variable {s : State R} {topicId ratio : Nat} {voters : List R.AccountId}

/-- Voters without rights, those with weight named once, get their rights. -/
theorem foldlM_issueTo_isOk
    (hnew : ∀ v ∈ voters, (s.votingRightTokenCollection topicId).get v = none)
    (honce : ∀ v, 0 < weightPerRequiredOption s.world v ratio →
      voters.count v ≤ 1) :
    (voters.foldlM (issueTo topicId ratio) s).isOk = true := by
  induction voters generalizing s with
  | nil => rfl
  | cons v rest ih =>
      have hcheck : ((s.votingRightTokenCollection topicId).get v).isSome =
          false := by
        rw [hnew v List.mem_cons_self]
        rfl
      have hrest : ∀ w, 0 < weightPerRequiredOption s.world w ratio →
          rest.count w ≤ 1 := fun w hw =>
        (List.count_le_count_cons).trans (honce w hw)
      rw [List.foldlM_cons]
      unfold issueTo
      by_cases hpos : 0 < weightPerRequiredOption s.world v ratio
      · simp only [ensure, hcheck, if_true, if_pos hpos]
        refine ih (fun w hw => ?_) hrest
        have hne : w ≠ v := by
          rintro rfl
          have hcount := honce w hpos
          rw [List.count_cons_self] at hcount
          have hmem := List.count_pos_iff.mpr hw
          omega
        exact (StorageDoubleMap.get_insert_ne _ _ fun h => hne h.2).trans
          (hnew w (List.mem_cons_of_mem _ hw))
      · simp only [ensure, hcheck, if_true, if_neg hpos]
        exact ih (fun w hw => hnew w (List.mem_cons_of_mem _ hw)) hrest

theorem foldlM_issueTo_weightless {s' : State R}
    (hzero : ∀ v ∈ voters, weightPerRequiredOption s.world v ratio = 0)
    (h : voters.foldlM (issueTo topicId ratio) s = .ok s') : s' = s := by
  induction voters with
  | nil =>
      cases h
      rfl
  | cons v rest ih =>
      rw [List.foldlM_cons] at h
      obtain ⟨s₁, hone, hrest⟩ := bind_eq_ok.mp h
      have hsame : s₁ = s := by
        simp only [issueTo, hzero v List.mem_cons_self, do_eq_ok, Nat.lt_irrefl,
          if_false] at hone
        exact hone.2.symm
      subst hsame
      exact ih (fun w hw => hzero w (List.mem_cons_of_mem _ hw)) hrest

end Issue

section Grants

variable {s : State R} {raiser : R.AccountId} {id : Nat} {a : Action R}

/-- An issue of another account that grants nothing changes nothing. -/
theorem attempt_of_grantless (ha : isOutsiders raiser id a = true)
    (h : grantsWeight s a = false) : attempt step s a = s := by
  obtain hok | ⟨_, hsame⟩ := attempt_cases step s a
  · cases a with
    | call origin call =>
        cases call with
        | issueVotingRightToken topicId voters ratio =>
            have hok' := hok
            simp only [step, dispatch, issueVotingRightToken, do_eq_ok,
              raised_eq_ok, ensureSigned_eq_ok] at hok'
            obtain ⟨who, rfl, hratio, details, htopic, hopen, hfold⟩ := hok'
            have hissued := issued_of_foldlM hfold
            refine foldlM_issueTo_weightless (fun v hv => ?_) hfold
            by_contra hne
            refine Bool.eq_false_iff.mp h ?_
            simp only [grantsWeight, Bool.and_eq_true, List.all_eq_true,
              List.any_eq_true, decide_eq_true_eq, htopic, Option.any_some,
              Bool.or_eq_true, Option.isNone_iff_eq_none]
            refine ⟨⟨⟨⟨hratio, hopen⟩, hissued.new⟩, fun w hw => ?_⟩, v, hv,
              Nat.pos_of_ne_zero hne⟩
            by_cases hweight :
                weightPerRequiredOption s.world w (ratio.getD 1) = 0
            · exact .inl hweight
            · exact .inr (Nat.le_antisymm
                (hissued.once w (Nat.pos_of_ne_zero hweight))
                (List.count_pos_iff.mpr hw))
        | _ => cases origin <;> cases ha
    | _ => cases ha
  · exact hsame

/-- One that grants weight gives a right to someone who had none. -/
theorem exists_right_of_grantsWeight (ha : isOutsiders raiser id a = true)
    (h : grantsWeight s a = true) :
    ∃ v, (s.votingRightTokenCollection id).get v = none ∧
      (((attempt step s a).votingRightTokenCollection id).get v).isSome =
        true := by
  cases a with
  | call origin call =>
      cases origin with
      | signed who =>
          cases call with
          | issueVotingRightToken topicId voters ratio =>
              simp only [isOutsiders, Bool.and_eq_true,
                decide_eq_true_eq] at ha
              obtain ⟨rfl, _⟩ := ha
              simp only [grantsWeight, Bool.and_eq_true, List.all_eq_true,
                List.any_eq_true, decide_eq_true_eq, Option.any_eq_true,
                Bool.or_eq_true, Option.isNone_iff_eq_none] at h
              obtain ⟨⟨⟨⟨hratio, details, htopic, hopen⟩, hnew⟩, honce⟩, v, hv,
                hpos⟩ := h
              have hfold : (voters.foldlM (issueTo topicId (ratio.getD 1))
                  s).isOk = true := by
                refine foldlM_issueTo_isOk hnew fun w hw => ?_
                by_cases hmem : w ∈ voters
                · exact ((honce w hmem).resolve_left (Nat.ne_of_gt hw)).le
                · rw [List.count_eq_zero_of_not_mem hmem]
                  exact Nat.zero_le _
              obtain ⟨s', hs'⟩ := isOk_iff_exists.mp hfold
              have hok : step s (.call (.signed who)
                  (.issueVotingRightToken topicId voters ratio)) = .ok s' := by
                simp only [step, dispatch, issueVotingRightToken, do_eq_ok,
                  raised_eq_ok, ensureSigned_eq_ok]
                exact ⟨who, rfl, hratio, details, htopic, hopen, hs'⟩
              refine ⟨v, hnew v hv, ?_⟩
              rw [attempt_of_ok hok, (issued_of_foldlM hs').tokens v,
                if_pos ⟨hv, hpos⟩]
              rfl
          | _ => cases ha
      | _ => cases ha
  | _ => cases ha

end Grants

/-! ## After a difference -/

section Parted

variable {raiser : R.AccountId} {id : Nat}

/-- Rights come only from issues that name the voter. -/
theorem Effect.none_stays {s s' : State R} {a : Action R}
    (heff : Effect s a s') {v : R.AccountId}
    (h : (s.votingRightTokenCollection id).get v = none)
    (hnot : a.issues id v = false) :
    (s'.votingRightTokenCollection id).get v = none := by
  cases heff with
  | @issue _ topicId voters _ _ _ _ _ _ hissued =>
      by_cases hid : id = topicId
      · subst hid
        have hv : v ∉ voters := by simpa [Action.issues] using hnot
        rw [hissued.tokens v, if_neg fun hmem => hv hmem.1]
        exact h
      · rw [hissued.other id hid]
        exact h
  | @vote voter topicId _ _ _ _ _ _ _ _ htoken =>
      dsimp only
      by_cases hself : id = topicId ∧ v = voter
      · obtain ⟨rfl, rfl⟩ := hself
        rw [h] at htoken
        cases htoken
      · rw [StorageDoubleMap.get_insert_ne _ _ hself]
        exact h
  | raise | elapse | outside => exact h

/-- An account has a right in the first state and none in the second. -/
structure Parted (id : Nat) (v : R.AccountId) (s₁ s₂ : State R) : Prop where
  right : ((s₁.votingRightTokenCollection id).get v).isSome = true
  none : (s₂.votingRightTokenCollection id).get v = none

theorem right_stays_attempt {s : State R} {v : R.AccountId} (a : Action R)
    (h : ((s.votingRightTokenCollection id).get v).isSome = true) :
    (((attempt step s a).votingRightTokenCollection id).get v).isSome =
      true := by
  obtain hok | ⟨_, hsame⟩ := attempt_cases step s a
  · exact (step_effect hok).right_stays h
  · rw [hsame]
    exact h

/-- A request that does not belong to others keeps the difference, or is an
issue of the raiser with two outcomes. -/
theorem Parted.both {v : R.AccountId} {s₁ s₂ : State R}
    (h : Parted id v s₁ s₂) {a : Action R}
    (ha : isOutsiders raiser id a = false)
    (hsame : isRaisers raiser id a = true →
      (step s₁ a).isOk = (step s₂ a).isOk) :
    Parted id v (attempt step s₁ a) (attempt step s₂ a) := by
  refine ⟨right_stays_attempt a h.right, ?_⟩
  obtain hok | ⟨_, hkept⟩ := attempt_cases step s₂ a
  · have heff := step_effect hok
    cases hissues : a.issues id v with
    | false => exact heff.none_stays h.none hissues
    | true =>
        -- the raiser's issue cannot succeed where the voter has a right
        generalize attempt step s₂ a = s₂' at hok heff
        cases heff with
        | @issue who =>
            simp only [Action.issues, Bool.and_eq_true,
              decide_eq_true_eq] at hissues
            obtain ⟨rfl, hv⟩ := hissues
            have hraiser : who = raiser := by
              simpa [isOutsiders] using ha
            have hfirst := hsame (by simp [isRaisers, hraiser])
            rw [hok] at hfirst
            obtain ⟨s₁', hok₁⟩ := isOk_iff_exists.mp hfirst
            have heff₁ := step_effect hok₁
            cases heff₁ with
            | issue _ _ _ hissued =>
                have hright := h.right
                rw [hissued.new v hv] at hright
                cases hright
            | raise hcall => cases hcall
        | @raise _ call _ _ hcall =>
            cases call <;> first | cases hissues | cases hcall
        | _ => cases hissues
  · rw [hkept]
    exact h.none

/-! ### One request more -/

section Cons

variable {a : Action R} {rest rest' : List (Action R)} {s s' : State R}

theorem isRaisers_of_isOutsiders (ha : isOutsiders raiser id a = true) :
    isRaisers raiser id a = false := by
  cases a with
  | call origin call =>
      cases origin <;> cases call <;>
        simp_all [isOutsiders, isRaisers]
  | _ => rfl

theorem own_outsiders (ha : isOutsiders raiser id a = true) :
    own raiser id (a :: rest) = own raiser id rest := by
  simp [own, ha]

theorem own_others (ha : isOutsiders raiser id a = false) :
    own raiser id (a :: rest) = a :: own raiser id rest := by
  simp [own, ha]

theorem agree_outsiders (ha : isOutsiders raiser id a = true) :
    Agree raiser id s (a :: rest) s' rest' ↔
      Agree raiser id (attempt step s a) rest s' rest' := by
  have hskip : outcomes raiser id s (a :: rest) =
      outcomes raiser id (attempt step s a) rest := by
    simp [outcomes, attempts, isRaisers_of_isOutsiders ha]
  constructor
  · exact fun h => ⟨h.weights, hskip.symm.trans h.outcomes⟩
  · exact fun h => ⟨h.weights, hskip.trans h.outcomes⟩

theorem agree_cons :
    Agree raiser id s (a :: rest) s' (a :: rest') ↔
      (isRaisers raiser id a = true → (step s a).isOk = (step s' a).isOk) ∧
      Agree raiser id (attempt step s a) rest (attempt step s' a) rest' := by
  have houtcomes : outcomes raiser id s (a :: rest) =
        outcomes raiser id s' (a :: rest') ↔
      (isRaisers raiser id a = true → (step s a).isOk = (step s' a).isOk) ∧
        outcomes raiser id (attempt step s a) rest =
          outcomes raiser id (attempt step s' a) rest' := by
    cases ha : isRaisers raiser id a <;> simp [outcomes, attempts, ha]
  constructor
  · intro h
    obtain ⟨hsame, hrest⟩ := houtcomes.mp h.outcomes
    exact ⟨hsame, h.weights, hrest⟩
  · rintro ⟨hsame, h⟩
    exact ⟨h.weights, houtcomes.mpr ⟨hsame, h.outcomes⟩⟩

end Cons

/-- Once an account has a right in one run only, the runs do not agree. -/
theorem Parted.not_agree {v : R.AccountId} {s₁ s₂ : State R}
    (h : Parted id v s₁ s₂) (requests : List (Action R)) :
    ¬ Agree raiser id s₁ requests s₂ (own raiser id requests) := by
  induction requests generalizing s₁ s₂ with
  | nil =>
      intro hagree
      have hright : ((s₁.votingRightTokenCollection id).get v).isSome = true :=
        h.right
      rw [show (s₁.votingRightTokenCollection id).get v =
        (s₂.votingRightTokenCollection id).get v from hagree.weights v,
        h.none] at hright
      cases hright
  | cons a rest ih =>
      cases ha : isOutsiders raiser id a with
      | true =>
          rw [own_outsiders ha, agree_outsiders ha]
          exact ih ⟨right_stays_attempt a h.right, h.none⟩
      | false =>
          rw [own_others ha, agree_cons]
          rintro ⟨hsame, hagree⟩
          exact ih (h.both ha hsame) hagree

end Parted

/-! ## Only the raiser's issues count -/

theorem agree_own_iff {raiser : R.AccountId} {id : Nat} (s : State R)
    (requests : List (Action R)) :
    Agree raiser id s requests s (own raiser id requests) ↔
      ∀ p ∈ attempts step s requests, isOutsiders raiser id p.2 = true →
        grantsWeight p.1 p.2 = false := by
  induction requests generalizing s with
  | nil => exact ⟨fun _ _ hp => (by cases hp), fun _ => ⟨fun _ => rfl, rfl⟩⟩
  | cons a rest ih =>
      rw [attempts, List.forall_mem_cons]
      cases ha : isOutsiders raiser id a with
      | true =>
          rw [own_outsiders ha, agree_outsiders ha]
          cases hgrants : grantsWeight s a with
          | true =>
              -- from here on, someone has a right in one run only
              obtain ⟨v, hnone, hright⟩ :=
                exists_right_of_grantsWeight ha hgrants
              have hparted : Parted id v (attempt step s a) s :=
                ⟨hright, hnone⟩
              constructor
              · exact fun hagree => absurd hagree (hparted.not_agree rest)
              · exact fun h => by cases h.1 rfl
          | false =>
              rw [attempt_of_grantless ha hgrants, ih]
              exact ⟨fun h => ⟨fun _ => rfl, h⟩, fun h => h.2⟩
      | false =>
          rw [own_others ha, agree_cons, ih]
          exact ⟨fun h => ⟨fun hb => (by cases hb), h.2⟩,
            fun h => ⟨fun _ => rfl, h.2⟩⟩

/-- In every run: without the issues of accounts other than `raiser`, which
stands for the raiser of the topic, the weights on the topic and the outcomes
of the raiser's issues are the same exactly if none of those issues grants
weight to someone.  So two runs without such issues, that differ only in what
others issue, agree. -/
theorem weights_raiser_only_iff (raiser : R.AccountId) (id : Nat)
    (s : State R) (requests : List (Action R)) :
    (Agree raiser id s requests s (own raiser id requests) ↔
      ∀ p ∈ attempts step s requests, isOutsiders raiser id p.2 = true →
        grantsWeight p.1 p.2 = false) ∧
    ∀ requests', own raiser id requests' = own raiser id requests →
      (∀ p ∈ attempts step s requests, isOutsiders raiser id p.2 = true →
        grantsWeight p.1 p.2 = false) →
      (∀ p ∈ attempts step s requests', isOutsiders raiser id p.2 = true →
        grantsWeight p.1 p.2 = false) →
      Agree raiser id s requests s requests' := by
  refine ⟨agree_own_iff s requests, ?_⟩
  intro requests' hown hharmless hharmless'
  have hagree := (agree_own_iff s requests).mpr hharmless
  have hagree' := (agree_own_iff s requests').mpr hharmless'
  rw [hown] at hagree'
  exact ⟨fun v => (hagree.weights v).trans (hagree'.weights v).symm,
    hagree.outcomes.trans hagree'.outcomes.symm⟩

/-! ### Concrete runs -/

/-- Account 1 raises a topic; others issue; account 1 issues rights to accounts
2 and 3. -/
def afterOthers (others : List (Action assembly)) : List (Action assembly) :=
  signedBy 1 topic :: others ++
    [signedBy 1 (.issueVotingRightToken 0 [2, 3] none)]

/-- An issue to an account without a balance and one with a ratio of zero make
no difference. -/
theorem weights_raiser_only_iff_idle :
    Agree (R := assembly) 1 0 assemblyGenesis
      (afterOthers [signedBy 3 (.issueVotingRightToken 0 [9] none),
        signedBy 3 (.issueVotingRightToken 0 [2] (some 0))])
      assemblyGenesis (afterOthers []) :=
  (weights_raiser_only_iff (R := assembly) 1 0 assemblyGenesis _).1.mpr
    (by decide +kernel)

/-- Account 3 gives itself ten thousand times its weight, and the batch of the
raiser fails: account 2 has no right. -/
theorem outsider_interferes :
    ((assemblyAfter [signedBy 1 topic]).topicCollection.get 0).map
      TopicDetails.raiser = some 1 ∧
    outcomes (R := assembly) 1 0 assemblyGenesis (afterOthers []) = [true] ∧
    outcomes (R := assembly) 1 0 assemblyGenesis (afterOthers
      [signedBy 3 (.issueVotingRightToken 0 [3] (some 10000))]) = [false] ∧
    ((settle step assemblyGenesis (afterOthers [])).votingRightTokenCollection
      0).get 3 = some 700 ∧
    ((settle step assemblyGenesis (afterOthers
      [signedBy 3 (.issueVotingRightToken 0 [3] (some 10000))]
      )).votingRightTokenCollection 0).get 3 = some 7000000 ∧
    ((settle step assemblyGenesis (afterOthers
      [signedBy 3 (.issueVotingRightToken 0 [3] (some 10000))]
      )).votingRightTokenCollection 0).get 2 = none := by
  decide +kernel

end Thxnet.Dao
