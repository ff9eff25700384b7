import Thxnet.Dao.Calls

/-!
# What a step can do

`Effect s a s'` lists every way an accepted step `a` can change the state `s`
into `s'`, with the checks the step has passed.  `step_effect` is the only
place where the dispatchables are unfolded for this.
-/

namespace Thxnet.Dao

open Thxnet.Lib Thxnet.Frame

variable {R : Config}

/-! ## The vocabulary of effects -/

/-- The call raises a topic. -/
def Call.raises : Call R → Bool
  | .raiseTopic _ _ _ _ _ _ => true
  | .forceRaiseTopic _ _ _ _ _ _ _ => true
  | _ => false

/-- What has been checked of every topic. -/
structure TopicDetails.WellFormed (d : TopicDetails R) : Prop where
  two : 2 ≤ d.options.toList.length
  distinct : d.options.toList.Nodup
  answers : 1 ≤ d.requiredAnswerNumber ∧
    d.requiredAnswerNumber < d.options.toList.length
  period : d.votingPeriodStart + threeHours ≤ d.votingPeriodEnd

/-- What issuing voting rights to some accounts does. -/
structure Issued (s s' : State R) (topicId ratio : Nat)
    (voters : List R.AccountId) : Prop where
  same : s' = { s with
    events := s'.events
    votingRightTokenCollection := s'.votingRightTokenCollection }
  new : ∀ v ∈ voters, (s.votingRightTokenCollection topicId).get v = none
  once : ∀ v, 0 < weightPerRequiredOption s.world v ratio →
    voters.count v ≤ 1
  tokens : ∀ v, (s'.votingRightTokenCollection topicId).get v =
    if v ∈ voters ∧ 0 < weightPerRequiredOption s.world v ratio
    then some (weightPerRequiredOption s.world v ratio)
    else (s.votingRightTokenCollection topicId).get v
  other : ∀ id, id ≠ topicId →
    s'.votingRightTokenCollection id = s.votingRightTokenCollection id

/-- What accepted steps do. -/
inductive Effect (s : State R) : Action R → State R → Prop
  | raise {origin : Origin R.AccountId} {call : Call R}
      {details : TopicDetails R} {events : List (Event R)}
      (hcall : call.raises = true) (hdetails : details.WellFormed) :
      Effect s (.call origin call)
        { s with
          events := events
          topicCollection := s.topicCollection.insert s.nextTopicId details
          topicCount := some (saturatingAdd 64 s.nextTopicId 1) }
  | issue {who : R.AccountId} {topicId : Nat} {voters : List R.AccountId}
      {ratio : Option Nat} {details : TopicDetails R} {s' : State R}
      (htopic : s.topicCollection.get topicId = some details)
      (hopen : s.now ≤ details.votingPeriodEnd)
      (hratio : 0 < ratio.getD 1 ∧ ratio.getD 1 ≤ 10000)
      (hissued : Issued s s' topicId (ratio.getD 1) voters) :
      Effect s
        (.call (.signed who) (.issueVotingRightToken topicId voters ratio)) s'
  | vote {voter : R.AccountId} {topicId : Nat} {options : R.Options}
      {details : TopicDetails R} {weight : Nat} {chosen : List Nat}
      {events : List (Event R)}
      (htopic : s.topicCollection.get topicId = some details)
      (hstarted : details.votingPeriodStart ≤ s.now)
      (hopen : s.now ≤ details.votingPeriodEnd)
      (htoken : (s.votingRightTokenCollection topicId).get voter = some weight)
      (hpos : 0 < weight) (hperm : chosen.Perm options.toList)
      (hnodup : chosen.Nodup)
      (hlength : chosen.length = details.requiredAnswerNumber)
      (hvalid : ∀ o ∈ chosen,
        o ≤ wrappingSub 64 details.options.toList.length 1) :
      Effect s (.call (.signed voter) (.voteTopic topicId options))
        { s with
          events := events
          ballotBox := chosen.foldl (castVote topicId weight) s.ballotBox
          votingRightTokenCollection :=
            s.votingRightTokenCollection.insert topicId voter 0 }
  | elapse (seconds : Nat) :
      Effect s (.elapse seconds) { s with now := s.now + seconds }
  | outside (world : R.World) :
      Effect s (.outside world) { s with world := world }

/-! ## Raising -/

variable {a : Action R} {options : List (List UInt8)} {topicId : Nat}
    {origin : Origin R.AccountId} {s s' : State R}

theorem boundedOptions_map
    {opts opts' : BoundedVec R.Text R.topicOptionMaximumNumber}
    (h : boundedOptions options opts = .ok opts') :
    opts'.toList.map BoundedVec.toList =
      opts.toList.map BoundedVec.toList ++ options := by
  induction options generalizing opts with
  | nil =>
      cases h
      rw [List.append_nil]
  | cons option rest ih =>
      simp only [boundedOptions, do_eq_ok] at h
      obtain ⟨text, htext, opts₁, hpush, hrest⟩ := h
      rw [ih hrest, BoundedVec.toList_of_tryPush hpush, List.map_append,
        List.map_singleton, BoundedVec.toList_of_tryFrom htext,
        List.append_assoc, List.singleton_append]

theorem bytesLe_total (a b : List UInt8) :
    bytesLe a b = true ∨ bytesLe b a = true := by
  induction a generalizing b with
  | nil => exact .inl rfl
  | cons x a ih =>
      cases b with
      | nil => exact .inr rfl
      | cons y b =>
          simp only [bytesLe, Bool.or_eq_true, Bool.and_eq_true,
            decide_eq_true_eq]
          by_cases heq : x = y
          · exact (ih b).imp (fun h => .inr ⟨heq, h⟩)
              (fun h => .inr ⟨heq.symm, h⟩)
          · exact (UInt8.lt_or_lt_of_ne heq).imp .inl .inl

theorem bytesLe_antisymm {a b : List UInt8} (hab : bytesLe a b = true)
    (hba : bytesLe b a = true) : a = b := by
  induction a generalizing b with
  | nil =>
      cases b with
      | nil => rfl
      | cons => cases hba
  | cons x a ih =>
      cases b with
      | nil => cases hab
      | cons y =>
          simp only [bytesLe, Bool.or_eq_true, Bool.and_eq_true,
            decide_eq_true_eq] at hab hba
          obtain hlt | ⟨rfl, hab⟩ := hab
          · obtain hgt | ⟨rfl, _⟩ := hba
            · exact absurd hgt (UInt8.lt_asymm hlt)
            · exact absurd hlt (UInt8.lt_irrefl y)
          · obtain hgt | ⟨_, hba⟩ := hba
            · exact absurd hgt (UInt8.lt_irrefl x)
            · rw [ih hab hba]

theorem bytesLe_trans {a b c : List UInt8} (hab : bytesLe a b = true)
    (hbc : bytesLe b c = true) : bytesLe a c = true := by
  induction a generalizing b c with
  | nil => rfl
  | cons x a ih =>
      cases b with
      | nil => cases hab
      | cons =>
          cases c with
          | nil => cases hbc
          | cons =>
              simp only [bytesLe, Bool.or_eq_true, Bool.and_eq_true,
                decide_eq_true_eq] at hab hbc ⊢
              obtain hxy | ⟨rfl, hab⟩ := hab
              · obtain hyz | ⟨rfl, _⟩ := hbc
                · exact .inl (UInt8.lt_trans hxy hyz)
                · exact .inl hxy
              · obtain hyz | ⟨rfl, hbc⟩ := hbc
                · exact .inl hyz
                · exact .inr ⟨rfl, ih hab hbc⟩

instance : Std.Total fun a b : List UInt8 => bytesLe a b = true :=
  ⟨bytesLe_total⟩

instance : Std.Antisymm fun a b : List UInt8 => bytesLe a b = true :=
  ⟨fun _ _ => bytesLe_antisymm⟩

instance : IsTrans (List UInt8) fun a b => bytesLe a b = true :=
  ⟨fun _ _ _ => bytesLe_trans⟩

theorem checkOptions_eq_ok {u : Unit}
    (h : checkOptions (R := R) options = .ok u) :
    options.Nodup ∧ 2 ≤ options.length := by
  simp only [checkOptions, do_eq_ok] at h
  obtain ⟨hlength, htwo, _⟩ := h
  rw [← (options.perm_insertionSort
    fun a b => bytesLe a b = true).length_eq] at hlength
  exact ⟨(dedupAdjacent_of_length hlength.symm).2, htwo⟩

theorem doRaiseTopic_effect {call : Call R} (hcall : call.raises = true)
    {raiser : R.AccountId} {title description : List UInt8}
    {start finish : Nat} {number : Nat}
    (h : doRaiseTopic s raiser title description start finish options number =
      .ok s') : Effect s (.call origin call) s' := by
  simp only [doRaiseTopic, do_eq_ok] at h
  obtain ⟨_, hperiod, _, _, _, _, _, hcheck, hnumber, opts, hopts, _, _, _, _,
    rfl⟩ := h
  obtain ⟨hnodup, htwo⟩ := checkOptions_eq_ok hcheck
  have hmap : opts.toList.map BoundedVec.toList = options :=
    boundedOptions_map hopts
  have hlength : opts.toList.length = options.length := by
    rw [← hmap, List.length_map]
  refine .raise hcall ⟨?_, ?_, ⟨hnumber.1, ?_⟩, hperiod.1⟩
  · rw [hlength]
    exact htwo
  · rw [← hmap] at hnodup
    exact hnodup.of_map _
  · rw [hlength]
    exact hnumber.2.trans_lt (wrappingSub_one_lt (by omega))

/-! ## Issuing -/

theorem issueTo_eq_ok {ratio : Nat} {voter : R.AccountId}
    (h : issueTo topicId ratio s voter = .ok s') :
    (s.votingRightTokenCollection topicId).get voter = none ∧
    s' = { s with
      events := s'.events
      votingRightTokenCollection :=
        if 0 < weightPerRequiredOption s.world voter ratio then
          s.votingRightTokenCollection.insert topicId voter
            (weightPerRequiredOption s.world voter ratio)
        else s.votingRightTokenCollection } := by
  simp only [issueTo, do_eq_ok] at h
  obtain ⟨hnew, heq⟩ := h
  refine ⟨Option.isNone_iff_eq_none.mp (by simpa using hnew), ?_⟩
  by_cases hpos : 0 < weightPerRequiredOption s.world voter ratio
  · rw [if_pos hpos] at heq ⊢
    cases heq
    rfl
  · rw [if_neg hpos] at heq ⊢
    cases heq
    rfl

theorem issued_of_foldlM {ratio : Nat} {voters : List R.AccountId}
    (h : voters.foldlM (issueTo topicId ratio) s = .ok s') :
    Issued s s' topicId ratio voters := by
  induction voters generalizing s with
  | nil =>
      cases h
      exact ⟨rfl, by simp, by simp, by simp, fun _ _ => rfl⟩
  | cons voter rest ih =>
      rw [List.foldlM_cons] at h
      obtain ⟨s₁, hone, hrest⟩ := bind_eq_ok.mp h
      obtain ⟨hnew, hs₁⟩ := issueTo_eq_ok hone
      have hr := ih hrest
      have hworld : s₁.world = s.world := by rw [hs₁]
      have hother : ∀ v, v ≠ voter →
          (s₁.votingRightTokenCollection topicId).get v =
            (s.votingRightTokenCollection topicId).get v := by
        intro v hv
        rw [hs₁]
        dsimp only
        split
        · exact StorageDoubleMap.get_insert_ne _ _ fun h => hv h.2
        · rfl
      have hself : (s₁.votingRightTokenCollection topicId).get voter =
          if 0 < weightPerRequiredOption s.world voter ratio then
            some (weightPerRequiredOption s.world voter ratio) else none := by
        rw [hs₁]
        dsimp only
        split
        · rw [StorageDoubleMap.insert_self, StorageMap.get_insert_self]
        · exact hnew
      -- a second right of the same account would have failed
      have hnot : 0 < weightPerRequiredOption s.world voter ratio →
          voter ∉ rest := by
        intro hpos hmem
        have hnone := hr.new voter hmem
        rw [hself, if_pos hpos] at hnone
        cases hnone
      refine ⟨?_, ?_, ?_, ?_, ?_⟩
      · rw [hr.same, hs₁]
      · intro v hv
        by_cases hvoter : v = voter
        · rw [hvoter]
          exact hnew
        · rw [← hother v hvoter]
          exact hr.new v ((List.mem_cons.mp hv).resolve_left hvoter)
      · intro v hpos
        by_cases hvoter : v = voter
        · subst hvoter
          rw [List.count_cons_self, List.count_eq_zero_of_not_mem (hnot hpos)]
        · rw [List.count_cons_of_ne (Ne.symm hvoter)]
          refine hr.once v ?_
          rw [hworld]
          exact hpos
      · intro v
        rw [hr.tokens v, hworld]
        by_cases hvoter : v = voter
        · subst hvoter
          rw [hself]
          by_cases hpos : 0 < weightPerRequiredOption s.world v ratio
          · simp [hpos]
          · simp [hpos, hnew]
        · rw [hother v hvoter]
          simp [hvoter]
      · intro id hid
        rw [hr.other id hid, hs₁]
        dsimp only
        split
        · exact StorageDoubleMap.insert_ne _ _ _ hid
        · rfl

/-! ## Voting -/

theorem voteTopic_effect {options : R.Options}
    (h : voteTopic s origin topicId options = .ok s') :
    Effect s (.call origin (.voteTopic topicId options)) s' := by
  simp only [voteTopic, voteWeight, do_eq_ok, raised_eq_ok,
    ensureSigned_eq_ok] at h
  obtain ⟨details, htopic, hstarted, hopen, voter, rfl, weight,
    ⟨_, htoken, hpos, rfl⟩, hdup, hlength, last, hlast, hle, rfl⟩ := h
  obtain ⟨hsame, hnodup⟩ := dedupAdjacent_of_length hdup
  have hperm := options.toList.perm_insertionSort (· ≤ ·)
  rw [hsame] at hlength hlast ⊢
  refine .vote htopic hstarted hopen htoken hpos hperm
    (hperm.nodup_iff.mpr hnodup) hlength fun o ho => ?_
  -- the last of the sorted options is the largest
  have hsorted := options.toList.pairwise_insertionSort (· ≤ ·)
  rw [List.getLast?_eq_some_getLast (List.ne_nil_of_mem ho)] at hlast
  cases hlast
  exact (hsorted.rel_getLast ho).trans hle

/-! ## Every accepted step has one of these effects -/

theorem dispatch_effect {call : Call R} (h : dispatch s origin call = .ok s') :
    Effect s (.call origin call) s' := by
  cases call with
  | raiseTopic =>
      simp only [dispatch, raiseTopic, do_eq_ok] at h
      obtain ⟨_, _, _, hraise⟩ := h
      exact doRaiseTopic_effect rfl hraise
  | forceRaiseTopic =>
      obtain ⟨_, _, hraise⟩ := bind_eq_ok.mp h
      exact doRaiseTopic_effect rfl hraise
  | issueVotingRightToken =>
      simp only [dispatch, issueVotingRightToken, do_eq_ok, raised_eq_ok,
        ensureSigned_eq_ok] at h
      obtain ⟨who, rfl, hratio, details, htopic, hopen, hfold⟩ := h
      exact .issue htopic hopen hratio (issued_of_foldlM hfold)
  | voteTopic => exact voteTopic_effect h

theorem step_effect (h : step s a = .ok s') : Effect s a s' := by
  cases a with
  | call => exact dispatch_effect h
  | elapse seconds =>
      cases h
      exact .elapse seconds
  | outside world =>
      cases h
      exact .outside world

/-- A right on a topic stays, if only as one that has been used. -/
theorem Effect.right_stays (heff : Effect s a s') {id : Nat} {v : R.AccountId}
    (h : ((s.votingRightTokenCollection id).get v).isSome = true) :
    ((s'.votingRightTokenCollection id).get v).isSome = true := by
  cases heff with
  | @issue _ topicId _ _ _ _ _ _ _ hissued =>
      by_cases hid : id = topicId
      · subst hid
        rw [hissued.tokens v]
        split
        · rfl
        · exact h
      · rw [hissued.other id hid]
        exact h
  | @vote voter topicId =>
      dsimp only
      by_cases hself : id = topicId ∧ v = voter
      · rw [hself.1, hself.2, StorageDoubleMap.insert_self,
          StorageMap.get_insert_self]
        rfl
      · rw [StorageDoubleMap.get_insert_ne _ _ hself]
        exact h
  | raise | elapse | outside => exact h

/-- Every stored topic has passed its checks. -/
def State.WellFormed (s : State R) : Prop :=
  ∀ id d, s.topicCollection.get id = some d → d.WellFormed

theorem Effect.wellFormed (heff : Effect s a s') (h : s.WellFormed) :
    s'.WellFormed := by
  cases heff with
  | @raise _ _ details _ _ hdetails =>
      intro id d hd
      by_cases hid : id = s.nextTopicId
      · subst hid
        replace hd := (StorageMap.get_insert_self _ _ _).symm.trans hd
        cases hd
        exact hdetails
      · exact h id d ((StorageMap.get_insert_ne _ _ hid).symm.trans hd)
  | issue _ _ _ hissued =>
      unfold State.WellFormed
      rw [hissued.same]
      exact h
  | vote | elapse | outside => exact h

end Thxnet.Dao
