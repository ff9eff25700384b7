import Thxnet.Dao.Effects
import Thxnet.Dao.Mock

/-!
# One voter, one weighted ballot

A voting right that has been used stays as one of weight zero, so it can be
neither used nor issued again.  `ballots id t` are the ballots cast on a topic
in a run, `weightOf id v t` the weight issued to an account; `ballot_record`
says that the ballot box is exactly what they add up to.

Tallies are `u128`: the box holds the sums modulo `2 ^ 128`.
-/

namespace Thxnet.Dao

open Thxnet.Lib Thxnet.Frame

variable {R : Config}

/-! ## Ballots and weights in a run -/

/-- The ballot a step casts on the topic `id`. -/
def Action.ballot (id : Nat) : Action R → Option (R.AccountId × R.Options)
  | .call (.signed voter) (.voteTopic topicId options) =>
      if topicId = id then some (voter, options) else none
  | _ => none

/-- The step issues a right on the topic `id` to `v`. -/
def Action.issues (id : Nat) (v : R.AccountId) : Action R → Bool
  | .call _ (.issueVotingRightToken topicId voters _) =>
      topicId = id && v ∈ voters
  | _ => false

/-- The weight a step issues to `v` on the topic `id`. -/
def issuedWeight (id : Nat) (v : R.AccountId) (p : State R × Action R) : Nat :=
  match p.2 with
  | .call _ (.issueVotingRightToken topicId voters ratio) =>
      if topicId = id ∧ v ∈ voters then
        weightPerRequiredOption p.1.world v (ratio.getD 1) else 0
  | _ => 0

/-- The step raises the topic `id`. -/
def raisesTopic (id : Nat) (p : State R × Action R) : Bool :=
  match p.2 with
  | .call _ call => call.raises && p.1.nextTopicId = id
  | _ => false

section History

variable (id : Nat) (t : List (State R × Action R))

/-- The ballots cast on the topic `id` in a run. -/
def ballots : List (R.AccountId × R.Options) :=
  t.filterMap fun p => p.2.ballot id

/-- The weight issued to `v` on the topic `id` in a run. -/
def weightOf (v : R.AccountId) : Nat := (t.map (issuedWeight id v)).sum

/-- The weight of the accounts that voted for the option `o`. -/
def tally (o : Nat) : Nat :=
  (((ballots id t).filter fun b => o ∈ b.2.toList).map fun b =>
    weightOf id t b.1).sum

/-- The weight of the accounts that voted. -/
def votingWeight : Nat := ((ballots id t).map fun b => weightOf id t b.1).sum

end History

/-- The votes on the topic `id` in a run that ends in `s`. -/
structure BallotRecord (id : Nat) (t : List (State R × Action R))
    (s : State R) : Prop where
  once : ((ballots id t).map Prod.fst).Nodup
  spent : t.Pairwise fun p q => ∀ b, p.2.ballot id = some b →
    q.2.issues id b.1 = false
  tallies : (∀ o, tally id t o < 2 ^ 128) → ∀ o,
    ((s.ballotBox id).get o).getD 0 = tally id t o
  options : t.countP (raisesTopic id) ≤ 1 → ∀ b ∈ ballots id t,
    ∃ d, s.topicCollection.get id = some d ∧
      ∀ o ∈ b.2.toList, o < d.options.toList.length
  total : t.countP (raisesTopic id) ≤ 1 → (∀ o, tally id t o < 2 ^ 128) →
    ∀ d, s.topicCollection.get id = some d →
      (s.ballotBox id).sum (fun n => n) =
        d.requiredAnswerNumber * votingWeight id t

/-! ## The ballot box -/

/-- A ballot adds its weight to the options it chooses and to no others. -/
theorem foldl_castVote {topicId weight : Nat} {chosen : List Nat}
    (hnodup : chosen.Nodup) (box : StorageDoubleMap Nat Nat Nat) (id o : Nat) :
    (chosen.foldl (castVote topicId weight) box id).get o =
      if id = topicId ∧ o ∈ chosen then
        some ((((box id).get o).getD 0 + weight) % 2 ^ 128)
      else (box id).get o := by
  induction chosen generalizing box with
  | nil => simp
  | cons c rest ih =>
      obtain ⟨hc, hrest⟩ := List.nodup_cons.mp hnodup
      rw [List.foldl_cons, ih hrest]
      by_cases hid : id = topicId
      · subst hid
        by_cases ho : o = c
        · subst ho
          simp [hc, castVote]
        · have hsame : (castVote id weight box c id).get o = (box id).get o := by
            unfold castVote
            exact StorageDoubleMap.get_insert_ne _ _ fun h => ho h.2
          simp [hsame, ho]
      · have hsame : castVote topicId weight box c id = box id :=
          StorageDoubleMap.insert_ne _ _ _ hid
        simp [hsame, hid]

/-- The weights added option by option are the weights times the number of
options on each ballot. -/
theorem sum_options {n k : Nat} {bs : List (R.AccountId × R.Options)}
    {w : R.AccountId → Nat}
    (h : ∀ b ∈ bs, b.2.toList.Nodup ∧ b.2.toList.length = k ∧
      ∀ o ∈ b.2.toList, o < n) :
    ∑ o ∈ Finset.range n,
        ((bs.filter fun b => o ∈ b.2.toList).map fun b => w b.1).sum =
      k * (bs.map fun b => w b.1).sum := by
  induction bs with
  | nil => simp
  | cons b rest ih =>
      obtain ⟨hnodup, hlength, hvalid⟩ := h b List.mem_cons_self
      have hrest := ih fun b hb => h b (List.mem_cons_of_mem _ hb)
      have hsplit : ∀ o, (((b :: rest).filter fun b => o ∈ b.2.toList).map
          fun b => w b.1).sum =
          (if o ∈ b.2.toList then w b.1 else 0) +
            ((rest.filter fun b => o ∈ b.2.toList).map fun b => w b.1).sum := by
        intro o
        by_cases ho : o ∈ b.2.toList <;> simp [ho]
      have hchosen : (Finset.range n).filter (· ∈ b.2.toList) =
          b.2.toList.toFinset := by
        ext o
        simpa using hvalid o
      have hfirst : ∑ o ∈ Finset.range n,
          (if o ∈ b.2.toList then w b.1 else 0) = k * w b.1 := by
        rw [← Finset.sum_filter, hchosen, Finset.sum_const, smul_eq_mul,
          List.toFinset_card_of_nodup hnodup, hlength]
      simp only [hsplit, Finset.sum_add_distrib, hfirst, hrest, List.map_cons,
        List.sum_cons, Nat.mul_add]

/-! ## One step more -/

section Append

variable {id : Nat} {past : List (State R × Action R)} {p : State R × Action R}

theorem ballots_append :
    ballots id (past ++ [p]) = ballots id past ++ (p.2.ballot id).toList := by
  unfold ballots
  rw [List.filterMap_append]
  cases h : p.2.ballot id <;> simp [h]

theorem weightOf_append (v : R.AccountId) :
    weightOf id (past ++ [p]) v = weightOf id past v + issuedWeight id v p := by
  simp [weightOf]

/-- Where the step leaves the weights of the voters as they are, it adds to the
tallies what its own ballot weighs. -/
theorem tally_append (hsettled : ∀ b ∈ ballots id (past ++ [p]),
      issuedWeight id b.1 p = 0) (o : Nat) :
    tally id (past ++ [p]) o = tally id past o +
      (((p.2.ballot id).toList.filter fun b => o ∈ b.2.toList).map fun b =>
        weightOf id past b.1).sum := by
  unfold tally
  have hsame : ((ballots id (past ++ [p])).filter fun b => o ∈ b.2.toList).map
      (fun b => weightOf id (past ++ [p]) b.1) =
      ((ballots id (past ++ [p])).filter fun b => o ∈ b.2.toList).map
        (fun b => weightOf id past b.1) := by
    refine List.map_congr_left fun b hb => ?_
    rw [weightOf_append, hsettled b (List.mem_of_mem_filter hb), Nat.add_zero]
  rw [hsame, ballots_append, List.filter_append, List.map_append,
    List.sum_append]

end Append

/-! ## What the state keeps of the past -/

/-- A voting right: issued, spent, or none. -/
def rightOf (id : Nat) (past : List (State R × Action R)) (v : R.AccountId) :
    Option Nat :=
  if v ∈ (ballots id past).map Prod.fst then some 0
  else if weightOf id past v = 0 then none
  else some (weightOf id past v)

/-- The state keeps the rights and the tallies of the past. -/
structure BallotHistory (id : Nat) (s : State R)
    (past : List (State R × Action R)) : Prop where
  topics : s.WellFormed
  rights : ∀ v, (s.votingRightTokenCollection id).get v = rightOf id past v
  once : ((ballots id past).map Prod.fst).Nodup
  spent : past.Pairwise fun p q => ∀ b, p.2.ballot id = some b →
    q.2.issues id b.1 = false
  box : ∀ o, ((s.ballotBox id).get o).getD 0 = tally id past o % 2 ^ 128
  boxed : ∀ o, ((s.ballotBox id).get o).isSome = true →
    ∃ b ∈ ballots id past, o ∈ b.2.toList
  raised : (s.topicCollection.get id).isSome = true →
    1 ≤ past.countP (raisesTopic id)
  formed : past.countP (raisesTopic id) ≤ 1 → ∀ b ∈ ballots id past,
    ∃ d, s.topicCollection.get id = some d ∧ b.2.toList.Nodup ∧
      b.2.toList.length = d.requiredAnswerNumber ∧
      ∀ o ∈ b.2.toList, o < d.options.toList.length

namespace BallotHistory

variable {id : Nat} {s s' : State R} {past : List (State R × Action R)}
  {a : Action R}

theorem genesis {s : State R} (h : Genesis s) : BallotHistory id s [] := by
  obtain ⟨world, now, rfl⟩ := h
  exact {
    topics := fun _ _ hd => by cases hd
    rights := fun _ => rfl
    once := List.nodup_nil
    spent := .nil
    box := fun _ => rfl
    boxed := fun _ ho => by cases ho
    raised := fun hd => by cases hd
    formed := fun _ _ hb => by cases hb }

/-- Raising a topic is no ballot, and issues nothing. -/
theorem raises_unrelated {call : Call R} (hcall : call.raises = true)
    (origin : Origin R.AccountId) (id : Nat) :
    (Action.call origin call).ballot id = none ∧
      ∀ v, (Action.call origin call).issues id v = false := by
  cases call with
  | raiseTopic | forceRaiseTopic => cases origin <;> exact ⟨rfl, fun _ => rfl⟩
  | issueVotingRightToken | voteTopic => cases hcall

/-- An account that has voted is issued nothing. -/
theorem not_issues (h : BallotHistory id s past) (heff : Effect s a s')
    {b : R.AccountId × R.Options} (hb : b ∈ ballots id past) :
    a.issues id b.1 = false := by
  have hright := h.rights b.1
  rw [rightOf, if_pos (List.mem_map_of_mem hb)] at hright
  cases heff with
  | @issue _ topicId voters _ _ _ _ _ _ hissued =>
      simp only [Action.issues, Bool.and_eq_false_iff, decide_eq_false_iff_not]
      by_cases htopic : topicId = id
      · refine .inr fun hmem => ?_
        subst htopic
        rw [hissued.new b.1 hmem] at hright
        cases hright
      · exact .inl htopic
  | raise hcall => exact (raises_unrelated hcall _ id).2 _
  | vote | elapse | outside => rfl

theorem issuedWeight_eq_zero {v : R.AccountId} (h : a.issues id v = false) :
    issuedWeight id v (s, a) = 0 := by
  unfold issuedWeight
  split
  · next heq =>
      dsimp only at heq
      subst heq
      rw [if_neg]
      simpa [Action.issues] using h
  · rfl

/-- A step after which the topic looks as before, and that is none of its
ballots. -/
theorem unrelated (h : BallotHistory id s past) (heff : Effect s a s')
    (hballot : a.ballot id = none)
    (hrights : ∀ v, (s'.votingRightTokenCollection id).get v =
      rightOf id (past ++ [(s, a)]) v)
    (hbox : s'.ballotBox id = s.ballotBox id)
    (hraised : (s'.topicCollection.get id).isSome = true →
      1 ≤ (past ++ [(s, a)]).countP (raisesTopic id))
    (htopic : raisesTopic id (s, a) = false →
      s'.topicCollection.get id = s.topicCollection.get id) :
    BallotHistory id s' (past ++ [(s, a)]) := by
  have hballots : ballots id (past ++ [(s, a)]) = ballots id past := by
    rw [ballots_append, hballot, Option.toList_none, List.append_nil]
  have htally : ∀ o, tally id (past ++ [(s, a)]) o = tally id past o := by
    intro o
    rw [tally_append, hballot]
    · simp
    · intro b hb
      rw [hballots] at hb
      exact issuedWeight_eq_zero (h.not_issues heff hb)
  refine
    { topics := heff.wellFormed h.topics
      rights := hrights
      once := by rw [hballots]; exact h.once
      spent := ?_
      box := by simpa only [hbox, htally] using h.box
      boxed := by simpa only [hbox, hballots] using h.boxed
      raised := hraised
      formed := ?_ }
  · refine List.pairwise_append.mpr ⟨h.spent, List.pairwise_singleton _ _, ?_⟩
    intro p hp q hq b hb
    rw [List.mem_singleton.mp hq]
    exact h.not_issues heff (List.mem_filterMap.mpr ⟨p, hp, hb⟩)
  · intro hcount b hb
    rw [hballots] at hb
    have hpast : past.countP (raisesTopic id) ≤ 1 := by
      rw [List.countP_append] at hcount
      omega
    obtain ⟨d, hd, hrest⟩ := h.formed hpast b hb
    refine ⟨d, ?_, hrest⟩
    rw [htopic ?_]
    · exact hd
    · -- the topic is there already: it is not raised again
      refine Bool.eq_false_iff.mpr fun hraises => ?_
      have hone := h.raised (by rw [hd]; rfl)
      rw [List.countP_append, List.countP_singleton, if_pos hraises] at hcount
      omega

/-- The rights of a topic are as before if the step neither issues one nor casts
a ballot on it. -/
theorem rightOf_append (hballot : a.ballot id = none)
    (hissues : ∀ v, a.issues id v = false) (v : R.AccountId) :
    rightOf id (past ++ [(s, a)]) v = rightOf id past v := by
  unfold rightOf
  rw [ballots_append, hballot, Option.toList_none, List.append_nil,
    weightOf_append, issuedWeight_eq_zero (hissues v), Nat.add_zero]

theorem rights_issue (h : BallotHistory id s past) {who : R.AccountId}
    {voters : List R.AccountId} {ratio : Option Nat}
    (hissued : Issued s s' id (ratio.getD 1) voters) (v : R.AccountId) :
    (s'.votingRightTokenCollection id).get v = rightOf id
      (past ++ [(s, .call (.signed who) (.issueVotingRightToken id voters
        ratio))]) v := by
  have hright := h.rights v
  unfold rightOf at hright ⊢
  rw [hissued.tokens v, ballots_append, weightOf_append]
  simp only [Action.ballot, Option.toList_none, List.append_nil, issuedWeight,
    true_and]
  by_cases hmem : v ∈ voters
  · have hnone := hissued.new v hmem
    rw [hnone] at hright
    by_cases hvoted : v ∈ (ballots id past).map Prod.fst
    · rw [if_pos hvoted] at hright
      cases hright
    · rw [if_neg hvoted] at hright ⊢
      have hzero : weightOf id past v = 0 := by
        by_contra hne
        rw [if_neg hne] at hright
        cases hright
      rw [hzero, if_pos hmem, Nat.zero_add, hnone]
      by_cases hpos : 0 < weightPerRequiredOption s.world v (ratio.getD 1)
      · rw [if_pos ⟨hmem, hpos⟩, if_neg (Nat.ne_of_gt hpos)]
      · rw [if_neg fun h => hpos h.2, if_pos (Nat.eq_zero_of_not_pos hpos)]
  · rw [if_neg fun h => hmem h.1, if_neg hmem, Nat.add_zero]
    exact hright

theorem vote (h : BallotHistory id s past) {voter : R.AccountId}
    {options : R.Options} {details : TopicDetails R} {weight : Nat}
    {chosen : List Nat} {events : List (Event R)}
    (htopic : s.topicCollection.get id = some details)
    (htoken : (s.votingRightTokenCollection id).get voter = some weight)
    (hpos : 0 < weight) (hperm : chosen.Perm options.toList)
    (hnodup : chosen.Nodup)
    (hlength : chosen.length = details.requiredAnswerNumber)
    (hvalid : ∀ o ∈ chosen, o < details.options.toList.length) :
    BallotHistory id
      { s with
        events := events
        ballotBox := chosen.foldl (castVote id weight) s.ballotBox
        votingRightTokenCollection :=
          s.votingRightTokenCollection.insert id voter 0 }
      (past ++ [(s, .call (.signed voter) (.voteTopic id options))]) := by
  have hballots : ballots id
      (past ++ [(s, .call (.signed voter) (.voteTopic id options))]) =
      ballots id past ++ [(voter, options)] := by
    rw [ballots_append]
    simp [Action.ballot]
  have hweights : ∀ v, weightOf id
      (past ++ [(s, .call (.signed voter) (.voteTopic id options))]) v =
      weightOf id past v := weightOf_append
  -- a right with a weight is one that has not been used
  have hnew : voter ∉ (ballots id past).map Prod.fst ∧
      weightOf id past voter = weight := by
    have hright := h.rights voter
    rw [htoken, rightOf] at hright
    by_cases hvoted : voter ∈ (ballots id past).map Prod.fst
    · rw [if_pos hvoted] at hright
      cases hright
      exact absurd hpos (Nat.lt_irrefl 0)
    · refine ⟨hvoted, ?_⟩
      rw [if_neg hvoted] at hright
      by_cases hzero : weightOf id past voter = 0
      · rw [if_pos hzero] at hright
        cases hright
      · rw [if_neg hzero] at hright
        exact (Option.some.inj hright).symm
  have htally : ∀ o, tally id
      (past ++ [(s, .call (.signed voter) (.voteTopic id options))]) o =
      tally id past o + if o ∈ chosen then weight else 0 := by
    intro o
    rw [tally_append fun _ _ => rfl]
    by_cases ho : o ∈ chosen
    · simp [Action.ballot, ho, hperm.mem_iff.mp ho, hnew.2]
    · have ho' : o ∉ options.toList := fun h => ho (hperm.mem_iff.mpr h)
      simp [Action.ballot, ho, ho']
  refine
    { topics := h.topics
      rights := fun v => ?_
      once := ?_
      spent := ?_
      box := fun o => ?_
      boxed := fun o ho => ?_
      raised := fun hd => ?_
      formed := fun hcount b hb => ?_ }
  · unfold rightOf
    rw [hballots, hweights]
    dsimp only
    by_cases hv : v = voter
    · rw [hv, StorageDoubleMap.insert_self, StorageMap.get_insert_self,
        if_pos (by simp)]
    · rw [StorageDoubleMap.get_insert_ne _ _ (fun h => hv h.2), h.rights v,
        rightOf]
      simp only [List.map_append, List.mem_append, List.map_cons, List.map_nil,
        List.mem_singleton, hv, or_false]
  · rw [hballots, List.map_append]
    refine List.nodup_append.mpr ⟨h.once, List.nodup_singleton _, ?_⟩
    rintro v hv w hw rfl
    rw [List.mem_singleton.mp hw] at hv
    exact hnew.1 hv
  · refine List.pairwise_append.mpr ⟨h.spent, List.pairwise_singleton _ _, ?_⟩
    intro p _ q hq b _
    rw [List.mem_singleton.mp hq]
    rfl
  · have hbox := h.box o
    rw [htally, foldl_castVote hnodup]
    by_cases ho : o ∈ chosen
    · rw [if_pos ⟨rfl, ho⟩, if_pos ho, Option.getD_some, hbox, Nat.mod_add_mod]
    · rw [if_neg fun h => ho h.2, if_neg ho, Nat.add_zero, hbox]
  · rw [foldl_castVote hnodup] at ho
    rw [hballots]
    by_cases hmem : o ∈ chosen
    · exact ⟨(voter, options), by simp, hperm.mem_iff.mp hmem⟩
    · rw [if_neg fun h => hmem h.2] at ho
      obtain ⟨b, hb, hob⟩ := h.boxed o ho
      exact ⟨b, List.mem_append_left _ hb, hob⟩
  · have hone := h.raised hd
    rw [List.countP_append]
    omega
  · have hpast : past.countP (raisesTopic id) ≤ 1 := by
      rw [List.countP_append] at hcount
      omega
    rw [hballots] at hb
    obtain hb | hb := List.mem_append.mp hb
    · exact h.formed hpast b hb
    · rw [List.mem_singleton.mp hb]
      exact ⟨details, htopic, hperm.nodup_iff.mp hnodup,
        hperm.length_eq ▸ hlength,
        fun o ho => hvalid o (hperm.mem_iff.mpr ho)⟩

theorem step (h : BallotHistory id s past) (hstep : step s a = .ok s') :
    BallotHistory id s' (past ++ [(s, a)]) := by
  have heff := step_effect hstep
  have hcount : (s.topicCollection.get id).isSome = true →
      1 ≤ (past ++ [(s, a)]).countP (raisesTopic id) := by
    intro hd
    have hone := h.raised hd
    rw [List.countP_append]
    omega
  cases heff with
  | @raise origin call details events hcall hdetails =>
      obtain ⟨hballot, hissues⟩ := raises_unrelated hcall origin id
      have hraises : raisesTopic id (s, .call origin call) =
          decide (s.nextTopicId = id) := by
        simp [raisesTopic, hcall]
      refine h.unrelated (.raise hcall hdetails) hballot (fun v => ?_) rfl ?_ ?_
      · rw [rightOf_append hballot hissues]
        exact h.rights v
      · by_cases hid : id = s.nextTopicId
        · intro _
          rw [List.countP_append, List.countP_singleton, hraises]
          simp [hid]
        · rw [StorageMap.get_insert_ne _ _ hid]
          exact hcount
      · rw [hraises]
        intro hne
        exact StorageMap.get_insert_ne _ _ (Ne.symm (of_decide_eq_false hne))
  | @issue who topicId voters ratio details _ htopic hopen hratio hissued =>
      have htopics : s'.topicCollection = s.topicCollection := by
        rw [hissued.same]
      have hboxes : s'.ballotBox = s.ballotBox := by rw [hissued.same]
      refine h.unrelated (.issue htopic hopen hratio hissued) rfl (fun v => ?_)
        (by rw [hboxes]) (by rw [htopics]; exact hcount)
        (fun _ => by rw [htopics])
      by_cases hid : id = topicId
      · subst hid
        exact h.rights_issue hissued v
      · rw [hissued.other id hid, rightOf_append rfl]
        · exact h.rights v
        · intro w
          simp [Action.issues, Ne.symm hid]
  | @vote voter topicId options details weight chosen events htopic hstarted
      hopen htoken hpos hperm hnodup hlength hvalid =>
      have htwo := (h.topics _ _ htopic).two
      by_cases hid : id = topicId
      · subst hid
        refine h.vote htopic htoken hpos hperm hnodup hlength fun o ho => ?_
        exact (hvalid o ho).trans_lt (wrappingSub_one_lt (by omega))
      · have hballot : (Action.call (.signed voter)
            (.voteTopic topicId options)).ballot id = none :=
          if_neg (Ne.symm hid)
        refine h.unrelated (.vote htopic hstarted hopen htoken hpos hperm hnodup
          hlength hvalid) hballot (fun v => ?_) ?_ hcount (fun _ => rfl)
        · rw [rightOf_append hballot fun _ => rfl]
          dsimp only
          rw [StorageDoubleMap.insert_ne _ _ _ hid]
          exact h.rights v
        · ext1 o
          rw [foldl_castVote hnodup, if_neg fun h => hid h.1]
  | elapse seconds =>
      refine h.unrelated (.elapse seconds) rfl (fun v => ?_) rfl hcount
        (fun _ => rfl)
      rw [rightOf_append rfl fun _ => rfl]
      exact h.rights v
  | outside world =>
      refine h.unrelated (.outside world) rfl (fun v => ?_) rfl hcount
        (fun _ => rfl)
      rw [rightOf_append rfl fun _ => rfl]
      exact h.rights v

end BallotHistory

/-! ## Whole runs -/

/-- The entries of the box add up to the tallies of the options. -/
theorem BallotHistory.sum_box {id n : Nat} {s : State R}
    {t : List (State R × Action R)} (h : BallotHistory id s t)
    (hvalid : ∀ b ∈ ballots id t, ∀ o ∈ b.2.toList, o < n)
    (hlt : ∀ o, tally id t o < 2 ^ 128) :
    (s.ballotBox id).sum (fun w => w) =
      ∑ o ∈ Finset.range n, tally id t o := by
  have hkeys : (s.ballotBox id).keys ⊆ Finset.range n := by
    intro o ho
    obtain ⟨b, hb, hmem⟩ := h.boxed o (((s.ballotBox id).mem_keys o).mp ho)
    exact Finset.mem_range.mpr (hvalid b hb o hmem)
  have hentry : ∀ o, (((s.ballotBox id).get o).map fun w => w).getD 0 =
      tally id t o := by
    intro o
    rw [Option.map_id', h.box, Nat.mod_eq_of_lt (hlt o)]
  unfold StorageMap.sum
  simp only [hentry]
  refine Finset.sum_subset hkeys fun o _ ho => ?_
  -- an option without an entry has no votes
  rw [← hentry o]
  have hnone : (s.ballotBox id).get o = none := by
    simpa [(s.ballotBox id).mem_keys] using ho
  rw [hnone]
  rfl

/-- In every run and for every topic: no account casts two ballots; what an
account has voted with is never issued to it again; the box holds for each
option the weights issued to the accounts that voted for it; the options voted
for are options of the topic; and all entries together are the weight of the
voters times the number of options to choose.  The last two speak of the topic
the ballots were cast on, so of one that has not been raised over again. -/
theorem ballot_record {s₀ s : State R} {t : List (State R × Action R)}
    (h0 : Genesis s₀) (hrun : Transition.Run step s₀ t s) (id : Nat) :
    BallotRecord id t s := by
  have h : BallotHistory id s t :=
    hrun.past (A := fun _ _ => True) (J := BallotHistory id)
      (fun s a s' past _ h hstep => h.step hstep) (fun _ _ => trivial)
      (.genesis h0)
  refine ⟨h.once, h.spent, fun hlt o => ?_, fun honce b hb => ?_,
    fun honce hlt d hd => ?_⟩
  · rw [h.box, Nat.mod_eq_of_lt (hlt o)]
  · obtain ⟨d, hd, _, _, hvalid⟩ := h.formed honce b hb
    exact ⟨d, hd, hvalid⟩
  · have hformed : ∀ b ∈ ballots id t, b.2.toList.Nodup ∧
        b.2.toList.length = d.requiredAnswerNumber ∧
        ∀ o ∈ b.2.toList, o < d.options.toList.length := by
      intro b hb
      obtain ⟨d', hd', hrest⟩ := h.formed honce b hb
      rw [hd] at hd'
      cases hd'
      exact hrest
    rw [h.sum_box (fun b hb => (hformed b hb).2.2) hlt]
    exact sum_options hformed

/-! ### A concrete run

Accounts 2 and 3 are issued their rights and choose two options each.
-/

/-- The requests of the run. -/
def election : List (Action assembly) :=
  [signedBy 1 topic, signedBy 1 (.issueVotingRightToken 0 [2, 3] none),
    .elapse 3600, signedBy 2 (.voteTopic 0 (choice [0, 1])),
    signedBy 3 (.voteTopic 0 (choice [2, 1]))]

/-- The second option has the votes of both. -/
theorem ballot_record_election :
    BallotRecord 0 (Transition.trace step assemblyGenesis election)
      (assemblyAfter election) ∧
    (List.range 3).map (((assemblyAfter election).ballotBox 0).get ·) =
      [some 500, some 1200, some 700] := by
  have hexec : Transition.exec step assemblyGenesis election =
      .ok (assemblyAfter election) := Transition.exec_final (by decide +kernel)
  exact ⟨ballot_record ⟨_, _, rfl⟩ (Transition.run_of_exec hexec) 0,
    by decide +kernel⟩

end Thxnet.Dao
