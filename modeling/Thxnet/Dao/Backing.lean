import Thxnet.Dao.Effects
import Thxnet.Dao.Mock
import Thxnet.Frame.Supply

/-!
# What backs the weights

The weight of a voting right is a balance at the moment it is issued.  The
accounts of a topic are looked at one after the other, while balances move: an
account that has its right can hand what it has been counted for to one that
will be counted later (`supply_counted_twice`).

Otherwise what has been issued, together with what any accounts without a right
hold, stays within the supply (`Backing`).
-/

namespace Thxnet.Dao

open Thxnet.Lib Thxnet.Frame

variable {R : Config}

/-! ## Issues and transfers -/

/-- The weights a step issues on the topic `id`, of all its voters together. -/
def issuedSum (id : Nat) (p : State R × Action R) : Nat :=
  match p.2 with
  | .call _ (.issueVotingRightToken topicId voters ratio) =>
      if topicId = id then
        (voters.map fun v =>
          weightPerRequiredOption p.1.world v (ratio.getD 1)).sum
      else 0
  | _ => 0

/-- What the step issues on the topic `id`, it issues with ratio one. -/
def issuesAtPar (id : Nat) : Action R → Bool
  | .call _ (.issueVotingRightToken topicId _ ratio) =>
      topicId ≠ id || ratio.getD 1 = 1
  | _ => true

/-- What happens to the balances is a transfer, of an allowed kind. -/
def Transfers (L : Supply R.totalBalance)
    (allowed : State R → R.AccountId → R.AccountId → Prop)
    (p : State R × Action R) : Prop :=
  ∀ world, p.2 = .outside world → ∃ source dest amount req,
    L.transfer p.1.world source dest amount req = .ok world ∧
      allowed p.1 source dest

/-- The source has no right on the topic `id`, or the destination has one. -/
def KeepsCounted (id : Nat) (s : State R) (source dest : R.AccountId) : Prop :=
  (s.votingRightTokenCollection id).get source = none ∨
    ((s.votingRightTokenCollection id).get dest).isSome = true

theorem issuedSum_issue (id : Nat) (s : State R) (origin : Origin R.AccountId)
    (topicId : Nat) (voters : List R.AccountId) (ratio : Option Nat) :
    issuedSum id
        (s, .call origin (.issueVotingRightToken topicId voters ratio)) =
      if topicId = id then
        (voters.map fun v =>
          weightPerRequiredOption s.world v (ratio.getD 1)).sum
      else 0 := rfl

/-! ## The supply covers the weights -/

/-- What has been issued and what any accounts without a right hold are within
the supply. -/
structure Backing (L : Supply R.totalBalance) (id bound : Nat) (s : State R)
    (issued : Nat) : Prop where
  inOrder : L.InOrder s.world
  le : ∀ F : Finset R.AccountId,
    (∀ x ∈ F, (s.votingRightTokenCollection id).get x = none) →
      issued + ∑ x ∈ F, R.totalBalance s.world x ≤ bound

section Steps

variable {L : Supply R.totalBalance} {id bound issued : Nat} {s s' : State R}

theorem Backing.keep {a : Action R} (h : Backing L id bound s issued)
    (heff : Effect s a s') (hworld : s'.world = s.world) :
    Backing L id bound s' issued := by
  refine ⟨?_, fun F hF => ?_⟩
  · rw [hworld]
    exact h.inOrder
  · rw [hworld]
    refine h.le F fun x hx => Option.not_isSome_iff_eq_none.mp fun hsome => ?_
    have hstays := heff.right_stays hsome
    rw [hF x hx] at hstays
    cases hstays

theorem weightPerRequiredOption_one_le (world : R.World) (v : R.AccountId) :
    weightPerRequiredOption world v 1 ≤ R.totalBalance world v := by
  unfold weightPerRequiredOption
  rw [Nat.mul_one]
  exact Nat.mod_le _ _

/-- The accounts that get a right get their balance. -/
theorem Issued.sum_le {ratio : Nat} {voters : List R.AccountId}
    (h : Issued s s' id ratio voters) (hratio : ratio = 1) :
    (voters.map fun v => weightPerRequiredOption s.world v ratio).sum ≤
      ∑ x ∈ (voters.filter fun v =>
          0 < weightPerRequiredOption s.world v ratio).toFinset,
        R.totalBalance s.world x := by
  have hnodup : (voters.filter fun v =>
      0 < weightPerRequiredOption s.world v ratio).Nodup := by
    refine List.nodup_iff_count_le_one.mpr fun v => ?_
    by_cases hpos : 0 < weightPerRequiredOption s.world v ratio
    · rw [List.count_filter (by simpa using hpos)]
      exact h.once v hpos
    · rw [List.count_eq_zero_of_not_mem]
      · exact Nat.zero_le _
      · intro hmem
        exact hpos (by simpa using (List.mem_filter.mp hmem).2)
  have hzero : (voters.map fun v =>
        weightPerRequiredOption s.world v ratio).sum =
      ((voters.filter fun v =>
        0 < weightPerRequiredOption s.world v ratio).map fun v =>
          weightPerRequiredOption s.world v ratio).sum := by
    clear hnodup h
    induction voters with
    | nil => rfl
    | cons v rest ih =>
        by_cases hpos : 0 < weightPerRequiredOption s.world v ratio
        · simp [hpos, ih]
        · simp [Nat.eq_zero_of_not_pos hpos, ih]
  rw [hzero, ← List.sum_toFinset _ hnodup]
  refine Finset.sum_le_sum fun x _ => ?_
  rw [hratio]
  exact weightPerRequiredOption_one_le s.world x

/-- What is issued was held by accounts without a right. -/
theorem Backing.issue (h : Backing L id bound s issued) {ratio : Nat}
    {voters : List R.AccountId} (hissued : Issued s s' id ratio voters)
    (hratio : ratio = 1) :
    Backing L id bound s' (issued +
      (voters.map fun v => weightPerRequiredOption s.world v ratio).sum) := by
  have hworld : s'.world = s.world := by rw [hissued.same]
  refine ⟨?_, fun F hF => ?_⟩
  · rw [hworld]
    exact h.inOrder
  · have hsum := hissued.sum_le hratio
    generalize hG : (voters.filter fun v =>
      0 < weightPerRequiredOption s.world v ratio).toFinset = G at hsum
    have hmem : ∀ x, x ∈ G ↔
        x ∈ voters ∧ 0 < weightPerRequiredOption s.world x ratio := by
      intro x
      rw [← hG]
      simp
    have hdisjoint : Disjoint F G := by
      refine Finset.disjoint_left.mpr fun x hx hxG => ?_
      have hnone := hF x hx
      rw [hissued.tokens x, if_pos ((hmem x).mp hxG)] at hnone
      cases hnone
    have hall := h.le (F ∪ G) fun x hx => by
      obtain hx | hx := Finset.mem_union.mp hx
      · have hnone := hF x hx
        rw [hissued.tokens x] at hnone
        by_cases hnew : x ∈ voters ∧
            0 < weightPerRequiredOption s.world x ratio
        · rw [if_pos hnew] at hnone
          cases hnone
        · rwa [if_neg hnew] at hnone
      · exact hissued.new x ((hmem x).mp hx).1
    rw [Finset.sum_union hdisjoint] at hall
    rw [hworld]
    omega

/-- What accounts without a right get, others without a right had. -/
theorem Backing.transfer (h : Backing L id bound s issued)
    {source dest : R.AccountId} {amount : Nat} {req : ExistenceRequirement}
    {world : R.World}
    (hok : L.transfer s.world source dest amount req = .ok world)
    (hfair : KeepsCounted id s source dest) :
    Backing L id bound { s with world := world } issued := by
  have hmoved := L.transfer_moved h.inOrder hok
  refine ⟨L.transfer_inOrder h.inOrder hok, fun F hF => ?_⟩
  show issued + ∑ x ∈ F, R.totalBalance world x ≤ bound
  by_cases hdest : dest ∈ F
  · have hnone := hF dest hdest
    have hsource : (s.votingRightTokenCollection id).get source = none := by
      refine hfair.resolve_right fun hsome => ?_
      rw [show (s.votingRightTokenCollection id).get dest = none from hnone]
        at hsome
      cases hsome
    have hall := h.le (insert source F) fun x hx => by
      obtain rfl | hx := Finset.mem_insert.mp hx
      · exact hsource
      · exact hF x hx
    have hsum : ∑ x ∈ insert source F, R.totalBalance world x ≤
        ∑ x ∈ insert source F, R.totalBalance s.world x :=
      hmoved.sum_le fun _ => Finset.mem_insert_self _ _
    have hsub : ∑ x ∈ F, R.totalBalance world x ≤
        ∑ x ∈ insert source F, R.totalBalance world x :=
      Finset.sum_le_sum_of_subset (Finset.subset_insert _ _)
    omega
  · have hsum : ∑ x ∈ F, R.totalBalance world x ≤
        ∑ x ∈ F, R.totalBalance s.world x :=
      hmoved.sum_le fun hmem => absurd hmem hdest
    have hall := h.le F hF
    omega

theorem Backing.step {a : Action R} (h : Backing L id bound s issued)
    (hpar : issuesAtPar id a = true)
    (htransfers : Transfers L (KeepsCounted id) (s, a))
    (hstep : step s a = .ok s') :
    Backing L id bound s' (issued + issuedSum id (s, a)) := by
  have heff := step_effect hstep
  cases heff' : heff with
  | @raise _ call _ _ hcall =>
      have hzero : ∀ origin, issuedSum id (s, .call origin call) = 0 := by
        intro origin
        cases call <;> first | rfl | cases hcall
      rw [hzero]
      exact h.keep heff rfl
  | @issue _ topicId voters ratio _ _ _ _ _ hissued =>
      rw [issuedSum_issue]
      by_cases hid : topicId = id
      · subst hid
        have hone : ratio.getD 1 = 1 := by
          simpa [issuesAtPar] using hpar
        rw [if_pos rfl]
        exact h.issue hissued hone
      · rw [if_neg hid]
        exact h.keep heff (by rw [hissued.same])
  | vote | elapse => exact h.keep heff rfl
  | outside world =>
      obtain ⟨source, dest, amount, req, hok, hfair⟩ := htransfers world rfl
      exact h.transfer hok hfair

end Steps

/-- In every run in which balances only move by transfers, and none goes from an
account with a right on the topic to one without, the weights issued on the
topic with ratio one add up to at most the total issuance. -/
theorem weights_backed (L : Supply R.totalBalance) {s₀ s : State R}
    {t : List (State R × Action R)} (horder : L.InOrder s₀.world)
    (hrun : Transition.Run step s₀ t s) (id : Nat)
    (hpar : ∀ p ∈ t, issuesAtPar id p.2 = true)
    (htransfers : ∀ p ∈ t, Transfers L (KeepsCounted id) p) :
    (t.map (issuedSum id)).sum ≤ L.issuance s₀.world := by
  have hstart : Backing L id (L.issuance s₀.world) s₀ 0 := by
    refine ⟨horder, fun F _ => ?_⟩
    rw [Nat.zero_add]
    exact L.backed horder F
  have hend := hrun.past
    (A := fun s a =>
      issuesAtPar id a = true ∧ Transfers L (KeepsCounted id) (s, a))
    (J := fun s past =>
      Backing L id (L.issuance s₀.world) s (past.map (issuedSum id)).sum)
    (fun s a s' past hA hJ hstep => by
      rw [List.map_append, List.sum_append, List.map_singleton,
        List.sum_singleton]
      exact hJ.step hA.1 hA.2 hstep)
    (fun p hp => ⟨hpar p hp, htransfers p hp⟩) hstart
  have hle := hend.le ∅ (by simp)
  rwa [Finset.sum_empty] at hle

/-! ### Concrete runs -/

theorem citizens_inOrder : (Balances.supply assemblyRules).InOrder citizens :=
  ⟨Balances.anchored_of_keys (by decide +kernel), by decide +kernel⟩

/-- The citizens after a transfer. -/
def handOver (w : Balances Nat) (source dest amount : Nat) : Balances Nat :=
  match w.transfer assemblyRules source dest amount .allowDeath with
  | .ok w' => w'
  | .error _ => w

theorem handOver_ok {w : Balances Nat} {source dest amount : Nat}
    (h : (w.transfer assemblyRules source dest amount .allowDeath).isOk =
      true) :
    w.transfer assemblyRules source dest amount .allowDeath =
      .ok (handOver w source dest amount) := by
  unfold handOver
  cases hok : w.transfer assemblyRules source dest amount .allowDeath with
  | error =>
      rw [hok] at h
      cases h
  | ok => rfl

/-- Voting rights on the topic with ratio one. -/
def counting (voters : List Nat) : Action assembly :=
  signedBy 1 (.issueVotingRightToken 0 voters none)

/-- The topic is raised. -/
def raisedState : State assembly := assemblyAfter [signedBy 1 topic]

/-- An account has been counted. -/
def countedState (voter : Nat) : State assembly :=
  Transition.final step raisedState [counting [voter]]

/-- Then something is handed over. -/
def movedState (voter source dest amount : Nat) : State assembly :=
  Transition.final step (countedState voter)
    [.outside (handOver (countedState voter).world source dest amount)]

/-- A topic, one account counted, a transfer, and others counted. -/
def countedRun (voter source dest amount : Nat) (voters : List Nat) :
    List (State assembly × Action assembly) :=
  [(assemblyGenesis, signedBy 1 topic), (raisedState, counting [voter]),
    (countedState voter,
      .outside (handOver (countedState voter).world source dest amount)),
    (movedState voter source dest amount, counting voters)]

theorem run_countedRun {voter source dest amount : Nat} {voters : List Nat}
    (hcounted : (step raisedState (counting [voter])).isOk = true)
    (hothers : (step (movedState voter source dest amount)
      (counting voters)).isOk = true) :
    Transition.Run step assemblyGenesis
      (countedRun voter source dest amount voters)
      (Transition.final step (movedState voter source dest amount)
        [counting voters]) :=
  .cons (Transition.step_final (by decide +kernel))
    (.cons (Transition.step_final hcounted)
      (.cons (Transition.step_final rfl)
        (.cons (Transition.step_final hothers) (.nil _))))

theorem transfers_countedRun {voter source dest amount : Nat}
    {voters : List Nat}
    {allowed : State assembly → Nat → Nat → Prop}
    (hok : ((countedState voter).world.transfer assemblyRules source dest
      amount .allowDeath).isOk = true)
    (hallowed : allowed (countedState voter) source dest) :
    ∀ p ∈ countedRun voter source dest amount voters,
      Transfers (Balances.supply assemblyRules) allowed p := by
  intro p hp world hworld
  simp only [countedRun, List.mem_cons, List.not_mem_nil, or_false] at hp
  obtain rfl | rfl | rfl | rfl := hp
  · cases hworld
  · cases hworld
  · cases hworld
    exact ⟨source, dest, amount, .allowDeath, handOver_ok hok, hallowed⟩
  · cases hworld

/-- Account 2 is counted, and accounts 1 and 3 after one has given to the
other. -/
theorem weights_backed_counted :
    ((countedRun 2 1 3 900 [1, 3]).map (issuedSum 0)).sum ≤
      10000000000001200 :=
  weights_backed (Balances.supply assemblyRules) citizens_inOrder
    (run_countedRun (by decide +kernel) (by decide +kernel)) 0
    (by decide +kernel)
    (transfers_countedRun (by decide +kernel) (.inl (by decide +kernel)))

/-- Account 1 is counted, hands what it has to account 2, and that is counted
again. -/
theorem supply_counted_twice :
    Transition.Run step assemblyGenesis (countedRun 1 1 2 9000000000000000 [2])
      (Transition.final step (movedState 1 1 2 9000000000000000)
        [counting [2]]) ∧
    (∀ p ∈ countedRun 1 1 2 9000000000000000 [2],
      Transfers (Balances.supply assemblyRules) (fun _ _ _ => True) p) ∧
    (∀ p ∈ countedRun 1 1 2 9000000000000000 [2],
      issuesAtPar 0 p.2 = true ∧ p.1.world.totalIssuance = 10000000000001200) ∧
    10000000000001200 <
      ((countedRun 1 1 2 9000000000000000 [2]).map (issuedSum 0)).sum :=
  ⟨run_countedRun (by decide +kernel) (by decide +kernel),
    transfers_countedRun (by decide +kernel) trivial, by decide +kernel,
    by decide +kernel⟩

end Thxnet.Dao
