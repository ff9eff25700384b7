import Thxnet.Fork.Scheduler

/-!
# Rotation of the groups on a forked chain

The groups rotate over the cores from the block at which the session starts.
A new session starts in the block after the one that announces it, so at
genesis the scheduler notes block 1.  The fix writes block 0, and the groups of
a forked chain rotate one block early.
-/

namespace Thxnet.Fork

open Thxnet.Lib Thxnet.Parachains

/-- Where the two states agree: the core has no group, or a block after genesis
is not one in which a rotation would happen one block early.  A rotation is not
seen if there is one group only.  The last case is the one of a sum that wraps
around. -/
def RotationAgrees (validators parachains frequency core block : Nat) : Prop :=
  (validators = 0 ∨ parachains ≤ core) ∨
    0 < block ∧
      (frequency = 0 ∨ ¬ frequency ∣ block ∨ parachains = 1 ∨
        core + block / frequency = 2 ^ 32 ∧ parachains ∣ 2 ^ 32 - 1)

instance (validators parachains frequency core block : Nat) :
    Decidable (RotationAgrees validators parachains frequency core block) := by
  unfold RotationAgrees
  infer_instance

/-- One block later is one rotation more just at the multiples. -/
theorem pred_div_eq {block frequency : Nat} (hblock : 0 < block) :
    (block - 1) / frequency =
      if frequency ∣ block then block / frequency - 1
      else block / frequency := by
  obtain ⟨b, rfl⟩ : ∃ b, block = b + 1 := ⟨block - 1, by omega⟩
  rw [Nat.add_sub_cancel, Nat.succ_div]
  by_cases hdvd : frequency ∣ b + 1
  · rw [if_pos hdvd, if_pos hdvd, Nat.add_sub_cancel]
  · rw [if_neg hdvd, if_neg hdvd, Nat.add_zero]

private theorem succ_mod_eq_iff {m n : Nat} :
    (m + 1) % n = m % n ↔ n = 1 := by
  constructor
  · intro h
    have hmod := Nat.sub_mod_eq_zero_of_mod_eq h
    rw [Nat.add_sub_cancel_left] at hmod
    exact Nat.dvd_one.mp (Nat.dvd_of_mod_eq_zero hmod)
  · rintro rfl
    rw [Nat.mod_one, Nat.mod_one]

/-- Consecutive sums are in the same group just if there is one group, or if
the sum wraps around there. -/
theorem wrapped_pred_mod_eq_iff {a n : Nat} (ha : 0 < a)
    (hfits : a < 2 ^ 33) :
    a % 2 ^ 32 % n = (a - 1) % 2 ^ 32 % n ↔
      n = 1 ∨ a = 2 ^ 32 ∧ n ∣ 2 ^ 32 - 1 := by
  by_cases hwrap : a = 2 ^ 32
  · subst hwrap
    have hpred : (2 ^ 32 - 1) % 2 ^ 32 = 2 ^ 32 - 1 := by decide
    rw [Nat.mod_self, Nat.zero_mod, hpred, eq_comm, ← Nat.dvd_iff_mod_eq_zero]
    constructor
    · exact fun h => .inr ⟨rfl, h⟩
    · rintro (rfl | ⟨_, h⟩)
      · exact one_dvd _
      · exact h
  · have hsucc : a % 2 ^ 32 = (a - 1) % 2 ^ 32 + 1 := by omega
    rw [hsucc, succ_mod_eq_iff]
    constructor
    · exact .inl
    · rintro (h | ⟨h, _⟩)
      · exact h
      · exact absurd h hwrap

/-- Counting from one block earlier gives the same group just if no rotation
falls on the block or the rotation is not seen. -/
theorem rotated_eq_iff {core block frequency n : Nat} (hcore : core < 2 ^ 32)
    (hblock : block < 2 ^ 32) (hpos : 0 < block) (hfrequency : 0 < frequency) :
    wrappingAdd 32 core (block / frequency) % n =
        wrappingAdd 32 core ((block - 1) / frequency) % n ↔
      ¬ frequency ∣ block ∨ n = 1 ∨
        core + block / frequency = 2 ^ 32 ∧ n ∣ 2 ^ 32 - 1 := by
  rw [pred_div_eq hpos]
  by_cases hdvd : frequency ∣ block
  · have hrotation : 0 < block / frequency :=
      Nat.div_pos (Nat.le_of_dvd hpos hdvd) hfrequency
    have hle : block / frequency ≤ block := Nat.div_le_self _ _
    have hpred : core + (block / frequency - 1) =
        core + block / frequency - 1 := by
      omega
    rw [if_pos hdvd, wrappingAdd, wrappingAdd, hpred,
      wrapped_pred_mod_eq_iff (by omega) (by omega)]
    simp [hdvd]
  · rw [if_neg hdvd]
    simp [hdvd]

/-- On the state that the fix writes a core has the same group as on the state
of the scheduler's own handler at genesis just where `RotationAgrees` says. -/
theorem rotation_agrees_iff {V : Type} {storage : Storage}
    {validators parachains : Nat}
    (hvalidators : nValidators storage = .ok validators)
    (hparachains : nParachains storage = .ok parachains) {keys : List V}
    (hkeys : keys.length = validators) {config : HostConfiguration}
    {coreCount : Nat}
    (hcores : sessionCores validators config coreCount = parachains)
    (before : SchedulerState) {core block : Nat} (hblock : block < 2 ^ 32) :
    groupAssignedToCore config
        (readScheduler (fixParaSchedulerState storage).1) core block =
      groupAssignedToCore config
        (Scheduler.initializerOnNewSession keys config coreCount 0 before)
        core block ↔
      RotationAgrees validators parachains
        config.schedulerParams.groupRotationFrequency core block := by
  have hhandler : (Scheduler.initializerOnNewSession keys config coreCount 0
      before).validatorGroups = forkGroups validators parachains := by
    show shuffledGroups keys.length
      (sessionCores keys.length config coreCount) = _
    rw [hkeys, hcores, forkGroups_eq]
  have hstart : (Scheduler.initializerOnNewSession keys config coreCount 0
      before).sessionStartBlock = 1 := rfl
  have hfits := nParachains_lt hparachains
  have hlength : (forkGroups validators parachains).length ≤ core ↔
      validators = 0 ∨ parachains ≤ core := by
    rw [forkGroups_eq, length_shuffledGroups]
    by_cases hzero : validators = 0
    · simp [hzero]
    · simp [hzero]
  rw [readScheduler_fixed hvalidators hparachains, RotationAgrees, ← hlength]
  unfold groupAssignedToCore
  rw [hhandler, hstart]
  dsimp only
  rw [if_neg (Nat.not_lt_zero block)]
  by_cases hgroup : (forkGroups validators parachains).length ≤ core
  · simp [hgroup]
  have hcount : (forkGroups validators parachains).length = parachains := by
    rw [forkGroups_eq, length_shuffledGroups, if_neg]
    exact fun hzero => hgroup (hlength.mpr (.inl hzero))
  rw [if_neg hgroup, if_neg hgroup]
  rw [hcount] at hgroup ⊢
  by_cases hgenesis : block = 0
  · subst hgenesis
    by_cases hzero : config.schedulerParams.groupRotationFrequency = 0
    · simp [hzero, hgroup]
    · simp [hzero, hgroup]
  rw [if_neg (show ¬ block < 1 by omega)]
  by_cases hzero : config.schedulerParams.groupRotationFrequency = 0
  · simp [hzero, Nat.pos_of_ne_zero hgenesis]
  rw [if_neg hzero, if_neg hzero, Except.ok.injEq, Option.some.injEq,
    Nat.sub_zero, rotated_eq_iff (by omega) hblock
      (Nat.pos_of_ne_zero hgenesis) (Nat.pos_of_ne_zero hzero)]
  simp [hgroup, hzero, Nat.pos_of_ne_zero hgenesis]

/-- The authorities and two parachains. -/
def twoParachains : Storage :=
  forkedStorage (devAuthoritySet.map (·.stash)) [1003, 1004]

/-- The scheduler before its first session. -/
def noSession : SchedulerState := ⟨[], [], 0⟩

private theorem twoParachains_counts :
    nValidators twoParachains = .ok 6 ∧ nParachains twoParachains = .ok 2 :=
  ⟨rfl, rfl⟩

/-- Between rotations the states agree. -/
theorem rotation_agrees_iff_between :
    nValidators twoParachains = .ok 6 ∧ nParachains twoParachains = .ok 2 ∧
      groupAssignedToCore defaultParachainsHostConfiguration
          (readScheduler (fixParaSchedulerState twoParachains).1) 0 21 =
        groupAssignedToCore defaultParachainsHostConfiguration
          (Scheduler.initializerOnNewSession devAuthoritySet
            defaultParachainsHostConfiguration 2 0 noSession) 0 21 := by
  obtain ⟨hvalidators, hparachains⟩ := twoParachains_counts
  refine ⟨hvalidators, hparachains, ?_⟩
  exact (rotation_agrees_iff hvalidators hparachains rfl (by decide) _
    (by decide)).mpr (by decide)

/-- In block 20 the groups of the forked chain have rotated, those of the
scheduler have not. -/
theorem rotates_one_block_early :
    groupAssignedToCore defaultParachainsHostConfiguration
        (readScheduler (fixParaSchedulerState twoParachains).1) 0 20 =
        .ok (some 1) ∧
      groupAssignedToCore defaultParachainsHostConfiguration
        (Scheduler.initializerOnNewSession devAuthoritySet
          defaultParachainsHostConfiguration 2 0 noSession) 0 20 =
        .ok (some 0) := by
  obtain ⟨hvalidators, hparachains⟩ := twoParachains_counts
  rw [readScheduler_fixed hvalidators hparachains]
  exact ⟨rfl, rfl⟩

end Thxnet.Fork
