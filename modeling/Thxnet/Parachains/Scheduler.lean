import Thxnet.Lib.Paging
import Thxnet.Lib.Rounding
import Thxnet.Parachains.Types

/-!
# The scheduler's groups

At the beginning of a session the scheduler splits the validators into as many
groups as there are cores, of sizes that differ by at most one, and notes the
block from which the groups rotate over the cores.
-/

namespace Thxnet.Parachains

open Thxnet.Lib

variable {V : Type}

/-- The storage that a new session writes. -/
structure SchedulerState where
  validatorGroups : List (List Nat)
  availabilityCores : List CoreOccupied
  sessionStartBlock : Nat
  deriving DecidableEq, Repr

/-- The number of cores of a session: what the assignment provider asks for,
and at least enough to hold the validators. -/
def sessionCores (validators : Nat) (config : HostConfiguration)
    (sessionCoreCount : Nat) : Nat :=
  max sessionCoreCount
    (match config.schedulerParams.maxValidatorsPerCore with
    | some most => if most ≠ 0 then validators / most else 0
    | none => 0)

/-- `Vec::resize_with` for the cores. -/
def resized (cores : List CoreOccupied) (nCores : Nat) : List CoreOccupied :=
  cores.take nCores ++ List.replicate (nCores - cores.length) .free

/-- The groups of a new session. -/
def shuffledGroups (validators nCores : Nat) : List (List Nat) :=
  if nCores = 0 ∨ validators = 0 then []
  else
    let groupBaseSize := validators / nCores
    let nLargerGroups := validators % nCores
    let larger := (List.range nLargerGroups).map fun i =>
      let offset := (groupBaseSize + 1) * i
      (List.range (groupBaseSize + 1)).map fun j => (offset + j) % 2 ^ 32
    let smaller := (List.range (nCores - nLargerGroups)).map fun i =>
      let offset := nLargerGroups * (groupBaseSize + 1) + i * groupBaseSize
      (List.range groupBaseSize).map fun j => (offset + j) % 2 ^ 32
    larger ++ smaller

/-- `scheduler::initializer_on_new_session`, in the block with the given
number. -/
def Scheduler.initializerOnNewSession (validators : List V)
    (config : HostConfiguration) (sessionCoreCount blockNumber : Nat)
    (s : SchedulerState) : SchedulerState :=
  let nCores := sessionCores validators.length config sessionCoreCount
  { availabilityCores := resized s.availabilityCores nCores
    validatorGroups := shuffledGroups validators.length nCores
    sessionStartBlock := blockNumber + 1 }

/-- What stops the runtime. -/
inductive Panic where
  | divisionByZero
  deriving DecidableEq, Repr

/-- `group_assigned_to_core`.  The sum is one of `usize`, which has 32 bits in
the runtime. -/
def groupAssignedToCore (config : HostConfiguration) (s : SchedulerState)
    (core block : Nat) : Except Panic (Option Nat) :=
  if block < s.sessionStartBlock then .ok none
  else if s.validatorGroups.length ≤ core then .ok none
  else if config.schedulerParams.groupRotationFrequency = 0 then
    .error .divisionByZero
  else
    let rotationsSinceSessionStart := (block - s.sessionStartBlock) /
      config.schedulerParams.groupRotationFrequency
    .ok (some (wrappingAdd 32 core rotationsSinceSessionStart %
      s.validatorGroups.length))

/-! ## The groups are a partition -/

private theorem map_range_mod {offset size : Nat}
    (h : offset + size ≤ 2 ^ 32) :
    ((List.range size).map fun j => (offset + j) % 2 ^ 32) =
      List.range' offset size := by
  rw [List.range'_eq_map_range]
  refine List.map_congr_left fun j hj => ?_
  have hlt := List.mem_range.mp hj
  exact Nat.mod_eq_of_lt (by omega)

variable {nCores validators : Nat}

private theorem groups_total :
    validators % nCores * (validators / nCores + 1) +
      (nCores - validators % nCores) * (validators / nCores) = validators := by
  by_cases hcores : nCores = 0
  · subst hcores
    simp
  · have hlt : validators % nCores < nCores :=
      Nat.mod_lt _ (Nat.pos_of_ne_zero hcores)
    calc
      _ = validators % nCores + (validators % nCores +
            (nCores - validators % nCores)) * (validators / nCores) := by
        rw [Nat.add_mul, Nat.mul_add, Nat.mul_one]
        omega
      _ = validators % nCores + nCores * (validators / nCores) := by
        rw [Nat.add_sub_cancel' (Nat.le_of_lt hlt)]
      _ = validators := Nat.mod_add_div _ _

/-- The groups are consecutive blocks of the indices, the larger ones first. -/
theorem shuffledGroups_eq (hcores : 0 < nCores)
    (hvalidators : validators < 2 ^ 32) :
    shuffledGroups validators nCores =
      if validators = 0 then []
      else
        blocks 0 (validators / nCores + 1) (validators % nCores) ++
          blocks (validators % nCores * (validators / nCores + 1))
            (validators / nCores) (nCores - validators % nCores) := by
  unfold shuffledGroups
  by_cases hzero : validators = 0
  · rw [if_pos (.inr hzero), if_pos hzero]
  · rw [if_neg (by omega), if_neg hzero]
    have htotal := @groups_total nCores validators
    dsimp only
    congr 1
    · refine List.map_congr_left fun i hi => ?_
      have hmul : (validators / nCores + 1) * (i + 1) ≤
          (validators / nCores + 1) * (validators % nCores) :=
        Nat.mul_le_mul_left _ (List.mem_range.mp hi)
      rw [Nat.mul_comm _ (validators % nCores), Nat.mul_add, Nat.mul_one]
        at hmul
      rw [map_range_mod (by omega), Nat.zero_add, Nat.mul_comm]
    · refine List.map_congr_left fun i hi => ?_
      have hmul : (i + 1) * (validators / nCores) ≤
          (nCores - validators % nCores) * (validators / nCores) :=
        Nat.mul_le_mul_right _ (List.mem_range.mp hi)
      rw [Nat.add_mul, Nat.one_mul] at hmul
      exact map_range_mod (by omega)

/-- Together the groups are the indices of the validators, each once. -/
theorem flatten_shuffledGroups (hcores : 0 < nCores)
    (hvalidators : validators < 2 ^ 32) :
    (shuffledGroups validators nCores).flatten = List.range validators := by
  rw [shuffledGroups_eq hcores hvalidators]
  by_cases hzero : validators = 0
  · rw [if_pos hzero, hzero]
    rfl
  · have happend := @List.range'_append_1 0
      (validators % nCores * (validators / nCores + 1))
      ((nCores - validators % nCores) * (validators / nCores))
    rw [Nat.zero_add, groups_total] at happend
    rw [if_neg hzero, List.flatten_append, flatten_blocks, flatten_blocks,
      happend, List.range_eq_range']

theorem length_shuffledGroups (validators nCores : Nat) :
    (shuffledGroups validators nCores).length =
      if validators = 0 then 0 else nCores := by
  unfold shuffledGroups
  by_cases hcores : nCores = 0
  · rw [if_pos (.inl hcores), hcores]
    split <;> rfl
  · by_cases hzero : validators = 0
    · rw [if_pos (.inr hzero), if_pos hzero]
      rfl
    · have hlt : validators % nCores < nCores :=
        Nat.mod_lt _ (Nat.pos_of_ne_zero hcores)
      rw [if_neg (by omega), if_neg hzero]
      simp only [List.length_append, List.length_map, List.length_range]
      omega

theorem length_of_mem_shuffledGroups {group : List Nat}
    (h : group ∈ shuffledGroups validators nCores) :
    group.length = validators / nCores ∨
      group.length = validators / nCores + 1 := by
  unfold shuffledGroups at h
  split at h
  · cases h
  · rcases List.mem_append.mp h with hmem | hmem
    · obtain ⟨i, _, rfl⟩ := List.mem_map.mp hmem
      right
      rw [List.length_map, List.length_range]
    · obtain ⟨i, _, rfl⟩ := List.mem_map.mp hmem
      left
      rw [List.length_map, List.length_range]

end Thxnet.Parachains
