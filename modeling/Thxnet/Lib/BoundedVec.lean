import Mathlib.Data.List.Basic

/-!
# Bounded vectors

A vector whose length never exceeds a bound fixed by its type.  The bound is a
field, so a value that violates it cannot be built and `tryPush` is the only
way to grow one.
-/

namespace Thxnet.Lib

/-- A list of at most `bound` elements. -/
structure BoundedVec (α : Type) (bound : Nat) where
  toList : List α
  length_le : toList.length ≤ bound

namespace BoundedVec

variable {α : Type} {n : Nat}

/-- The empty vector. -/
def empty : BoundedVec α n := ⟨[], Nat.zero_le n⟩

instance : Inhabited (BoundedVec α n) := ⟨empty⟩

/-- A list as a bounded vector, unless it is too long. -/
def tryFrom (l : List α) : Option (BoundedVec α n) :=
  if h : l.length ≤ n then some ⟨l, h⟩ else none

variable {v : BoundedVec α n} {a : α}

theorem toList_of_tryFrom {l : List α} (h : tryFrom l = some v) :
    v.toList = l := by
  unfold tryFrom at h
  split at h
  · cases h
    rfl
  · cases h

theorem tryFrom_toList (v : BoundedVec α n) : tryFrom v.toList = some v :=
  dif_pos v.length_le

/-- Append an element, unless the vector is full. -/
def tryPush (v : BoundedVec α n) (a : α) : Option (BoundedVec α n) :=
  if h : v.toList.length < n then
    some ⟨v.toList ++ [a], by rw [List.length_append]; exact h⟩
  else none

theorem toList_of_tryPush {v' : BoundedVec α n} (h : v.tryPush a = some v') :
    v'.toList = v.toList ++ [a] := by
  unfold tryPush at h
  split at h
  · cases h
    rfl
  · cases h

theorem tryPush_isSome (a : α) (h : v.toList.length < n) :
    ∃ v', v.tryPush a = some v' := by
  simp [tryPush, h]

/-- Delete the first occurrence of an element, if there is one. -/
def removeFirst [DecidableEq α] (v : BoundedVec α n) (a : α) :
    BoundedVec α n :=
  ⟨v.toList.erase a, Nat.le_trans List.length_erase_le v.length_le⟩

@[simp] theorem toList_removeFirst [DecidableEq α] (v : BoundedVec α n)
    (a : α) : (v.removeFirst a).toList = v.toList.erase a := rfl

/-- Append an element; a full vector stays as it is. -/
def push (v : BoundedVec α n) (a : α) : BoundedVec α n :=
  (v.tryPush a).getD v

theorem toList_push (h : v.toList.length < n) :
    (v.push a).toList = v.toList ++ [a] := by
  obtain ⟨v', hv'⟩ := tryPush_isSome a h
  rw [push, hv', Option.getD_some, toList_of_tryPush hv']

theorem mem_of_mem_push {x : α} (h : x ∈ (v.push a).toList) :
    x ∈ v.toList ∨ x = a := by
  unfold push at h
  cases hpush : v.tryPush a with
  | none =>
      rw [hpush] at h
      exact .inl h
  | some =>
      rw [hpush, Option.getD_some, toList_of_tryPush hpush] at h
      simpa using h

end BoundedVec

end Thxnet.Lib
