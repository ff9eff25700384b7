import Mathlib.Data.List.Perm.Basic
import Thxnet.Lib.BoundedVec
import Thxnet.Lib.StorageMap

/-!
# Lists under keys

An index from keys to lists is a storage map of bounded vectors, in which a
missing entry counts as the empty list.  `listed` is that reading; an element
is appended unless the list is full, and removed by keeping the others or by
putting the last one in its place.
-/

namespace Thxnet.Lib

namespace BoundedVec

variable {α : Type} {n : Nat}

@[ext] theorem ext {v v' : BoundedVec α n} (h : v.toList = v'.toList) :
    v = v' := by
  cases v
  cases v'
  cases h
  rfl

instance [DecidableEq α] : DecidableEq (BoundedVec α n) := fun v v' =>
  decidable_of_iff (v.toList = v'.toList) ⟨ext, fun h => h ▸ rfl⟩

/-- `retain`: keep the elements that satisfy `p`. -/
def retain (v : BoundedVec α n) (p : α → Bool) : BoundedVec α n :=
  ⟨v.toList.filter p, (List.length_filter_le p v.toList).trans v.length_le⟩

/-- `swap_remove` of the first occurrence of an element, if there is one: the
last element takes its place. -/
def swapRemoveFirst [DecidableEq α] (v : BoundedVec α n) (a : α) :
    BoundedVec α n :=
  match v.toList.getLast? with
  | some last =>
      if a ∈ v.toList then
        ⟨(v.toList.set (v.toList.idxOf a) last).dropLast, by
          rw [List.length_dropLast, List.length_set]
          exact (Nat.sub_le _ _).trans v.length_le⟩
      else v
  | none => v

private theorem dropLast_set_perm [DecidableEq α] (l : List α) (a last : α)
    (ha : a ∈ l ++ [last]) :
    (((l ++ [last]).set ((l ++ [last]).idxOf a) last).dropLast).Perm
      ((l ++ [last]).erase a) := by
  by_cases hmem : a ∈ l
  · have hidx : l.idxOf a < l.length := List.idxOf_lt_length_of_mem hmem
    rw [List.idxOf_append_of_mem hmem, List.set_append_left _ _ hidx,
      List.dropLast_concat, List.erase_append_left _ hmem,
      List.erase_eq_eraseIdx_of_idxOf rfl]
    exact (List.set_perm_cons_eraseIdx hidx last).trans
      (List.perm_append_singleton _ _).symm
  · have heq : a = last := by simpa [hmem] using ha
    subst heq
    rw [List.idxOf_append_of_notMem hmem, List.set_append_right _ _ (by omega),
      List.erase_append_right _ hmem]
    simp

theorem toList_swapRemoveFirst [DecidableEq α] (v : BoundedVec α n) (a : α) :
    (v.swapRemoveFirst a).toList.Perm (v.toList.erase a) := by
  unfold swapRemoveFirst
  cases hlast : v.toList.getLast? with
  | none =>
      rw [List.getLast?_eq_none_iff] at hlast
      simp [hlast]
  | some last =>
      obtain ⟨init, hinit⟩ := List.getLast?_eq_some_iff.mp hlast
      dsimp only
      by_cases ha : a ∈ v.toList
      · rw [if_pos ha]
        show ((v.toList.set (v.toList.idxOf a) last).dropLast).Perm _
        rw [hinit] at ha ⊢
        exact dropLast_set_perm init a last ha
      · rw [if_neg ha, List.erase_of_not_mem ha]

end BoundedVec

/-- Under each key, the elements that belong to it are listed, each once. -/
structure Lists {K V : Type} (list : K → List V) (owner : V → Option K) :
    Prop where
  nodup : ∀ k, (list k).Nodup
  mem : ∀ k v, v ∈ list k ↔ owner v = some k

namespace Lists

variable {K V : Type} [DecidableEq V] {list list' : K → List V}
  {owner owner' : V → Option K}

theorem erase_eq (h : Lists list owner) {k : K} {v : V}
    (hne : owner v ≠ some k) : (list k).erase v = list k :=
  List.erase_of_not_mem fun hmem => hne ((h.mem k v).mp hmem)

/-- One element changes hands: it is taken off the list it was on and put on
that of its new owner. -/
theorem move [DecidableEq K] (h : Lists list owner) {v : V}
    (hother : ∀ u, u ≠ v → owner' u = owner u)
    (hlist : ∀ k, (list' k).Perm (if owner' v = some k
      then v :: (list k).erase v else (list k).erase v)) :
    Lists list' owner' where
  nodup := by
    intro k
    rw [(hlist k).nodup_iff]
    have herase := (h.nodup k).erase v
    split
    · exact List.nodup_cons.mpr ⟨(h.nodup k).not_mem_erase, herase⟩
    · exact herase
  mem := by
    intro k u
    rw [(hlist k).mem_iff]
    by_cases hu : u = v
    · subst hu
      split
      · next hk => simp [hk]
      · next hk => simp [hk, (h.nodup k).not_mem_erase]
    · rw [hother u hu, ← h.mem k u]
      split <;> simp [hu, List.mem_erase_of_ne hu]

end Lists

namespace StorageMap

variable {K V : Type} {n : Nat}

/-- The list at a key. -/
def listed (m : StorageMap K (BoundedVec V n)) (k : K) : List V :=
  ((m.get k).map BoundedVec.toList).getD []

@[simp] theorem listed_empty (k : K) :
    (empty : StorageMap K (BoundedVec V n)).listed k = [] := rfl

variable [DecidableEq K]

/-- `try_mutate` with `try_push`: append to the list at `k`, unless it is
full. -/
def tryAppend (m : StorageMap K (BoundedVec V n)) (k : K) (v : V) :
    Option (StorageMap K (BoundedVec V n)) :=
  (((m.get k).getD default).tryPush v).map (m.insert k)

theorem listed_of_tryAppend {m m' : StorageMap K (BoundedVec V n)} {k : K}
    {v : V} (h : m.tryAppend k v = some m') (k' : K) :
    m'.listed k' = if k' = k then m.listed k ++ [v] else m.listed k' := by
  obtain ⟨vec, hpush, rfl⟩ := Option.map_eq_some_iff.mp h
  by_cases hk : k' = k
  · subst hk
    have hlist := BoundedVec.toList_of_tryPush hpush
    rw [if_pos rfl, listed, get_insert_self, Option.map_some, Option.getD_some,
      hlist, listed]
    cases m.get k' <;> rfl
  · rw [if_neg hk, listed, get_insert_ne _ _ hk, listed]

omit [DecidableEq K] in
theorem length_listed_le (m : StorageMap K (BoundedVec V n)) (k : K) :
    (m.listed k).length ≤ n := by
  unfold listed
  cases m.get k with
  | none => exact Nat.zero_le n
  | some vec => exact vec.length_le

theorem listed_modify_swapRemoveFirst [DecidableEq V]
    (m : StorageMap K (BoundedVec V n)) (k : K) (v : V) (k' : K) :
    ((m.modify k fun vec => vec.swapRemoveFirst v).listed k').Perm
      (if k' = k then (m.listed k').erase v else m.listed k') := by
  by_cases hk : k' = k
  · subst hk
    rw [if_pos rfl, listed, get_modify_self, listed]
    cases m.get k' with
    | none => exact .nil
    | some vec => exact vec.toList_swapRemoveFirst v
  · rw [if_neg hk, listed, get_modify_ne _ _ hk]
    exact .refl _

theorem listed_modify_retain (m : StorageMap K (BoundedVec V n)) (k : K)
    (p : V → Bool) (k' : K) :
    (m.modify k fun vec => vec.retain p).listed k' =
      if k' = k then (m.listed k').filter p else m.listed k' := by
  by_cases hk : k' = k
  · subst hk
    rw [if_pos rfl, listed, get_modify_self, listed]
    cases m.get k' <;> rfl
  · rw [if_neg hk, listed, get_modify_ne _ _ hk, listed]

/-! ## Lists of keys

`list` indexes the entries of `m` by `key`: at each `k` it lists, each once, the
keys of the entries that belong to `k`.
-/

/-- The lists hold exactly the keys of the entries, each once. -/
structure Indexes {W : Type} (list : StorageMap K (BoundedVec Nat n))
    (m : StorageMap Nat W) (key : W → K) : Prop where
  nodup : ∀ k, (list.listed k).Nodup
  mem : ∀ k id, id ∈ list.listed k ↔ ∃ w, m.get id = some w ∧ key w = k

namespace Indexes

variable {W : Type} {list list' : StorageMap K (BoundedVec Nat n)}
  {m : StorageMap Nat W} {key : W → K}

omit [DecidableEq K] in
theorem empty : Indexes (StorageMap.empty : StorageMap K (BoundedVec Nat n))
    (StorageMap.empty : StorageMap Nat W) key where
  nodup := fun _ => List.nodup_nil
  mem := fun _ _ => by simp

omit [DecidableEq K] in
theorem iff_lists :
    Indexes list m key ↔ Lists list.listed fun id => (m.get id).map key := by
  constructor
  · exact fun h => ⟨h.nodup, fun k id => by rw [h.mem]; simp⟩
  · exact fun h => ⟨h.nodup, fun k id => by rw [h.mem]; simp⟩

theorem append (h : Indexes list m key) {next : Nat} (hnext : m.Below next)
    {w : W} (happend : list.tryAppend (key w) next = some list') :
    Indexes list' (m.insert next w) key := by
  have hl := iff_lists.mp h
  refine iff_lists.mpr (hl.move (v := next) (fun u hu => ?_) fun k => ?_)
  · rw [get_insert_ne _ _ hu]
  · rw [hl.erase_eq (by simp [hnext.get_eq_none]), get_insert_self,
      listed_of_tryAppend happend]
    by_cases hk : k = key w
    · simp [hk]
    · simp [hk, Ne.symm hk]

omit [DecidableEq K] in
theorem rewrite (h : Indexes list m key) {i : Nat} {w w' : W}
    (hw : m.get i = some w) (hkey : key w' = key w) :
    Indexes list (m.insert i w') key := by
  refine ⟨h.nodup, fun k id => ?_⟩
  rw [h.mem k id]
  by_cases hid : id = i
  · subst hid
    simp [hw, hkey]
  · rw [get_insert_ne _ _ hid]

theorem remove (h : Indexes list m key) {i : Nat} {w : W}
    (hw : m.get i = some w)
    (hlist : ∀ k, (list'.listed k).Perm
      (if k = key w then (list.listed k).erase i else list.listed k)) :
    Indexes list' (m.remove i) key := by
  have hl := iff_lists.mp h
  refine iff_lists.mpr (hl.move (v := i) (fun u hu => ?_) fun k => ?_)
  · rw [get_remove_ne _ hu]
  · rw [get_remove_self]
    have hperm := hlist k
    by_cases hk : k = key w
    · simpa [hk] using hperm
    · rw [if_neg hk] at hperm
      simpa [hl.erase_eq (k := k) (v := i) (by simp [hw, Ne.symm hk])]
        using hperm

/-- An entry gets another key: it is taken off its list and appended to that of
the new key, which may be the same. -/
theorem transfer (h : Indexes list m key) {i : Nat} {w w' : W}
    (hw : m.get i = some w)
    (happend : (list.modify (key w) fun vec =>
      vec.retain fun id => id ≠ i).tryAppend (key w') i = some list') :
    Indexes list' (m.insert i w') key := by
  have hl := iff_lists.mp h
  -- off its list or not on it: the other lists do not hold `i`
  have hdropped : ∀ k, (list.modify (key w) fun vec =>
      vec.retain fun id => id ≠ i).listed k = (list.listed k).erase i := by
    intro k
    rw [listed_modify_retain]
    by_cases hk : k = key w
    · rw [if_pos hk, (h.nodup k).erase_eq_filter]
      exact List.filter_congr fun id _ => decide_not
    · rw [if_neg hk, hl.erase_eq (by simp [hw, Ne.symm hk])]
  refine iff_lists.mpr (hl.move (v := i) (fun u hu => ?_) fun k => ?_)
  · rw [get_insert_ne _ _ hu]
  · rw [get_insert_self, listed_of_tryAppend happend, hdropped, hdropped]
    by_cases hk : k = key w'
    · simp [hk]
    · simp [hk, Ne.symm hk]

/-- A key is on its list once and on no other. -/
theorem count_listed (h : Indexes list m key) (k : K) (id : Nat) :
    (list.listed k).count id =
      if (m.get id).map key = some k then 1 else 0 := by
  rw [(h.nodup k).count]
  simp [h.mem]

/-- A sum over a list is a total over the entries that belong to it. -/
theorem sum_listed (h : Indexes list m key) (k : K) (f : Nat → Nat) :
    ((list.listed k).map f).sum =
      m.total fun id w => if key w = k then f id else 0 := by
  have hset : (list.listed k).toFinset =
      m.keys.filter fun id => (m.get id).any (fun w => key w = k) = true := by
    ext id
    rw [List.mem_toFinset, h.mem k id, Finset.mem_filter, m.mem_keys]
    cases m.get id <;> simp
  rw [← List.sum_toFinset f (h.nodup k), hset, Finset.sum_filter]
  refine Finset.sum_congr rfl fun id _ => ?_
  cases m.get id with
  | none => rfl
  | some => simp

theorem sum_listed_get (h : Indexes list m key) (k : K) (f : W → Nat) :
    ((list.listed k).map fun id => ((m.get id).map f).getD 0).sum =
      m.sum fun w => if key w = k then f w else 0 := by
  rw [h.sum_listed]
  refine Finset.sum_congr rfl fun id _ => ?_
  cases hget : m.get id with
  | none => rfl
  | some =>
      dsimp only [Option.map_some]
      rw [hget]
      rfl

end Indexes

end StorageMap

end Thxnet.Lib
