import Mathlib.Algebra.BigOperators.Group.Finset.Basic
import Mathlib.Algebra.BigOperators.Ring.Finset
import Mathlib.Algebra.Order.BigOperators.Group.Finset

/-!
# Finite storage maps

A keyed storage item is a partial function with finitely many keys.  The
reading side is the function `get` itself, so a lookup after a write is one
`if`; the finite key set is carried next to it, tied to `get` by a field, so
that totals over all entries (`StorageMap.sum`) and numbers of entries
(`StorageMap.count`) are ordinary finite sums.

The two accounting identities `sum_insert` and `sum_remove` are stated
additively: the new total plus the value that was replaced is the old total
plus the value that was written.  No subtraction occurs, so callers close
their bookkeeping goals with `omega`.

A storage item with two keys is a `StorageDoubleMap`: a family of storage maps
indexed by the first key, whose entry at the first key is the prefix that an
iteration over that key sees.
-/

namespace Thxnet.Lib

/-- A finite partial map: `get` is the lookup, `keys` the finite set on which
it is defined. -/
structure StorageMap (K V : Type) where
  get : K → Option V
  keys : Finset K
  mem_keys : ∀ k, k ∈ keys ↔ (get k).isSome

namespace StorageMap

variable {K V : Type}

variable {m : StorageMap K V} {k : K} {f g : K → V → Nat}

/-- A map is determined by its lookups. -/
@[ext] theorem ext {m' : StorageMap K V} (h : ∀ k, m.get k = m'.get k) :
    m = m' := by
  have hget : m.get = m'.get := funext h
  have hkeys : m.keys = m'.keys := by
    ext k
    rw [m.mem_keys, m'.mem_keys, h k]
  cases m
  cases m'
  cases hget
  cases hkeys
  rfl

/-- The map with no entry. -/
def empty : StorageMap K V where
  get := fun _ => none
  keys := ∅
  mem_keys := by simp

instance : Inhabited (StorageMap K V) := ⟨empty⟩

theorem get_eq_none_of_notMem (h : k ∉ m.keys) : m.get k = none := by
  simpa [m.mem_keys] using h

@[simp] theorem get_empty (k : K) : (empty : StorageMap K V).get k = none := rfl

section Update

variable [DecidableEq K] (m)

/-- Write `v` at `k`, replacing what was there. -/
def insert (k : K) (v : V) : StorageMap K V where
  get := fun k' => if k' = k then some v else m.get k'
  keys := Insert.insert k m.keys
  mem_keys := by
    intro k'
    by_cases h : k' = k <;> simp [h, m.mem_keys]

/-- Delete the entry at `k`, if any. -/
def remove (k : K) : StorageMap K V where
  get := fun k' => if k' = k then none else m.get k'
  keys := m.keys.erase k
  mem_keys := by
    intro k'
    by_cases h : k' = k <;> simp [h, m.mem_keys]

/-- Change the entry at `k`, if there is one. -/
def modify (k : K) (f : V → V) : StorageMap K V :=
  match m.get k with
  | some v => m.insert k (f v)
  | none => m

theorem get_insert (k k' : K) (v : V) :
    (m.insert k v).get k' = if k' = k then some v else m.get k' := rfl

@[simp] theorem get_insert_self (k : K) (v : V) :
    (m.insert k v).get k = some v := by
  simp [get_insert]

@[simp] theorem get_insert_ne {k' : K} (v : V) (h : k' ≠ k) :
    (m.insert k v).get k' = m.get k' := by
  simp [get_insert, h]

theorem get_remove (k k' : K) :
    (m.remove k).get k' = if k' = k then none else m.get k' := rfl

@[simp] theorem get_remove_self (k : K) :
    (m.remove k).get k = none := by
  simp [get_remove]

@[simp] theorem get_remove_ne {k' : K} (h : k' ≠ k) :
    (m.remove k).get k' = m.get k' := by
  simp [get_remove, h]

theorem remove_insert (k : K) (v : V) :
    (m.insert k v).remove k = m.remove k := by
  ext1 k'
  by_cases h : k' = k
  · rw [h, get_remove_self, get_remove_self]
  · rw [get_remove_ne _ h, get_remove_ne _ h, get_insert_ne _ _ h]

theorem get_modify_self (k : K) (f : V → V) :
    (m.modify k f).get k = (m.get k).map f := by
  unfold modify
  cases h : m.get k <;> simp [h]

theorem get_modify_ne {k' : K} (f : V → V) (h : k' ≠ k) :
    (m.modify k f).get k' = m.get k' := by
  unfold modify
  cases m.get k <;> simp [h]

variable {m}

theorem isSome_insert (k' : K) (v : V) (h : (m.get k).isSome = true) :
    ((m.insert k' v).get k).isSome = true := by
  by_cases hk : k = k'
  · rw [hk, get_insert_self]
    rfl
  · rwa [get_insert_ne _ _ hk]

/-- What holds of every entry and of the one written holds of every entry
then. -/
theorem forall_insert {P : K → V → Prop} {v : V}
    (h : ∀ k v, m.get k = some v → P k v) (hv : P k v) (k' : K) (v' : V)
    (hget : (m.insert k v).get k' = some v') : P k' v' := by
  by_cases hk : k' = k
  · rw [hk, get_insert_self] at hget
    cases hget
    exact hk ▸ hv
  · rw [get_insert_ne _ _ hk] at hget
    exact h k' v' hget

theorem forall_remove {P : K → V → Prop} (h : ∀ k v, m.get k = some v → P k v)
    (k' : K) (v' : V) (hget : (m.remove k).get k' = some v') : P k' v' := by
  rw [get_remove] at hget
  exact h k' v' (Option.ite_none_left_eq_some.mp hget).2

theorem modify_of_some {v : V} (h : m.get k = some v) (f : V → V) :
    m.modify k f = m.insert k (f v) := by
  unfold modify
  rw [h]

end Update

/-! ## Totals -/

variable (m)

/-- The total of `f` over all stored values. -/
def sum (f : V → Nat) : Nat :=
  ∑ k ∈ m.keys, ((m.get k).map f).getD 0

/-- The total of a measure of the entries, keys included. -/
def total (f : K → V → Nat) : Nat :=
  ∑ k ∈ m.keys, ((m.get k).map (f k)).getD 0

/-- The number of stored values that satisfy `p`. -/
def count (p : V → Bool) : Nat :=
  m.sum fun v => if p v then 1 else 0

/-- Whether some stored value satisfies `p`. -/
def any (p : V → Bool) : Bool :=
  decide (∃ k ∈ m.keys, (m.get k).any p = true)

theorem any_eq_true (p : V → Bool) :
    m.any p = true ↔ ∃ k v, m.get k = some v ∧ p v = true := by
  unfold any
  rw [decide_eq_true_eq]
  constructor
  · rintro ⟨k, _, hany⟩
    obtain ⟨v, hget, hv⟩ := (Option.any_eq_true _ _).mp hany
    exact ⟨k, v, hget, hv⟩
  · rintro ⟨k, v, hget, hv⟩
    refine ⟨k, (m.mem_keys k).mpr (by simp [hget]), ?_⟩
    simpa [hget] using hv

@[simp] theorem sum_empty (f : V → Nat) :
    (empty : StorageMap K V).sum f = 0 := by
  simp [sum, empty]

@[simp] theorem total_empty (f : K → V → Nat) :
    (empty : StorageMap K V).total f = 0 := by
  simp [total, empty]

variable {m}

theorem le_total {v : V} (f : K → V → Nat) (h : m.get k = some v) :
    f k v ≤ m.total f := by
  have hk : k ∈ m.keys := (m.mem_keys k).mpr (by simp [h])
  calc
    f k v = ((m.get k).map (f k)).getD 0 := by simp [h]
    _ ≤ m.total f :=
      Finset.single_le_sum (f := fun k => ((m.get k).map (f k)).getD 0)
        (fun _ _ => Nat.zero_le _) hk

theorem le_sum {v : V} (f : V → Nat) (h : m.get k = some v) : f v ≤ m.sum f :=
  le_total (fun _ => f) h

variable (m)

theorem sum_eq_zero_iff (f : V → Nat) :
    m.sum f = 0 ↔ ∀ k v, m.get k = some v → f v = 0 := by
  constructor
  · intro hz k v hk
    have hle := le_sum f hk
    omega
  · intro hz
    refine Finset.sum_eq_zero fun k _ => ?_
    cases hk : m.get k with
    | none => rfl
    | some v => simpa using hz k v hk

theorem total_le_total (h : ∀ k v, m.get k = some v → f k v ≤ g k v) :
    m.total f ≤ m.total g := by
  refine Finset.sum_le_sum fun k _ => ?_
  cases hk : m.get k with
  | none => exact Nat.le_refl _
  | some v => simpa using h k v hk

theorem sum_le_sum {f g : V → Nat} (h : ∀ k v, m.get k = some v → f v ≤ g v) :
    m.sum f ≤ m.sum g :=
  m.total_le_total h

/-- A total of at most one for each key below `n`. -/
theorem sum_le_of_keys_lt {m : StorageMap Nat V} {f : V → Nat} {n : Nat}
    (h : ∀ k v, m.get k = some v → k < n ∧ f v ≤ 1) : m.sum f ≤ n := by
  have hkeys : m.keys ⊆ Finset.range n := by
    intro k hk
    obtain ⟨v, hv⟩ := Option.isSome_iff_exists.mp ((m.mem_keys k).mp hk)
    exact Finset.mem_range.mpr (h k v hv).1
  calc
    m.sum f ≤ ∑ _k ∈ m.keys, 1 := by
      refine Finset.sum_le_sum fun k _ => ?_
      cases hk : m.get k with
      | none => exact Nat.zero_le _
      | some v => simpa using (h k v hk).2
    _ = m.keys.card := by simp
    _ ≤ n := by simpa using Finset.card_le_card hkeys

theorem total_mul_left (c : Nat) (f : K → V → Nat) :
    m.total (fun k v => c * f k v) = c * m.total f := by
  unfold total
  rw [Finset.mul_sum]
  refine Finset.sum_congr rfl fun k _ => ?_
  cases m.get k <;> simp

theorem sum_mul_left (c : Nat) (f : V → Nat) :
    m.sum (fun v => c * f v) = c * m.sum f :=
  m.total_mul_left c fun _ => f

/-- A total may be taken over any finite set of keys that covers the map. -/
private theorem total_eq_sum_superset (f : K → V → Nat) (ks : Finset K)
    (h : m.keys ⊆ ks) :
    m.total f = ∑ k ∈ ks, ((m.get k).map (f k)).getD 0 := by
  refine Finset.sum_subset h fun k _ hk => ?_
  rw [get_eq_none_of_notMem hk]
  rfl

section Update

variable [DecidableEq K] {k : K} {m m' : StorageMap K V}

/-- Two totals whose entries agree away from `k` differ by what is counted
there. -/
theorem total_of_agree
    (h : ∀ k', k' ≠ k → ((m'.get k').map (g k')).getD 0 = ((m.get k').map (f
      k')).getD 0) :
    m'.total g + ((m.get k).map (f k)).getD 0 =
      m.total f + ((m'.get k).map (g k)).getD 0 := by
  let ks := Insert.insert k (m.keys ∪ m'.keys)
  have hk : k ∈ ks := Finset.mem_insert_self _ _
  have hold := total_eq_sum_superset m f ks
    (Finset.subset_union_left.trans (Finset.subset_insert _ _))
  have hnew := total_eq_sum_superset m' g ks
    (Finset.subset_union_right.trans (Finset.subset_insert _ _))
  rw [← Finset.sum_erase_add ks _ hk] at hold hnew
  have hrest := Finset.sum_congr (rfl : ks.erase k = ks.erase k) fun k' hk' =>
    h k' (Finset.ne_of_mem_erase hk')
  omega

theorem total_congr
    (h : ∀ k, ((m'.get k).map (g k)).getD 0 = ((m.get k).map (f k)).getD 0) :
    m'.total g = m.total f := by
  rw [total_eq_sum_superset m f (m.keys ∪ m'.keys) Finset.subset_union_left,
    total_eq_sum_superset m' g (m.keys ∪ m'.keys) Finset.subset_union_right]
  exact Finset.sum_congr rfl fun k _ => h k

/-- The totals of two maps that agree away from `k` differ by what they hold
there. -/
theorem sum_of_agree (h : ∀ k', k' ≠ k → m'.get k' = m.get k') (f : V → Nat) :
    m'.sum f + ((m.get k).map f).getD 0 =
      m.sum f + ((m'.get k).map f).getD 0 :=
  total_of_agree (f := fun _ => f) (g := fun _ => f) fun k' hk' => by
    rw [h k' hk']

variable (m)

theorem total_remove (k : K) (f : K → V → Nat) :
    (m.remove k).total f + ((m.get k).map (f k)).getD 0 = m.total f := by
  have h : (m.remove k).total f + _ =
      m.total f + (((m.remove k).get k).map (f k)).getD 0 :=
    total_of_agree fun k' hk' => by rw [m.get_remove_ne hk']
  rwa [get_remove_self] at h

theorem total_insert (k : K) (v : V) (f : K → V → Nat) :
    (m.insert k v).total f + ((m.get k).map (f k)).getD 0 =
      m.total f + f k v := by
  have h : (m.insert k v).total f + _ =
      m.total f + (((m.insert k v).get k).map (f k)).getD 0 :=
    total_of_agree fun k' hk' => by rw [m.get_insert_ne v hk']
  rwa [get_insert_self] at h

theorem sum_remove (k : K) (f : V → Nat) :
    (m.remove k).sum f + ((m.get k).map f).getD 0 = m.sum f :=
  m.total_remove k fun _ => f

theorem sum_insert (k : K) (v : V) (f : V → Nat) :
    (m.insert k v).sum f + ((m.get k).map f).getD 0 = m.sum f + f v :=
  m.total_insert k v fun _ => f

theorem count_remove (k : K) (p : V → Bool) :
    (m.remove k).count p + (if (m.get k).any p then 1 else 0) = m.count p := by
  have h := m.sum_remove k fun v => if p v then 1 else 0
  cases hk : m.get k <;> simpa [count, hk] using h

theorem count_insert (k : K) (v : V) (p : V → Bool) :
    (m.insert k v).count p + (if (m.get k).any p then 1 else 0) =
      m.count p + (if p v then 1 else 0) := by
  have h := m.sum_insert k v fun v => if p v then 1 else 0
  cases hk : m.get k <;> simpa [count, hk] using h

variable {m}

theorem total_insert_new (h : m.get k = none) (v : V) (f : K → V → Nat) :
    (m.insert k v).total f = m.total f + f k v := by
  simpa [h] using m.total_insert k v f

theorem sum_insert_new (h : m.get k = none) (v : V) (f : V → Nat) :
    (m.insert k v).sum f = m.sum f + f v :=
  total_insert_new h v fun _ => f

theorem card_insert_new (h : m.get k = none) (v : V) :
    (m.insert k v).keys.card = m.keys.card + 1 := by
  apply Finset.card_insert_of_notMem
  rw [m.mem_keys, h]
  exact Bool.false_ne_true

theorem card_insert_old {v' : V} (h : m.get k = some v') (v : V) :
    (m.insert k v).keys.card = m.keys.card := by
  have hk : k ∈ m.keys := (m.mem_keys k).mpr (by rw [h]; rfl)
  exact congrArg Finset.card (Finset.insert_eq_of_mem hk)

theorem card_remove {v : V} (h : m.get k = some v) :
    (m.remove k).keys.card + 1 = m.keys.card := by
  have hk : k ∈ m.keys := (m.mem_keys k).mpr (by rw [h]; rfl)
  exact Finset.card_erase_add_one hk

theorem remove_of_none (h : m.get k = none) : m.remove k = m := by
  ext1 k'
  by_cases hk : k' = k
  · rw [hk, get_remove_self, h]
  · rw [get_remove_ne _ hk]

end Update

/-! ## Parts of maps and maps over maps -/

/-- The entries whose keys satisfy `p`. -/
def filter (p : K → Bool) : StorageMap K V where
  get := fun k => if p k then m.get k else none
  keys := m.keys.filter fun k => p k = true
  mem_keys := by
    intro k
    rw [Finset.mem_filter, m.mem_keys]
    by_cases hp : p k = true <;> simp [hp]

theorem get_filter (p : K → Bool) (k : K) :
    (m.filter p).get k = if p k then m.get k else none := rfl

theorem total_filter (p : K → Bool) (f : K → V → Nat) :
    (m.filter p).total f = m.total fun k v => if p k then f k v else 0 := by
  show ∑ k ∈ m.keys.filter fun k => p k = true, _ = _
  rw [Finset.sum_filter]
  refine Finset.sum_congr rfl fun k _ => ?_
  rw [get_filter]
  by_cases hp : p k = true
  · simp [hp]
  · cases m.get k <;> simp [hp]

theorem total_filter_add (p : K → Bool) (f : K → V → Nat) :
    (m.filter p).total f + (m.filter fun k => !p k).total f = m.total f := by
  rw [total_filter, total_filter, total, total, total, ← Finset.sum_add_distrib]
  refine Finset.sum_congr rfl fun k _ => ?_
  cases m.get k with
  | none => rfl
  | some => by_cases hp : p k = true <;> simp [hp]

variable {m}

/-- The total over a list of keys that has every entry that counts. -/
theorem total_eq_sum_map [DecidableEq K] {ks : List K} (hnodup : ks.Nodup)
    (hcover : ∀ k v, m.get k = some v → k ∉ ks → f k v = 0) :
    m.total f = (ks.map fun k => ((m.get k).map (f k)).getD 0).sum := by
  rw [total_eq_sum_superset m f (m.keys ∪ ks.toFinset) Finset.subset_union_left,
    ← List.sum_toFinset _ hnodup]
  symm
  refine Finset.sum_subset Finset.subset_union_right fun k _ hk => ?_
  cases hget : m.get k with
  | none => rfl
  | some v => exact hcover k v hget (by simpa using hk)

section Merge

variable {W : Type} [DecidableEq K]

/-- Write every entry of `m'` into `m`, each with what is there before. -/
def merge (m : StorageMap K V) (m' : StorageMap K W) (f : Option V → W → V) :
    StorageMap K V where
  get := fun k =>
    match m'.get k with
    | some w => some (f (m.get k) w)
    | none => m.get k
  keys := m.keys ∪ m'.keys
  mem_keys := by
    intro k
    rw [Finset.mem_union, m.mem_keys, m'.mem_keys]
    cases m'.get k <;> simp

theorem get_merge_of_some {m' : StorageMap K W} {w : W} (h : m'.get k = some w)
    (f : Option V → W → V) :
    (m.merge m' f).get k = some (f (m.get k) w) := by
  unfold merge
  dsimp only
  rw [h]

/-- Where the new entries replace the old ones, the total is that of the new
entries and of the old ones at other keys. -/
theorem total_merge (m m' : StorageMap K V) (f : K → V → Nat) :
    (m.merge m' fun _ v => v).total f =
      m'.total f + (m.filter fun k => (m'.get k).isNone).total f := by
  rw [total_filter]
  rw [total_eq_sum_superset m' f (m.keys ∪ m'.keys) Finset.subset_union_right,
    total_eq_sum_superset m _ (m.keys ∪ m'.keys) Finset.subset_union_left]
  show ∑ k ∈ m.keys ∪ m'.keys, _ = _
  rw [← Finset.sum_add_distrib]
  refine Finset.sum_congr rfl fun k _ => ?_
  show ((match m'.get k with
    | some w => some w
    | none => m.get k).map (f k)).getD 0 = _
  cases m'.get k with
  | some | none => cases m.get k <;> simp

end Merge

/-! ## Consecutive keys -/

/-- Every key is below `n`, the next one to be given out. -/
def Below (m : StorageMap Nat V) (n : Nat) : Prop :=
  ∀ k v, m.get k = some v → k < n

theorem below_empty (n : Nat) : (empty : StorageMap Nat V).Below n :=
  fun _ _ h => by cases h

variable {n : Nat} {m : StorageMap Nat V}

theorem Below.get_eq_none (h : m.Below n) : m.get n = none := by
  cases hget : m.get n with
  | none => rfl
  | some v => exact absurd (h n v hget) (Nat.lt_irrefl n)

theorem Below.insert_next (h : m.Below n) (v : V) :
    (m.insert n v).Below (n + 1) := by
  intro k v' hget
  by_cases hk : k = n
  · omega
  · rw [get_insert_ne _ _ hk] at hget
    exact Nat.lt_succ_of_lt (h k v' hget)

theorem Below.insert_old {k : Nat} {v v' : V} (h : m.Below n)
    (hk : m.get k = some v) : (m.insert k v').Below n :=
  forall_insert h (h k v hk)

theorem Below.remove (h : m.Below n) (k : Nat) : (m.remove k).Below n := by
  intro k' v hget
  by_cases hk : k' = k
  · rw [hk, get_remove_self] at hget
    cases hget
  · rw [get_remove_ne _ hk] at hget
    exact h k' v hget

end StorageMap

/-- A storage item with two keys, as a family of maps over the first key. -/
abbrev StorageDoubleMap (K₁ K₂ V : Type) := K₁ → StorageMap K₂ V

namespace StorageDoubleMap

variable {K₁ K₂ V : Type} [DecidableEq K₁] [DecidableEq K₂]
  (m : StorageDoubleMap K₁ K₂ V)

/-- Write `v` at `(k₁, k₂)`. -/
def insert (k₁ : K₁) (k₂ : K₂) (v : V) : StorageDoubleMap K₁ K₂ V :=
  Function.update m k₁ ((m k₁).insert k₂ v)

/-- Delete the entry at `(k₁, k₂)`. -/
def remove (k₁ : K₁) (k₂ : K₂) : StorageDoubleMap K₁ K₂ V :=
  Function.update m k₁ ((m k₁).remove k₂)

/-- Delete every entry under the first key `k₁`. -/
def clearPrefix (k₁ : K₁) : StorageDoubleMap K₁ K₂ V :=
  Function.update m k₁ StorageMap.empty

@[simp] theorem insert_self (k₁ : K₁) (k₂ : K₂) (v : V) :
    m.insert k₁ k₂ v k₁ = (m k₁).insert k₂ v := by
  simp [insert]

@[simp] theorem insert_ne {k₁ k : K₁} (k₂ : K₂) (v : V) (h : k ≠ k₁) :
    m.insert k₁ k₂ v k = m k := by
  simp [insert, h]

@[simp] theorem remove_self (k₁ : K₁) (k₂ : K₂) :
    m.remove k₁ k₂ k₁ = (m k₁).remove k₂ := by
  simp [remove]

@[simp] theorem remove_ne {k₁ k : K₁} (k₂ : K₂) (h : k ≠ k₁) :
    m.remove k₁ k₂ k = m k := by
  simp [remove, h]

theorem get_insert_ne {k₁ k : K₁} {k₂ k' : K₂} (v : V)
    (h : ¬ (k = k₁ ∧ k' = k₂)) :
    (m.insert k₁ k₂ v k).get k' = (m k).get k' := by
  by_cases hk : k = k₁
  · subst hk
    have hk' : k' ≠ k₂ := fun hk' => h ⟨rfl, hk'⟩
    rw [insert_self, StorageMap.get_insert_ne _ _ hk']
  · rw [insert_ne _ _ _ hk]

theorem get_remove_ne {k₁ k : K₁} {k₂ k' : K₂} (h : ¬ (k = k₁ ∧ k' = k₂)) :
    (m.remove k₁ k₂ k).get k' = (m k).get k' := by
  by_cases hk : k = k₁
  · subst hk
    have hk' : k' ≠ k₂ := fun hk' => h ⟨rfl, hk'⟩
    rw [remove_self, StorageMap.get_remove_ne _ hk']
  · rw [remove_ne _ _ hk]

variable {m} {P : K₁ → K₂ → V → Prop} {k₁ : K₁} {k₂ : K₂} {v : V}

theorem forall_insert (h : ∀ k k' v, (m k).get k' = some v → P k k' v)
    (hv : P k₁ k₂ v) (k : K₁) (k' : K₂) (v' : V)
    (hget : (m.insert k₁ k₂ v k).get k' = some v') : P k k' v' := by
  by_cases hk : k = k₁
  · subst hk
    rw [insert_self] at hget
    exact StorageMap.forall_insert (h k) hv k' v' hget
  · rw [insert_ne _ _ _ hk] at hget
    exact h k k' v' hget

theorem forall_remove (h : ∀ k k' v, (m k).get k' = some v → P k k' v)
    (k : K₁) (k' : K₂) (v' : V)
    (hget : (m.remove k₁ k₂ k).get k' = some v') : P k k' v' := by
  by_cases hk : k = k₁
  · subst hk
    rw [remove_self] at hget
    exact StorageMap.forall_remove (h k) k' v' hget
  · rw [remove_ne _ _ hk] at hget
    exact h k k' v' hget

end StorageDoubleMap

end Thxnet.Lib
