import Mathlib.Data.List.Nodup

/-!
# Pages of a list

`window l start stop` is what a loop over the positions from `start` up to
`stop` reads from a list.  The pages of a fixed size are the consecutive
windows of that size; put together they give the list back.  `blocks` are the
pages of the numbers themselves.
-/

namespace Thxnet.Lib

variable {α β : Type}

/-- The elements at the positions from `start` up to `stop`. -/
def window (l : List α) (start stop : Nat) : List α :=
  (l.take stop).drop start

theorem window_min (l : List α) (start stop : Nat) :
    window l start (min stop l.length) = window l start stop := by
  unfold window
  rw [← List.take_eq_take_min]

variable {l : List α} {start stop : Nat}

theorem window_eq_nil_iff :
    window l start stop = [] ↔ min stop l.length ≤ start := by
  unfold window
  rw [List.drop_eq_nil_iff, List.length_take]

theorem mem_of_mem_window {a : α} (h : a ∈ window l start stop) : a ∈ l :=
  List.mem_of_mem_take (List.mem_of_mem_drop h)

theorem filterMap_range' (l : List α) (start stop : Nat) :
    (List.range' start (stop - start)).filterMap (fun i => l[i]?) =
      window l start stop := by
  unfold window
  generalize hn : stop - start = n
  induction n generalizing start with
  | zero =>
      rw [List.drop_eq_nil_of_le]
      · rfl
      · rw [List.length_take]
        omega
  | succ n ih =>
      rw [List.range'_succ, List.filterMap_cons, ih (start + 1) (by omega)]
      have hget : (l.take stop)[start]? = l[start]? :=
        List.getElem?_take_of_lt (by omega)
      cases hstart : l[start]? with
      | none =>
          have hlength : l.length ≤ start := List.getElem?_eq_none_iff.mp hstart
          rw [List.drop_eq_nil_of_le, List.drop_eq_nil_of_le]
          · rw [List.length_take]
            omega
          · rw [List.length_take]
            omega
      | some =>
          rw [hstart] at hget
          obtain ⟨hlt, heq⟩ := List.getElem?_eq_some_iff.mp hget
          rw [List.drop_eq_getElem_cons hlt, heq]

/-- Consecutive windows are one window. -/
theorem take_append_window (l : List α) (h : start ≤ stop) :
    l.take start ++ window l start stop = l.take stop := by
  unfold window
  have htake : l.take start = (l.take stop).take start := by
    rw [List.take_take, Nat.min_eq_left h]
  rw [htake, List.take_append_drop]

/-- The first `n` pages are the first `n * size` elements. -/
theorem flatMap_window (l : List α) (size n : Nat) :
    (List.range n).flatMap
        (fun page => window l (page * size) ((page + 1) * size)) =
      l.take (n * size) := by
  induction n with
  | zero => simp
  | succ n ih =>
      rw [List.range_succ, List.flatMap_append, ih, List.flatMap_singleton]
      exact take_append_window l (Nat.mul_le_mul_right size (Nat.le_succ n))

/-- `n` consecutive blocks of `size` numbers from `start` on. -/
def blocks (start size n : Nat) : List (List Nat) :=
  (List.range n).map fun i => List.range' (start + i * size) size

/-- Together the blocks are the numbers from `start` on. -/
theorem flatten_blocks (start size n : Nat) :
    (blocks start size n).flatten = List.range' start (n * size) := by
  unfold blocks
  induction n with
  | zero => simp
  | succ n ih =>
      rw [List.range_succ, List.map_append, List.flatten_append, ih,
        List.map_singleton, List.flatten_singleton, Nat.succ_mul,
        List.range'_append_1]

/-- In lists that have no element twice, every element is in one of them. -/
theorem existsUnique_of_nodup {l : List (List α)} {a : α}
    (hnodup : l.flatten.Nodup) (ha : a ∈ l.flatten) :
    ∃! i : Nat, ∃ block, l[i]? = some block ∧ a ∈ block := by
  obtain ⟨block, hblock, hmem⟩ := List.mem_flatten.mp ha
  obtain ⟨i, hi⟩ := List.getElem?_of_mem hblock
  refine ⟨i, ⟨block, hi, hmem⟩, ?_⟩
  rintro j ⟨block', hj, hmem'⟩
  have hpairwise := List.pairwise_iff_getElem.mp (List.nodup_flatten.mp hnodup).2
  obtain ⟨hlti, hgeti⟩ := List.getElem?_eq_some_iff.mp hi
  obtain ⟨hltj, hgetj⟩ := List.getElem?_eq_some_iff.mp hj
  rcases Nat.lt_trichotomy j i with hlt | heq | hlt
  · have hdisjoint := hpairwise j i hltj hlti hlt
    rw [hgeti, hgetj] at hdisjoint
    exact (hdisjoint hmem' hmem).elim
  · exact heq
  · have hdisjoint := hpairwise i j hlti hltj hlt
    rw [hgeti, hgetj] at hdisjoint
    exact (hdisjoint hmem hmem').elim

/-- Elements with what is stored for them, if anything is. -/
def withEntries (get : α → Option β) (l : List α) : List (α × β) :=
  l.filterMap fun a => (get a).map fun b => (a, b)

theorem map_fst_withEntries {get : α → Option β}
    (h : ∀ a ∈ l, (get a).isSome = true) :
    (withEntries get l).map Prod.fst = l := by
  unfold withEntries
  induction l with
  | nil => rfl
  | cons a l ih =>
      obtain ⟨b, hb⟩ := Option.isSome_iff_exists.mp
        (h a List.mem_cons_self)
      rw [List.filterMap_cons, hb]
      show a :: _ = _
      rw [ih fun x hx => h x (List.mem_cons_of_mem _ hx)]

theorem get_of_mem_withEntries {get : α → Option β} {r : α × β}
    (h : r ∈ withEntries get l) : get r.1 = some r.2 := by
  obtain ⟨a, _, ha⟩ := List.mem_filterMap.mp h
  obtain ⟨b, hb, rfl⟩ := Option.map_eq_some_iff.mp ha
  exact hb

end Thxnet.Lib
