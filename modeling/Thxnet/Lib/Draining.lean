import Mathlib.Algebra.GroupWithZero.Nat
import Mathlib.Algebra.Order.BigOperators.Group.List
import Mathlib.Algebra.Order.Group.Nat
import Mathlib.Data.List.Perm.Basic

/-!
# Draining an account with a minimum balance

An account pays a list of amounts one after the other.  A payment must be
covered by the balance; after it, a rest below the minimum balance `ed` is
destroyed.  Whether all payments go through then depends on their order.

`forall_perm_drain_iff` is the exact condition under which it does not: the
balance covers the sum, and either there is at most one payment or no single
amount, together with the surplus over the sum, is below the minimum balance.
-/

namespace Thxnet.Lib.Draining

/-- What is left after a covered payment. -/
def restAfter (ed b a : Nat) : Nat := if b - a < ed then 0 else b - a

/-- Pay the amounts in order; `none` when one of them is not covered. -/
def drain (ed : Nat) : Nat → List Nat → Option Nat
  | b, [] => some b
  | b, a :: rest =>
      if a ≤ b then drain ed (restAfter ed b a) rest else none

variable {ed b r : Nat}

theorem restAfter_le (ed b a : Nat) : restAfter ed b a ≤ b - a := by
  unfold restAfter
  split <;> omega

theorem drain_append (l₁ l₂ : List Nat) :
    drain ed b (l₁ ++ l₂) = (drain ed b l₁).bind fun r => drain ed r l₂ := by
  induction l₁ generalizing b with
  | nil => rfl
  | cons a l ih =>
      by_cases ha : a ≤ b
      · simpa [drain, ha] using ih
      · simp [drain, ha]

theorem sum_add_rest_le {l : List Nat} (h : drain ed b l = some r) :
    l.sum + r ≤ b := by
  induction l generalizing b with
  | nil =>
      simp only [drain, Option.some.injEq] at h
      simp [h]
  | cons a l ih =>
      by_cases ha : a ≤ b
      · simp only [drain, ha, if_true] at h
        have hrec := ih h
        have hrest := restAfter_le ed b a
        rw [List.sum_cons]
        omega
      · simp [drain, ha] at h

/-- After at least one payment the rest is nothing or above the minimum. -/
theorem rest_eq_zero_or_le {l : List Nat} (hl : l ≠ [])
    (h : drain ed b l = some r) : r = 0 ∨ ed ≤ r := by
  induction l generalizing b with
  | nil => exact absurd rfl hl
  | cons a l ih =>
      by_cases ha : a ≤ b
      · simp only [drain, ha, if_true] at h
        cases l with
        | nil =>
            simp only [drain, Option.some.injEq] at h
            subst h
            unfold restAfter
            split <;> omega
        | cons => exact ih (by simp) h
      · simp [drain, ha] at h

/-- The condition on a list of outstanding payments under which their order
does not matter. -/
def Orderly (ed b : Nat) (l : List Nat) : Prop :=
  l.sum ≤ b ∧ (l.length ≤ 1 ∨ ∀ a ∈ l, ed ≤ a + (b - l.sum))

instance (ed b : Nat) (l : List Nat) : Decidable (Orderly ed b l) := by
  unfold Orderly
  infer_instance

theorem Orderly.perm {l l' : List Nat} (h : Orderly ed b l)
    (hp : l'.Perm l) : Orderly ed b l' := by
  unfold Orderly at h ⊢
  rw [hp.sum_eq, hp.length_eq]
  refine ⟨h.1, h.2.imp_right fun hall a ha => hall a (hp.mem_iff.mp ha)⟩

/-- A first payment of orderly payments leaves exactly the difference while
others are outstanding, and the rest of them stays orderly. -/
theorem Orderly.tail {a : Nat} {l : List Nat} (h : Orderly ed b (a :: l))
    (hl : l ≠ []) : restAfter ed b a = b - a ∧ Orderly ed (b - a) l := by
  obtain ⟨hsum, hall⟩ := h
  rw [List.sum_cons] at hsum
  have hall : ∀ c ∈ a :: l, ed ≤ c + (b - (a :: l).sum) := by
    refine hall.resolve_left fun hlen => hl ?_
    simpa using hlen
  obtain ⟨c, hc⟩ := List.exists_mem_of_ne_nil l hl
  have hcl : c ≤ l.sum := List.single_le_sum (fun _ _ => Nat.zero_le _) c hc
  have hcb := hall c (by simp [hc])
  rw [List.sum_cons] at hcb
  refine ⟨?_, ?_, Or.inr fun x hx => ?_⟩
  · unfold restAfter
    rw [if_neg (by omega)]
  · omega
  · have hxb := hall x (by simp [hx])
    rw [List.sum_cons] at hxb
    omega

theorem Orderly.drain_isSome {l : List Nat} (h : Orderly ed b l) :
    (drain ed b l).isSome := by
  induction l generalizing b with
  | nil => rfl
  | cons a l ih =>
      have ha : a ≤ b := by
        have hsum := h.1
        rw [List.sum_cons] at hsum
        omega
      simp only [drain, ha, if_true]
      by_cases hl : l = []
      · subst hl
        rfl
      · obtain ⟨hrest, htail⟩ := h.tail hl
        rw [hrest]
        exact ih htail

/-- Every order of positive payments goes through exactly when they are
orderly.  The payments are listed by their payees. -/
theorem forall_perm_drain_iff {α : Type} {f : α → Nat} {l : List α}
    (hpos : ∀ x ∈ l, 0 < f x) :
    (∀ l' : List α, l'.Perm l → (drain ed b (l'.map f)).isSome) ↔
      Orderly ed b (l.map f) := by
  constructor
  · intro hall
    obtain ⟨r, hr⟩ := Option.isSome_iff_exists.mp (hall l (List.Perm.refl l))
    have hsum := sum_add_rest_le hr
    refine ⟨by omega, ?_⟩
    by_cases hlen : (l.map f).length ≤ 1
    · exact Or.inl hlen
    · refine Or.inr fun a ha => ?_
      obtain ⟨x, hx, rfl⟩ := List.mem_map.mp ha
      obtain ⟨l₁, l₂, rfl⟩ := List.append_of_mem hx
      -- Pay everyone else first: what is left must still cover `f x`.
      have hsome := hall (l₁ ++ l₂ ++ [x])
        ((List.perm_append_singleton x _).trans List.perm_middle.symm)
      have hne : (l₁ ++ l₂).map f ≠ [] := by
        intro hnil
        rw [List.map_eq_nil_iff, List.append_eq_nil_iff] at hnil
        simp [hnil] at hlen
      rw [List.map_append, drain_append] at hsome
      cases hq : drain ed b ((l₁ ++ l₂).map f) with
      | none =>
          rw [hq] at hsome
          cases hsome
      | some r =>
          rw [hq] at hsome
          simp only [Option.bind_some, List.map_cons, List.map_nil,
            drain] at hsome
          have hxr : f x ≤ r := by
            by_contra hnot
            simp [hnot] at hsome
          have hrest := sum_add_rest_le hq
          have hxpos := hpos x hx
          simp only [List.map_append, List.map_cons, List.sum_append,
            List.sum_cons] at hrest ⊢
          rcases rest_eq_zero_or_le hne hq with hzero | hle
          · omega
          · omega
  · intro h l' hperm
    exact (h.perm (hperm.map f)).drain_isSome

end Thxnet.Lib.Draining
