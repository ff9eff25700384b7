import Mathlib.Algebra.GroupWithZero.Nat
import Mathlib.Data.List.Basic

/-!
# Runs of a fallible transition function

A program that answers labelled requests is a function
`step : σ → α → Except ε σ`: a request either fails, and then nothing has
happened, or it yields the next state.  This module gives the two notions of
execution used over such a function, and the induction rules for them.

* `Run step s t s'` is one execution from `s` to `s'`.  Its trace `t` lists,
  for each step taken, the state it started from and its label, so that a
  property of a whole execution can be a property of the trace.
* `Reach step init ok s` says that `s` is the end of some execution from an
  initial state all of whose steps satisfy `ok`.

The rules are `Reach.invariant` for state invariants, `Run.preserves` and
`Run.keeps` for the same along one execution, `Run.history` and `Run.past` for
what accumulates along it, `Run.always_iff` and `Run.throughout_iff` for the
executions along which it does, `Run.since` for what a label has brought about,
`Run.sum_le` for what the steps of one may cost together, and
`Run.countP_le_one` for labels that can occur at most once.  Where requests may
fail on the way, `attempts_invariant` and `settle_invariant` are the rules for
invariants.
`run_of_exec` and `Reach.exec` turn an evaluation of the executable `exec` into
an execution.
-/

namespace Thxnet.Lib.Transition

variable {σ α ε : Type} {step : σ → α → Except ε σ}

/-- The steps listed in the trace lead from the first state to the last. -/
inductive Run (step : σ → α → Except ε σ) : σ → List (σ × α) → σ → Prop
  | nil (s : σ) : Run step s [] s
  | cons {s s' s'' : σ} {a : α} {t : List (σ × α)} (h : step s a = .ok s')
      (rest : Run step s' t s'') : Run step s ((s, a) :: t) s''

/-- States reached from an initial state by steps that all satisfy `ok`. -/
inductive Reach (step : σ → α → Except ε σ) (init : σ → Prop)
    (ok : σ → α → Prop) : σ → Prop
  | init {s : σ} (h : init s) : Reach step init ok s
  | step {s s' : σ} {a : α} (hs : Reach step init ok s) (hok : ok s a)
      (h : step s a = .ok s') : Reach step init ok s'

section Rules

variable {init : σ → Prop} {A : σ → α → Prop}

variable {I : σ → Prop} {s s' : σ} {t : List (σ × α)}

/-- A property of the initial states that every admitted step preserves holds
of every reached state. -/
theorem Reach.invariant (h0 : ∀ s, init s → I s)
    (hstep : ∀ s a s', Reach step init A s → I s → A s a →
      step s a = .ok s' → I s') (h : Reach step init A s) : I s := by
  induction h with
  | init h => exact h0 _ h
  | step hs hok h ih => exact hstep _ _ _ hs ih hok h

theorem Reach.run (hs : Reach step init A s) (hrun : Run step s t s')
    (hok : ∀ p ∈ t, A p.1 p.2) :
    Reach step init A s' := by
  induction hrun with
  | nil => exact hs
  | @cons s _ _ a _ h _ ih =>
      exact ih (.step hs (hok (s, a) (by simp)) h)
        fun p hp => hok p (by simp [hp])

/-- Every step of an admitted execution from a reached state is an accepted one
from a reached state. -/
theorem Reach.mem_run (hs : Reach step init A s) (hrun : Run step s t s')
    (hok : ∀ p ∈ t, A p.1 p.2) :
    ∀ p ∈ t, Reach step init A p.1 ∧ ∃ s₁, step p.1 p.2 = .ok s₁ := by
  induction hrun with
  | nil =>
      intro p hp
      cases hp
  | @cons s s₁ _ a _ h _ ih =>
      intro p hp
      rcases List.mem_cons.mp hp with rfl | hp
      · exact ⟨hs, s₁, h⟩
      · exact ih (.step hs (hok (s, a) (by simp)) h)
          (fun p hp => hok p (by simp [hp])) p hp

theorem Run.preserves (hstep : ∀ s a s', I s → step s a = .ok s' → I s')
    (hrun : Run step s t s') (hI : I s) :
    I s' := by
  induction hrun with
  | nil => exact hI
  | cons h _ ih => exact ih (hstep _ _ _ hI h)

/-- The same for an execution all of whose steps are admitted. -/
theorem Run.keeps (hstep : ∀ s a s', A s a → I s → step s a = .ok s' → I s')
    (hrun : Run step s t s') (hok : ∀ p ∈ t, A p.1 p.2) (hI : I s) : I s' := by
  induction hrun with
  | nil => exact hI
  | @cons s _ _ a _ h _ ih =>
      exact ih (fun p hp => hok p (by simp [hp]))
        (hstep _ _ _ (hok (s, a) (by simp)) hI h)

/-- The rule for a history: a relation between the state and what has been
accumulated over the steps so far, kept by every admitted step, holds at the
end of an admitted execution. -/
theorem Run.history {β : Type} {f : β → σ × α → β} {J : σ → β → Prop}
    (hstep : ∀ s a s' b, A s a → J s b → step s a = .ok s' → J s' (f b (s, a)))
    (hrun : Run step s t s') (hok : ∀ p ∈ t, A p.1 p.2) {b : β} (h0 : J s b) :
    J s' (t.foldl f b) := by
  induction hrun generalizing b with
  | nil => exact h0
  | @cons s _ _ a _ h _ ih =>
      exact ih (fun p hp => hok p (by simp [hp]))
        (hstep _ _ _ _ (hok (s, a) (by simp)) h0 h)

/-- The rule for the past: the same for a relation between the state and the
steps that led to it. -/
theorem Run.past {J : σ → List (σ × α) → Prop}
    (hstep : ∀ s a s' past, A s a → J s past → step s a = .ok s' →
      J s' (past ++ [(s, a)])) (hrun : Run step s t s')
    (hok : ∀ p ∈ t, A p.1 p.2) (h0 : J s []) : J s' t := by
  have h := hrun.history (f := fun past p => past ++ [p]) hstep hok h0
  rwa [List.foldl_append_eq_append, List.nil_append, ← List.flatMap_def,
    List.flatMap_singleton'] at h

/-- The rule for exactness: if, where a relation between the state and the
history holds, a step keeps it exactly when the step is admitted, then it holds
all along an execution exactly when every step of the execution is admitted.
`I` is whatever invariant this needs. -/
theorem Run.always_iff {β : Type} {f : β → σ × α → β} {J : σ → β → Prop}
    (hI : ∀ s a s', I s → step s a = .ok s' → I s')
    (hstep : ∀ s a s' b, I s → J s b → step s a = .ok s' →
      (J s' (f b (s, a)) ↔ A s a)) (hrun : Run step s t s') (hs : I s) {b : β}
    (h0 : J s b) :
    (∀ past m, past <+: t → Run step s past m → J m (past.foldl f b)) ↔
      ∀ p ∈ t, A p.1 p.2 := by
  induction hrun generalizing b with
  | nil =>
      constructor
      · intro _ p hp
        cases hp
      · intro _ past m hpast hm
        cases List.prefix_nil.mp hpast
        cases hm
        exact h0
  | @cons s s₁ _ a t h _ ih =>
      have hiff := hstep s a s₁ b hs h0 h
      constructor
      · intro hall
        have h₁ := hall [(s, a)] s₁ ((List.prefix_cons_inj _).mpr
          List.nil_prefix) (.cons h (.nil _))
        refine List.forall_mem_cons.mpr ⟨hiff.mp h₁, ?_⟩
        refine (ih (hI s a s₁ hs h) h₁).mp fun past m hpast hm => ?_
        exact hall ((s, a) :: past) m ((List.prefix_cons_inj _).mpr hpast)
          (.cons h hm)
      · intro hok past m hpast hm
        obtain ⟨ha, hrest⟩ := List.forall_mem_cons.mp hok
        cases hm with
        | nil => exact h0
        | cons h' hm =>
            obtain ⟨heq, htail⟩ := List.cons_prefix_cons.mp hpast
            cases heq
            cases h.symm.trans h'
            exact (ih (hI s a s₁ hs h) (hiff.mpr ha)).mpr hrest _ m htail hm

/-- The same for a property of the state alone. -/
theorem Run.throughout_iff {J : σ → Prop}
    (hstep : ∀ s a s', J s → step s a = .ok s' → (J s' ↔ A s a))
    (hrun : Run step s t s') (h0 : J s) :
    (∀ past m, past <+: t → Run step s past m → J m) ↔
      ∀ p ∈ t, A p.1 p.2 :=
  hrun.always_iff (f := fun (_ : Unit) _ => ()) (I := fun _ => True)
    (J := fun s _ => J s) (fun _ _ _ _ _ => trivial)
    (fun s a s' _ _ => hstep s a s') trivial (b := ()) h0

/-- The rule for costs: if each admitted step costs at most what it adds to a
measure of the state, so do all steps of an admitted execution. -/
theorem Run.sum_le {m : σ → Nat} {c : σ × α → Nat}
    (hstep : ∀ s a s', A s a → I s → step s a = .ok s' →
      I s' ∧ m s + c (s, a) ≤ m s') (hrun : Run step s t s')
    (hok : ∀ p ∈ t, A p.1 p.2) (hI : I s) :
    m s + (t.map c).sum ≤ m s' := by
  induction hrun with
  | nil => exact Nat.le_refl _
  | @cons s _ _ a _ h _ ih =>
      obtain ⟨hI', hle⟩ := hstep s a _ (hok (s, a) (by simp)) hI h
      have hrest := ih (fun p hp => hok p (by simp [hp])) hI'
      rw [List.map_cons, List.sum_cons]
      omega

/-- The rule for what has happened: a property that a label brings about and
that every step keeps holds at the end of an execution in which the label
occurs. -/
theorem Run.since {P : σ → Prop} {p : α → Bool}
    (hI : ∀ s a s', I s → step s a = .ok s' → I s')
    (hset : ∀ s a s', I s → step s a = .ok s' → p a = true → P s')
    (hkeep : ∀ s a s', I s → P s → step s a = .ok s' → P s')
    (hrun : Run step s t s') (h0 : I s) (hmem : ∃ q ∈ t, p q.2 = true) :
    P s' := by
  induction hrun with
  | nil =>
      obtain ⟨q, hq, _⟩ := hmem
      cases hq
  | @cons s s₁ _ a t h rest ih =>
      obtain ⟨q, hq, hp⟩ := hmem
      rcases List.mem_cons.mp hq with rfl | hq
      · exact (rest.preserves (I := fun s => I s ∧ P s)
          (fun s a s' hs hstep =>
            ⟨hI s a s' hs.1 hstep, hkeep s a s' hs.1 hs.2 hstep⟩)
          ⟨hI _ _ _ h0 h, hset _ _ _ h0 h hp⟩).2
      · exact ih (hI _ _ _ h0 h) ⟨q, hq, hp⟩

/-! ## Labels that occur at most once

`P` says of a state that the label can no longer occur.  An occurrence leads
into it, every step keeps it, and no occurrence starts from it; `I` is whatever
invariant these three facts need.
-/

section Once

variable {P : σ → Prop} {p : α → Bool}
  (hI : ∀ s a s', I s → step s a = .ok s' → I s')
  (hkeep : ∀ s a s', I s → P s → step s a = .ok s' → P s')
  (hblock : ∀ s a s', I s → P s → step s a = .ok s' → p a = false)
include hI hkeep hblock

private theorem Run.countP_eq_zero (hrun : Run step s t s') (h0 : I s)
    (hs : P s) : t.countP (fun q => p q.2) = 0 := by
  induction hrun with
  | nil => rfl
  | cons h _ ih =>
      have hp := hblock _ _ _ h0 hs h
      simpa [hp] using ih (hI _ _ _ h0 h) (hkeep _ _ _ h0 hs h)

theorem Run.countP_le_one
    (hset : ∀ s a s', I s → step s a = .ok s' → p a = true → P s')
    (hrun : Run step s t s') (h0 : I s) :
    t.countP (fun q => p q.2) ≤ 1 := by
  induction hrun with
  | nil => exact Nat.zero_le _
  | @cons s s' s'' a t h rest ih =>
      by_cases hp : p a = true
      · have hz := rest.countP_eq_zero hI hkeep hblock (hI _ _ _ h0 h)
          (hset _ _ _ h0 h hp)
        simp [hp, hz]
      · simpa [hp] using ih (hI _ _ _ h0 h)

end Once

end Rules

/-! ## Requests that may fail -/

/-- Make a request; one that fails leaves the state as it is. -/
def attempt (step : σ → α → Except ε σ) (s : σ) (a : α) : σ :=
  match step s a with
  | .ok s' => s'
  | .error _ => s

/-- The requests, each with the state it is made in. -/
def attempts (step : σ → α → Except ε σ) : σ → List α → List (σ × α)
  | _, [] => []
  | s, a :: rest => (s, a) :: attempts step (attempt step s a) rest

/-- The state after some requests. -/
def settle (step : σ → α → Except ε σ) (s : σ) (requests : List α) : σ :=
  requests.foldl (attempt step) s

theorem settle_append (s : σ) (before after : List α) :
    settle step s (before ++ after) =
      settle step (settle step s before) after :=
  List.foldl_append

theorem attempt_of_ok {s s' : σ} {a : α} (h : step s a = .ok s') :
    attempt step s a = s' := by
  unfold attempt
  rw [h]

theorem attempt_cases (step : σ → α → Except ε σ) (s : σ) (a : α) :
    step s a = .ok (attempt step s a) ∨
      (step s a).isOk = false ∧ attempt step s a = s := by
  unfold attempt
  cases h : step s a with
  | ok => exact .inl rfl
  | error => exact .inr ⟨rfl, rfl⟩

variable {requests : List α}

/-- The rule for requests that may fail: a property that every request that
succeeds preserves holds in every state in which a request is made. -/
theorem attempts_invariant {I : σ → Prop}
    (hstep : ∀ s a s', a ∈ requests → I s → step s a = .ok s' → I s') {s : σ}
    (h0 : I s) :
    ∀ p ∈ attempts step s requests, p.2 ∈ requests ∧ I p.1 := by
  induction requests generalizing s with
  | nil =>
      intro p hp
      cases hp
  | cons a rest ih =>
      have hnext : I (attempt step s a) := by
        rcases attempt_cases step s a with hok | ⟨_, heq⟩
        · exact hstep s a _ List.mem_cons_self h0 hok
        · rwa [heq]
      intro p hp
      rcases List.mem_cons.mp hp with rfl | hp
      · exact ⟨List.mem_cons_self, h0⟩
      · obtain ⟨hmem, hI⟩ := ih (fun s a s' ha =>
          hstep s a s' (List.mem_cons_of_mem _ ha)) hnext p hp
        exact ⟨List.mem_cons_of_mem _ hmem, hI⟩

/-- The same for the state after all requests. -/
theorem settle_invariant {I : σ → Prop}
    (hstep : ∀ s a s', I s → step s a = .ok s' → I s') {s : σ} (h0 : I s)
    (requests : List α) : I (settle step s requests) := by
  refine List.foldlRecOn requests (attempt step) h0 fun s hs a _ => ?_
  rcases attempt_cases step s a with hok | ⟨_, heq⟩
  · exact hstep s a _ hs hok
  · rwa [heq]

/-! ## Evaluating executions -/

/-- Perform a list of requests, stopping at the first failure. -/
def exec (step : σ → α → Except ε σ) : σ → List α → Except ε σ
  | s, [] => .ok s
  | s, a :: rest =>
      match step s a with
      | .ok s' => exec step s' rest
      | .error e => .error e

/-- The trace of `exec`. -/
def trace (step : σ → α → Except ε σ) : σ → List α → List (σ × α)
  | _, [] => []
  | s, a :: rest =>
      match step s a with
      | .ok s' => (s, a) :: trace step s' rest
      | .error _ => []

theorem mem_of_mem_trace {s : σ} {p : σ × α} (h : p ∈ trace step s requests) :
    p.2 ∈ requests := by
  induction requests generalizing s with
  | nil => cases h
  | cons a rest ih =>
      unfold trace at h
      split at h
      · rcases List.mem_cons.mp h with rfl | h
        · exact List.mem_cons_self
        · exact List.mem_cons_of_mem _ (ih h)
      · cases h

theorem run_of_exec {s s' : σ} (h : exec step s requests = .ok s') :
    Run step s (trace step s requests) s' := by
  induction requests generalizing s with
  | nil =>
      cases h
      exact .nil _
  | cons a rest ih =>
      cases hstep : step s a with
      | error => simp [exec, hstep] at h
      | ok =>
          simp only [exec, hstep] at h
          simpa only [trace, hstep] using Run.cons hstep (ih h)

/-- The state `exec` ends in, or the first one if it fails. -/
def final (step : σ → α → Except ε σ) (s : σ) (requests : List α) : σ :=
  match exec step s requests with
  | .ok s' => s'
  | .error _ => s

theorem exec_final {s : σ} (h : (exec step s requests).isOk = true) :
    exec step s requests = .ok (final step s requests) := by
  unfold final
  cases hexec : exec step s requests with
  | ok => rfl
  | error => simp [hexec, Except.isOk, Except.toBool] at h

theorem step_final {s : σ} {a : α} (h : (step s a).isOk = true) :
    step s a = .ok (final step s [a]) := by
  cases hstep : step s a with
  | ok => simp [final, exec, hstep]
  | error => simp [hstep, Except.isOk, Except.toBool] at h

theorem Reach.exec {init : σ → Prop} {ok : σ → α → Prop} {s s' : σ}
    (hs : Reach step init ok s) (hok : ∀ a ∈ requests, ∀ s, ok s a)
    (h : exec step s requests = .ok s') : Reach step init ok s' := by
  induction requests generalizing s with
  | nil =>
      cases h
      exact hs
  | cons a rest ih =>
      cases hstep : step s a with
      | error => simp [Transition.exec, hstep] at h
      | ok =>
          simp only [Transition.exec, hstep] at h
          exact ih (.step hs (hok a (by simp) s) hstep)
            (fun a ha => hok a (by simp [ha])) h

end Thxnet.Lib.Transition
