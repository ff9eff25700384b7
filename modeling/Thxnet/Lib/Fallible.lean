import Mathlib.Logic.Basic

/-!
# Fallible programs

Programs that stop at the first failed check are written in the `Except`
monad.  The checks are `ensure` for a condition, `okOr` for a value that must
be present and `whenSome` for a check made only on a present value; the
`..._eq_ok` lemmas say of each exactly when it succeeds.  Rewriting a program
with `do_eq_ok` turns "the program returned `s'`" into the conjunction of the
checks it passed and the value it returned.  The `..._eq_error` lemmas do the
same for a failure.
-/

namespace Thxnet.Lib

variable {ε α β : Type}

/-- Fail with `e` unless `p` holds. -/
def ensure (p : Prop) [Decidable p] (e : ε) : Except ε Unit :=
  if p then .ok () else .error e

/-- The value of `o`, or failure `e` when there is none. -/
def okOr (o : Option α) (e : ε) : Except ε α :=
  match o with
  | some a => .ok a
  | none => .error e

/-- Run the check `f` on the value of `o`, if there is one. -/
def whenSome (o : Option α) (f : α → Except ε Unit) : Except ε Unit :=
  match o with
  | some a => f a
  | none => .ok ()

/-- The error of a program that failed. -/
def failure : Except ε α → Option ε
  | .ok _ => none
  | .error e => some e

variable {x : Except ε α} {a : α} {e : ε}

theorem failure_eq_some : failure x = some e ↔ x = .error e := by
  cases x <;> simp [failure]

/-- The program succeeds, with a value that satisfies `p`. -/
def succeedsWith (x : Except ε α) (p : α → Bool) : Bool :=
  match x with
  | .ok a => p a
  | .error _ => false

theorem succeedsWith_iff {p : α → Bool} :
    succeedsWith x p = true ↔ ∃ a, x = .ok a ∧ p a = true := by
  cases x <;> simp [succeedsWith]

theorem bind_eq_ok {f : α → Except ε β} {b : β} :
    (x >>= f) = .ok b ↔ ∃ a, x = .ok a ∧ f a = .ok b := by
  cases x with
  | error =>
      constructor
      · intro h
        cases h
      · rintro ⟨a, h, _⟩
        cases h
  | ok a =>
      constructor
      · intro h
        exact ⟨a, rfl, h⟩
      · rintro ⟨a', h, hf⟩
        cases h
        exact hf

theorem pure_eq_ok {b : α} : (pure a : Except ε α) = .ok b ↔ a = b := by
  constructor
  · intro h
    cases h
    rfl
  · rintro rfl
    rfl

theorem map_eq_ok {f : α → β} {b : β} :
    x.map f = .ok b ↔ ∃ a, x = .ok a ∧ f a = b := by
  cases x <;> simp [Except.map]

/-- The result of a program on a part of the state is that part after it. -/
theorem ok_of_map_put {σ : Type} {get : σ → α} {put : σ → α → σ} {w w' : σ}
    (hget : ∀ w a, get (put w a) = a) (h : x.map (put w) = .ok w') :
    x = .ok (get w') := by
  obtain ⟨a, ha, rfl⟩ := map_eq_ok.mp h
  rw [hget, ha]

theorem mapError_eq_ok {ε' : Type} {f : ε → ε'} :
    x.mapError f = .ok a ↔ x = .ok a := by
  cases x with
  | error e =>
      show (.error (f e) : Except ε' α) = .ok a ↔ (.error e : Except ε α) = .ok a
      exact iff_of_false (fun h => by cases h) fun h => by cases h
  | ok b =>
      show (.ok b : Except ε' α) = .ok a ↔ (.ok b : Except ε α) = .ok a
      rw [Except.ok.injEq, Except.ok.injEq]

theorem ensure_eq_ok {p : Prop} [Decidable p] {u : Unit} :
    ensure p e = .ok u ↔ p := by
  by_cases h : p <;> simp [ensure, h]

theorem ensure_bind {p : Prop} [Decidable p] {f : Unit → Except ε β} :
    (ensure p e >>= f) = if p then f () else .error e := by
  by_cases h : p
  · rw [ensure, if_pos h, if_pos h]
    rfl
  · rw [ensure, if_neg h, if_neg h]
    rfl

theorem isOk_iff_exists : x.isOk = true ↔ ∃ a, x = .ok a := by
  cases x <;> simp [Except.isOk, Except.toBool]

theorem okOr_eq_ok {o : Option α} :
    okOr o e = .ok a ↔ o = some a := by
  cases o <;> simp [okOr]

/-- What a program that returned has passed, as one set of rules for `simp`. -/
theorem do_eq_ok :
    (∀ {ε α β : Type} {x : Except ε α} {f : α → Except ε β} {b : β},
      (x >>= f) = .ok b ↔ ∃ a, x = .ok a ∧ f a = .ok b) ∧
    (∀ {ε α : Type} {a b : α}, (pure a : Except ε α) = .ok b ↔ a = b) ∧
    (∀ {ε : Type} {e : ε} {p : Prop} [Decidable p] {u : Unit},
      ensure p e = .ok u ↔ p) ∧
    (∀ {ε α : Type} {e : ε} {o : Option α} {a : α},
      okOr o e = .ok a ↔ o = some a) ∧
    ∀ {p : Prop}, (∃ _ : Unit, p) ↔ p :=
  ⟨bind_eq_ok, pure_eq_ok, ensure_eq_ok, okOr_eq_ok, exists_const _⟩

theorem whenSome_eq_ok {o : Option α} {f : α → Except ε Unit} {u : Unit} :
    whenSome o f = .ok u ↔ ∀ a, o = some a → f a = .ok () := by
  cases o <;> simp [whenSome]

/-! ## Errors -/

theorem bind_eq_error {f : α → Except ε β} :
    (x >>= f) = .error e ↔ x = .error e ∨ ∃ a, x = .ok a ∧ f a = .error e := by
  cases x <;> simp [bind, Except.bind]

theorem ensure_eq_error {p : Prop} [Decidable p] {e' : ε} :
    ensure p e = .error e' ↔ ¬ p ∧ e = e' := by
  by_cases h : p <;> simp [ensure, h]

theorem okOr_eq_error {o : Option α} {e' : ε} :
    okOr o e = .error e' ↔ o = none ∧ e = e' := by
  cases o <;> simp [okOr]

theorem pure_ne_error (a : α) : (pure a : Except ε α) ≠ .error e := by
  intro h
  cases h

theorem foldlM_ne_error {f : β → α → Except ε β}
    (h : ∀ b a, f b a ≠ .error e) (l : List α) (b : β) :
    l.foldlM f b ≠ .error e := by
  induction l generalizing b with
  | nil => exact pure_ne_error b
  | cons a rest ih => simp [bind_eq_error, h, ih]

theorem forM_ne_error {f : α → Except ε Unit} (h : ∀ a, f a ≠ .error e)
    (l : List α) : forM l f ≠ .error e := by
  induction l with
  | nil => exact pure_ne_error _
  | cons a rest ih => simp [bind_eq_error, h, ih]

end Thxnet.Lib
