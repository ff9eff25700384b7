import Mathlib.Logic.Basic

/-!
# Programs that keep a journal

A `Journal` is the outcome of a program that records what it does as it goes
and may fail: what has been recorded up to a failure stays recorded.  `Keeps`
is the partial correctness of such a program: everything it records satisfies
`P`, and its value satisfies `Q` if it has one.  There is one rule for each way
to build a program.
-/

namespace Thxnet.Lib

/-- What a program has recorded, and its value or its failure. -/
structure Journal (ω ε α : Type) where
  entries : List ω
  result : Except ε α

namespace Journal

variable {ω ε α β : Type}

/-- A program that records nothing. -/
def lift (x : Except ε α) : Journal ω ε α := ⟨[], x⟩

/-- Record an entry. -/
def note (w : ω) : Journal ω ε Unit := ⟨[w], .ok ()⟩

/-- One program after another; the second one does not run after a failure. -/
protected def bind (x : Journal ω ε α) (f : α → Journal ω ε β) :
    Journal ω ε β :=
  match x.result with
  | .ok a => ⟨x.entries ++ (f a).entries, (f a).result⟩
  | .error e => ⟨x.entries, .error e⟩

instance : Monad (Journal ω ε) where
  pure a := lift (.ok a)
  bind := Journal.bind

/-- Whatever comes of `x`: its value, or `a` if it fails. -/
def recover (x : Journal ω ε α) (a : α) : α :=
  match x.result with
  | .ok b => b
  | .error _ => a

/-- Run `x` and go on with its value; a failure ends the program with `a`. -/
def bindOr (x : Journal ω ε α) (a : α) (f : α → Journal ω ε α) :
    Journal ω ε α :=
  match x.result with
  | .ok b => ⟨x.entries ++ (f b).entries, (f b).result⟩
  | .error _ => ⟨x.entries, .ok a⟩

/-- Run `x` for what it records, and go on with another value. -/
def andThen (x : Journal ω ε α) (y : Journal ω ε β) : Journal ω ε β :=
  ⟨x.entries ++ y.entries, y.result⟩

/-- Everything recorded satisfies `P`, and the value, if any, `Q`. -/
structure Keeps (P : ω → Prop) (Q : α → Prop) (x : Journal ω ε α) : Prop where
  entries : ∀ w ∈ x.entries, P w
  result : ∀ a, x.result = .ok a → Q a

section Rules

variable {P : ω → Prop} {Q : α → Prop}

theorem Keeps.of_lift {x : Except ε α} (h : ∀ a, x = .ok a → Q a) :
    Keeps P Q (lift x) :=
  ⟨fun _ hw => (List.not_mem_nil hw).elim, h⟩

variable {x : Journal ω ε α} {a : α}

theorem Keeps.of_pure (h : Q a) : Keeps P Q (pure a : Journal ω ε α) := by
  apply Keeps.of_lift
  intro b hb
  cases hb
  exact h

theorem Keeps.of_note {w : ω} (h : P w) :
    Keeps P (fun _ => True) (note w : Journal ω ε Unit) := by
  constructor
  · intro w' hw'
    rw [note, List.mem_singleton] at hw'
    exact hw' ▸ h
  · intros
    trivial

theorem Keeps.bind {f : α → Journal ω ε β} {T : β → Prop} (hx : Keeps P Q x)
    (hf : ∀ a, Q a → Keeps P T (f a)) : Keeps P T (x >>= f) := by
  show Keeps P T (Journal.bind x f)
  unfold Journal.bind
  cases hres : x.result with
  | error => exact ⟨hx.entries, fun _ hb => by cases hb⟩
  | ok a =>
      have hfa := hf a (hx.result a hres)
      constructor
      · intro w hw
        rcases List.mem_append.mp hw with hw | hw
        · exact hx.entries w hw
        · exact hfa.entries w hw
      · exact hfa.result

theorem Keeps.lift_bind {x : Except ε α} {f : α → Journal ω ε β}
    {T : β → Prop} (hf : ∀ a, x = .ok a → Keeps P T (f a)) :
    Keeps P T (lift x >>= f) :=
  (of_lift fun _ h => h).bind hf

theorem Keeps.recover (hx : Keeps P Q x) (ha : Q a) : Q (x.recover a) := by
  unfold Journal.recover
  cases hres : x.result with
  | ok b => exact hx.result b hres
  | error => exact ha

theorem Keeps.bindOr {f : α → Journal ω ε α} (hx : Keeps P Q x) (ha : Q a)
    (hf : ∀ b, Q b → Keeps P Q (f b)) : Keeps P Q (x.bindOr a f) := by
  unfold Journal.bindOr
  cases hres : x.result with
  | error =>
      refine ⟨hx.entries, fun b hb => ?_⟩
      cases hb
      exact ha
  | ok b =>
      have hfb := hf b (hx.result b hres)
      constructor
      · intro w hw
        rcases List.mem_append.mp hw with hw | hw
        · exact hx.entries w hw
        · exact hfb.entries w hw
      · exact hfb.result

theorem Keeps.andThen {y : Journal ω ε β} {T : β → Prop} (hx : Keeps P Q x)
    (hy : Keeps P T y) : Keeps P T (x.andThen y) := by
  constructor
  · intro w hw
    rcases List.mem_append.mp hw with hw | hw
    · exact hx.entries w hw
    · exact hy.entries w hw
  · exact hy.result

end Rules

end Journal

end Thxnet.Lib
