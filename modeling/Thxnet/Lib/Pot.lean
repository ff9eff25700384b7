import Mathlib.Logic.Relation
import Thxnet.Lib.StorageMap

/-!
# Paying out a pot

A pot holds an amount against a finite map of records, each of which is worth a
share, and against a deposit.  Three things can happen to it: a record is paid
its share and deleted, the deposit is taken out, or nothing is paid.  Something
may get lost in each of them, and nobody adds to the pot.

`Slack.moves` follows a pot through any number of moves, in any order: the
excess over the true worth of the records grows by at most the slack of each
record paid, where the worth is counted in `d`-ths of a unit and the slack of a
record bounds what its share falls short of its worth.  `Slack.held_le` reads
off what is stranded once the remaining shares are zero.
-/

namespace Thxnet.Lib

/-- An amount held against records and a deposit. -/
structure Pot (K V : Type) where
  records : StorageMap K V
  deposit : Nat
  held : Nat

namespace Pot

variable {K V : Type} [DecidableEq K]

/-- What can happen to a pot. -/
inductive Move (share : V → Nat) (p : Pot K V) : Pot K V → Prop where
  | rest {held : Nat} (hheld : held ≤ p.held) :
      Move share p { p with held := held }
  | pay {k : K} {v : V} {held : Nat} (hget : p.records.get k = some v)
      (hheld : held + share v ≤ p.held) :
      Move share p { p with records := p.records.remove k, held := held }
  | settle {held : Nat} (hheld : held + p.deposit ≤ p.held) :
      Move share p { p with deposit := 0, held := held }

/-- Any number of moves. -/
abbrev Moves (share : V → Nat) : Pot K V → Pot K V → Prop :=
  Relation.ReflTransGen (Move share)

variable {share : V → Nat} {p p' : Pot K V}

private theorem sum_remove_some {m : StorageMap K V} {k : K} {v : V}
    (h : m.get k = some v) (f : V → Nat) :
    (m.remove k).sum f + f v = m.sum f := by
  have hsum := m.sum_remove k f
  rw [h] at hsum
  exact hsum

/-! ## What is left in a pot -/

section Slack

variable {worth slack : V → Nat} {d bound : Nat}

/-- In `d`-ths of a unit, the pot holds at most `bound` more than the deposit
and the worth of the records, less their slack. -/
def Slack (worth slack : V → Nat) (d bound : Nat) (p : Pot K V) : Prop :=
  d * p.held + p.records.sum slack ≤
    bound + d * p.deposit + p.records.sum worth

theorem Slack.move (hslack : ∀ v, worth v ≤ d * share v + slack v)
    (hp : p.Slack worth slack d bound) (h : p.Move share p') :
    p'.Slack worth slack d bound := by
  unfold Slack at hp ⊢
  cases h with
  | rest hheld =>
      have hle := Nat.mul_le_mul_left d hheld
      dsimp only
      omega
  | @pay k v held hget hheld =>
      have hworth := sum_remove_some hget worth
      have hrest := sum_remove_some hget slack
      have hv := hslack v
      have hle := Nat.mul_le_mul_left d hheld
      rw [Nat.mul_add] at hle
      dsimp only
      omega
  | settle hheld =>
      have hle := Nat.mul_le_mul_left d hheld
      rw [Nat.mul_add] at hle
      dsimp only
      omega

theorem Slack.moves (hslack : ∀ v, worth v ≤ d * share v + slack v)
    (hp : p.Slack worth slack d bound) (h : Moves share p p') :
    p'.Slack worth slack d bound := by
  induction h with
  | refl => exact hp
  | tail _ hmove ih => exact ih.move hslack hmove

omit [DecidableEq K] in
/-- When no record is worth a share any more, what is held beyond the deposit
is at most the bound. -/
theorem Slack.held_le (hslack : ∀ v, worth v ≤ d * share v + slack v)
    (hp : p.Slack worth slack d bound)
    (hdone : ∀ k v, p.records.get k = some v → share v = 0) :
    d * p.held ≤ bound + d * p.deposit := by
  have hle : p.records.sum worth ≤ p.records.sum slack := by
    refine p.records.sum_le_sum fun k v hv => ?_
    have hs := hslack v
    rwa [hdone k v hv, Nat.mul_zero, Nat.zero_add] at hs
  unfold Slack at hp
  omega

end Slack

end Pot

end Thxnet.Lib
