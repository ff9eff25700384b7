import Mathlib.Algebra.GroupWithZero.Nat
import Mathlib.Data.List.Basic

/-!
# The SCALE codec

A codec is an encoder with a decoder that reads a value back from the front of
an input and leaves the rest.  The codecs of structured values are built from
those of their parts, and carry the proof that what was encoded is decoded,
with nothing left over and whatever follows it untouched.

A value is `Valid` if the encoder can represent it: numbers within their width,
collections of at most `2 ^ 32 - 1` elements.
-/

namespace Thxnet.Lib

/-! ## Little-endian numbers -/

/-- The lowest `k` bytes of a number, the lowest first. -/
def leBytes : Nat → Nat → List UInt8
  | 0, _ => []
  | k + 1, n => UInt8.ofNat n :: leBytes k (n / 256)

/-- The number with the given bytes, the lowest first. -/
def ofLeBytes : List UInt8 → Nat
  | [] => 0
  | b :: rest => b.toNat + 256 * ofLeBytes rest

@[simp] theorem length_leBytes (k n : Nat) : (leBytes k n).length = k := by
  induction k generalizing n with
  | zero => rfl
  | succ k ih => rw [leBytes, List.length_cons, ih]

theorem ofLeBytes_leBytes {k n : Nat} (h : n < 256 ^ k) :
    ofLeBytes (leBytes k n) = n := by
  induction k generalizing n with
  | zero =>
      rw [Nat.pow_zero] at h
      rw [leBytes, ofLeBytes]
      omega
  | succ k ih =>
      have hdiv : n / 256 < 256 ^ k := by
        rw [Nat.div_lt_iff_lt_mul (by omega), ← Nat.pow_succ]
        exact h
      rw [leBytes, ofLeBytes, ih hdiv, UInt8.toNat_ofNat']
      exact Nat.mod_add_div n 256

theorem ofLeBytes_lt (l : List UInt8) : ofLeBytes l < 256 ^ l.length := by
  induction l with
  | nil => decide
  | cons b =>
      have hb : b.toNat < 256 := b.toNat_lt
      rw [ofLeBytes, List.length_cons, Nat.pow_succ]
      omega

/-! ## Codecs -/

/-- Read a value from the front of the input; the rest is left. -/
abbrev Decoder (α : Type) := List UInt8 → Except String (α × List UInt8)

/-- An encoder with its decoder. -/
structure Codec (α : Type) where
  encode : α → List UInt8
  decode : Decoder α
  Valid : α → Prop
  decode_encode : ∀ a rest, Valid a →
    decode (encode a ++ rest) = .ok (a, rest)

namespace Codec

variable {α β : Type}

theorem decode_encode_nil (c : Codec α) {a : α} (h : c.Valid a) :
    c.decode (c.encode a) = .ok (a, []) := by
  have hrest := c.decode_encode a [] h
  rwa [List.append_nil] at hrest

/-- Read `k` bytes. -/
def readBytes (k : Nat) : Decoder (List UInt8) := fun input =>
  if k ≤ input.length then .ok (input.take k, input.drop k)
  else .error "Not enough data to fill buffer"

variable {input rest : List UInt8} {k n : Nat}

theorem readBytes_append {l : List UInt8} (h : l.length = k) :
    readBytes k (l ++ rest) = .ok (l, rest) := by
  subst h
  rw [readBytes, if_pos (by rw [List.length_append]; exact Nat.le_add_right ..),
    List.take_left, List.drop_left]

/-- Arrays of `k` bytes. -/
def bytes (k : Nat) : Codec (List UInt8) where
  encode := id
  decode := readBytes k
  Valid := fun l => l.length = k
  decode_encode := fun _ _ h => readBytes_append h

/-- Unsigned numbers of `k` bytes. -/
def uint (k : Nat) : Codec Nat where
  encode := leBytes k
  decode := fun input => do
    let (l, rest) ← readBytes k input
    pure (ofLeBytes l, rest)
  Valid := fun n => n < 256 ^ k
  decode_encode := by
    intro n rest h
    rw [readBytes_append (length_leBytes k n)]
    show Except.ok (ofLeBytes (leBytes k n), rest) = _
    rw [ofLeBytes_leBytes h]

/-- `u32`. -/
def u32 : Codec Nat := uint 4

/-- `u128`. -/
def u128 : Codec Nat := uint 16

/-- One value after the other. -/
def pair (c : Codec α) (d : Codec β) : Codec (α × β) where
  encode := fun p => c.encode p.1 ++ d.encode p.2
  decode := fun input => do
    let (a, rest) ← c.decode input
    let (b, rest) ← d.decode rest
    pure ((a, b), rest)
  Valid := fun p => c.Valid p.1 ∧ d.Valid p.2
  decode_encode := by
    rintro ⟨a, b⟩ rest ⟨ha, hb⟩
    rw [List.append_assoc, c.decode_encode a _ ha]
    show (do
      let (b, rest) ← d.decode (d.encode b ++ rest)
      pure ((a, b), rest) : Except String ((α × β) × List UInt8)) = _
    rw [d.decode_encode b rest hb]
    rfl

/-- The values of a type through those of another one. -/
def via (c : Codec α) (f : β → α) (g : α → β) (h : ∀ b, g (f b) = b) :
    Codec β where
  encode := fun b => c.encode (f b)
  decode := fun input => do
    let (a, rest) ← c.decode input
    pure (g a, rest)
  Valid := fun b => c.Valid (f b)
  decode_encode := by
    intro b rest hb
    rw [c.decode_encode (f b) rest hb]
    show Except.ok (g (f b), rest) = _
    rw [h]

/-! ### Enumerations -/

/-- A variant without data. -/
def unit : Codec Unit where
  encode := fun _ => []
  decode := fun input => .ok ((), input)
  Valid := fun _ => True
  decode_encode := fun _ _ _ => rfl

/-- Two variants, told apart by the first byte. -/
def variants (name : String) (c : Codec α) (d : Codec β) : Codec (α ⊕ β) where
  encode := fun
    | .inl a => 0 :: c.encode a
    | .inr b => 1 :: d.encode b
  decode := fun
    | [] => .error ("Could not decode `" ++ name ++
        "`, failed to read variant byte")
    | tag :: input =>
        if tag = 0 then (c.decode input).map fun (a, rest) => (.inl a, rest)
        else if tag = 1 then
          (d.decode input).map fun (b, rest) => (.inr b, rest)
        else .error ("Could not decode `" ++ name ++
          "`, variant doesn't exist")
  Valid := fun
    | .inl a => c.Valid a
    | .inr b => d.Valid b
  decode_encode := by
    intro v rest h
    cases v with
    | inl a =>
        show (c.decode (c.encode a ++ rest)).map _ = _
        rw [c.decode_encode a rest h]
        rfl
    | inr b =>
        show (d.decode (d.encode b ++ rest)).map _ = _
        rw [d.decode_encode b rest h]
        rfl

/-! ### Compact numbers -/

/-- The error of a compact number that is not in its shortest form. -/
def outOfRange : String := "out of range decoding Compact<u32>"

/-- `Compact<u32>`: the lowest two bits of the first byte tell the form. -/
def encodeCompact (n : Nat) : List UInt8 :=
  if n < 2 ^ 6 then leBytes 1 (4 * n)
  else if n < 2 ^ 14 then leBytes 2 (4 * n + 1)
  else if n < 2 ^ 30 then leBytes 4 (4 * n + 2)
  else 3 :: leBytes 4 n

/-- The number of a form of `k` bytes, which is to be at least `least`. -/
def decodeForm (k least : Nat) : Decoder Nat := fun input => do
  let (l, rest) ← readBytes k input
  let n := ofLeBytes l / 4
  if least ≤ n then pure (n, rest) else .error outOfRange

/-- The decoder of compact numbers. -/
def decodeCompact : Decoder Nat := fun input =>
  match input with
  | [] => .error "Not enough data to fill buffer"
  | b :: tail =>
      if b.toNat % 4 = 0 then .ok (b.toNat / 4, tail)
      else if b.toNat % 4 = 1 then decodeForm 2 (2 ^ 6) input
      else if b.toNat % 4 = 2 then decodeForm 4 (2 ^ 14) input
      else if b.toNat / 4 = 0 then do
        let (l, rest) ← readBytes 4 tail
        let n := ofLeBytes l
        if 2 ^ 30 ≤ n then pure (n, rest) else .error outOfRange
      else .error outOfRange

private theorem readBytes_length {r : List UInt8 × List UInt8}
    (h : readBytes k input = .ok r) : r.1.length = k := by
  unfold readBytes at h
  by_cases hk : k ≤ input.length
  · rw [if_pos hk] at h
    cases h
    rw [List.length_take, Nat.min_eq_left hk]
  · rw [if_neg hk] at h
    cases h

private theorem decodeForm_lt {least : Nat}
    (h : decodeForm k least input = .ok (n, rest)) : n < 256 ^ k := by
  unfold decodeForm at h
  cases hread : readBytes k input with
  | error =>
      rw [hread] at h
      cases h
  | ok r =>
      rw [hread] at h
      have hlt := ofLeBytes_lt r.1
      rw [readBytes_length hread] at hlt
      by_cases hleast : least ≤ ofLeBytes r.1 / 4
      · simp only [bind, Except.bind, if_pos hleast] at h
        cases h
        omega
      · simp only [bind, Except.bind, if_neg hleast] at h
        cases h

theorem decodeCompact_lt (h : decodeCompact input = .ok (n, rest)) :
    n < 2 ^ 32 := by
  cases input with
  | nil => cases h
  | cons b tail =>
      have hb : b.toNat < 256 := b.toNat_lt
      unfold decodeCompact at h
      dsimp only at h
      by_cases h0 : b.toNat % 4 = 0
      · rw [if_pos h0] at h
        cases h
        omega
      rw [if_neg h0] at h
      by_cases h1 : b.toNat % 4 = 1
      · rw [if_pos h1] at h
        exact Nat.lt_trans (decodeForm_lt h) (by decide)
      rw [if_neg h1] at h
      by_cases h2 : b.toNat % 4 = 2
      · rw [if_pos h2] at h
        exact Nat.lt_of_lt_of_le (decodeForm_lt h) (by decide)
      rw [if_neg h2] at h
      by_cases h3 : b.toNat / 4 = 0
      · rw [if_pos h3] at h
        cases hread : readBytes 4 tail with
        | error =>
            rw [hread] at h
            cases h
        | ok r =>
            rw [hread] at h
            have hlt := ofLeBytes_lt r.1
            rw [readBytes_length hread] at hlt
            by_cases hleast : 2 ^ 30 ≤ ofLeBytes r.1
            · simp only [bind, Except.bind, if_pos hleast] at h
              cases h
              exact hlt
            · simp only [bind, Except.bind, if_neg hleast] at h
              cases h
      · rw [if_neg h3] at h
        cases h

private theorem decodeForm_append {least m : Nat} (hm : m < 256 ^ k)
    (hn : m / 4 = n) (hleast : least ≤ n) (rest : List UInt8) :
    decodeForm k least (leBytes k m ++ rest) = .ok (n, rest) := by
  unfold decodeForm
  rw [readBytes_append (length_leBytes k m)]
  show (if least ≤ ofLeBytes (leBytes k m) / 4 then _ else _) = _
  rw [ofLeBytes_leBytes hm, hn, if_pos hleast]
  rfl

private theorem head_leBytes (k m : Nat) (rest : List UInt8) :
    ∃ tail, leBytes (k + 1) m ++ rest = UInt8.ofNat m :: tail :=
  ⟨leBytes k (m / 256) ++ rest, rfl⟩

private theorem mod_four (m : Nat) : (UInt8.ofNat m).toNat % 4 = m % 4 := by
  rw [UInt8.toNat_ofNat']
  omega

theorem decodeCompact_encodeCompact (h : n < 2 ^ 32) (rest : List UInt8) :
    decodeCompact (encodeCompact n ++ rest) = .ok (n, rest) := by
  unfold encodeCompact
  by_cases h6 : n < 2 ^ 6
  · rw [if_pos h6]
    show decodeCompact (UInt8.ofNat (4 * n) :: rest) = _
    have hbyte : (UInt8.ofNat (4 * n)).toNat = 4 * n := by
      rw [UInt8.toNat_ofNat']
      omega
    rw [decodeCompact, hbyte, if_pos (by omega)]
    congr 2
    omega
  · rw [if_neg h6]
    by_cases h14 : n < 2 ^ 14
    · rw [if_pos h14]
      obtain ⟨tail, htail⟩ := head_leBytes 1 (4 * n + 1) rest
      have hmod := mod_four (4 * n + 1)
      rw [htail, decodeCompact, if_neg (by omega), if_pos (by omega), ← htail]
      exact decodeForm_append (by omega) (by omega) (by omega) rest
    · rw [if_neg h14]
      by_cases h30 : n < 2 ^ 30
      · rw [if_pos h30]
        obtain ⟨tail, htail⟩ := head_leBytes 3 (4 * n + 2) rest
        have hmod := mod_four (4 * n + 2)
        rw [htail, decodeCompact, if_neg (by omega), if_neg (by omega),
          if_pos (by omega), ← htail]
        exact decodeForm_append (by omega) (by omega) (by omega) rest
      · rw [if_neg h30, List.cons_append]
        show (do
          let (l, rest) ← readBytes 4 (leBytes 4 n ++ rest)
          let n := ofLeBytes l
          if 2 ^ 30 ≤ n then pure (n, rest) else .error outOfRange) = _
        rw [readBytes_append (length_leBytes 4 n)]
        show (if 2 ^ 30 ≤ ofLeBytes (leBytes 4 n) then _ else _) = _
        rw [ofLeBytes_leBytes (by omega), if_pos (by omega)]
        rfl

/-- Compact numbers of 32 bits. -/
def compact : Codec Nat where
  encode := encodeCompact
  decode := decodeCompact
  Valid := fun n => n < 2 ^ 32
  decode_encode := fun _ rest h => decodeCompact_encodeCompact h rest

/-! ### Collections -/

/-- Read `n` values. -/
def decodeMany (d : Decoder α) : Nat → Decoder (List α)
  | 0, input => .ok ([], input)
  | n + 1, input => do
      let (a, rest) ← d input
      let (l, rest) ← decodeMany d n rest
      pure (a :: l, rest)

theorem decodeMany_append (c : Codec α) {l : List α}
    (h : ∀ a ∈ l, c.Valid a) (rest : List UInt8) :
    decodeMany c.decode l.length (l.flatMap c.encode ++ rest) =
      .ok (l, rest) := by
  induction l with
  | nil => rfl
  | cons a l ih =>
      obtain ⟨ha, hl⟩ := List.forall_mem_cons.mp h
      rw [List.flatMap_cons, List.append_assoc, List.length_cons, decodeMany,
        c.decode_encode a _ ha]
      show (do
        let (l', rest') ← decodeMany c.decode l.length
          (l.flatMap c.encode ++ rest)
        pure (a :: l', rest') : Except String (List α × List UInt8)) = _
      rw [ih hl]
      rfl

/-- Collections: their length, then their elements. -/
def vec (c : Codec α) : Codec (List α) where
  encode := fun l => compact.encode l.length ++ l.flatMap c.encode
  decode := fun input => do
    let (n, rest) ← compact.decode input
    decodeMany c.decode n rest
  Valid := fun l => l.length < 2 ^ 32 ∧ ∀ a ∈ l, c.Valid a
  decode_encode := by
    rintro l rest ⟨hlength, hl⟩
    rw [List.append_assoc, compact.decode_encode l.length _ hlength]
    exact decodeMany_append c hl rest

end Codec

end Thxnet.Lib
