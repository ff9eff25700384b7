import Thxnet.Lib.Scale

/-!
# BLAKE2b

The hash of keys of storage maps.  As for the hash of names, nothing is assumed
of it; a key is recovered from a storage key because it is appended to its
hash.
-/

namespace Thxnet.Lib.Blake2

/-- The initial vector. -/
def iv : List UInt64 :=
  [0x6a09e667f3bcc908, 0xbb67ae8584caa73b, 0x3c6ef372fe94f82b,
    0xa54ff53a5f1d36f1, 0x510e527fade682d1, 0x9b05688c2b3e6c1f,
    0x1f83d9abfb41bd6b, 0x5be0cd19137e2179]

/-- The order of the message words in each round. -/
def sigma : List (List Nat) :=
  [[0, 1, 2, 3, 4, 5, 6, 7, 8, 9, 10, 11, 12, 13, 14, 15],
    [14, 10, 4, 8, 9, 15, 13, 6, 1, 12, 0, 2, 11, 7, 5, 3],
    [11, 8, 12, 0, 5, 2, 15, 13, 10, 14, 3, 6, 7, 1, 9, 4],
    [7, 9, 3, 1, 13, 12, 11, 14, 2, 6, 5, 10, 4, 0, 15, 8],
    [9, 0, 5, 7, 2, 4, 10, 15, 14, 1, 11, 12, 6, 8, 3, 13],
    [2, 12, 6, 10, 0, 11, 8, 3, 4, 13, 7, 5, 15, 14, 1, 9],
    [12, 5, 1, 15, 14, 13, 4, 10, 0, 7, 6, 3, 9, 2, 8, 11],
    [13, 11, 7, 14, 12, 1, 3, 9, 5, 0, 15, 4, 8, 6, 2, 10],
    [6, 15, 14, 9, 11, 3, 0, 8, 12, 2, 13, 7, 1, 4, 10, 5],
    [10, 2, 8, 4, 7, 6, 1, 5, 15, 11, 9, 14, 3, 12, 13, 0],
    [0, 1, 2, 3, 4, 5, 6, 7, 8, 9, 10, 11, 12, 13, 14, 15],
    [14, 10, 4, 8, 9, 15, 13, 6, 1, 12, 0, 2, 11, 7, 5, 3]]

def rotateRight (x : UInt64) (k : UInt64) : UInt64 :=
  (x >>> k) ||| (x <<< (64 - k))

/-- The mixing function, on the words `a`, `b`, `c` and `d` of the state. -/
def mix (v : List UInt64) (a b c d : Nat) (x y : UInt64) : List UInt64 :=
  let v := v.set a (v.getD a 0 + v.getD b 0 + x)
  let v := v.set d (rotateRight (v.getD d 0 ^^^ v.getD a 0) 32)
  let v := v.set c (v.getD c 0 + v.getD d 0)
  let v := v.set b (rotateRight (v.getD b 0 ^^^ v.getD c 0) 24)
  let v := v.set a (v.getD a 0 + v.getD b 0 + y)
  let v := v.set d (rotateRight (v.getD d 0 ^^^ v.getD a 0) 16)
  let v := v.set c (v.getD c 0 + v.getD d 0)
  v.set b (rotateRight (v.getD b 0 ^^^ v.getD c 0) 63)

/-- One round: the columns, then the diagonals. -/
def round (m v : List UInt64) (order : List Nat) : List UInt64 :=
  let word := fun i => m.getD (order.getD i 0) 0
  let v := mix v 0 4 8 12 (word 0) (word 1)
  let v := mix v 1 5 9 13 (word 2) (word 3)
  let v := mix v 2 6 10 14 (word 4) (word 5)
  let v := mix v 3 7 11 15 (word 6) (word 7)
  let v := mix v 0 5 10 15 (word 8) (word 9)
  let v := mix v 1 6 11 12 (word 10) (word 11)
  let v := mix v 2 7 8 13 (word 12) (word 13)
  mix v 3 4 9 14 (word 14) (word 15)

/-- The words of a block of 128 bytes. -/
def words (block : List UInt8) : List UInt64 :=
  (List.range 16).map fun i =>
    UInt64.ofNat (ofLeBytes ((block.drop (8 * i)).take 8))

/-- The compression of one block, after `count` bytes. -/
def compress (h : List UInt64) (block : List UInt8) (count : Nat)
    (last : Bool) : List UInt64 :=
  let v := h ++ iv
  let v := v.set 12 (v.getD 12 0 ^^^ UInt64.ofNat count)
  let v := v.set 13 (v.getD 13 0 ^^^ UInt64.ofNat (count / 2 ^ 64))
  let v := if last then v.set 14 (~~~ v.getD 14 0) else v
  let v := sigma.foldl (round (words block)) v
  (List.range 8).map fun i => h.getD i 0 ^^^ v.getD i 0 ^^^ v.getD (i + 8) 0

/-- The blocks before the last one. -/
def blocks (data : List UInt8) (h : List UInt64) (n : Nat) : List UInt64 :=
  (List.range n).foldl
    (fun h i => compress h (data.drop (128 * i)) (128 * (i + 1)) false) h

/-- The state after all of the data, for a hash of `size` bytes. -/
def state (size : Nat) (data : List UInt8) : List UInt64 :=
  let n := (data.length - 1) / 128
  let start := iv.set 0 (iv.getD 0 0 ^^^ 0x01010000 ^^^ UInt64.ofNat size)
  compress (blocks data start n) (data.drop (128 * n)) data.length true

/-- `blake2_128`. -/
def blake2_128 (data : List UInt8) : List UInt8 :=
  let h := state 16 data
  leBytes 8 (h.getD 0 0).toNat ++ leBytes 8 (h.getD 1 0).toNat

@[simp] theorem length_blake2_128 (data : List UInt8) :
    (blake2_128 data).length = 16 := by
  rw [blake2_128, List.length_append, length_leBytes, length_leBytes]

end Thxnet.Lib.Blake2
