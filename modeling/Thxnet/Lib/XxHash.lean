import Thxnet.Lib.Scale

/-!
# Names as storage prefixes

Storage keys begin with hashes of names, under the 64-bit xxHash with several
seeds.  The hash is not cryptographic and nothing is assumed of it: it is
computed, so that two names are told apart by evaluating it.
-/

namespace Thxnet.Lib

/-- The bytes of a name. -/
def ascii (name : String) : List UInt8 :=
  name.toList.map fun c => UInt8.ofNat c.toNat

namespace XxHash

def prime1 : UInt64 := 11400714785074694791
def prime2 : UInt64 := 14029467366897019727
def prime3 : UInt64 := 1609587929392839161
def prime4 : UInt64 := 9650029242287828579
def prime5 : UInt64 := 2870177450012600261

def rotateLeft (x : UInt64) (k : UInt64) : UInt64 :=
  (x <<< k) ||| (x >>> (64 - k))

def round (acc lane : UInt64) : UInt64 :=
  rotateLeft (acc + lane * prime2) 31 * prime1

def mergeRound (acc lane : UInt64) : UInt64 :=
  (acc ^^^ round 0 lane) * prime1 + prime4

/-- The first `k` bytes, the lowest first. -/
def lane (k : Nat) (data : List UInt8) : UInt64 :=
  UInt64.ofNat (ofLeBytes (data.take k))

/-- The state of the four lanes. -/
structure Lanes where
  v1 : UInt64
  v2 : UInt64
  v3 : UInt64
  v4 : UInt64

/-- The stripes of 32 bytes. -/
def stripes : Nat → Lanes → List UInt8 → Lanes
  | 0, v, _ => v
  | n + 1, v, data =>
      stripes n
        { v1 := round v.v1 (lane 8 data)
          v2 := round v.v2 (lane 8 (data.drop 8))
          v3 := round v.v3 (lane 8 (data.drop 16))
          v4 := round v.v4 (lane 8 (data.drop 24)) }
        (data.drop 32)

/-- What is accumulated before the tail. -/
def accumulate (seed : UInt64) (data : List UInt8) : UInt64 :=
  if data.length < 32 then seed + prime5
  else
    let v := stripes (data.length / 32)
      ⟨seed + prime1 + prime2, seed + prime2, seed, seed - prime1⟩ data
    let h := rotateLeft v.v1 1 + rotateLeft v.v2 7 + rotateLeft v.v3 12 +
      rotateLeft v.v4 18
    mergeRound (mergeRound (mergeRound (mergeRound h v.v1) v.v2) v.v3) v.v4

/-- The words of eight bytes of the tail. -/
def tailWords : Nat → UInt64 → List UInt8 → UInt64
  | 0, h, _ => h
  | n + 1, h, data =>
      tailWords n (rotateLeft (h ^^^ round 0 (lane 8 data)) 27 * prime1 + prime4)
        (data.drop 8)

/-- The last bytes of the tail. -/
def tailBytes (h : UInt64) (data : List UInt8) : UInt64 :=
  data.foldl
    (fun h b => rotateLeft (h ^^^ UInt64.ofNat b.toNat * prime5) 11 * prime1) h

def avalanche (h : UInt64) : UInt64 :=
  let h := (h ^^^ (h >>> 33)) * prime2
  let h := (h ^^^ (h >>> 29)) * prime3
  h ^^^ (h >>> 32)

/-- The 64-bit xxHash. -/
def hash (seed : UInt64) (data : List UInt8) : UInt64 :=
  let h := accumulate seed data + UInt64.ofNat data.length
  let tail := data.drop (data.length / 32 * 32)
  let h := tailWords (tail.length / 8) h tail
  let tail := tail.drop (tail.length / 8 * 8)
  if tail.length < 4 then avalanche (tailBytes h tail)
  else
    let h := rotateLeft (h ^^^ lane 4 tail * prime1) 23 * prime2 + prime3
    avalanche (tailBytes h (tail.drop 4))

end XxHash

/-- `twox_128`: the hashes with the seeds 0 and 1. -/
def twox128 (data : List UInt8) : List UInt8 :=
  leBytes 8 (XxHash.hash 0 data).toNat ++ leBytes 8 (XxHash.hash 1 data).toNat

@[simp] theorem length_twox128 (data : List UInt8) :
    (twox128 data).length = 16 := by
  rw [twox128, List.length_append, length_leBytes, length_leBytes]

end Thxnet.Lib
