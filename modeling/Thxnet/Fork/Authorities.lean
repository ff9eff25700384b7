import Thxnet.Lib.Scale

/-!
# The authorities of a forked chain

A forked chain is run by the six accounts of the development keyring, whose
keys are public.  All keys of an authority that are used here are its sr25519
key.
-/

namespace Thxnet.Fork

open Thxnet.Lib

/-- `Sr25519Keyring`, as far as the authorities are taken from it. -/
inductive Keyring where
  | alice
  | bob
  | charlie
  | dave
  | eve
  | ferdie
  deriving DecidableEq, Repr

/-- The bytes of a key that is written as one number, the highest first. -/
def hex2array (n : Nat) : List UInt8 := (leBytes 32 n).reverse

/-- The public key, which is also the account. -/
def Keyring.public : Keyring → List UInt8
  | .alice => hex2array
      0xd43593c715fdd31c61141abd04a99fd6822c8558854ccde39a5684e7a56da27d
  | .bob => hex2array
      0x8eaf04151687736326c9fea17e25fc5287613693c912909cb226aa4794f26a48
  | .charlie => hex2array
      0x90b5ab205c6974c9ea841be688864633dc9ca8a357843eeacf2314649965fe22
  | .dave => hex2array
      0x306721211d5404bd9da88e0204360a1a9ab8b87c66c1bc2fcdd37f3c2222cc20
  | .eve => hex2array
      0xe659a7a1628cdd93febc04a4e0646ea20e9f5f0ce097d9a05290d4a9e054df4e
  | .ferdie => hex2array
      0x1cbd2d43530a44705ad088af313e18f80b53ef16b36177cd4b77b846f2a5f07c

/-- `AuthorityTuple`: the account, and the keys for the parachains. -/
structure AuthorityTuple where
  stash : List UInt8
  validator : List UInt8
  assignment : List UInt8
  discovery : List UInt8
  deriving DecidableEq, Repr

/-- `authority_tuple_from_keyrings`. -/
def authorityTupleFromKeyrings (sr : Keyring) : AuthorityTuple where
  stash := sr.public
  validator := sr.public
  assignment := sr.public
  discovery := sr.public

/-- `dev_authority_set`. -/
def devAuthoritySet : List AuthorityTuple :=
  [authorityTupleFromKeyrings .alice, authorityTupleFromKeyrings .bob,
    authorityTupleFromKeyrings .charlie, authorityTupleFromKeyrings .dave,
    authorityTupleFromKeyrings .eve, authorityTupleFromKeyrings .ferdie]

/-- `THX`. -/
def thx : Nat := 10000000000

/-- `ENDOWED`. -/
def endowed : Nat := 20 * thx

/-- The balances of the fresh genesis. -/
def freshBalances (extraEndowed : List (List UInt8 × Nat))
    (authorities : List AuthorityTuple) : List (List UInt8 × Nat) :=
  extraEndowed ++ authorities.map fun a => (a.stash, endowed)

end Thxnet.Fork
