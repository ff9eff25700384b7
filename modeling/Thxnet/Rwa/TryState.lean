import Thxnet.Rwa.Ownership
import Thxnet.Rwa.Queue
import Thxnet.Rwa.Sunset

/-! # The checks of `try_state` -/

namespace Thxnet.Rwa

open Thxnet.Lib Thxnet.Frame

variable {R : Config} {b b' : Books R}

/-- `Permill::saturating_add`. -/
def addShare (acc : Nat) (r : SlashRecipient R) : Nat :=
  min (saturatingAdd 32 acc r.share) permill.accuracy

/-- The shares of every distribution add up to one. -/
def Shared (b : Books R) : Prop :=
  ∀ id dist, b.assetSlashDistribution.get id = some dist →
    dist.toList.foldl addShare 0 = permill.accuracy

/-- `do_try_state` returns `Ok`: its nine loops, each over all entries.  Only an
asset not retired has a `pledge`, only a live participation is `held`. -/
structure DoTryState (b : Books R) : Prop where
  ids : ∀ id asset, b.rwaAssets.get id = some asset → id < b.nextRwaAssetId
  owners : ∀ o, ∀ id ∈ (b.ownerAssets o).toList,
    ∃ d, b.pledge id = some (o, d)
  counts : ∀ id asset, b.rwaAssets.get id = some asset →
    (b.participations id).count (fun p => p.status.isLive) % 2 ^ 32 =
      asset.participantCount
  index : ∀ id who pid, (b.holderIndex id).get who = some pid →
    who ∈ b.held id pid
  holders : ∀ who, ∀ id ∈ (b.holderAssets who).toList,
    ((b.holderIndex id).get who).isSome = true
  pending : ∀ id, ∀ pid ∈ (b.pendingApprovals id).toList, b.Waits id pid
  shares : Shared b
  sunsetting : ∀ block, ∀ id ∈ (b.sunsettingAssets block).toList,
    b.status id = some (.sunsetting block)
  offers : ∀ id who, b.pendingOwnershipTransfer.get id = some who →
    ∃ o d, b.pledge id = some (o, d) ∧ o ≠ who

/-- The cap at one loses nothing of a sum that `u32` holds. -/
theorem foldl_addShare (dist : List (SlashRecipient R)) :
    dist.foldl addShare 0 = min (totalParts dist) permill.accuracy := by
  show dist.foldl addShare (min 0 permill.accuracy) = _
  refine List.foldl_hom (min · permill.accuracy) fun n r => ?_
  have hlt : permill.accuracy < maxValue 32 := by decide
  unfold addShare saturatingAdd
  omega

theorem Shared.markRetired (h : Shared b) (id : Nat) (asset : AssetInfo R) :
    Shared (b.markRetired id asset) :=
  StorageMap.forall_remove h

theorem Shared.move {a : Action R} {now : Nat} (hmove : Move a now b b')
    (h : Shared b) : Shared b' := by
  cases hmove with
  | slashDistributionSet _ hsum =>
      refine StorageMap.forall_insert h ?_
      rw [foldl_addShare, hsum, Nat.min_self]
  | retired =>
      refine Shared.markRetired ?_ _ _
      unfold Books.dropSchedule
      split <;> exact h
  | initialized =>
      exact Books.initialized_induct (I := Shared) h
        fun _ id asset _ hb _ _ => hb.markRetired id asset
  | _ => exact h

/-- The checks find nothing wrong after any run. -/
theorem try_state_passes {ok : State R → Action R → Prop} {s : State R}
    (h : Reachable ok s) : DoTryState s.toBooks where
  ids id asset hget := by
    by_contra hle
    have hnone := (sound_of_reachable h).assets id (Nat.not_lt.mp hle)
    cases hnone.symm.trans (Books.terms_of_get hget)
  owners o id := ((custody_of_reachable h).listed o id).mp
  counts id asset hget := by
    have hs := sound_of_reachable h
    have hlt := (tally_live_le (hs.entries id)).trans_lt (hs.next_lt id)
    have hcount := hs.counted id _ (Books.terms_of_get hget)
    exact (Nat.mod_eq_of_lt hlt).trans hcount.symm
  index id who pid := ((indexed_of_reachable h).1.index id pid who).mp
  holders who id := ((indexed_of_reachable h).1.assets who id).mp
  pending id pid hmem := (((queued_of_reachable h).mem id pid).mp hmem).1
  shares := books_invariant (I := Shared) (fun _ _ _ => nofun)
    (fun _ _ _ _ _ _ _ => Shared.move) h
  sunsetting n id := ((onSchedule_of_reachable h).mem_iff id n).mp
  offers := (custody_of_reachable h).offered

theorem try_state_half : DoTryState halfFunded.toBooks :=
  try_state_passes halfFunded_reachable

end Thxnet.Rwa
