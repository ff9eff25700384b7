import Thxnet.Rwa.Counting
import Thxnet.Rwa.Mock

/-!
# The holder indexes

Next to the participations the pallet keeps, for every asset and account, the
participation the account holds there (`HolderIndex`), and for every account
the assets it holds something in (`HolderAssets`).  `Indexed` says that both
are exact: they list what the live participations name, and nothing else.

`Books.held b id pid` is the group of a participation as the indexes should see
it, empty unless the participation is live.  When accounts join or leave the
group of one participation, the indexes stay exact if a loop over these accounts
enters them or strikes them off (`Indexed.enter`, `Indexed.leave`).
-/

namespace Thxnet.Rwa

open Thxnet.Lib Thxnet.Frame

variable {R : Config}

/-! ## What the indexes should say -/

/-- The holders of a participation while it is live. -/
def Books.held (b : Books R) (id pid : Nat) : List R.AccountId :=
  match (b.participations id).get pid with
  | some p => if p.status.isLive = true then p.holders.toList else []
  | none => []

/-- The indexes are exact. -/
structure Indexed (b : Books R) : Prop where
  index : ∀ id pid h, (b.holderIndex id).get h = some pid ↔ h ∈ b.held id pid
  nodup : ∀ h, (b.holderAssets h).toList.Nodup
  assets : ∀ h id, id ∈ (b.holderAssets h).toList ↔
    ((b.holderIndex id).get h).isSome = true

/-- The groups of live participations, and of those that may be reopened, are
proper ones. -/
def Grouped (b : Books R) : Prop :=
  ∀ id pid p, (b.participations id).get pid = some p →
    (p.status.isLive = true ∨ p.status = .expired) →
    p.holders.toList.Nodup ∧ p.holders.toList ≠ []

/-- `participations_by_holder`. -/
def participationsByHolder (b : Books R) (holder : R.AccountId) :
    List (Nat × Nat) :=
  (b.holderAssets holder).toList.filterMap fun id =>
    ((b.holderIndex id).get holder).map fun pid => (id, pid)

variable {b b' : Books R} {id pid : Nat}

variable {p : Participation R} {ok : State R → Action R → Prop}

theorem held_of_live (hp : (b.participations id).get pid = some p)
    (hlive : p.status.isLive = true) : b.held id pid = p.holders.toList := by
  simp [Books.held, hp, hlive]

theorem held_of_ended (hp : (b.participations id).get pid = some p)
    (hended : p.status.isLive = false) : b.held id pid = [] := by
  simp [Books.held, hp, hended]

theorem held_of_none (hnone : (b.participations id).get pid = none) :
    b.held id pid = [] := by
  simp [Books.held, hnone]

theorem held_congr
    (h : (b'.participations id).get pid = (b.participations id).get pid) :
    b'.held id pid = b.held id pid := by
  simp [Books.held, h]

theorem mem_held {h : R.AccountId} :
    h ∈ b.held id pid ↔ ∃ p, (b.participations id).get pid = some p ∧
      p.status.isLive = true ∧ h ∈ p.holders.toList := by
  unfold Books.held
  cases (b.participations id).get pid with
  | none => simp
  | some p => by_cases hlive : p.status.isLive = true <;> simp [hlive]

/-- Nothing the indexes see has changed. -/
theorem Indexed.congr (hb : Indexed b)
    (hheld : ∀ i q, b'.held i q = b.held i q)
    (hindex : b'.holderIndex = b.holderIndex)
    (hassets : b'.holderAssets = b.holderAssets) : Indexed b' where
  index := fun i q h => by rw [hindex, hheld]; exact hb.index i q h
  nodup := fun h => by rw [hassets]; exact hb.nodup h
  assets := fun h i => by rw [hassets, hindex]; exact hb.assets h i

/-! ## The loops over a group -/

section Loops

variable {id pid : Nat}

/-- A loop that writes `v` for each holder of a group. -/
private theorem get_foldl {v : Option Nat}
    {op : StorageDoubleMap Nat R.AccountId Nat → R.AccountId →
      StorageDoubleMap Nat R.AccountId Nat}
    (hself : ∀ m k, (op m k id).get k = v)
    (hne : ∀ m k i h, ¬ (i = id ∧ h = k) → (op m k i).get h = (m i).get h)
    (hs : List R.AccountId) (m : StorageDoubleMap Nat R.AccountId Nat)
    (i : Nat) (h : R.AccountId) :
    ((hs.foldl op m) i).get h =
      if i = id ∧ h ∈ hs then v else (m i).get h := by
  induction hs generalizing m with
  | nil => simp
  | cons k hs ih =>
      rw [List.foldl_cons, ih]
      by_cases hrest : i = id ∧ h ∈ hs
      · simp [hrest]
      · rw [if_neg hrest]
        by_cases hk : i = id ∧ h = k
        · obtain ⟨rfl, rfl⟩ := hk
          simp [hself]
        · rw [hne m k i h hk, if_neg]
          rintro ⟨hi, hmem⟩
          rcases List.mem_cons.mp hmem with hhk | hmem
          · exact hk ⟨hi, hhk⟩
          · exact hrest ⟨hi, hmem⟩

theorem get_foldl_insert (hs : List R.AccountId)
    (m : StorageDoubleMap Nat R.AccountId Nat) (i : Nat) (h : R.AccountId) :
    ((hs.foldl (fun m h => m.insert id h pid) m) i).get h =
      if i = id ∧ h ∈ hs then some pid else (m i).get h :=
  get_foldl (fun m k => by simp)
    (fun m _ _ _ hk => StorageDoubleMap.get_insert_ne m _ hk) hs m i h

theorem get_foldl_remove (hs : List R.AccountId)
    (m : StorageDoubleMap Nat R.AccountId Nat) (i : Nat) (h : R.AccountId) :
    ((hs.foldl (fun m h => m.remove id h) m) i).get h =
      if i = id ∧ h ∈ hs then none else (m i).get h :=
  get_foldl (fun m k => by simp)
    (fun m _ _ _ hk => StorageDoubleMap.get_remove_ne m hk) hs m i h

/-- The lists of the assets of each holder. -/
abbrev HolderLists (R : Config) : Type :=
  R.AccountId → BoundedVec Nat R.maxParticipationsPerHolder

/-- A call of `push_holder_asset` does not meet its overflow branch: the asset
is listed already, or there is room. -/
def PushFits (f : HolderLists R) (h : R.AccountId) (id : Nat) : Prop :=
  id ∈ (f h).toList ∨ (f h).toList.length < R.maxParticipationsPerHolder

/-- No call of `push_holder_asset` in a loop over `holders` does. -/
def PushesFit (id : Nat) : HolderLists R → List R.AccountId → Prop
  | _, [] => True
  | f, h :: rest =>
      PushFits f h id ∧ PushesFit id (pushHolderAsset f h id) rest

variable {f : HolderLists R} {hs : List R.AccountId} {id : Nat}
    {h k : R.AccountId}

theorem pushHolderAsset_ne (f : HolderLists R) (id : Nat) (hne : k ≠ h) :
    pushHolderAsset f h id k = f k := by
  unfold pushHolderAsset
  split
  · rfl
  · exact Function.update_of_ne hne _ _

theorem toList_pushHolderAsset (hfits : PushFits f h id) :
    (pushHolderAsset f h id h).toList =
      if id ∈ (f h).toList then (f h).toList else (f h).toList ++ [id] := by
  unfold pushHolderAsset
  by_cases hmem : id ∈ (f h).toList
  · rw [if_pos hmem, if_pos hmem]
  · rw [if_neg hmem, if_neg hmem, Function.update_self,
      BoundedVec.toList_push (hfits.resolve_left hmem)]

theorem mem_pushHolderAsset {i : Nat} (hfits : PushFits f h id) :
    i ∈ (pushHolderAsset f h id k).toList ↔
      (i = id ∧ k = h) ∨ i ∈ (f k).toList := by
  by_cases hk : k = h
  · subst hk
    rw [toList_pushHolderAsset hfits]
    split
    · next hmem =>
        constructor
        · exact .inr
        · rintro (⟨rfl, _⟩ | hi)
          · exact hmem
          · exact hi
    · simp [or_comm]
  · rw [pushHolderAsset_ne f id hk]
    simp [hk]

theorem nodup_pushHolderAsset (hfits : PushFits f h id)
    (hnodup : (f k).toList.Nodup) :
    (pushHolderAsset f h id k).toList.Nodup := by
  by_cases hk : k = h
  · subst hk
    rw [toList_pushHolderAsset hfits]
    split
    · exact hnodup
    · next hmem =>
        rw [← List.concat_eq_append]
        exact (List.nodup_concat _ _).mpr ⟨hmem, hnodup⟩
  · rwa [pushHolderAsset_ne f id hk]

/-- A loop over distinct holders that each have room does not meet the
overflow branch. -/
theorem pushesFit_of_room (hnodup : hs.Nodup)
    (hroom : ∀ h ∈ hs, (f h).toList.length < R.maxParticipationsPerHolder) :
    PushesFit id f hs := by
  induction hs generalizing f with
  | nil => trivial
  | cons h hs ih =>
      obtain ⟨hnew, hrest⟩ := List.nodup_cons.mp hnodup
      refine ⟨.inr (hroom h List.mem_cons_self), ih hrest fun k hk => ?_⟩
      have hne : k ≠ h := fun hkh => hnew (hkh ▸ hk)
      rw [pushHolderAsset_ne f id hne]
      exact hroom k (List.mem_cons_of_mem _ hk)

theorem mem_foldl_push (hfits : PushesFit id f hs) (k : R.AccountId) (i : Nat) :
    i ∈ (hs.foldl (fun f h => pushHolderAsset f h id) f k).toList ↔
      (i = id ∧ k ∈ hs) ∨ i ∈ (f k).toList := by
  induction hs generalizing f with
  | nil => simp
  | cons h hs ih =>
      obtain ⟨hfit, hrest⟩ := hfits
      rw [List.foldl_cons, ih hrest, mem_pushHolderAsset hfit, List.mem_cons]
      tauto

theorem nodup_foldl_push (hfits : PushesFit id f hs)
    (hnodup : (f k).toList.Nodup) :
    (hs.foldl (fun f h => pushHolderAsset f h id) f k).toList.Nodup := by
  induction hs generalizing f with
  | nil => exact hnodup
  | cons h hs ih => exact ih hfits.2 (nodup_pushHolderAsset hfits.1 hnodup)

theorem toList_foldl_erase (hs : List R.AccountId) (f : HolderLists R)
    (k : R.AccountId) (hnodup : (f k).toList.Nodup) :
    (hs.foldl (fun f h => Function.update f h ((f h).removeFirst id))
      f k).toList = if k ∈ hs then (f k).toList.erase id else (f k).toList := by
  induction hs generalizing f with
  | nil => simp
  | cons h hs ih =>
      rw [List.foldl_cons]
      by_cases hk : k = h
      · subst hk
        rw [ih]
        · -- struck off once, the asset is not there a second time
          have hgone : id ∉ (f k).toList.erase id :=
            (hnodup.mem_erase_iff.not).mpr (by simp)
          simp [List.erase_of_not_mem hgone]
        · simpa using hnodup.erase id
      · rw [ih]
        · simp [hk]
        · rwa [Function.update_of_ne hk]

end Loops

/-! ## The ways a group changes -/

section Group

variable {b b' : Books R} {id pid : Nat} {p : Participation R}
  {l : List R.AccountId}

private theorem held_insert_ne
    (hparts : b'.participations = b.participations.insert id pid p) (i q : Nat)
    (hne : ¬ (i = id ∧ q = pid)) : b'.held i q = b.held i q := by
  refine held_congr ?_
  rw [hparts, StorageDoubleMap.get_insert_ne _ _ hne]

private theorem mem_held_insert
    (hparts : b'.participations = b.participations.insert id pid p)
    (h : R.AccountId) :
    h ∈ b'.held id pid ↔ p.status.isLive = true ∧ h ∈ p.holders.toList := by
  simp [mem_held, hparts]

/-- Accounts that hold nothing of the asset join the group of one
participation. -/
theorem Indexed.enter (hb : Indexed b)
    (hne : ∀ i q, ¬ (i = id ∧ q = pid) → b'.held i q = b.held i q)
    (hheld : ∀ h, h ∈ b'.held id pid ↔ h ∈ l ∨ h ∈ b.held id pid)
    (hindex : b'.holderIndex = l.foldl (fun m h => m.insert id h pid)
      b.holderIndex)
    (hassets : b'.holderAssets = l.foldl (fun f h => pushHolderAsset f h id)
      b.holderAssets)
    (hfree : ∀ h ∈ l, (b.holderIndex id).get h = none)
    (hfits : PushesFit id b.holderAssets l) : Indexed b' where
  index := by
    intro i q h
    rw [hindex, get_foldl_insert]
    by_cases hin : i = id ∧ h ∈ l
    · obtain ⟨rfl, hin⟩ := hin
      rw [if_pos ⟨rfl, hin⟩]
      by_cases hq : q = pid
      · subst hq
        exact iff_of_true rfl ((hheld h).mpr (.inl hin))
      · rw [hne i q fun hiq => hq hiq.2, ← hb.index, hfree h hin]
        exact iff_of_false (fun heq => hq (Option.some.inj heq).symm) nofun
    · rw [if_neg hin, hb.index]
      by_cases hiq : i = id ∧ q = pid
      · obtain ⟨rfl, rfl⟩ := hiq
        rw [hheld]
        exact (or_iff_right fun hl => hin ⟨rfl, hl⟩).symm
      · rw [hne i q hiq]
  nodup := by
    intro h
    rw [hassets]
    exact nodup_foldl_push hfits (hb.nodup h)
  assets := by
    intro h i
    rw [hassets, mem_foldl_push hfits, hb.assets, hindex, get_foldl_insert]
    by_cases hin : i = id ∧ h ∈ l <;> simp [hin]

/-- Accounts leave the group of one participation. -/
theorem Indexed.leave (hb : Indexed b)
    (hne : ∀ i q, ¬ (i = id ∧ q = pid) → b'.held i q = b.held i q)
    (hheld : ∀ h, h ∈ b'.held id pid ↔ h ∉ l ∧ h ∈ b.held id pid)
    (hmem : ∀ h ∈ l, h ∈ b.held id pid)
    (hindex : b'.holderIndex = l.foldl (fun m h => m.remove id h) b.holderIndex)
    (hassets : b'.holderAssets = l.foldl (fun f h =>
      Function.update f h ((f h).removeFirst id)) b.holderAssets) :
    Indexed b' where
  index := by
    intro i q h
    rw [hindex, get_foldl_remove]
    by_cases hin : i = id ∧ h ∈ l
    · obtain ⟨rfl, hin⟩ := hin
      rw [if_pos ⟨rfl, hin⟩]
      refine iff_of_false nofun fun hq => ?_
      by_cases hqpid : q = pid
      · exact ((hheld h).mp (hqpid ▸ hq)).1 hin
      · rw [hne i q fun hiq => hqpid hiq.2, ← hb.index] at hq
        have hold := (hb.index i pid h).mpr (hmem h hin)
        exact hqpid (Option.some.inj (hq.symm.trans hold))
    · rw [if_neg hin, hb.index]
      by_cases hiq : i = id ∧ q = pid
      · obtain ⟨rfl, rfl⟩ := hiq
        rw [hheld]
        exact (and_iff_right fun hl => hin ⟨rfl, hl⟩).symm
      · rw [hne i q hiq]
  nodup := by
    intro h
    rw [hassets, toList_foldl_erase _ _ _ (hb.nodup h)]
    split
    · exact (hb.nodup h).erase id
    · exact hb.nodup h
  assets := by
    intro h i
    rw [hassets, toList_foldl_erase _ _ _ (hb.nodup h), hindex,
      get_foldl_remove]
    by_cases hl : h ∈ l
    · rw [if_pos hl, (hb.nodup h).mem_erase_iff, hb.assets]
      by_cases hi : i = id <;> simp [hi, hl]
    · simp [hl, hb.assets]

end Group

/-! ## Moves -/

section Moves

variable {a : Action R} {now : Nat} {b b' : Books R}

theorem checkHolders_eq_ok {hs : List R.AccountId} {u : Unit}
    (h : checkHolders b id hs = .ok u) :
    ∀ k ∈ hs, (b.holderIndex id).get k = none ∧
      (b.holderAssets k).toList.length < R.maxParticipationsPerHolder := by
  induction hs with
  | nil => exact fun k hk => (List.not_mem_nil hk).elim
  | cons k hs ih =>
      simp only [checkHolders, do_eq_ok] at h
      obtain ⟨hindex, hroom, hrest⟩ := h
      exact List.forall_mem_cons.mpr ⟨⟨hindex, hroom⟩, ih hrest⟩

private theorem initialized_indexes (b : Books R) (n : Nat) :
    (b.initialized n).participations = b.participations ∧
      (b.initialized n).holderIndex = b.holderIndex ∧
      (b.initialized n).holderAssets = b.holderAssets :=
  Books.initialized_induct (I := fun b₁ =>
    b₁.participations = b.participations ∧ b₁.holderIndex = b.holderIndex ∧
      b₁.holderAssets = b.holderAssets) ⟨rfl, rfl, rfl⟩
    fun _ _ _ _ hb₁ _ _ => hb₁

private theorem Indexed.sameGroup {p' : Participation R} (hb : Indexed b)
    (hp : (b.participations id).get pid = some p)
    (hlive : p.status.isLive = true)
    (hparts : b'.participations = b.participations.insert id pid p')
    (hlive' : p'.status.isLive = true) (hholders : p'.holders = p.holders)
    (hindex : b'.holderIndex = b.holderIndex)
    (hassets : b'.holderAssets = b.holderAssets) : Indexed b' := by
  refine hb.congr (fun i q => ?_) hindex hassets
  by_cases hi : i = id ∧ q = pid
  · obtain ⟨rfl, rfl⟩ := hi
    simp [Books.held, hparts, hlive', hp, hlive, hholders]
  · exact held_insert_ne hparts i q hi

/-- All leave the group of a live participation that ends. -/
private theorem Indexed.left (hb : Indexed b)
    (hp : (b.participations id).get pid = some p)
    (hlive : p.status.isLive = true)
    (hne : ∀ i q, ¬ (i = id ∧ q = pid) → b'.held i q = b.held i q)
    (hgone : b'.held id pid = [])
    (hindex : b'.holderIndex = p.holders.toList.foldl
      (fun m h => m.remove id h) b.holderIndex)
    (hassets : b'.holderAssets = p.holders.toList.foldl
      (fun f h => Function.update f h ((f h).removeFirst id))
      b.holderAssets) : Indexed b' := by
  have hold := held_of_live hp hlive
  refine hb.leave hne (fun h => ?_) (fun h hh => hold ▸ hh) hindex hassets
  rw [hgone, hold]
  simp

private theorem Indexed.closed {status : ParticipationStatus} {w : R.World}
    (hb : Indexed b) (hp : (b.participations id).get pid = some p)
    (hlive : p.status.isLive = true) (hended : status.isLive = false) :
    Indexed ({ b with world := w }.closed id pid p status) := by
  refine hb.left hp hlive (held_insert_ne rfl) ?_ rfl rfl
  refine held_of_ended
    (p := { p with status := status, depositHeld := 0 }) ?_ hended
  simp [Books.closed, Books.removeAllHolderIndexes, Books.decParticipantCount]

private theorem eq_singleton_of_erase {α : Type} [DecidableEq α] {l : List α}
    {x : α} (hmem : x ∈ l) (h : l.erase x = []) : l = [x] := by
  have hperm := List.perm_cons_erase hmem
  rw [h] at hperm
  exact List.perm_singleton.mp hperm

theorem Indexed.move (hb : Indexed b) (h : Move a now b b') (hs : Sound b)
    (hg : Grouped b) : Indexed b' := by
  cases h with
  | initialized =>
      obtain ⟨hparts, hindex, hassets⟩ := initialized_indexes b now
      exact hb.congr (fun i q => held_congr (by rw [hparts])) hindex hassets
  | @requested g payer id asset group w _ hget _ _ hnodup _ hholders =>
      have hcheck := checkHolders_eq_ok hholders
      have hold : b.held id (b.nextParticipationId id) = [] := by
        refine held_of_none ?_
        have hnone := hs.entries id _ (Nat.le_refl _)
        simpa [Books.entry] using hnone
      refine hb.enter (held_insert_ne rfl) (fun h => ?_) rfl rfl
        (fun k hk => (hcheck k hk).1)
        (pushesFit_of_room hnodup fun k hk => (hcheck k hk).2)
      rw [mem_held_insert (p := asset.newParticipation id now payer group) rfl,
        hold, or_iff_left List.not_mem_nil]
      refine and_iff_right ?_
      unfold AssetInfo.newParticipation
      dsimp only
      split <;> rfl
  | approved _ _ _ hp hpending =>
      have hlive : ParticipationStatus.pendingApproval.isLive = true := rfl
      exact hb.sameGroup hp (hpending ▸ hlive) rfl rfl rfl rfl rfl
  | @rejected g o id pid asset p w _ _ hp hpending =>
      have hlive : p.status.isLive = true := by rw [hpending]; rfl
      refine hb.left hp hlive ?_ ?_ rfl rfl
      · intro i q hne
        exact held_congr (StorageDoubleMap.get_remove_ne _ hne)
      · refine held_of_none ?_
        simp [Books.withoutPending, Books.removeAllHolderIndexes,
          Books.decParticipantCount]
  | closed _ hp hend =>
      obtain ⟨hlive, hstatus, _⟩ := hend.summary
      refine hb.closed hp ?_ hstatus
      rcases hlive with ⟨hactive, _⟩ | ⟨hlive, _⟩
      · exact isLive_of_isActive hactive
      · exact hlive
  | slashed _ _ _ _ hp hrun =>
      exact hb.closed hp (isLive_of_isActive hrun.1) rfl
  | @leftLast g who holder id pid asset p w _ _ hp hrun hholder hlast =>
      have hold := held_of_live hp (isLive_of_isActive hrun.1)
      refine hb.leave (l := [holder]) (held_insert_ne rfl) (fun h => ?_)
        (by simpa [hold] using hholder) ?_ ?_
      · rw [mem_held_insert (p := { p with
            holders := p.holders.removeFirst holder
            status := .exited
            depositHeld := 0 }) rfl, hold,
          eq_singleton_of_erase hholder hlast]
        exact iff_of_false (fun hlive => by cases hlive.1) (by simp)
      · show (p.holders.toList.erase holder).foldl _ _ = _
        rw [hlast]
        rfl
      · show (p.holders.toList.erase holder).foldl _ _ = _
        rw [hlast]
        rfl
  | renewed _ _ _ hp hrun =>
      exact hb.sameGroup hp (isLive_of_isActive hrun.1) rfl rfl rfl rfl rfl
  | @reopened g id pid asset p w₁ w _ _ _ hp hexpired _ hindex hroom =>
      have hdead : p.status.isLive = false := by rw [hexpired]; rfl
      refine hb.enter (held_insert_ne rfl) (fun h => ?_) rfl rfl hindex
        (pushesFit_of_room (hg id pid p hp (.inr hexpired)).1 hroom)
      rw [mem_held_insert (p := { p with
          depositHeld := asset.policy.deposit
          status := asset.policy.term now }) rfl, held_of_ended hp hdead,
        or_iff_left List.not_mem_nil]
      exact and_iff_right rfl
  | @holderAdded g holder id pid asset p holders _ _ hp hrun _ hindex hroom _
      hpush =>
      have hlive := isLive_of_isActive hrun.1
      refine hb.enter (l := [holder]) (held_insert_ne rfl) (fun h => ?_) rfl rfl
        (by simpa using hindex) ⟨.inr hroom, trivial⟩
      rw [mem_held_insert (p := { p with holders := holders }) rfl,
        and_iff_right hlive, BoundedVec.toList_of_tryPush hpush,
        held_of_live hp hlive, List.mem_append, or_comm]
  | @holderDropped g who holder id pid asset p _ _ hp hrun hholder =>
      have hlive := isLive_of_isActive hrun.1
      have hold := held_of_live hp hlive
      refine hb.leave (l := [holder]) (held_insert_ne rfl) (fun h => ?_)
        (by simpa [hold] using hholder) rfl rfl
      rw [mem_held_insert (p := { p with
          holders := p.holders.removeFirst holder }) rfl, and_iff_right hlive,
        BoundedVec.toList_removeFirst,
        (hg id pid p hp (.inl hlive)).1.mem_erase_iff, hold,
        List.mem_singleton]
  | payerChanged _ _ _ hp hrun =>
      have hlive := isLive_of_isActive hrun.1
      exact hb.sameGroup hp hlive rfl hlive rfl rfl rfl
  | @retired g o id asset =>
      have hsame : (b.dropSchedule id asset).participations =
          b.participations ∧ (b.dropSchedule id asset).holderIndex =
          b.holderIndex ∧ (b.dropSchedule id asset).holderAssets =
          b.holderAssets := by
        unfold Books.dropSchedule
        split <;> exact ⟨rfl, rfl, rfl⟩
      exact hb.congr (fun i q => held_congr (by
        show ((b.dropSchedule id asset).participations i).get q = _
        rw [hsame.1])) hsame.2.1 hsame.2.2
  | outside | registered | policyUpdated | statusSet | sunset | requeued
  | slashDistributionSet | ownerProposed | ownerAccepted | ownerCancelled
  | beneficiarySet | metadataSet => exact hb.congr (fun _ _ => rfl) rfl rfl

private theorem Grouped.insert (hg : Grouped b)
    (hparts : b'.participations = b.participations.insert id pid p)
    (hp : (p.status.isLive = true ∨ p.status = .expired) →
      p.holders.toList.Nodup ∧ p.holders.toList ≠ []) : Grouped b' := by
  unfold Grouped
  rw [hparts]
  exact StorageDoubleMap.forall_insert hg hp

private theorem Grouped.congr (hg : Grouped b)
    (hparts : b'.participations = b.participations) : Grouped b' := by
  intro i q p hp
  rw [hparts] at hp
  exact hg i q p hp

theorem Grouped.move (hg : Grouped b) (h : Move a now b b') : Grouped b' := by
  cases h with
  | initialized => exact hg.congr (initialized_indexes b now).1
  | requested _ _ _ hne hnodup => exact hg.insert rfl fun _ => ⟨hnodup, hne⟩
  | @approved g o id pid asset p w _ _ _ hp hpending =>
      refine hg.insert rfl fun _ => hg id pid p hp (.inl ?_)
      rw [hpending]
      rfl
  | rejected => exact StorageDoubleMap.forall_remove hg
  | @closed id pid amount asset p status w _ hp hend =>
      obtain ⟨hlive, _, _⟩ := hend.summary
      refine hg.insert rfl fun _ => hg id pid p hp (.inl ?_)
      rcases hlive with ⟨hactive, _⟩ | ⟨hlive, _⟩
      · exact isLive_of_isActive hactive
      · exact hlive
  | @slashed g o id pid amount reporter asset p w₁ w _ _ _ _ hp hrun =>
      exact hg.insert rfl fun _ =>
        hg id pid p hp (.inl (isLive_of_isActive hrun.1))
  | leftLast =>
      refine hg.insert rfl fun hst => ?_
      rcases hst with hst | hst <;> cases hst
  | @renewed g id pid asset p w _ _ _ hp hrun =>
      exact hg.insert rfl fun _ =>
        hg id pid p hp (.inl (isLive_of_isActive hrun.1))
  | @reopened g id pid asset p w₁ w _ _ _ hp hexpired =>
      exact hg.insert rfl fun _ => hg id pid p hp (.inr hexpired)
  | @holderAdded g holder id pid asset p holders _ _ hp hrun hnew _ _ _
      hpush =>
      refine hg.insert rfl fun _ => ?_
      obtain ⟨hnodup, _⟩ := hg id pid p hp (.inl (isLive_of_isActive hrun.1))
      dsimp only
      rw [BoundedVec.toList_of_tryPush hpush]
      refine ⟨?_, by simp⟩
      rw [← List.concat_eq_append]
      exact (List.nodup_concat _ _).mpr ⟨hnew, hnodup⟩
  | @holderDropped g who holder id pid asset p _ _ hp hrun _ hrest =>
      refine hg.insert rfl fun _ => ?_
      obtain ⟨hnodup, _⟩ := hg id pid p hp (.inl (isLive_of_isActive hrun.1))
      exact ⟨hnodup.erase holder, hrest⟩
  | @payerChanged g id pid asset p newPayer _ _ _ hp hrun =>
      exact hg.insert rfl fun _ =>
        hg id pid p hp (.inl (isLive_of_isActive hrun.1))
  | @retired g o id asset =>
      refine hg.congr ?_
      show (b.dropSchedule id asset).participations = b.participations
      unfold Books.dropSchedule
      split <;> rfl
  | outside | registered | policyUpdated | statusSet | sunset | requeued
  | slashDistributionSet | ownerProposed | ownerAccepted | ownerCancelled
  | beneficiarySet | metadataSet => exact hg.congr rfl

end Moves

/-! ## Reachable states -/

theorem indexed_of_reachable {s : State R} (h : Reachable ok s) :
    Indexed s.toBooks ∧ Grouped s.toBooks := by
  have hall : Sound s.toBooks ∧ Indexed s.toBooks ∧ Grouped s.toBooks := by
    refine books_invariant (I := fun b => Sound b ∧ Indexed b ∧ Grouped b) ?_
      ?_ h
    · intro world
      refine ⟨Sound.genesis world, ⟨fun id pid h => ?_, fun h => ?_,
        fun h id => ?_⟩, fun id pid p hp => ?_⟩
      · exact iff_of_false (fun hnone => by cases hnone)
          (fun hmem => by cases hmem)
      · exact List.nodup_nil
      · exact iff_of_false (fun hmem => by cases hmem)
          (fun hnone => by cases hnone)
      · cases hp
    · rintro s a _ _ now b b' hmove ⟨hs, hb, hg⟩
      exact ⟨hs.change hmove.change, hb.move hmove hs hg, hg.move hmove⟩
  exact hall.2

/-- The calls of `push_holder_asset` that dispatchables make from a state do
not meet its overflow branch: those of a request, of an added holder, and of
the renewal of an expired participation, which comes after the settlement. -/
structure NoOverflow (s : State R) : Prop where
  requestParticipation : ∀ o id holders s',
    requestParticipation s o id holders = .ok s' →
    PushesFit id s.holderAssets holders
  addHolder : ∀ o id pid holder s', addHolder s o id pid holder = .ok s' →
    PushFits s.holderAssets holder id
  reopen : ∀ id pid p asset who s₁ p₁ settled p₂ r,
    (s.participations id).get pid = some p →
    trySettleExpiry s id pid p asset = .ok (s₁, p₁, settled) →
    (s₁.participations id).get pid = some p₂ → p₂.status = .expired →
    reopen s₁ id pid p₂ asset who = .ok r →
    PushesFit id s₁.holderAssets p₂.holders.toList

/-- The group of a participation that has been settled is the one it had. -/
private theorem Grouped.settled {s s₁ : State R} {p₁ p₂ : Participation R}
    {asset : AssetInfo R} {settled : Bool} (hg : Grouped s.toBooks)
    (hp : (s.participations id).get pid = some p)
    (hsettle : trySettleExpiry s id pid p asset = .ok (s₁, p₁, settled))
    (hp₂ : (s₁.participations id).get pid = some p₂)
    (hexpired : p₂.status = .expired) : p₂.holders.toList.Nodup := by
  rcases trySettleExpiry_cases hsettle with
    ⟨_, _, rfl, _⟩ | ⟨_, hlapsed, _, w, _, hbooks⟩
  · exact (hg id pid p₂ hp₂ (.inr hexpired)).1
  · have hactive : p.status.isActive = true := by
      unfold Participation.lapsed at hlapsed
      split at hlapsed
      · next hst => rw [hst]; rfl
      · cases hlapsed
    rw [hbooks] at hp₂
    simp only [Books.closed, Books.removeAllHolderIndexes,
      Books.decParticipantCount, StorageDoubleMap.insert_self,
      StorageMap.get_insert_self, Option.some.injEq] at hp₂
    subst hp₂
    exact (hg id pid p hp (.inl (isLive_of_isActive hactive))).1

theorem noOverflow_of_reachable {s : State R} (h : Reachable ok s) :
    NoOverflow s where
  requestParticipation := by
    intro o id holders s' hcall
    simp only [Rwa.requestParticipation, do_eq_ok] at hcall
    obtain ⟨_, _, _, _, _, _, _, _, hnodup, _, _, _, hholders, _⟩ := hcall
    exact pushesFit_of_room hnodup fun k hk =>
      (checkHolders_eq_ok hholders k hk).2
  addHolder := by
    intro o id pid holder s' hcall
    simp only [Rwa.addHolder, do_eq_ok] at hcall
    obtain ⟨_, _, _, _, _, _, _, _, _, _, _, hroom, _⟩ := hcall
    exact .inr hroom
  reopen := by
    intro id pid p asset who s₁ p₁ settled p₂ r hp hsettle hp₂ hexpired hcall
    simp only [Rwa.reopen, do_eq_ok] at hcall
    obtain ⟨_, _, _, hroom, _⟩ := hcall
    exact pushesFit_of_room
      ((indexed_of_reachable h).2.settled hp hsettle hp₂ hexpired) hroom

/-! ## The lookup by holder -/

theorem mem_participationsByHolder (hb : Indexed b) (h : R.AccountId)
    (id pid : Nat) :
    (id, pid) ∈ participationsByHolder b h ↔ h ∈ b.held id pid := by
  rw [← hb.index]
  unfold participationsByHolder
  simp only [List.mem_filterMap, Option.map_eq_some_iff, Prod.mk.injEq]
  constructor
  · rintro ⟨i, _, q, hindex, rfl, rfl⟩
    exact hindex
  · intro hindex
    refine ⟨id, (hb.assets h id).mpr ?_, pid, hindex, rfl, rfl⟩
    rw [hindex]
    rfl

theorem nodup_participationsByHolder (hb : Indexed b) (h : R.AccountId) :
    (participationsByHolder b h).Nodup := by
  refine (hb.nodup h).filterMap ?_
  intro i j x hi hj
  simp only [Option.mem_def, Option.map_eq_some_iff] at hi hj
  obtain ⟨q, _, rfl⟩ := hi
  obtain ⟨q', _, hj⟩ := hj
  exact (Prod.mk.inj hj).1.symm

/-- In every reachable state the participant count of an asset is the number of
its live participations; the holder index and the lists of assets say exactly
what the groups of the live participations say; those groups are proper ones;
so the lookup by holder returns the live participations of the holder, each
once, and no list of assets overflows. -/
theorem holder_indexes_exact {ok : State R → Action R → Prop} {s : State R}
    (h : Reachable ok s) :
    (∀ id asset, s.rwaAssets.get id = some asset →
      asset.participantCount =
        (s.participations id).count fun p => p.status.isLive) ∧
    (∀ id holder pid, (s.holderIndex id).get holder = some pid ↔
      ∃ p, (s.participations id).get pid = some p ∧
        p.status.isLive = true ∧ holder ∈ p.holders.toList) ∧
    (∀ holder, (s.holderAssets holder).toList.Nodup ∧
      ∀ id, id ∈ (s.holderAssets holder).toList ↔
        ((s.holderIndex id).get holder).isSome = true) ∧
    (∀ id pid p, (s.participations id).get pid = some p →
      p.status.isLive = true →
      p.holders.toList.Nodup ∧ p.holders.toList ≠ []) ∧
    (∀ holder, (participationsByHolder s.toBooks holder).Nodup ∧
      ∀ id pid, (id, pid) ∈ participationsByHolder s.toBooks holder ↔
        ∃ p, (s.participations id).get pid = some p ∧
          p.status.isLive = true ∧ holder ∈ p.holders.toList) ∧
    NoOverflow s := by
  obtain ⟨hb, hg⟩ := indexed_of_reachable h
  refine ⟨?_, ?_, ?_, ?_, ?_, noOverflow_of_reachable h⟩
  · intro id asset hget
    exact (sound_of_reachable h).counted id _ (Books.terms_of_get hget)
  · intro id holder pid
    rw [hb.index, mem_held]
  · exact fun holder => ⟨hb.nodup holder, hb.assets holder⟩
  · exact fun id pid p hp hlive => hg id pid p hp (.inl hlive)
  · intro holder
    refine ⟨nodup_participationsByHolder hb holder, fun id pid => ?_⟩
    rw [mem_participationsByHolder hb, mem_held]

/-- Account 2 takes part with account 3, who leaves, and adds account 4. -/
def regrouped : List (Action vault) :=
  [registered defaultPolicy, signedBy 2 (.requestParticipation 0 [2, 3]),
    signedBy 3 (.leaveParticipation 0 0), signedBy 2 (.addHolder 0 0 4)]

theorem holder_indexes_exact_regrouped :
    (∃ p, ((vaultAfter regrouped).participations 0).get 0 = some p ∧
      p.status.isLive = true ∧ 4 ∈ p.holders.toList) ∧
    NoOverflow (vaultAfter regrouped) := by
  have hreach : Reachable (fun _ _ => True) (vaultAfter regrouped) :=
    vaultAfter_reachable (fun _ _ _ => trivial) (by decide +kernel)
  obtain ⟨_, _, _, _, hlookup, hfits⟩ := holder_indexes_exact hreach
  exact ⟨((hlookup 4).2 0 0).mp (by decide +kernel), hfits⟩

end Thxnet.Rwa
