import Thxnet.Agent.Mock
import Thxnet.Agent.Registry

/-!
# The size of an agent's metadata

`register_agent` stores at most `MaxMetadataEntries` entries for a new agent.
`update_metadata` writes an entry without counting those there are, so an owner
can go past the bound one key at a time.  `metadata_bounded_iff` says in which
runs the bound holds throughout: those in which every update that writes under
a new key finds room.
-/

namespace Thxnet.Agent

open Thxnet.Lib Thxnet.Frame

variable {R : Config}

/-- Every agent has at most `MaxMetadataEntries` entries. -/
def Books.MetadataBounded (b : Books R) : Prop :=
  ∀ agentId, (b.agentMetadata agentId).keys.card ≤ R.maxMetadataEntries

/-- Ids that have not been given out have no metadata. -/
def Books.MetadataBelow (b : Books R) : Prop :=
  ∀ agentId, b.nextAgentId ≤ agentId →
    b.agentMetadata agentId = StorageMap.empty

/-- An update that writes under a new key finds room for one more entry. -/
def Books.MetadataRoom (b : Books R) : Action R → Prop
  | .call _ (.updateMetadata agentId key (some _)) =>
      (∀ boundedKey : BoundedVec UInt8 R.maxMetadataKeyLength,
        boundedKey.toList = key →
          (b.agentMetadata agentId).get boundedKey = none) →
      (b.agentMetadata agentId).keys.card < R.maxMetadataEntries
  | _ => True

/-! ## The calls that write metadata -/

variable {a : Action R} {agentId : Nat} {s s' : State R}

theorem storeMetadata_spec
    {m m' : StorageDoubleMap Nat (BoundedVec UInt8 R.maxMetadataKeyLength)
      (BoundedVec UInt8 R.maxMetadataValueLength)}
    {metadata : List (List UInt8 × List UInt8)}
    (h : storeMetadata agentId m metadata = .ok m') :
    (m' agentId).keys.card ≤ (m agentId).keys.card + metadata.length ∧
      ∀ i, i ≠ agentId → m' i = m i := by
  induction metadata generalizing m with
  | nil =>
      cases h
      exact ⟨Nat.le_refl _, fun _ _ => rfl⟩
  | cons entry rest ih =>
      obtain ⟨key, value⟩ := entry
      simp only [storeMetadata, do_eq_ok] at h
      obtain ⟨boundedKey, _, boundedValue, _, hrest⟩ := h
      obtain ⟨hcard, hother⟩ := ih hrest
      have hone : ((m agentId).insert boundedKey boundedValue).keys.card ≤
          (m agentId).keys.card + 1 := Finset.card_insert_le _ _
      rw [StorageDoubleMap.insert_self] at hcard
      refine ⟨?_, fun i hi => ?_⟩
      · rw [List.length_cons]
        omega
      · rw [hother i hi, StorageDoubleMap.insert_ne _ _ _ hi]

theorem updateMetadata_spec {o : Origin R.AccountId} {key : List UInt8}
    {value : Option (List UInt8)}
    (h : updateMetadata s o agentId key value = .ok s') :
    ∃ boundedKey : BoundedVec UInt8 R.maxMetadataKeyLength,
      boundedKey.toList = key ∧ s'.nextAgentId = s.nextAgentId ∧
      (s.agents.get agentId).isSome = true ∧
      match value with
      | some _ => ∃ v, s'.agentMetadata =
          s.agentMetadata.insert agentId boundedKey v
      | none => s'.agentMetadata =
          s.agentMetadata.remove agentId boundedKey := by
  simp only [updateMetadata, do_eq_ok, ownedAgent_eq_ok] at h
  obtain ⟨_, _, agent, ⟨hagent, _⟩, boundedKey, hkey, agentMetadata, hmeta,
    rfl⟩ := h
  refine ⟨boundedKey, BoundedVec.toList_of_tryFrom hkey, rfl,
    by rw [hagent]; rfl, ?_⟩
  cases value with
  | none =>
      cases hmeta
      rfl
  | some =>
      obtain ⟨v, _, heq⟩ := bind_eq_ok.mp hmeta
      cases heq
      exact ⟨v, rfl⟩

/-- Whether a step can write metadata. -/
def Action.writesMetadata : Action R → Bool
  | .call _ (.registerAgent _ _) => true
  | .call _ (.updateMetadata _ _ _) => true
  | _ => false

/-- The other steps leave metadata and ids of agents alone. -/
theorem Effect.metadata_kept {b b' : Books R} {now : Nat}
    (h : Effect b now a b') (ha : a.writesMetadata = false) :
    b'.agentMetadata = b.agentMetadata ∧ b'.nextAgentId = b.nextAgentId := by
  cases h with
  | registerAgent | updateMetadata => cases ha
  | _ => exact ⟨rfl, rfl⟩

/-! ## One step -/

/-- What the count of a step needs: ids in order, and no metadata ahead of
them. -/
structure Books.MetadataSound (b : Books R) : Prop where
  sound : Sound b
  below : b.MetadataBelow

theorem Books.MetadataBelow.register {b b' : Books R} (h : b.MetadataBelow)
    {metadata : List (List UInt8 × List UInt8)}
    (hstore : storeMetadata b.nextAgentId b.agentMetadata metadata =
      .ok b'.agentMetadata) (hnext : b'.nextAgentId = b.nextAgentId + 1) :
    b'.MetadataBelow ∧
      (metadata.length ≤ R.maxMetadataEntries → b.MetadataBounded →
        b'.MetadataBounded) := by
  obtain ⟨hcard, hother⟩ := storeMetadata_spec hstore
  constructor
  · intro i hi
    rw [hother i (by omega)]
    exact h i (by omega)
  · intro hlength hbounded i
    by_cases hi : i = b.nextAgentId
    · have hempty : (b.agentMetadata b.nextAgentId).keys.card = 0 := by
        rw [h b.nextAgentId (Nat.le_refl _)]
        rfl
      rw [hi]
      omega
    · rw [hother i hi]
      exact hbounded i

theorem Books.MetadataSound.step (h : s.toBooks.MetadataSound)
    (hstep : Agent.step s a = .ok s') : s'.toBooks.MetadataSound := by
  have heff := step_effect hstep
  refine ⟨h.sound.effect heff, ?_⟩
  cases ha : a.writesMetadata with
  | false =>
      obtain ⟨hmeta, hnext⟩ := heff.metadata_kept ha
      intro i hi
      rw [hmeta]
      exact h.below i (hnext ▸ hi)
  | true =>
      generalize s'.toBooks = b' at heff ⊢
      cases heff with
      | registerAgent _ _ _ hstore => exact (h.below.register hstore rfl).1
      | @updateMetadata _ agentId _ _ _ _ _ hagent _ hmeta =>
          intro i hi
          have hlt := h.sound.agents agentId _ hagent
          have hne : i ≠ agentId := Nat.ne_of_gt (Nat.lt_of_lt_of_le hlt hi)
          rcases hmeta with ⟨v, rfl⟩ | rfl
          · show s.agentMetadata.insert agentId _ v i = _
            rw [StorageDoubleMap.insert_ne _ _ _ hne]
            exact h.below i hi
          · show s.agentMetadata.remove agentId _ i = _
            rw [StorageDoubleMap.remove_ne _ _ hne]
            exact h.below i hi
      | _ => cases ha

/-- An update keeps the bound exactly if it finds room. -/
theorem updateMetadata_bounded_iff {o : Origin R.AccountId} {key : List UInt8}
    {value : Option (List UInt8)} (hbounded : s.toBooks.MetadataBounded)
    (h : updateMetadata s o agentId key value = .ok s') :
    s'.toBooks.MetadataBounded ↔
      s.toBooks.MetadataRoom (.call o (.updateMetadata agentId key value)) := by
  obtain ⟨boundedKey, rfl, _, _, hwrite⟩ := updateMetadata_spec h
  cases value with
  | none =>
      refine iff_of_true (fun i => ?_) trivial
      rw [show s'.agentMetadata = _ from hwrite]
      by_cases hi : i = agentId
      · subst hi
        rw [StorageDoubleMap.remove_self]
        exact (Finset.card_erase_le).trans (hbounded i)
      · rw [StorageDoubleMap.remove_ne _ _ hi]
        exact hbounded i
  | some =>
      obtain ⟨v, hwrite⟩ := hwrite
      have hother : ∀ i, i ≠ agentId →
          (s'.agentMetadata i).keys.card ≤ R.maxMetadataEntries := by
        intro i hi
        rw [hwrite, StorageDoubleMap.insert_ne _ _ _ hi]
        exact hbounded i
      have hself : s'.toBooks.MetadataBounded ↔
          ((s.agentMetadata agentId).insert boundedKey v).keys.card ≤
            R.maxMetadataEntries := by
        rw [← StorageDoubleMap.insert_self s.agentMetadata, ← hwrite]
        refine ⟨fun hall => hall agentId, fun hle i => ?_⟩
        by_cases hi : i = agentId
        · exact hi ▸ hle
        · exact hother i hi
      have hkey : (∀ k : BoundedVec UInt8 R.maxMetadataKeyLength,
          k.toList = boundedKey.toList →
            (s.agentMetadata agentId).get k = none) ↔
          (s.agentMetadata agentId).get boundedKey = none :=
        ⟨fun hall => hall boundedKey rfl,
          fun hnone k hk => BoundedVec.ext hk ▸ hnone⟩
      rw [hself, Books.MetadataRoom, hkey]
      cases hget : (s.agentMetadata agentId).get boundedKey with
      | none =>
          rw [StorageMap.card_insert_new hget]
          exact ⟨fun hle _ => hle, fun hroom => hroom rfl⟩
      | some =>
          rw [StorageMap.card_insert_old hget]
          exact iff_of_true (hbounded agentId) (fun hnone => by cases hnone)

/-- A step keeps the bound exactly if it finds room. -/
theorem step_bounded_iff (hsound : s.toBooks.MetadataSound)
    (hbounded : s.toBooks.MetadataBounded) (hstep : step s a = .ok s') :
    s'.toBooks.MetadataBounded ↔ s.toBooks.MetadataRoom a := by
  have heff := step_effect hstep
  cases ha : a.writesMetadata with
  | false =>
      have hroom : s.toBooks.MetadataRoom a := by
        unfold Books.MetadataRoom
        split
        · cases ha
        · trivial
      refine iff_of_true (fun i => ?_) hroom
      rw [(heff.metadata_kept ha).1]
      exact hbounded i
  | true =>
      generalize hb : s'.toBooks = b' at heff
      cases heff with
      | registerAgent hcount _ _ hstore =>
          exact iff_of_true ((hsound.below.register hstore rfl).2 hcount
            hbounded) trivial
      | updateMetadata =>
          rw [← hb]
          exact updateMetadata_bounded_iff hbounded hstep
      | _ => cases ha

/-! ## Whole runs -/

/-- In a run from genesis every agent has at most `MaxMetadataEntries` entries
all along exactly if every update that writes under a new key finds room. -/
theorem metadata_bounded_iff {world : R.World} {now : Nat} {s : State R}
    {t : List (State R × Action R)}
    (hrun : Transition.Run step ⟨Store.genesis R world, now⟩ t s) :
    (∀ past m, past <+: t →
      Transition.Run step ⟨Store.genesis R world, now⟩ past m →
      ∀ agentId, (m.agentMetadata agentId).keys.card ≤ R.maxMetadataEntries) ↔
    ∀ p ∈ t, p.1.toBooks.MetadataRoom p.2 := by
  refine hrun.always_iff (f := fun (_ : Unit) _ => ())
    (I := fun s => s.toBooks.MetadataSound)
    (J := fun s _ => s.toBooks.MetadataBounded)
    (fun _ _ _ hs hstep => hs.step hstep)
    (fun _ _ _ _ hs hJ hstep => step_bounded_iff hs hJ hstep)
    ⟨.genesis world, fun _ _ => rfl⟩ (b := ()) ?_
  intro agentId
  exact Nat.zero_le _

/-! ### An agent with a full list -/

/-- Account 1 registers an agent with `n` entries. -/
def registration (n : Nat) : Action bank :=
  signedBy 1 (.registerAgent []
    ((List.range n).map fun i => ([UInt8.ofNat i], [])))

/-- Account 1 writes one more entry. -/
def oneMore : Action bank := signedBy 1 (.updateMetadata 0 [100] (some []))

/-- Where there is room for the entry, the bound holds all along. -/
theorem metadata_bounded_iff_room :
    ∃ s t, Transition.Run step bankGenesis t s ∧ t.length = 2 ∧
      ∀ past m, past <+: t → Transition.Run step bankGenesis past m →
        ∀ agentId, (m.agentMetadata agentId).keys.card ≤ 20 := by
  have hfirst := @Transition.step_final _ _ _ Agent.step bankGenesis
    (registration 19) (by decide +kernel)
  have hsecond := @Transition.step_final _ _ _ Agent.step
    (bankAfter [registration 19]) oneMore (by decide +kernel)
  have hrun := Transition.Run.cons hfirst (.cons hsecond (.nil _))
  refine ⟨_, _, hrun, rfl, (metadata_bounded_iff hrun).mpr ?_⟩
  have hroom : ((bankAfter [registration 19]).agentMetadata 0).keys.card <
      20 := by decide +kernel
  intro p hp
  rcases List.mem_cons.mp hp with rfl | hp
  · trivial
  · cases List.mem_singleton.mp hp
    exact fun _ => hroom

/-- Without room it is written all the same. -/
theorem metadata_overfull :
    Reachable (fun _ _ => True) (bankAfter [registration 20, oneMore]) ∧
      bank.maxMetadataEntries = 20 ∧
      ((bankAfter [registration 20, oneMore]).agentMetadata 0).keys.card =
        21 :=
  ⟨bankAfter_reachable (by decide +kernel), rfl, by decide +kernel⟩

end Thxnet.Agent
