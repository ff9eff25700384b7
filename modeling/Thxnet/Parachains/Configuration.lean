import Thxnet.Parachains.Types

/-!
# The configuration over session changes

A change of the host configuration is scheduled for a later session: it waits
in `PendingConfigs` and becomes the active configuration when that session
begins.  The runtime upgrade that enables async backing writes its settings into
the active configuration only, so a configuration that waits at the time of the
upgrade replaces them.  `settings_survive_iff` says which of the waiting
configurations matter: those that are the last of the list for the session in
which they are applied.
-/

namespace Thxnet.Parachains

/-- The storage that the upgrade and the session changes read and write. -/
structure RelayState (ValidatorId : Type) where
  activeConfig : HostConfiguration
  pendingConfigs : List (Nat × HostConfiguration)
  currentSessionIndex : Nat
  parachains : List Nat
  activeValidatorKeys : List ValidatorId
  availabilityCores : List CoreOccupied
  claimQueue : List (Nat × List ParasEntry)

variable {V : Type}

/-! ## Session changes -/

/-- `SessionChangeOutcome`. -/
structure SessionChangeOutcome where
  prevConfig : HostConfiguration
  newConfig : Option HostConfiguration

/-- `configuration::initializer_on_new_session`. -/
def Configuration.initializerOnNewSession (s : RelayState V)
    (sessionIndex : Nat) : SessionChangeOutcome × RelayState V :=
  let prevConfig := s.activeConfig
  if s.pendingConfigs.isEmpty then (⟨prevConfig, none⟩, s)
  else
    let (pastAndPresent, future) :=
      s.pendingConfigs.partition fun p => decide (p.1 ≤ sessionIndex)
    let newConfig := pastAndPresent.getLast?.map Prod.snd
    (⟨prevConfig, newConfig⟩,
      { s with
        activeConfig := newConfig.getD s.activeConfig
        pendingConfigs := future })

/-- A session change, as far as the configuration and the session index are
concerned. -/
def newSession (s : RelayState V) : RelayState V :=
  let sessionIndex := s.currentSessionIndex + 1
  { (Configuration.initializerOnNewSession s sessionIndex).2 with
    currentSessionIndex := sessionIndex }

/-- The state after some session changes. -/
def afterSessions : Nat → RelayState V → RelayState V
  | 0, s => s
  | n + 1, s => afterSessions n (newSession s)

/-! ## The upgrade -/

/-- `BitVec::resize` to at least two bits. -/
def widened (features : List Bool) : List Bool :=
  if features.length < 2 then
    features ++ List.replicate (2 - features.length) false
  else features

/-- The changes the upgrade makes to a configuration. -/
def enabled (config : HostConfiguration)
    (defaultNumCores activeValidators : Nat) : HostConfiguration :=
  let numCores :=
    if config.schedulerParams.numCores = 0 then defaultNumCores
    else config.schedulerParams.numCores
  let features := ((widened config.nodeFeatures).set 0 true).set 1 true
  { config with
    schedulerParams :=
      { config.schedulerParams with
        numCores := numCores
        maxValidatorsPerCore :=
          if config.schedulerParams.maxValidatorsPerCore = none ∧
              15 ≤ activeValidators ∧ 3 ≤ numCores then some 5
          else config.schedulerParams.maxValidatorsPerCore
        lookahead :=
          if config.schedulerParams.lookahead < 1 then 1
          else config.schedulerParams.lookahead }
    asyncBackingParams :=
      { maxCandidateDepth :=
          if config.asyncBackingParams.maxCandidateDepth < 1 then 1
          else config.asyncBackingParams.maxCandidateDepth
        allowedAncestryLen :=
          if config.asyncBackingParams.allowedAncestryLen < 2 then 2
          else config.asyncBackingParams.allowedAncestryLen }
    nodeFeatures :=
      if 3 < features.length then features.set 3 false else features }

/-- `EnableAsyncBackingAndCoretime::on_runtime_upgrade`. -/
def enableAsyncBackingAndCoretime (s : RelayState V) : RelayState V :=
  { s with
    activeConfig := enabled s.activeConfig (max s.parachains.length 1)
      s.activeValidatorKeys.length
    availabilityCores := s.availabilityCores.map fun _ => .free
    claimQueue := [] }

/-- The settings the upgrade is to establish. -/
structure AsyncBackingEnabled (config : HostConfiguration) : Prop where
  numCores : 1 ≤ config.schedulerParams.numCores
  lookahead : 1 ≤ config.schedulerParams.lookahead
  maxCandidateDepth : 1 ≤ config.asyncBackingParams.maxCandidateDepth
  allowedAncestryLen : 2 ≤ config.asyncBackingParams.allowedAncestryLen
  assignmentsV2 : config.nodeFeatures[0]? = some true
  elasticScaling : config.nodeFeatures[1]? = some true

theorem widened_length (features : List Bool) :
    2 ≤ (widened features).length := by
  unfold widened
  split
  · rw [List.length_append, List.length_replicate]
    omega
  · omega

theorem enabled_features (config : HostConfiguration)
    (defaultNumCores activeValidators i : Nat) (hi : i < 2) :
    (enabled config defaultNumCores activeValidators).nodeFeatures[i]? =
      some true := by
  have hwide := widened_length config.nodeFeatures
  have hset : (((widened config.nodeFeatures).set 0 true).set 1 true)[i]? =
      some true := by
    have hlength : i < (widened config.nodeFeatures).length := by omega
    rcases (by omega : i = 0 ∨ i = 1) with rfl | rfl
    · rw [List.getElem?_set_ne (by omega), List.getElem?_set_self hlength]
    · rw [List.getElem?_set_self (by rwa [List.length_set])]
  dsimp only [enabled]
  split
  · rw [List.getElem?_set_ne (by omega), hset]
  · exact hset

/-- The upgrade establishes the settings in the active configuration. -/
theorem enabled_spec (config : HostConfiguration) {defaultNumCores : Nat}
    (h : 1 ≤ defaultNumCores) (activeValidators : Nat) :
    AsyncBackingEnabled (enabled config defaultNumCores activeValidators) := by
  refine ⟨?_, ?_, ?_, ?_, enabled_features _ _ _ 0 (by omega),
    enabled_features _ _ _ 1 (by omega)⟩ <;>
    dsimp only [enabled] <;> split <;> omega

/-! ## Which configurations are applied -/

/-- The configurations that will be applied, one session after the other, from
the session after `session` on.  Entries whose session has passed count for the
next one; of those for one session the last is applied. -/
def appliedConfigs (session : Nat) :
    List (Nat × HostConfiguration) → List HostConfiguration
  | [] => []
  | (j, config) :: rest =>
      if rest.any fun p => max p.1 (session + 1) == max j (session + 1) then
        appliedConfigs session rest
      else config :: appliedConfigs session rest

/-- The entries that the session applies or skips. -/
def due (session : Nat) (pending : List (Nat × HostConfiguration)) :
    List (Nat × HostConfiguration) :=
  pending.filter fun p => decide (p.1 ≤ session)

/-- The entries that it leaves. -/
def future (session : Nat) (pending : List (Nat × HostConfiguration)) :
    List (Nat × HostConfiguration) :=
  pending.filter fun p => decide (session < p.1)

theorem onNewSession_spec (s : RelayState V) (session : Nat) :
    (Configuration.initializerOnNewSession s session).2.activeConfig =
        ((due session s.pendingConfigs).getLast?.map Prod.snd).getD
          s.activeConfig ∧
      (Configuration.initializerOnNewSession s session).2.pendingConfigs =
        future session s.pendingConfigs := by
  unfold Configuration.initializerOnNewSession
  by_cases hempty : s.pendingConfigs.isEmpty = true
  · rw [if_pos hempty]
    rw [List.isEmpty_iff] at hempty
    simp [hempty, due, future]
  · rw [if_neg hempty, List.partition_eq_filter_filter]
    refine ⟨rfl, ?_⟩
    show s.pendingConfigs.filter _ = s.pendingConfigs.filter _
    congr 1
    funext p
    show (!decide (p.1 ≤ session)) = decide (session < p.1)
    rw [← decide_not, decide_eq_decide]
    exact Nat.not_le

/-- Of the entries for one session the last is applied, and the entries for
later sessions are treated in the same way from there on. -/
theorem mem_appliedConfigs {session : Nat}
    {pending : List (Nat × HostConfiguration)} {config : HostConfiguration} :
    config ∈ appliedConfigs session pending ↔
      (due (session + 1) pending).getLast?.map Prod.snd = some config ∨
        config ∈ appliedConfigs (session + 1) (future (session + 1) pending) := by
  induction pending with
  | nil => simp [appliedConfigs, due, future]
  | cons p rest ih =>
      obtain ⟨j, c⟩ := p
      by_cases hdue : j ≤ session + 1
      · have hd : due (session + 1) ((j, c) :: rest) =
            (j, c) :: due (session + 1) rest := by simp [due, hdue]
        have hf : future (session + 1) ((j, c) :: rest) =
            future (session + 1) rest := by simp [future, hdue]
        have hany : (rest.any fun p =>
            max p.1 (session + 1) == max j (session + 1)) = true ↔
            due (session + 1) rest ≠ [] := by
          rw [List.any_eq_true, Ne, due, List.filter_eq_nil_iff]
          push Not
          refine exists_congr fun p => and_congr_right fun _ => ?_
          simp only [beq_iff_eq, decide_eq_true_eq]
          omega
        rw [hd, hf, appliedConfigs]
        cases hrest : due (session + 1) rest with
        | nil =>
            rw [hrest] at ih hany
            rw [if_neg (by simpa using hany), List.mem_cons, ih]
            simp [eq_comm]
        | cons q qs =>
            rw [hrest] at ih hany
            rw [if_pos (hany.mpr (List.cons_ne_nil q qs)), ih,
              List.getLast?_cons_cons]
      · have hd : due (session + 1) ((j, c) :: rest) =
            due (session + 1) rest := by simp [due, hdue]
        have hf : future (session + 1) ((j, c) :: rest) =
            (j, c) :: future (session + 1) rest := by
          simp [future, Nat.lt_of_not_le hdue]
        have hany : (rest.any fun p =>
            max p.1 (session + 1) == max j (session + 1)) =
            ((future (session + 1) rest).any fun p =>
              max p.1 (session + 1 + 1) == max j (session + 1 + 1)) := by
          rw [Bool.eq_iff_iff, List.any_eq_true, List.any_eq_true]
          refine exists_congr fun p => ?_
          simp only [future, List.mem_filter, decide_eq_true_eq, beq_iff_eq,
            and_assoc]
          refine and_congr_right fun _ => ?_
          omega
        rw [hd, hf, appliedConfigs, appliedConfigs, hany]
        split
        · exact ih
        · rw [List.mem_cons, List.mem_cons, ih]
          exact or_left_comm

/-! ## Whole runs of session changes -/

/-- If the settings hold in the active configuration and in all that will be
applied, they hold after any number of session changes. -/
theorem enabled_after {n : Nat} {s : RelayState V}
    (hactive : AsyncBackingEnabled s.activeConfig)
    (happlied : ∀ config ∈ appliedConfigs s.currentSessionIndex
      s.pendingConfigs, AsyncBackingEnabled config) :
    AsyncBackingEnabled (afterSessions n s).activeConfig := by
  induction n generalizing s with
  | zero => exact hactive
  | succ n ih =>
      obtain ⟨hconfig, hpending⟩ :=
        onNewSession_spec s (s.currentSessionIndex + 1)
      refine ih (s := newSession s) ?_ ?_
      · show AsyncBackingEnabled
          (Configuration.initializerOnNewSession s _).2.activeConfig
        rw [hconfig]
        cases hlast : (due (s.currentSessionIndex + 1)
            s.pendingConfigs).getLast?.map Prod.snd with
        | none => exact hactive
        | some config =>
            exact happlied config (mem_appliedConfigs.mpr (.inl hlast))
      · intro config hmem
        refine happlied config (mem_appliedConfigs.mpr (.inr ?_))
        rw [← hpending]
        exact hmem

/-- A configuration that will be applied is active after some session
changes.  The induction is on how far ahead the entries are. -/
theorem exists_active {n : Nat} {s : RelayState V} {config : HostConfiguration}
    (hfar : ∀ p ∈ s.pendingConfigs, p.1 ≤ s.currentSessionIndex + n)
    (hmem : config ∈ appliedConfigs s.currentSessionIndex s.pendingConfigs) :
    ∃ k, (afterSessions k s).activeConfig = config := by
  induction n generalizing s with
  | zero =>
      obtain ⟨hconfig, _⟩ :=
        onNewSession_spec s (s.currentSessionIndex + 1)
      rcases mem_appliedConfigs.mp hmem with hlast | hlater
      · rw [hlast] at hconfig
        exact ⟨1, hconfig⟩
      · have hnone : future (s.currentSessionIndex + 1) s.pendingConfigs =
            [] := by
          rw [future, List.filter_eq_nil_iff]
          intro p hp
          have hle := hfar p hp
          rw [decide_eq_true_eq]
          omega
        rw [hnone] at hlater
        cases hlater
  | succ n ih =>
      obtain ⟨hconfig, hpending⟩ :=
        onNewSession_spec s (s.currentSessionIndex + 1)
      rcases mem_appliedConfigs.mp hmem with hlast | hlater
      · rw [hlast] at hconfig
        exact ⟨1, hconfig⟩
      · have hpending' : (newSession s).pendingConfigs =
            future (s.currentSessionIndex + 1) s.pendingConfigs := hpending
        have hfar' : ∀ p ∈ (newSession s).pendingConfigs,
            p.1 ≤ (newSession s).currentSessionIndex + n := by
          intro p hp
          rw [hpending'] at hp
          have hle := hfar p (List.mem_of_mem_filter hp)
          show p.1 ≤ s.currentSessionIndex + 1 + n
          omega
        rw [← hpending'] at hlater
        obtain ⟨k, hk⟩ := ih hfar' hlater
        exact ⟨k + 1, hk⟩

theorem exists_far (pending : List (Nat × HostConfiguration)) (session : Nat) :
    ∃ n, ∀ p ∈ pending, p.1 ≤ session + n := by
  induction pending with
  | nil => exact ⟨0, fun p hp => by cases hp⟩
  | cons q rest ih =>
      obtain ⟨n, hn⟩ := ih
      refine ⟨max n q.1, List.forall_mem_cons.mpr ⟨by omega, fun p hp => ?_⟩⟩
      have hle := hn p hp
      omega

/-- After the upgrade the settings hold over any number of session changes if
and only if they hold in every waiting configuration that will be applied. -/
theorem settings_survive_iff (s : RelayState V) :
    (∀ n, AsyncBackingEnabled
      (afterSessions n (enableAsyncBackingAndCoretime s)).activeConfig) ↔
    ∀ config ∈ appliedConfigs s.currentSessionIndex s.pendingConfigs,
      AsyncBackingEnabled config := by
  constructor
  · intro h config hmem
    obtain ⟨n, hfar⟩ := exists_far s.pendingConfigs s.currentSessionIndex
    obtain ⟨k, hk⟩ := exists_active (s := enableAsyncBackingAndCoretime s)
      hfar hmem
    rw [← hk]
    exact h k
  · intro h n
    exact enabled_after (enabled_spec _ (Nat.le_max_right _ _) _) h

/-! ### A change that was under way -/

/-- A configuration from before async backing. -/
def oldConfig : HostConfiguration where
  asyncBackingParams := ⟨0, 0⟩
  schedulerParams := ⟨20, none, 1, 0⟩
  nodeFeatures := []
  maxValidators := none
  disputePeriod := 6
  noShowSlots := 2
  nDelayTranches := 25
  zerothDelayTrancheWidth := 0
  neededApprovals := 2
  relayVrfModuloSamples := 2

/-- A chain with two parachains on which a longer dispute period has been
scheduled for session 102. -/
def underWay : RelayState Nat where
  activeConfig := oldConfig
  pendingConfigs := [(102, { oldConfig with disputePeriod := 12 })]
  currentSessionIndex := 100
  parachains := [1000, 1001]
  activeValidatorKeys := [1, 2, 3, 4]
  availabilityCores := [.free, .free]
  claimQueue := []

/-- Two sessions after the upgrade, async backing is off again. -/
theorem settings_lost :
    (afterSessions 1 (enableAsyncBackingAndCoretime
      underWay)).activeConfig.asyncBackingParams = ⟨1, 2⟩ ∧
    (afterSessions 2 (enableAsyncBackingAndCoretime
      underWay)).activeConfig.asyncBackingParams = ⟨0, 0⟩ ∧
    ¬ ∀ n, AsyncBackingEnabled (afterSessions n
      (enableAsyncBackingAndCoretime underWay)).activeConfig := by
  refine ⟨by decide, by decide, fun h => ?_⟩
  exact absurd (h 2).maxCandidateDepth (by decide)

end Thxnet.Parachains
