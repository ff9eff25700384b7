import Thxnet.Grandpa.Handover

/-!
# The migration against the finality deadlock

`FixGrandpaFinalityDeadlock` of the rootchain runtime does once what the rescue
does.  But migrations run before `frame_system` has been given the number of the
new block: the change is recorded as scheduled in the block before, so
`on_finalize` neither signals nor enacts it, in this block or any later one, and
no further change can be scheduled (`migration_blocks_changes`).

`migration_restores_iff` says that this is the only thing wrong: the block would
do what is intended exactly if it had the number stored before it.
-/

namespace Thxnet.Grandpa

open Thxnet.Lib Thxnet.Frame Transition

variable {R : Config}

/-! ## The block of the upgrade -/

namespace State

/-- `FixGrandpaFinalityDeadlock::on_runtime_upgrade`. -/
def fixGrandpaFinalityDeadlock (s : State R) : State R :=
  if 14250000 < s.blockNumber then s
  else
    let s := s.clearPending
    if s.authorities = [] then s
    else
      match s.scheduleChange s.authorities 0 (some 14206447) with
      | .ok s => { s with currentSetId := wrappingAdd 64 s.currentSetId 1 }
      | .error _ => s

/-- `MigrateV4ToV5`, the other migration that writes the storage of the pallet:
where it has not run before, it takes the authorities from their old place. -/
def migrateV4ToV5 (s : State R) (old : Option R.AuthorityList) : State R :=
  { s with authorities := old.getD s.authorities }

end State

/-- A new session as the session pallet announces it. -/
structure Session (R : Config) where
  changed : Bool
  validators : List R.AuthorityId
  sessionIndex : Nat

/-- The announcement. -/
def State.announce (s : State R) (session : Session R) : State R :=
  s.onNewSession session.changed session.validators session.sessionIndex

/-- `execute_block` for the block numbered `number` after an upgrade: the
migrations, `frame_system::initialize`, the sessions that begin, and
`on_finalize`. -/
def upgradeBlock (s : State R) (number : Nat) (old : Option R.AuthorityList)
    (sessions : List (Session R)) : State R :=
  let s := s.fixGrandpaFinalityDeadlock.migrateV4ToV5 old
  let s := sessions.foldl State.announce (s.initializeBlock number)
  s.onFinalize number

/-- The log forces a change. -/
def ConsensusLog.isForced : ConsensusLog R → Bool
  | .forcedChange _ _ _ => true
  | _ => false

/-- What the block is for: one forced change is signalled and counted, nothing
is pending, and the next session with new validators can schedule its
change. -/
structure Restored (s s' : State R) : Prop where
  signalled : s'.logs.countP ConsensusLog.isForced =
    s.logs.countP ConsensusLog.isForced + 1
  setId : s'.currentSetId = wrappingAdd 64 s.currentSetId 1
  clear : s'.pendingChange = none
  next : ∀ number validators sessionIndex,
    (handover (s'.initializeBlock number,
      .newSession true validators sessionIndex)).isSome = true

/-! ## What the migration leaves -/

/-- The change of the migration. -/
def fixChange (s : State R) : StoredPendingChange R :=
  ⟨s.blockNumber, 0, s.authorities, some 14206447⟩

/-- The change of the migration is pending and counted. -/
structure Parked (s s' : State R) : Prop where
  pendingChange : s'.pendingChange = some (fixChange s)
  currentSetId : s'.currentSetId = wrappingAdd 64 s.currentSetId 1
  stalled : s'.stalled = none
  logs : s'.logs = s.logs

section Parked

variable {s s' : State R}

theorem parked_fix (hauthorities : s.authorities ≠ [])
    (hrange : s.blockNumber ≤ 14250000) :
    Parked s s.fixGrandpaFinalityDeadlock := by
  unfold State.fixGrandpaFinalityDeadlock
  rw [if_neg (Nat.not_lt.mpr hrange)]
  dsimp only
  rw [if_neg (show s.clearPending.authorities ≠ [] from hauthorities)]
  exact ⟨rfl, rfl, rfl, rfl⟩

/-- A session that begins while the change is pending cannot schedule its
own. -/
theorem Parked.announce (h : Parked s s') (session : Session R) :
    Parked s (s'.announce session) := by
  have hstalled : (s'.announce session).stalled = none := by
    unfold State.announce State.onNewSession
    split
    · cases hchange : s'.sessionChange session.validators with
      | error => rfl
      | ok =>
          obtain ⟨_, c, _, hs₁⟩ := sessionChange_eq_ok hchange
          rw [hs₁]
          rfl
    · exact h.stalled
  cases newSession_effect s' session.changed session.validators
      session.sessionIndex with
  | idle _ hidle =>
      exact ⟨hidle.pendingChange.trans h.pendingChange,
        hidle.currentSetId.trans h.currentSetId, hstalled,
        hidle.logs.trans h.logs⟩
  | session _ hpending _ =>
      rw [h.pendingChange] at hpending
      cases hpending
  | rescue hr _ _ _ => cases hr

theorem Parked.sessions (h : Parked s s') (sessions : List (Session R)) :
    Parked s (sessions.foldl State.announce s') := by
  induction sessions generalizing s' with
  | nil => exact h
  | cons session rest ih => exact ih (h.announce session)

/-- The end of a block with another number leaves the change pending. -/
theorem Parked.onFinalize_ne (h : Parked s s') {number : Nat}
    (hrange : s.blockNumber ≤ 14250000) (hne : number ≠ s.blockNumber) :
    (s'.onFinalize number).pendingChange = some (fixChange s) := by
  have hdue : number ≠
      wrappingAdd 32 (fixChange s).scheduledAt (fixChange s).delay := by
    show number ≠ (s.blockNumber + 0) % 2 ^ 32
    omega
  obtain ⟨logs, hs', _⟩ := finalizeState_eq (s'.finalizeChange number) number
  unfold State.onFinalize
  rw [hs']
  show (s'.finalizeChange number).pendingChange = some (fixChange s)
  unfold State.finalizeChange
  rw [h.pendingChange]
  dsimp only
  rw [if_neg (show number ≠ (fixChange s).scheduledAt from hne), if_neg hdue]
  exact h.pendingChange

/-- The end of the block it was scheduled in signals and enacts it. -/
theorem Parked.onFinalize_eq (h : Parked s s')
    (hrange : s.blockNumber ≤ 14250000) :
    ∃ logs, s'.onFinalize s.blockNumber = { s' with
      state := (s'.onFinalize s.blockNumber).state
      events := (s'.onFinalize s.blockNumber).events
      authorities := s.authorities
      pendingChange := none
      logs := s.logs ++ .forcedChange 14206447 0 s.authorities :: logs } ∧
      ∀ log ∈ logs, log.isChange = false := by
  have hchange : s'.finalizeChange s.blockNumber =
      { s'.depositEvent (.newAuthorities s.authorities) with
        authorities := s.authorities
        pendingChange := none
        logs := s.logs ++ [.forcedChange 14206447 0 s.authorities] } := by
    have hdue : s.blockNumber =
        wrappingAdd 32 (fixChange s).scheduledAt (fixChange s).delay := by
      show s.blockNumber = (s.blockNumber + 0) % 2 ^ 32
      omega
    unfold State.finalizeChange
    rw [h.pendingChange]
    dsimp only
    rw [if_pos (show s.blockNumber = (fixChange s).scheduledAt from rfl),
      if_pos hdue, ← h.logs]
    rfl
  obtain ⟨logs, hs', hlogs⟩ :=
    finalizeState_eq (s'.finalizeChange s.blockNumber) s.blockNumber
  refine ⟨logs, ?_, hlogs⟩
  unfold State.onFinalize
  rw [hs', hchange]
  simp [State.depositEvent]

end Parked

/-- Where nothing is pending, a session with new validators schedules its
change. -/
theorem handover_isSome {s : State R} (hpending : s.pendingChange = none)
    (hstalled : s.stalled = none) (validators : List R.AuthorityId)
    (sessionIndex : Nat) :
    (handover (s, .newSession true validators sessionIndex)).isSome = true := by
  have hchange : ∃ s₁, s.sessionChange validators = .ok s₁ := by
    unfold State.sessionChange State.scheduleChange
    rw [hstalled, hpending]
    exact ⟨_, rfl⟩
  obtain ⟨s₁, hchange⟩ := hchange
  obtain ⟨_, c, _, hs₁⟩ := sessionChange_eq_ok hchange
  simp only [handover, Bool.true_or, if_true, hchange]
  rw [hs₁]
  rfl

/-- For every state with authorities and a block number in the range of the
migration: the block of the upgrade does what it is for exactly if its number is
the one stored before it. -/
theorem migration_restores_iff {s : State R} (hauthorities : s.authorities ≠ [])
    (hrange : s.blockNumber ≤ 14250000) (number : Nat)
    (old : Option R.AuthorityList) (sessions : List (Session R)) :
    Restored s (upgradeBlock s number old sessions) ↔
      number = s.blockNumber := by
  have hfix := parked_fix hauthorities hrange
  have hparked : Parked s (sessions.foldl State.announce
      ((s.fixGrandpaFinalityDeadlock.migrateV4ToV5 old).initializeBlock
        number)) := by
    refine Parked.sessions ?_ sessions
    exact ⟨hfix.pendingChange, hfix.currentSetId, hfix.stalled, hfix.logs⟩
  unfold upgradeBlock
  dsimp only
  generalize sessions.foldl State.announce
    ((s.fixGrandpaFinalityDeadlock.migrateV4ToV5 old).initializeBlock
      number) = s' at hparked
  constructor
  · intro h
    by_contra hne
    have hclear := h.clear
    rw [hparked.onFinalize_ne hrange hne] at hclear
    cases hclear
  · rintro rfl
    obtain ⟨logs, hend, hlogs⟩ := hparked.onFinalize_eq hrange
    rw [hend]
    have hcount : logs.countP ConsensusLog.isForced = 0 := by
      refine List.countP_eq_zero.mpr fun log hlog hforced => ?_
      have hchange := hlogs log hlog
      cases log with
      | forcedChange => cases hchange
      | scheduledChange | pause | resume => cases hforced
    refine ⟨?_, hparked.currentSetId, rfl, ?_⟩
    · show List.countP ConsensusLog.isForced
        (s.logs ++ .forcedChange 14206447 0 s.authorities :: logs) = _
      rw [List.countP_append, List.countP_cons, hcount]
      rfl
    · intro number validators sessionIndex
      apply handover_isSome
      · rfl
      · exact hparked.stalled

/-! ### A concrete chain -/

/-- The rootchain in the last block before an upgrade. -/
def deadlocked : State rootchain :=
  { State.genesis founders with blockNumber := 14206500 }

/-- A block with the number stored already. -/
theorem migration_restores_iff_same :
    Restored deadlocked (upgradeBlock deadlocked 14206500 none []) :=
  (migration_restores_iff (by decide) (by decide) 14206500 none []).mpr rfl

/-- The next block counts a change that is never signalled, leaves it pending,
and the sessions after it cannot schedule theirs. -/
theorem migration_blocks_changes :
    let s := upgradeBlock deadlocked 14206501 none []
    s.currentSetId = 1 ∧ s.changes = 0 ∧ s.pendingChange.isSome = true ∧
      (handover (s.initializeBlock 14206502, session)).isNone = true ∧
      (executeBlocks s [[session], [session], []]).authorities = founders := by
  decide +kernel

end Thxnet.Grandpa
