import Thxnet.Grandpa.Pallet

/-!
# The set id and the authorities handed over

The clients count the changes of the authorities by the logs; the runtime counts
those it has scheduled.  A change that is scheduled but not yet signalled at the
end of its block is the only difference between the two counts, and a rescue
that throws such a change away makes it permanent; one that throws away a
signalled change brings the authorities before it back
(`rescue_loses_change`).

`set_id_agrees` says that the two counts agree at the end of every block, and
that the authorities are those handed over last, if no rescue finds a change
that has not been signalled or is to other authorities.
-/

namespace Thxnet.Grandpa

open Thxnet.Lib Thxnet.Frame Transition

variable {R : Config}

/-! ## What is handed over -/

/-- The block a change is due in. -/
def StoredPendingChange.due (c : StoredPendingChange R) : Nat :=
  c.scheduledAt + c.delay

/-- Authorities and the block from whose end on they are to be in force. -/
structure Handover (R : Config) where
  due : Nat
  authorities : R.AuthorityList

/-- What a request hands over: a session whose change could be scheduled. -/
def handover (p : State R × Request R) : Option (Handover R) :=
  match p.2 with
  | .newSession changed validators _ =>
      if changed || p.1.stalled.isSome then
        (p.1.sessionChange validators).toOption.bind fun s =>
          s.pendingChange.map fun c => ⟨c.due, c.nextAuthorities⟩
      else none
  | _ => none

/-- The requests of some blocks, each with the state it is made in. -/
def history : State R → List (List (Request R)) → List (State R × Request R)
  | _, [] => []
  | s, block :: rest =>
      attempts request (s.initializeBlock (s.blockNumber + 1)) block ++
        history (executeBlock s block) rest

/-- What has been handed over last; before the first session, the authorities
of the start. -/
def latest (s : State R) (blocks : List (List (Request R))) : Handover R :=
  ((history s blocks).filterMap handover).getLastD
    ⟨s.blockNumber, s.authorities⟩

/-- A rescue that is accepted finds nothing pending, or what has been signalled
already and is to the authorities in force. -/
def rescueSafe (s : State R) : Request R → Bool
  | .rescueFinality origin median =>
      !(s.rescueFinality origin median).isOk || s.pendingChange.all fun c =>
        c.scheduledAt ≠ s.blockNumber && c.nextAuthorities = s.authorities
  | _ => true

/-- The log signals a change of the authorities. -/
def ConsensusLog.isChange : ConsensusLog R → Bool
  | .scheduledChange _ _ => true
  | .forcedChange _ _ _ => true
  | .pause _ => false
  | .resume _ => false

/-- The number of changes signalled so far. -/
def State.changes (s : State R) : Nat := s.logs.countP ConsensusLog.isChange

/-! ## What a request can do -/

/-- Nothing that concerns the change of authorities. -/
structure Idle (s s' : State R) : Prop where
  blockNumber : s'.blockNumber = s.blockNumber
  pendingChange : s'.pendingChange = s.pendingChange
  currentSetId : s'.currentSetId = s.currentSetId
  authorities : s'.authorities = s.authorities
  logs : s'.logs = s.logs

/-- A change has been scheduled in this block, and counted. -/
structure Scheduled (c : StoredPendingChange R) (s s' : State R) : Prop where
  blockNumber : s'.blockNumber = s.blockNumber
  pendingChange : s'.pendingChange = some c
  currentSetId : s'.currentSetId = wrappingAdd 64 s.currentSetId 1
  authorities : s'.authorities = s.authorities
  logs : s'.logs = s.logs
  scheduledAt : c.scheduledAt = s.blockNumber

/-- What accepted requests do. -/
inductive Effect (s : State R) (r : Request R) (s' : State R) : Prop
  | idle (hnone : handover (s, r) = none) (hidle : Idle s s')
  | session {c : StoredPendingChange R}
      (hnew : handover (s, r) = some ⟨c.due, c.nextAuthorities⟩)
      (hpending : s.pendingChange = none) (hscheduled : Scheduled c s s')
  | rescue {c : StoredPendingChange R} {origin : Origin R.AccountId}
      {median : Nat} (hr : r = .rescueFinality origin median)
      (hdelay : c.delay = 0) (hsame : c.nextAuthorities = s.authorities)
      (hscheduled : Scheduled c s s')

variable {s s' : State R}

theorem scheduleChange_eq_ok {next : R.AuthorityList} {inBlocks : Nat}
    {forced : Option Nat} (h : s.scheduleChange next inBlocks forced = .ok s') :
    s.pendingChange = none ∧ s' = { s with
      nextForced := s'.nextForced
      pendingChange := some ⟨s.blockNumber, inBlocks, next, forced⟩ } := by
  simp only [State.scheduleChange, do_eq_ok, Option.isNone_iff_eq_none] at h
  obtain ⟨hnone, s₁, hs₁, rfl⟩ := h
  refine ⟨hnone, ?_⟩
  cases forced with
  | none =>
      cases hs₁
      rfl
  | some =>
      simp only [do_eq_ok] at hs₁
      obtain ⟨_, rfl⟩ := hs₁
      rfl

/-- A change scheduled by a session is scheduled in this block. -/
theorem sessionChange_eq_ok {validators : List R.AuthorityId}
    (h : s.sessionChange validators = .ok s') :
    s.pendingChange = none ∧ ∃ c, c.scheduledAt = s.blockNumber ∧
      s' = { s with
        stalled := none
        nextForced := s'.nextForced
        pendingChange := some c } := by
  unfold State.sessionChange at h
  cases hstalled : s.stalled with
  | none =>
      rw [hstalled] at h
      obtain ⟨hnone, hs'⟩ := scheduleChange_eq_ok h
      refine ⟨hnone, ⟨s.blockNumber, 0, validators.map (·, 1), none⟩, rfl, ?_⟩
      rw [hs', ← hstalled]
  | some p =>
      obtain ⟨wait, median⟩ := p
      rw [hstalled] at h
      obtain ⟨hnone, hs'⟩ := scheduleChange_eq_ok h
      refine ⟨hnone, ⟨s.blockNumber, wait, validators.map (·, 1), some median⟩,
        rfl, ?_⟩
      rw [hs']

theorem newSession_effect (s : State R) (changed : Bool)
    (validators : List R.AuthorityId) (sessionIndex : Nat) :
    Effect s (.newSession changed validators sessionIndex)
      (s.onNewSession changed validators sessionIndex) := by
  unfold State.onNewSession
  by_cases hwanted : (changed || s.stalled.isSome) = true
  · cases hchange : s.sessionChange validators with
    | error =>
        have hnone : handover
            (s, .newSession changed validators sessionIndex) = none := by
          simp [handover, hchange, Except.toOption]
        rw [if_pos hwanted]
        exact .idle hnone ⟨rfl, rfl, rfl, rfl, rfl⟩
    | ok =>
        obtain ⟨hpending, c, hat, hs'⟩ := sessionChange_eq_ok hchange
        have hnew : handover (s, .newSession changed validators sessionIndex) =
            some ⟨c.due, c.nextAuthorities⟩ := by
          simp only [handover, hwanted, if_true, hchange]
          rw [hs']
          rfl
        rw [if_pos hwanted]
        refine .session hnew hpending ?_
        rw [hs']
        exact ⟨rfl, rfl, rfl, rfl, rfl, hat⟩
  · have hnone : handover (s, .newSession changed validators sessionIndex) =
        none := by
      simp only [handover, hwanted]
      rfl
    rw [if_neg hwanted]
    exact .idle hnone ⟨rfl, rfl, rfl, rfl, rfl⟩

theorem rescueFinality_effect {origin : Origin R.AccountId} {median : Nat}
    (h : s.rescueFinality origin median = .ok s') :
    Effect s (.rescueFinality origin median) s' := by
  simp only [State.rescueFinality, do_eq_ok] at h
  obtain ⟨_, _, _, _, _, s₁, hchange, rfl⟩ := h
  cases hs₁ : s.clearPending.scheduleChange s.clearPending.authorities 0
      (some median) with
  | error e =>
      rw [hs₁] at hchange
      cases hchange
  | ok s₂ =>
      rw [hs₁] at hchange
      cases hchange
      obtain ⟨_, hs₂⟩ := scheduleChange_eq_ok hs₁
      rw [hs₂]
      exact .rescue (c := ⟨s.blockNumber, 0, s.authorities, some median⟩) rfl rfl
        rfl ⟨rfl, rfl, rfl, rfl, rfl, rfl⟩

theorem request_effect {r : Request R} (h : request s r = .ok s') :
    Effect s r s' := by
  cases r with
  | newSession changed validators sessionIndex =>
      cases h
      exact newSession_effect s changed validators sessionIndex
  | noteStalled =>
      simp only [request, State.noteStalled, do_eq_ok] at h
      obtain ⟨_, _, rfl⟩ := h
      exact .idle rfl ⟨rfl, rfl, rfl, rfl, rfl⟩
  | rescueFinality => exact rescueFinality_effect h

theorem handover_of_failed {r : Request R} (h : (request s r).isOk = false) :
    handover (s, r) = none := by
  cases r with
  | newSession => cases h
  | noteStalled | rescueFinality => rfl

/-! ## The invariant -/

/-- Whether a change has been scheduled in this block. -/
def State.unsignalled (s : State R) : Nat :=
  if s.pendingChange.any (fun c => c.scheduledAt = s.blockNumber) = true
  then 1 else 0

/-- Within a block: what has been scheduled in it is counted already; what is
pending is what was handed over last, or is due at once. -/
structure Agreed (s : State R) (last : Handover R) : Prop where
  setId : s.currentSetId = (s.changes + s.unsignalled) % 2 ^ 64
  clear : s.pendingChange = none → s.authorities = last.authorities
  pending : ∀ c, s.pendingChange = some c →
    c.nextAuthorities = last.authorities ∧ c.scheduledAt ≤ s.blockNumber ∧
      s.blockNumber ≤ c.due ∧ (c.due = last.due ∨ c.due = s.blockNumber)

/-- Between blocks: everything has been signalled, and what is pending is what
was handed over last, and not yet due. -/
structure Settled (s : State R) (last : Handover R) : Prop where
  setId : s.currentSetId = s.changes % 2 ^ 64
  clear : s.pendingChange = none → s.authorities = last.authorities
  pending : ∀ c, s.pendingChange = some c →
    c.nextAuthorities = last.authorities ∧ c.scheduledAt ≤ s.blockNumber ∧
      s.blockNumber < c.due ∧ c.due = last.due

/-- The part for pauses signals no change. -/
theorem finalizeState_eq (s : State R) (n : Nat) :
    ∃ logs, s.finalizeState n = { s with
      state := (s.finalizeState n).state
      events := (s.finalizeState n).events
      logs := s.logs ++ logs } ∧ ∀ log ∈ logs, log.isChange = false := by
  unfold State.finalizeState
  cases s.state with
  | live | paused => exact ⟨[], by simp, by simp⟩
  | pendingPause scheduledAt delay =>
      refine ⟨if n = scheduledAt then [.pause delay] else [], ?_, ?_⟩
      · dsimp only
        split <;> split <;> simp [State.depositLog, State.depositEvent]
      · split <;> simp [ConsensusLog.isChange]
  | pendingResume scheduledAt delay =>
      refine ⟨if n = scheduledAt then [.resume delay] else [], ?_, ?_⟩
      · dsimp only
        split <;> split <;> simp [State.depositLog, State.depositEvent]
      · split <;> simp [ConsensusLog.isChange]

section Steps

variable {s s' : State R} {last : Handover R}

theorem Settled.begin (h : Settled s last) :
    Agreed (s.initializeBlock (s.blockNumber + 1)) last := by
  have hbefore : ∀ c, s.pendingChange = some c →
      c.scheduledAt ≠ s.blockNumber + 1 := by
    intro c hc
    have hle := (h.pending c hc).2.1
    omega
  refine ⟨?_, h.clear, fun c hc => ?_⟩
  · have hzero : (s.initializeBlock (s.blockNumber + 1)).unsignalled = 0 := by
      unfold State.unsignalled
      rw [if_neg]
      rw [Option.any_eq_true]
      rintro ⟨c, hc, hat⟩
      exact hbefore c hc (of_decide_eq_true hat)
    rw [hzero]
    exact h.setId
  · obtain ⟨hnext, hat, hdue, hlast⟩ := h.pending c hc
    refine ⟨hnext, ?_, ?_, .inl hlast⟩
    · show c.scheduledAt ≤ s.blockNumber + 1
      omega
    · show s.blockNumber + 1 ≤ c.due
      omega

theorem Idle.agreed (hidle : Idle s s') (h : Agreed s last) :
    Agreed s' last := by
  refine ⟨?_, ?_, ?_⟩
  · unfold State.unsignalled State.changes
    rw [hidle.currentSetId, hidle.logs, hidle.pendingChange, hidle.blockNumber]
    exact h.setId
  · rw [hidle.pendingChange, hidle.authorities]
    exact h.clear
  · rw [hidle.pendingChange, hidle.blockNumber]
    exact h.pending

/-- A change that is scheduled where nothing waited for its signal. -/
theorem Scheduled.agreed {c : StoredPendingChange R} {last' : Handover R}
    (hscheduled : Scheduled c s s') (h : Agreed s last)
    (hsignalled : s.unsignalled = 0)
    (hnext : c.nextAuthorities = last'.authorities)
    (hdue : c.due = last'.due ∨ c.due = s.blockNumber) :
    Agreed s' last' := by
  have hone : s'.unsignalled = 1 := by
    unfold State.unsignalled
    rw [hscheduled.pendingChange, hscheduled.blockNumber,
      ← hscheduled.scheduledAt]
    simp
  have hsame : s'.changes = s.changes := by
    unfold State.changes
    rw [hscheduled.logs]
  have hat := hscheduled.scheduledAt
  refine ⟨?_, fun hnone => ?_, fun c' hc' => ?_⟩
  · have hset := h.setId
    rw [hsignalled, Nat.add_zero] at hset
    rw [hscheduled.currentSetId, hone, hsame, hset, wrappingAdd,
      Nat.mod_add_mod]
  · rw [hscheduled.pendingChange] at hnone
    cases hnone
  · rw [hscheduled.pendingChange] at hc'
    cases hc'
    rw [hscheduled.blockNumber]
    refine ⟨hnext, hat.le, ?_, hdue⟩
    unfold StoredPendingChange.due
    omega

theorem unsignalled_of_none (h : s.pendingChange = none) :
    s.unsignalled = 0 := by
  unfold State.unsignalled
  rw [h]
  rfl

/-- An accepted request keeps the invariant, for what it hands over if it
does. -/
theorem Agreed.step {r : Request R} (h : Agreed s last)
    (hsafe : rescueSafe s r = true) (hok : request s r = .ok s') :
    Agreed s' ((handover (s, r)).getD last) := by
  cases request_effect hok with
  | idle hnone hidle =>
      rw [hnone]
      exact hidle.agreed h
  | session hnew hpending hscheduled =>
      rw [hnew]
      exact hscheduled.agreed h (unsignalled_of_none hpending) rfl (.inl rfl)
  | @rescue c origin median hr hdelay hsame hscheduled =>
      subst hr
      have hdue : c.due = s.blockNumber := by
        unfold StoredPendingChange.due
        rw [hdelay, hscheduled.scheduledAt, Nat.add_zero]
      show Agreed s' last
      cases hpending : s.pendingChange with
      | none =>
          exact hscheduled.agreed h (unsignalled_of_none hpending)
            (hsame.trans (h.clear hpending)) (.inr hdue)
      | some old =>
          have hdone : s.rescueFinality origin median = .ok s' := hok
          simp only [rescueSafe, hdone, Except.isOk, Except.toBool, hpending,
            Bool.not_true, Bool.false_or, Option.all_some, Bool.and_eq_true,
            decide_eq_true_eq] at hsafe
          obtain ⟨hsignalled, hkept⟩ := hsafe
          have hzero : s.unsignalled = 0 := by
            unfold State.unsignalled
            rw [hpending]
            simp [hsignalled]
          exact hscheduled.agreed h hzero
            (hsame.trans (hkept.symm.trans (h.pending old hpending).1))
            (.inr hdue)

/-- The end of a block: the signal is given, and what is due is enacted. -/
theorem Agreed.finalizeChange (h : Agreed s last)
    (hlt : s.blockNumber < 2 ^ 32) :
    Settled (s.finalizeChange s.blockNumber) last := by
  unfold State.finalizeChange
  cases hpending : s.pendingChange with
  | none =>
      have hset := h.setId
      rw [unsignalled_of_none hpending, Nat.add_zero] at hset
      refine ⟨hset, h.clear, fun c hc => ?_⟩
      rw [hpending] at hc
      cases hc
  | some c =>
      obtain ⟨hnext, hat, hle, hlast⟩ := h.pending c hpending
      dsimp only
      -- the change is signalled in the block it was scheduled in
      generalize hs₁ : (if s.blockNumber = c.scheduledAt then
        s.depositLog (State.changeLog c) else s) = s₁
      have hkept : s₁ = { s with logs := s₁.logs } := by
        rw [← hs₁]
        split <;> rfl
      have hset : s₁.currentSetId = s₁.changes % 2 ^ 64 := by
        rw [← hs₁]
        by_cases hnow : s.blockNumber = c.scheduledAt
        · rw [if_pos hnow]
          have hone : s.unsignalled = 1 := by
            unfold State.unsignalled
            rw [hpending]
            simp [hnow]
          have hchange : (State.changeLog c).isChange = true := by
            unfold State.changeLog
            split <;> rfl
          have hcount : (s.depositLog (State.changeLog c)).changes =
              s.changes + 1 := by
            unfold State.changes State.depositLog
            rw [List.countP_append, List.countP_singleton, if_pos hchange]
          rw [hcount]
          have hset := h.setId
          rwa [hone] at hset
        · rw [if_neg hnow]
          have hzero : s.unsignalled = 0 := by
            unfold State.unsignalled
            rw [hpending]
            simp [Ne.symm hnow]
          have hset := h.setId
          rwa [hzero, Nat.add_zero] at hset
      by_cases hdue : s.blockNumber = wrappingAdd 32 c.scheduledAt c.delay
      · rw [if_pos hdue]
        refine ⟨hset, fun _ => hnext, fun c' hc' => ?_⟩
        cases hc'
      · rw [if_neg hdue]
        have hnotdue : s.blockNumber ≠ c.due := by
          intro heq
          refine hdue (heq.trans ?_)
          unfold wrappingAdd
          rw [heq] at hlt
          exact (Nat.mod_eq_of_lt hlt).symm
        have hpending₁ : s₁.pendingChange = some c := by
          rw [hkept]
          exact hpending
        have hnumber : s₁.blockNumber = s.blockNumber := by rw [hkept]
        refine ⟨hset, fun hnone => ?_, fun c' hc' => ?_⟩
        · rw [hpending₁] at hnone
          cases hnone
        · rw [hpending₁] at hc'
          cases hc'
          rw [hnumber]
          exact ⟨hnext, hat, by omega,
            hlast.resolve_right (Ne.symm hnotdue)⟩

/-- Pauses are none of the clients' count. -/
theorem Settled.finalizeState (h : Settled s last) (n : Nat) :
    Settled (s.finalizeState n) last := by
  obtain ⟨logs, hs', hlogs⟩ := finalizeState_eq s n
  rw [hs']
  refine ⟨?_, h.clear, h.pending⟩
  have hcount : logs.countP ConsensusLog.isChange = 0 := by
    refine List.countP_eq_zero.mpr fun log hlog => ?_
    rw [hlogs log hlog]
    exact Bool.false_ne_true
  unfold State.changes
  rw [List.countP_append, hcount, Nat.add_zero]
  exact h.setId

end Steps

/-! ## Whole blocks -/

section Blocks

variable {s : State R} {last : Handover R}

theorem getLastD_append {α : Type} (l₁ l₂ : List α) (a : α) :
    (l₁ ++ l₂).getLastD a = l₂.getLastD (l₁.getLastD a) := by
  induction l₁ generalizing a with
  | nil => rfl
  | cons b rest ih =>
      rw [List.cons_append, List.getLastD_cons, List.getLastD_cons, ih]

theorem Agreed.all {block : List (Request R)} (h : Agreed s last)
    (hsafe : ∀ p ∈ attempts request s block, rescueSafe p.1 p.2 = true) :
    Agreed (settle request s block)
      (((attempts request s block).filterMap handover).getLastD last) := by
  induction block generalizing s last with
  | nil => exact h
  | cons r rest ih =>
      rw [attempts, List.forall_mem_cons] at hsafe
      have hfirst : Agreed (attempt request s r)
          ((handover (s, r)).getD last) := by
        obtain hok | ⟨hfailed, hsame⟩ := attempt_cases request s r
        · exact h.step hsafe.1 hok
        · rw [hsame, handover_of_failed hfailed]
          exact h
      have hrest := ih hfirst hsafe.2
      have hlast : ((attempts request s (r :: rest)).filterMap
          handover).getLastD last =
          ((attempts request (attempt request s r) rest).filterMap
            handover).getLastD ((handover (s, r)).getD last) := by
        rw [attempts, List.filterMap_cons]
        cases handover (s, r) with
        | none => rfl
        | some => rw [List.getLastD_cons, Option.getD_some]
      rw [hlast]
      exact hrest

theorem settle_blockNumber (s : State R) (block : List (Request R)) :
    (Transition.settle request s block).blockNumber = s.blockNumber := by
  induction block generalizing s with
  | nil => rfl
  | cons r rest ih =>
      refine (ih (attempt request s r)).trans ?_
      obtain hok | ⟨_, hsame⟩ := attempt_cases request s r
      · cases request_effect hok with
        | idle _ hidle => exact hidle.blockNumber
        | session _ _ hscheduled => exact hscheduled.blockNumber
        | rescue _ _ _ hscheduled => exact hscheduled.blockNumber
      · rw [hsame]

theorem onFinalize_blockNumber (s : State R) (n : Nat) :
    (s.onFinalize n).blockNumber = s.blockNumber := by
  obtain ⟨logs, hs', _⟩ := finalizeState_eq (s.finalizeChange n) n
  unfold State.onFinalize
  rw [hs']
  show (s.finalizeChange n).blockNumber = s.blockNumber
  unfold State.finalizeChange
  cases s.pendingChange with
  | none => rfl
  | some =>
      dsimp only
      split <;> split <;> rfl

theorem executeBlock_blockNumber (s : State R) (block : List (Request R)) :
    (executeBlock s block).blockNumber = s.blockNumber + 1 := by
  unfold executeBlock
  rw [onFinalize_blockNumber, settle_blockNumber]
  rfl

/-- The end of a block, from the end of the block before. -/
theorem Settled.block {block : List (Request R)} (h : Settled s last)
    (hlt : s.blockNumber + 1 < 2 ^ 32)
    (hsafe : ∀ p ∈ attempts request (s.initializeBlock (s.blockNumber + 1))
      block, rescueSafe p.1 p.2 = true) :
    Settled (executeBlock s block)
      (((attempts request (s.initializeBlock (s.blockNumber + 1))
        block).filterMap handover).getLastD last) := by
  have hend := h.begin.all hsafe
  refine (hend.finalizeChange ?_).finalizeState _
  rw [settle_blockNumber]
  exact hlt

theorem Settled.blocks {blocks : List (List (Request R))}
    (h : Settled s last) (hlt : s.blockNumber + blocks.length < 2 ^ 32)
    (hsafe : ∀ p ∈ history s blocks, rescueSafe p.1 p.2 = true) :
    Settled (executeBlocks s blocks)
      (((history s blocks).filterMap handover).getLastD last) := by
  induction blocks generalizing s last with
  | nil => exact h
  | cons block rest ih =>
      rw [List.length_cons] at hlt
      have hfirst := h.block (by omega)
        fun p hp => hsafe p (List.mem_append_left _ hp)
      rw [history, List.filterMap_append, getLastD_append]
      refine ih hfirst ?_ fun p hp => hsafe p (List.mem_append_right _ hp)
      rw [executeBlock_blockNumber]
      omega

end Blocks

/-- After every sequence of blocks in which each accepted rescue finds nothing
pending, or only what is signalled and to the authorities in force: the set id
is the number of changes signalled to the clients, and from the block on in
which they are due the authorities are those the sessions handed over last. -/
theorem set_id_agrees (authorities : R.AuthorityList)
    (blocks : List (List (Request R))) (hlength : blocks.length < 2 ^ 32)
    (hsafe : ∀ p ∈ history (State.genesis authorities) blocks,
      rescueSafe p.1 p.2 = true) :
    let s₀ := State.genesis authorities
    let s := executeBlocks s₀ blocks
    s.currentSetId = s.changes % 2 ^ 64 ∧
      ((latest s₀ blocks).due ≤ s.blockNumber →
        s.authorities = (latest s₀ blocks).authorities) := by
  have hstart : Settled (State.genesis authorities) ⟨0, authorities⟩ :=
    ⟨rfl, fun _ => rfl, fun _ hc => by cases hc⟩
  have hend := hstart.blocks (by
    show 0 + blocks.length < 2 ^ 32
    omega) hsafe
  refine ⟨hend.setId, fun hdue => ?_⟩
  cases hpending : (executeBlocks (State.genesis authorities)
      blocks).pendingChange with
  | none => exact hend.clear hpending
  | some c =>
      obtain ⟨_, _, hlt, hlast⟩ := hend.pending c hpending
      rw [hlast] at hlt
      exact absurd hdue (Nat.not_le.mpr hlt)

/-! ### Concrete chains -/

/-- The parameters of the runtime. -/
abbrev rootchain : Config where
  AccountId := Nat
  AuthorityId := Nat
  decAuthorityId := inferInstance
  maxSetIdSessionEntries := 168
  rescueCooldown := 100
  grandpaIndex := 11
  finalityRescueIndex := 135

/-- Two authorities at genesis. -/
def founders : rootchain.AuthorityList := [(1, 1), (2, 1)]

/-- A new session with the validators 3 and 4. -/
def session : Request rootchain := .newSession true [3, 4] 1

/-- The rescue, by root. -/
def rescue : Request rootchain := .rescueFinality .root 0

/-- A session, a rescue once the change is enacted, and another session. -/
def rescuedLater : List (List (Request rootchain)) :=
  [[session], [rescue], [.newSession true [5] 2]]

theorem set_id_agrees_rescuedLater :
    let s := executeBlocks (State.genesis founders) rescuedLater
    s.currentSetId = 3 ∧ s.changes = 3 ∧ s.authorities = [(5, 1)] := by
  obtain ⟨hset, hauthorities⟩ := set_id_agrees founders rescuedLater
    (by decide) (by decide +kernel)
  have hchanges : (executeBlocks (State.genesis founders)
      rescuedLater).changes = 3 := by decide +kernel
  refine ⟨?_, hchanges, ?_⟩
  · rw [hset, hchanges]
    rfl
  · rw [hauthorities (by decide +kernel)]
    decide +kernel

/-- A rescue in the block of the session. -/
def rescuedAtOnce : List (List (Request rootchain)) := [[session, rescue]]

/-- A rescue while a forced change is under way. -/
def rescuedMidway : List (List (Request rootchain)) :=
  [[.noteStalled .root 2 0, session], [rescue], [], []]

/-- After the first, the set id is ahead of the logs; after both, the validators
of the session are lost. -/
theorem rescue_loses_change :
    (let s := executeBlocks (State.genesis founders) rescuedAtOnce;
      s.currentSetId = 2 ∧ s.changes = 1 ∧
        (latest (State.genesis founders) rescuedAtOnce).due ≤ s.blockNumber ∧
        (latest (State.genesis founders) rescuedAtOnce).authorities =
          [(3, 1), (4, 1)] ∧ s.authorities = founders) ∧
    (let s := executeBlocks (State.genesis founders) rescuedMidway;
      (latest (State.genesis founders) rescuedMidway).due < s.blockNumber ∧
        (latest (State.genesis founders) rescuedMidway).authorities =
          [(3, 1), (4, 1)] ∧ s.authorities = founders) := by
  decide +kernel

end Thxnet.Grandpa
