import Thxnet.Xcm.Executor

/-!
# Reserve transfers to the relay chain

The barrier looks at the instructions of a message, and not into the programs
they carry.  An execution is free of reserve transfers to the relay chain as
long as no instruction installs a program with one, so in particular if there is
none in any program inside the message; a message that installs one passes the
barrier and has it executed.
-/

namespace Thxnet.Xcm

open Thxnet.Lib Thxnet.Frame

variable {R : Config}

/-- The error handler or the appendix that the instruction installs. -/
def installed : Instruction → Program
  | .setErrorHandler handler => handler
  | .setAppendix appendix => appendix
  | _ => []

/-- If the instruction installs an error handler or an appendix, that program
has no reserve transfer to the relay chain. -/
def installsClean (instr : Instruction) : Bool :=
  (installed instr).all fun inst => !denied inst

mutual

/-- No program inside the instruction, at any depth, has a reserve transfer to
the relay chain. -/
def nestedClean : Instruction → Bool
  | .setErrorHandler handler => programClean handler
  | .setAppendix appendix => programClean appendix
  | _ => true

/-- Nor has the program itself. -/
def programClean : List Instruction → Bool
  | [] => true
  | instr :: rest => !denied instr && nestedClean instr && programClean rest

end

theorem programClean_iff {program : Program} :
    programClean program = true ↔
      ∀ i ∈ program, denied i = false ∧ nestedClean i = true := by
  induction program with
  | nil => simp [programClean]
  | cons instr rest ih => simp [programClean, ih]

/-! ## What is set aside and what is executed -/

section Runs

variable {P : Instruction → Prop}

/-- The instructions of the programs set aside have the property. -/
structure Vm.Holds (vm : Vm R.World) (P : Instruction → Prop) : Prop where
  errorHandler : ∀ i ∈ vm.errorHandler, P i
  appendix : ∀ i ∈ vm.appendix, P i

theorem Vm.Holds.processInstruction {vm : Vm R.World} (hvm : vm.Holds P)
    {instr : Instruction} (hinst : ∀ i ∈ installed instr, P i) :
    (Xcm.processInstruction R vm instr).1.Holds P := by
  rcases processInstruction_programs vm instr with
    ⟨hh, ha⟩ | ⟨handler, rfl, hh, ha⟩ | ⟨appendix, rfl, hh, ha⟩
  · exact ⟨hh ▸ hvm.errorHandler, ha ▸ hvm.appendix⟩
  · exact ⟨by rwa [hh], ha ▸ hvm.appendix⟩
  · exact ⟨hh ▸ hvm.errorHandler, by rwa [ha]⟩

/-- Processing a program whose instructions have the property executes only
such, and what is set aside after it has it too. -/
theorem process_holds {count index : Nat} {vm : Vm R.World} {message : Program}
    (hvm : vm.Holds P) (hmessage : ∀ i ∈ message, P i)
    (hinst : ∀ instr ∈ (process R count index vm message).executed,
      P instr → ∀ i ∈ installed instr, P i) :
    (∀ instr ∈ (process R count index vm message).executed, P instr) ∧
    (process R count index vm message).vm.Holds P := by
  induction message generalizing index vm with
  | nil => exact ⟨fun _ h => (List.not_mem_nil h).elim, hvm⟩
  | cons instr rest ih =>
      obtain ⟨hfirst, hrest⟩ := List.forall_mem_cons.mp hmessage
      unfold process at hinst ⊢
      by_cases hcount : count > recursionLimit
      · rw [if_pos hcount] at hinst ⊢
        exact ⟨fun _ h => (List.not_mem_nil h).elim, hvm⟩
      · rw [if_neg hcount] at hinst ⊢
        rcases hres : processInstruction R vm instr with ⟨vm', e | u⟩
        · simp only [hres] at hinst ⊢
          have hvm' := hvm.processInstruction (hinst instr (by simp) hfirst)
          rw [hres] at hvm'
          refine ⟨fun i hi => ?_, hvm'⟩
          rw [List.mem_singleton.mp hi]
          exact hfirst
        · simp only [hres] at hinst ⊢
          obtain ⟨hhere, hinst⟩ := List.forall_mem_cons.mp hinst
          have hvm' := hvm.processInstruction (hhere hfirst)
          rw [hres] at hvm'
          obtain ⟨hexec, hafter⟩ := ih hvm' hrest hinst
          exact ⟨List.forall_mem_cons.mpr ⟨hfirst, hexec⟩, hafter⟩

/-- What comes next has the property if what is set aside has it. -/
theorem next_holds {p : Processed R.World} (hp : p.vm.Holds P) :
    (∀ i ∈ p.next.1, P i) ∧ p.next.2.Holds P := by
  have hnil : ∀ i ∈ ([] : Program), P i := fun _ h => (List.not_mem_nil h).elim
  unfold Processed.next
  cases p.error with
  | none => exact ⟨hp.appendix, hnil, hnil⟩
  | some =>
      by_cases hhandler : p.vm.errorHandler = []
      · simp only [Vm.takeErrorHandler, hhandler, if_true]
        exact ⟨hp.appendix, hnil, hnil⟩
      · simp only [Vm.takeErrorHandler, hhandler, if_false]
        exact ⟨hp.errorHandler, hnil, hp.appendix⟩

/-- A whole execution, by induction on the programs it processes. -/
theorem run_holds {count fuel : Nat} {vm : Vm R.World} {message : Program}
    (hvm : vm.Holds P) (hmessage : ∀ i ∈ message, P i)
    (hinst : ∀ instr ∈ (run R count fuel vm message).executed,
      P instr → ∀ i ∈ installed instr, P i) :
    ∀ instr ∈ (run R count fuel vm message).executed, P instr := by
  induction fuel generalizing vm message with
  | zero => exact fun _ h => (List.not_mem_nil h).elim
  | succ fuel ih =>
      unfold run at hinst ⊢
      by_cases hempty : message = []
      · rw [if_pos hempty]
        exact fun _ h => (List.not_mem_nil h).elim
      · rw [if_neg hempty] at hinst ⊢
        obtain ⟨hfirst, hrest⟩ := List.forall_mem_append.mp hinst
        obtain ⟨hexec, hafter⟩ := process_holds hvm hmessage hfirst
        obtain ⟨hnext, hnextVm⟩ := next_holds hafter
        exact List.forall_mem_append.mpr ⟨hexec, ih hnextVm hnext hrest⟩

end Runs

/-- What is nested in a clean instruction is clean, at every depth. -/
theorem nestedClean_installed {instr : Instruction}
    (h : nestedClean instr = true) :
    ∀ i ∈ installed instr, denied i = false ∧ nestedClean i = true := by
  unfold installed
  split
  · exact programClean_iff.mp h
  · exact programClean_iff.mp h
  · exact fun _ hi => (List.not_mem_nil hi).elim

/-- **Reserve transfers to the relay chain.**  An execution that the barrier
lets begin comes to its end, and unless one of its steps installs a program
with such a transfer, it executes none.  So it executes none if no program
inside the message has one, at any depth. -/
theorem executed_not_denied (R : Config) (count : Nat) (origin : Location)
    (message : Program) (id : Encoded) (weightCredit : Weight)
    (world : R.World) (e : Execution R.World)
    (h : execute R count origin message id weightCredit world = .ok e) :
    e.remaining = [] ∧
    ((∀ instr ∈ e.executed, installsClean instr = true) →
      ∀ instr ∈ e.executed, denied instr = false) ∧
    ((∀ instr ∈ message, nestedClean instr = true) →
      ∀ instr ∈ e.executed, denied instr = false) := by
  simp only [execute, do_eq_ok, mapError_eq_ok] at h
  obtain ⟨weight, _, ⟨message', properties⟩, hbarrier, rfl⟩ := h
  have hclean := clean_of_barrier hbarrier
  have hnew : ∀ P, (Vm.new origin (properties.messageId.getD id)
      world).Holds P := fun P =>
    ⟨fun _ h => (List.not_mem_nil h).elim, fun _ h => (List.not_mem_nil h).elim⟩
  refine ⟨?_, fun hinst => ?_, fun hnested => ?_⟩
  · apply remaining_run
    show programSize message' + (programSize [] + programSize []) < _
    simp [programSize]
  · refine run_holds (hnew _) (fun i hi => (hclean i hi).1) ?_
    intro instr hinstr _ i hi
    simpa using List.all_eq_true.mp (hinst instr hinstr) i hi
  · intro instr hinstr
    refine (run_holds (hnew fun i => denied i = false ∧ nestedClean i = true)
      (fun i hi => ⟨(hclean i hi).1, ?_⟩)
      (fun _ _ h => nestedClean_installed h.2) instr hinstr).1
    rcases (hclean i hi).2 with hmem | ⟨_, _, rfl⟩
    · exact hnested i hmem
    · rfl

/-! ## Messages of a sibling chain -/

/-- A leafchain on which every transaction of assets succeeds. -/
abbrev generousChain : Config where
  World := Unit
  parachainId := 1000
  unitWeightCost := ⟨1000000000, 64 * 1024⟩
  maxInstructions := 100
  perform := fun vm _ =>
    ⟨(), vm.totalSurplus, vm.totalRefunded, vm.transactStatus, .ok ()⟩

/-- Pay for the execution and install an appendix. -/
def payAndAppend (appendix : Program) : Program :=
  [.withdrawAsset [[1]], .buyExecution [1] .unlimited, .setAppendix appendix]

/-- An execution of a message from the sibling chain 2000. -/
def fromSibling (message : Program) :
    Except XcmError (Execution generousChain.World) :=
  execute generousChain 1 ⟨1, [.parachain 2000]⟩ message [] .zero ()

/-- An appendix that deposits the assets is executed without any reserve
transfer to the relay chain. -/
theorem executed_not_denied_deposit :
    ∃ e, fromSibling (payAndAppend [.depositAsset [] ⟨0, []⟩]) = .ok e ∧
      e.executed.length = 4 ∧ ∀ instr ∈ e.executed, denied instr = false := by
  have hrun : succeedsWith
      (fromSibling (payAndAppend [.depositAsset [] ⟨0, []⟩]))
      (fun e => e.executed.length == 4) = true := by
    decide +kernel
  obtain ⟨e, he, h⟩ := succeedsWith_iff.mp hrun
  exact ⟨e, he, beq_iff_eq.mp h,
    (executed_not_denied generousChain 1 _ _ _ _ () e he).2.2 (by decide)⟩

/-- A message that withdraws assets, pays for its execution and sets an
appendix passes the barrier, and the appendix has them withdrawn from the
reserve on the relay chain. -/
theorem appendix_withdraws_from_relay :
    ∃ e, fromSibling
        (payAndAppend [.initiateReserveWithdraw [] .parent []]) = .ok e ∧
      e.executed.length = 4 ∧ ∃ instr ∈ e.executed, denied instr = true := by
  have hrun : succeedsWith (fromSibling
      (payAndAppend [.initiateReserveWithdraw [] .parent []]))
      (fun e => e.executed.length == 4 && e.executed.any denied) = true := by
    decide +kernel
  obtain ⟨e, he, h⟩ := succeedsWith_iff.mp hrun
  rw [Bool.and_eq_true, beq_iff_eq, List.any_eq_true] at h
  exact ⟨e, he, h⟩

end Thxnet.Xcm
