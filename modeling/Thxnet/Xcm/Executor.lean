import Thxnet.Xcm.Barrier

/-!
# The executor of messages

`XcmExecutor::execute`: a message that passes the barrier is processed up to
its first error.  Then the error handler takes its place, if there was an error
and a handler is set, or else the appendix; and so on until nothing is left to
process.

The registers that decide what is run next are kept as they are, and so are the
instructions that write them.  All other instructions work on the holding
register, the trader and the storage of the chain through the traits of the
configuration: `perform` stands for them.  A `Transact` that has the chain
execute another message has it pass the barrier on its own.
-/

namespace Thxnet.Xcm

open Thxnet.Lib Thxnet.Frame

/-! ## The machine -/

/-- The registers of `XcmExecutor`; `world` is the holding register, the trader
and the storage of the chain. -/
structure Vm (World : Type) where
  origin : Option Location
  originalOrigin : Location
  messageId : Encoded
  topic : Option Encoded
  error : Option (Nat × XcmError)
  totalSurplus : Weight
  totalRefunded : Weight
  errorHandler : Program
  errorHandlerWeight : Weight
  appendix : Program
  appendixWeight : Weight
  transactStatus : MaybeErrorCode
  jitWithdraw : Bool
  world : World

/-- What an instruction does through the traits of the configuration. -/
structure Performed (World : Type) where
  world : World
  totalSurplus : Weight
  totalRefunded : Weight
  transactStatus : MaybeErrorCode
  result : Except XcmError Unit

/-- `XcmConfig`, as far as the executor depends on it. -/
structure Config where
  World : Type
  parachainId : Nat
  unitWeightCost : Weight
  maxInstructions : Nat
  perform : Vm World → Instruction → Performed World

variable {R : Config}

/-- `XcmExecutor::new`. -/
def Vm.new (origin : Location) (messageId : Encoded) (world : R.World) :
    Vm R.World where
  origin := some origin
  originalOrigin := origin
  messageId := messageId
  topic := none
  error := none
  totalSurplus := .zero
  totalRefunded := .zero
  errorHandler := []
  errorHandlerWeight := .zero
  appendix := []
  appendixWeight := .zero
  transactStatus := .success
  jitWithdraw := false
  world := world

/-- `Weigher::weight`. -/
def Config.weight (R : Config) (message : Program) : Option Weight :=
  (weightWithLimit R.unitWeightCost message R.maxInstructions).map Prod.fst

/-- An instruction that works through the traits of the configuration. -/
def Vm.performed (vm : Vm R.World) (p : Performed R.World) :
    Vm R.World × Except XcmError Unit :=
  ({ vm with
      world := p.world
      totalSurplus := p.totalSurplus
      totalRefunded := p.totalRefunded
      transactStatus := p.transactStatus }, p.result)

/-- An instruction that checks something. -/
def Vm.expect (vm : Vm R.World) (p : Prop) [Decidable p] (e : XcmError) :
    Vm R.World × Except XcmError Unit :=
  (vm, ensure p e)

/-- `process_instruction`.  `UniversalAliases` and `Aliasers` are `Nothing`. -/
def processInstruction (R : Config) (vm : Vm R.World) (instr : Instruction) :
    Vm R.World × Except XcmError Unit :=
  match instr with
  | .descendOrigin who =>
      match vm.origin with
      | none => (vm, .error .badOrigin)
      | some origin =>
          match origin.appendWith who with
          | none => (vm, .error .locationFull)
          | some below => ({ vm with origin := some below }, .ok ())
  | .clearOrigin => ({ vm with origin := none }, .ok ())
  | .setErrorHandler handler =>
      match R.weight handler with
      | none => (vm, .error .weightNotComputable)
      | some weight => ({ vm with
          totalSurplus := vm.totalSurplus.saturatingAdd vm.errorHandlerWeight
          errorHandler := handler
          errorHandlerWeight := weight }, .ok ())
  | .setAppendix appendix =>
      match R.weight appendix with
      | none => (vm, .error .weightNotComputable)
      | some weight => ({ vm with
          totalSurplus := vm.totalSurplus.saturatingAdd vm.appendixWeight
          appendix := appendix
          appendixWeight := weight }, .ok ())
  | .clearError => ({ vm with error := none }, .ok ())
  | .trap code => (vm, .error (.trap code))
  | .expectOrigin origin => vm.expect (vm.origin = origin) .expectationFalse
  | .expectError error => vm.expect (vm.error = error) .expectationFalse
  | .expectTransactStatus status =>
      vm.expect (vm.transactStatus = status) .expectationFalse
  | .clearTransactStatus => ({ vm with transactStatus := .success }, .ok ())
  | .universalOrigin junction =>
      if junction = .parachain R.parachainId then
        (vm, .error .invalidLocation)
      else if vm.origin = none then (vm, .error .badOrigin)
      else (vm, .error .invalidLocation)
  | .setFeesMode jitWithdraw => ({ vm with jitWithdraw := jitWithdraw }, .ok ())
  | .setTopic topic => ({ vm with topic := some topic }, .ok ())
  | .clearTopic => ({ vm with topic := none }, .ok ())
  | .aliasOrigin _ =>
      if vm.origin = none then (vm, .error .badOrigin)
      else (vm, .error .noPermission)
  | .unpaidExecution _ checkOrigin =>
      vm.expect (checkOrigin = none ∨ vm.origin = checkOrigin) .badOrigin
  | instr => vm.performed (R.perform vm instr)

/-- `ExecutorError`. -/
structure ExecutorError where
  index : Nat
  xcmError : XcmError
  weight : Weight

/-- `RECURSION_LIMIT`. -/
def recursionLimit : Nat := 10

/-- The weight of the instructions after an error. -/
def skippedWeight (R : Config) (rest : Program) : Weight :=
  rest.foldl (fun weight instr =>
    match instrWeight R.unitWeightCost instr with
    | some x => weight.saturatingAdd x
    | none => weight) .zero

/-- The instructions that have been executed, the registers after them and what
went wrong. -/
structure Processed (World : Type) where
  executed : List Instruction
  vm : Vm World
  error : Option ExecutorError

/-- `process`, from the given index on; `count` is how deep executions are
nested. -/
def process (R : Config) (count : Nat) :
    Nat → Vm R.World → Program → Processed R.World
  | _, vm, [] => ⟨[], vm, none⟩
  | index, vm, instr :: rest =>
      if count > recursionLimit then
        ⟨[], vm, some ⟨index, .exceedsStackLimit, skippedWeight R rest⟩⟩
      else
        match processInstruction R vm instr with
        | (vm', .ok ()) =>
            let p := process R count (index + 1) vm' rest;
            { p with executed := instr :: p.executed }
        | (vm', .error e) =>
            ⟨[instr], vm', some ⟨index, e, skippedWeight R rest⟩⟩

/-- `take_error_handler`. -/
def Vm.takeErrorHandler (vm : Vm R.World) : Program × Vm R.World :=
  (vm.errorHandler,
    { vm with errorHandler := [], errorHandlerWeight := .zero })

/-- `drop_error_handler`. -/
def Vm.dropErrorHandler (vm : Vm R.World) : Vm R.World :=
  { vm with
    errorHandler := []
    totalSurplus := vm.totalSurplus.saturatingAdd vm.errorHandlerWeight
    errorHandlerWeight := .zero }

/-- `take_appendix`. -/
def Vm.takeAppendix (vm : Vm R.World) : Program × Vm R.World :=
  (vm.appendix, { vm with appendix := [], appendixWeight := .zero })

/-- What is processed after a program, and the registers then. -/
def Processed.next (p : Processed R.World) : Program × Vm R.World :=
  match p.error with
  | some error =>
      let vm : Vm R.World := { p.vm with
        totalSurplus := p.vm.totalSurplus.saturatingAdd error.weight
        error := some (error.index, error.xcmError) }
      let (handler, vm) := vm.takeErrorHandler
      if handler = [] then vm.takeAppendix else (handler, vm)
  | none => p.vm.dropErrorHandler.takeAppendix

mutual

/-- The number of instructions in a program, those of the programs inside it
included. -/
def programSize : List Instruction → Nat
  | [] => 0
  | instr :: rest => instrSize instr + programSize rest

/-- The same for one instruction. -/
def instrSize : Instruction → Nat
  | .setErrorHandler handler => programSize handler + 1
  | .setAppendix appendix => programSize appendix + 1
  | _ => 1

end

/-- The instructions that have been executed, the registers after them and what
is still to be processed. -/
structure Execution (World : Type) where
  executed : List Instruction
  vm : Vm World
  remaining : Program

/-- The loop of `execute`, for at most `fuel` programs. -/
def run (R : Config) (count : Nat) :
    Nat → Vm R.World → Program → Execution R.World
  | 0, vm, message => ⟨[], vm, message⟩
  | fuel + 1, vm, message =>
      if message = [] then ⟨[], vm, []⟩
      else
        let p := process R count 0 vm message;
        let e := run R count fuel p.next.2 p.next.1;
        { e with executed := p.executed ++ e.executed }

/-- `prepare` and `execute`.  A message has fewer programs in it than
instructions, so that the loop comes to its end.  The refund of weight and the
trapping of assets that follow execute no instruction. -/
def execute (R : Config) (count : Nat) (origin : Location) (message : Program)
    (id : Encoded) (weightCredit : Weight) (world : R.World) :
    Except XcmError (Execution R.World) := do
  let weight ← okOr (R.weight message) .weightNotComputable
  let (message, properties) ←
    (barrier R.parachainId origin message weight ⟨weightCredit, none⟩).mapError
      fun _ => .barrier
  let vm := Vm.new origin (properties.messageId.getD id) world
  return run R count (programSize message + 1) vm message

/-! ## What an instruction does to the programs set aside -/

/-- An instruction leaves the error handler and the appendix alone, or sets one
of them to the program it carries. -/
theorem processInstruction_programs (vm : Vm R.World) (instr : Instruction) :
    ((processInstruction R vm instr).1.errorHandler = vm.errorHandler ∧
      (processInstruction R vm instr).1.appendix = vm.appendix) ∨
    (∃ handler, instr = .setErrorHandler handler ∧
      (processInstruction R vm instr).1.errorHandler = handler ∧
      (processInstruction R vm instr).1.appendix = vm.appendix) ∨
    (∃ appendix, instr = .setAppendix appendix ∧
      (processInstruction R vm instr).1.errorHandler = vm.errorHandler ∧
      (processInstruction R vm instr).1.appendix = appendix) := by
  cases instr with
  | setErrorHandler handler =>
      cases hweight : R.weight handler with
      | none | some => simp [processInstruction, hweight]
  | setAppendix appendix =>
      cases hweight : R.weight appendix with
      | none | some => simp [processInstruction, hweight]
  | descendOrigin who =>
      left
      cases horigin : vm.origin with
      | none => simp [processInstruction, horigin]
      | some origin =>
          cases happend : origin.appendWith who <;>
            simp [processInstruction, horigin, happend]
  | universalOrigin junction =>
      left
      by_cases hjunction : junction = .parachain R.parachainId
      · simp [processInstruction, hjunction]
      · by_cases horigin : vm.origin = none <;>
          simp [processInstruction, hjunction, horigin]
  | aliasOrigin =>
      left
      by_cases horigin : vm.origin = none <;>
        simp [processInstruction, horigin]
  | _ => exact .inl ⟨rfl, rfl⟩

/-! ## The loop comes to its end -/

/-- The size of the programs set aside. -/
def Vm.pending (vm : Vm R.World) : Nat :=
  programSize vm.errorHandler + programSize vm.appendix

theorem instrSize_pos (instr : Instruction) : 0 < instrSize instr := by
  cases instr <;> simp [instrSize]

theorem programSize_cons (instr : Instruction) (rest : Program) :
    programSize (instr :: rest) = instrSize instr + programSize rest := by
  rw [programSize]

theorem pending_processInstruction (vm : Vm R.World) (instr : Instruction) :
    (processInstruction R vm instr).1.pending + 1 ≤
      instrSize instr + vm.pending := by
  have hpos := instrSize_pos instr
  unfold Vm.pending
  rcases processInstruction_programs vm instr with
    ⟨hh, ha⟩ | ⟨handler, rfl, hh, ha⟩ | ⟨appendix, rfl, hh, ha⟩
  · rw [hh, ha]
    omega
  · rw [hh, ha, instrSize]
    omega
  · rw [hh, ha, instrSize]
    omega

theorem pending_process (count index : Nat) (vm : Vm R.World)
    (message : Program) (hmessage : message ≠ []) :
    (process R count index vm message).vm.pending <
      programSize message + vm.pending := by
  induction message generalizing index vm with
  | nil => exact absurd rfl hmessage
  | cons instr rest ih =>
      have hpos := instrSize_pos instr
      have hstep := pending_processInstruction vm instr
      rw [programSize_cons]
      unfold process
      by_cases hcount : count > recursionLimit
      · rw [if_pos hcount]
        show vm.pending < _
        omega
      · rw [if_neg hcount]
        rcases hres : processInstruction R vm instr with ⟨vm', e | u⟩
        · replace hstep : vm'.pending + 1 ≤ instrSize instr + vm.pending := by
            rwa [hres] at hstep
          show vm'.pending < _
          omega
        · replace hstep : vm'.pending + 1 ≤ instrSize instr + vm.pending := by
            rwa [hres] at hstep
          show (process R count (index + 1) vm' rest).vm.pending < _
          by_cases hrest : rest = []
          · rw [hrest]
            show vm'.pending < _
            omega
          · have := ih (index + 1) vm' hrest
            omega

theorem pending_next (p : Processed R.World) :
    programSize p.next.1 + p.next.2.pending ≤ p.vm.pending := by
  have hnil : programSize [] = 0 := by rw [programSize]
  unfold Processed.next
  cases p.error with
  | none =>
      show programSize p.vm.appendix + (programSize [] + programSize []) ≤ _
      unfold Vm.pending
      omega
  | some =>
      by_cases hhandler : p.vm.errorHandler = []
      · simp only [Vm.takeErrorHandler, hhandler, if_true]
        show programSize p.vm.appendix + (programSize [] + programSize []) ≤ _
        unfold Vm.pending
        omega
      · simp only [Vm.takeErrorHandler, hhandler, if_false]
        show programSize p.vm.errorHandler +
          (programSize [] + programSize p.vm.appendix) ≤ _
        unfold Vm.pending
        omega

/-- With fuel for every instruction, nothing remains to be processed. -/
theorem remaining_run (count fuel : Nat) (vm : Vm R.World) (message : Program)
    (hfuel : programSize message + vm.pending < fuel) :
    (run R count fuel vm message).remaining = [] := by
  induction fuel generalizing vm message with
  | zero => omega
  | succ fuel ih =>
      unfold run
      by_cases hmessage : message = []
      · rw [if_pos hmessage]
      · rw [if_neg hmessage]
        have hprocess := pending_process count 0 vm message hmessage
        have hnext := pending_next (process R count 0 vm message)
        exact ih _ _ (by omega)

end Thxnet.Xcm
