import Ringos.Emulator.Lockstep
import Ringos.Emulator.Results

/-!
# Splitting a run

A run whose budget is spent can be taken up again: the second run starts with a
fresh record from the guest the first one left, and together they are one run
with both budgets. Invocations of the callback are recorded beside its state.
-/

namespace Ringos.Emulator

open Ringos.Core

variable {σ : Type}

section Loop

variable {callbacks : Callbacks σ} (hcallback : callbacks.handleSyscall.isSome)

/-- An instruction that lets the run continue leaves the verdict alone. -/
theorem Stepped.verdict {start next : ExecutionContext σ}
    (h : Stepped callbacks start .continueRunning next) :
    next.result.completion = start.result.completion ∧
      next.result.guestStopReason = start.result.guestStopReason ∧
      next.result.backendFailure = start.result.backendFailure := by
  obtain ⟨instruction, dispatched, -, hdispatched, rfl⟩ := h
  have hstatus : dispatched.result.status = start.result.status := by
    unfold Dispatched at hdispatched
    split at hdispatched
    · obtain ⟨_, _, answer, -, -, hanswered⟩ := hdispatched.called
      cases haction : answer.action with
      | continueRun =>
        rw [haction] at hanswered
        exact hanswered.2
      | yield =>
        rw [haction] at hanswered
        cases hanswered.1
      | exitThread =>
        rw [haction] at hanswered
        cases hanswered.1
    · obtain ⟨-, store, -, hadvanced⟩ := hdispatched
      exact hadvanced.status
  simp only [EmulatorResult.status, Prod.mk.injEq] at hstatus
  exact ⟨hstatus.1, hstatus.2.1, hstatus.2.2.1⟩

/-- One more instruction is counted. -/
theorem Stepped.retired_toNat {start next : ExecutionContext σ} {outcome : InstructionOutcome}
    (h : Stepped callbacks start outcome next) {bound : UInt64}
    (hlt : start.result.retiredInstructions < bound) :
    next.result.retiredInstructions.toNat = start.result.retiredInstructions.toNat + 1 := by
  have hbound := bound.toNat_lt
  rw [UInt64.lt_iff_toNat_lt] at hlt
  rw [h.progressed.retired, UInt64.toNat_add, show (Nat.toUInt64 1).toNat = 1 from rfl]
  omega

include hcallback

/-- So do any number of them. -/
theorem retire_verdict {start last : ExecutionContext σ} {count : Nat}
    (hbytes : start.machine.memory.bytes ≠ 0) (h : retire callbacks count start = some last) :
    last.result.completion = start.result.completion ∧
      last.result.guestStopReason = start.result.guestStopReason ∧
      last.result.backendFailure = start.result.backendFailure := by
  induction count generalizing start with
  | zero =>
    obtain rfl := Option.some.inj h
    exact ⟨rfl, rfl, rfl⟩
  | succ count ih =>
    unfold retire at h
    split at h
    · rename_i middle hstep
      have hstepped := interpretInstruction_stepped hcallback hbytes hstep
      obtain ⟨hcompletion, hreason, hbackend⟩ := hstepped.verdict
      rw [← hcompletion, ← hreason, ← hbackend]
      exact ih (hstepped.progressed.memory ▸ hbytes) h
    · cases h

omit hcallback in
/-- Two contexts in step retire in step. -/
theorem retire_alike {left right last : ExecutionContext σ} {count : Nat} (h : Alike left right)
    (hretired : retire callbacks count left = some last) :
    ∃ last', retire callbacks count right = some last' ∧ Alike last last' := by
  induction count generalizing left right with
  | zero =>
    obtain rfl := Option.some.inj hretired
    exact ⟨right, rfl, h⟩
  | succ count ih =>
    unfold retire at hretired ⊢
    obtain ⟨hvalue, hstate⟩ := (interpretInstruction_inStep callbacks).related h
    rcases hleft : interpretInstruction callbacks left with ⟨_ | _ | _, next⟩ <;>
      rcases hright : interpretInstruction callbacks right with ⟨_ | _ | _, next'⟩ <;>
        simp_all
    exact ih hstate hretired

/-- Loops from contexts in step end in step, and count the same instructions. -/
theorem interpretLoop_alike {left right : ExecutionContext σ} {leftBudget rightBudget : UInt64}
    {fuel : Nat} (h : Alike left right) (hbytes : left.machine.memory.bytes ≠ 0)
    (hleft : left.result.retiredInstructions.toNat + fuel = leftBudget.toNat)
    (hright : right.result.retiredInstructions.toNat + fuel = rightBudget.toNat) :
    Alike (interpretLoop callbacks leftBudget fuel left)
        (interpretLoop callbacks rightBudget fuel right) ∧
      (interpretLoop callbacks leftBudget fuel left).result.retiredInstructions.toNat +
          right.result.retiredInstructions.toNat =
        (interpretLoop callbacks rightBudget fuel right).result.retiredInstructions.toNat +
          left.result.retiredInstructions.toNat := by
  induction fuel generalizing left right with
  | zero => exact ⟨h.mapResult rfl rfl rfl, Nat.add_comm _ _⟩
  | succ fuel ih =>
    have hleftLt : left.result.retiredInstructions < leftBudget := by
      rw [UInt64.lt_iff_toNat_lt]
      omega
    have hrightLt : right.result.retiredInstructions < rightBudget := by
      rw [UInt64.lt_iff_toNat_lt]
      omega
    have hbytes' : right.machine.memory.bytes ≠ 0 := h.machine ▸ hbytes
    unfold interpretLoop
    rw [if_pos hleftLt, if_pos hrightLt]
    obtain ⟨hvalue, hstate⟩ := (interpretInstruction_inStep callbacks).related h
    rcases hl : interpretInstruction callbacks left with ⟨outcome, next⟩
    rcases hr : interpretInstruction callbacks right with ⟨outcome', next'⟩
    rw [hl, hr] at hstate hvalue
    replace hstate : Alike next next' := hstate
    obtain rfl : outcome = outcome' := hvalue
    rcases outcome with _ | outcome
    · -- both fault, and neither counts the instruction
      have hfault := interpretInstruction_faulted hcallback hbytes hl
      have hfault' := interpretInstruction_faulted hcallback hbytes' hr
      refine ⟨hstate, ?_⟩
      show next.result.retiredInstructions.toNat + _ = next'.result.retiredInstructions.toNat + _
      rw [hfault.retired, hfault'.retired, Nat.add_comm]
    · have hcount := (interpretInstruction_stepped hcallback hbytes hl).retired_toNat hleftLt
      have hcount' :=
        (interpretInstruction_stepped hcallback hbytes' hr).retired_toNat hrightLt
      have hmemory := (interpretInstruction_stepped hcallback hbytes hl).progressed.memory
      cases outcome with
      | continueRunning =>
        obtain ⟨halike, hsum⟩ := ih hstate (hmemory ▸ hbytes) (by omega) (by omega)
        refine ⟨halike, ?_⟩
        show (interpretLoop callbacks leftBudget fuel next).result.retiredInstructions.toNat + _ =
          (interpretLoop callbacks rightBudget fuel next').result.retiredInstructions.toNat + _
        omega
      | retireAndStop =>
        refine ⟨hstate, ?_⟩
        show next.result.retiredInstructions.toNat + _ = next'.result.retiredInstructions.toNat + _
        omega

end Loop

/-- One call of the syscall handler: the guest state it was given and its answer. -/
abbrev Invocation := EmulatorState × SyscallResult

/-- The callbacks with a record of their invocations. -/
def Callbacks.recorded (callbacks : Callbacks σ) : Callbacks (σ × List Invocation) where
  handleSyscall := callbacks.handleSyscall.map fun handleSyscall state host (world, invocations) =>
    let (answer, host', world') := handleSyscall state host world
    (answer, host', world', invocations ++ [(state, answer)])

/-- The guest before any invocation. -/
def Machine.recorded (machine : Machine σ) : Machine (σ × List Invocation) where
  memory := machine.memory
  state := machine.state
  host := machine.host
  world := (machine.world, [])

/-- What can be observed of two runs is the same: the guest registers, flags, instruction
pointer and memory, the callback's state, its invocations, and the verdict. -/
structure SameRun (left right : ExecutionContext (σ × List Invocation)) : Prop where
  state : left.machine.state = right.machine.state
  host : left.machine.host = right.machine.host
  world : left.machine.world.1 = right.machine.world.1
  invocations : left.machine.world.2 = right.machine.world.2
  completion : left.result.completion = right.result.completion
  guestStopReason : left.result.guestStopReason = right.result.guestStopReason
  backendFailure : left.result.backendFailure = right.result.backendFailure

theorem Alike.sameRun {left right : ExecutionContext (σ × List Invocation)} (h : Alike left right) :
    SameRun left right where
  state := congrArg Machine.state h.machine
  host := congrArg Machine.host h.machine
  world := congrArg (fun machine => machine.world.1) h.machine
  invocations := congrArg (fun machine => machine.world.2) h.machine
  completion := h.completion
  guestStopReason := h.guestStopReason
  backendFailure := h.backendFailure

section Splitting

variable {machine : Machine σ} {callbacks : Callbacks σ}

/-- A run that spends its budget has retired it. -/
theorem retire_of_limit {options : Options}
    (h : (runX64Emulator machine callbacks options).result.completion = .instructionLimitReached) :
    options.engine = .interpreter ∧
      isValidInvocation machine.memory callbacks options = true ∧
      ∃ last, retire callbacks options.instructionBudget.toNat (ExecutionContext.start machine) =
          some last ∧
        runX64Emulator machine callbacks options =
          last.mapResult (EmulatorResult.setBackendFailure .instructionLimitReached) := by
  by_cases hengine : options.engine = .interpreter
  case neg => simp [runX64Emulator, hengine, EmulatorResult.initial] at h
  by_cases hvalid : isValidInvocation machine.memory callbacks options = true
  case neg =>
    simp [runX64Emulator, hengine, runInterpreter, hvalid, ExecutionContext.mapResult,
      EmulatorResult.setBackendFailure] at h
  obtain ⟨hcallback, hbytes, -⟩ := isValidInvocation_iff.mp hvalid
  refine ⟨hengine, hvalid, ?_⟩
  rcases ending_of_valid hengine hvalid with
    ⟨hretired, hfinal⟩ | ⟨-, hretired, hstep⟩ | ⟨-, hretired, hstep⟩
  · exact ⟨_, hretired, hfinal⟩
  · have hprogress := retire_progressed hcallback hbytes hretired
    have hstepped := interpretInstruction_stepped hcallback (hprogress.memory ▸ hbytes) hstep
    obtain ⟨_, _, answer, -, -, hanswered⟩ := hstepped.stopped
    have hstop := hanswered.reportsGuestStop.2
    rw [h] at hstop
    generalize (runX64Emulator machine callbacks options).result.guestStopReason = reason at hstop
    cases reason <;> cases hstop
  · have hprogress := retire_progressed hcallback hbytes hretired
    have hfault := interpretInstruction_faulted hcallback (hprogress.memory ▸ hbytes) hstep
    obtain ⟨-, ⟨hcompletion, -⟩ | ⟨hcompletion, -⟩⟩ := hfault.fault
    · rw [h] at hcompletion
      cases hcompletion
    · rw [h] at hcompletion
      cases hcompletion

/-- A run of two budgets, in step with the second of two runs of one each. -/
theorem runX64Emulator_add (engine : Engine) {first second total : UInt64} (hsecond : 0 < second)
    (htotal : total.toNat = first.toNat + second.toNat)
    (hlimit : (runX64Emulator machine callbacks ⟨engine, first⟩).result.completion =
      .instructionLimitReached) :
    let left := runX64Emulator machine callbacks ⟨engine, first⟩
    let right := runX64Emulator left.machine callbacks ⟨engine, second⟩
    let whole := runX64Emulator machine callbacks ⟨engine, total⟩
    Alike whole right ∧ whole.result.retiredInstructions =
      left.result.retiredInstructions + right.result.retiredInstructions := by
  intro left right whole
  obtain ⟨hengine, hvalid, last, hretired, hleft⟩ := retire_of_limit hlimit
  obtain ⟨hcallback, hbytes, hfirst⟩ := isValidInvocation_iff.mp hvalid
  change retire callbacks first.toNat (ExecutionContext.start machine) = some last at hretired
  obtain rfl : engine = .interpreter := hengine
  have hprogress := retire_progressed hcallback hbytes hretired
  have hmachine : left.machine = last.machine := by
    rw [show left = _ from hleft]
    rfl
  have hbytes' : last.machine.memory.bytes ≠ 0 := hprogress.memory ▸ hbytes
  -- the second run starts in step with where the first one stopped
  have hstart : Alike last (ExecutionContext.start left.machine) := by
    have hself : Alike (ExecutionContext.start machine) (ExecutionContext.start machine) :=
      ⟨rfl, or_reserved _, rfl, rfl, rfl⟩
    obtain ⟨last', -, halike⟩ := retire_alike hself hretired
    obtain ⟨hcompletion, hreason, hbackend⟩ := retire_verdict hcallback hbytes hretired
    refine ⟨?_, halike.normal, hcompletion, hreason, hbackend⟩
    rw [hmachine]
    have hflags : last.machine.state.flags ||| rflagsReserved = last.machine.state.flags :=
      halike.normal
    simp only [ExecutionContext.start, Machine.mapState, hflags]
  have hright : right = interpretLoop callbacks second second.toNat
      (ExecutionContext.start left.machine) := by
    refine runX64Emulator_of_valid rfl (isValidInvocation_iff.mpr ⟨hcallback, ?_, ?_⟩)
    · rw [hmachine]
      exact hbytes'
    · exact (UInt64.pos_iff_ne_zero).mp hsecond
  have hwhole : whole = interpretLoop callbacks total second.toNat last := by
    have hcount : (ExecutionContext.start machine).result.retiredInstructions.toNat +
        (first.toNat + second.toNat) = total.toNat := by
      rw [htotal]
      exact Nat.zero_add _
    rw [← interpretLoop_of_retire hcallback hbytes (by omega) hretired, ← htotal]
    refine runX64Emulator_of_valid rfl (isValidInvocation_iff.mpr ⟨hcallback, hbytes, ?_⟩)
    intro hzero
    have hzero : total.toNat = 0 := by rw [show total = 0 from hzero]; rfl
    rw [UInt64.lt_iff_toNat_lt] at hsecond
    omega
  have hcount : last.result.retiredInstructions.toNat = first.toNat := by
    rw [hprogress.retired]
    show (0 + first.toNat.toUInt64).toNat = first.toNat
    rw [UInt64.zero_add]
    exact congrArg UInt64.toNat UInt64.ofNat_toNat
  have hleftBudget : last.result.retiredInstructions.toNat + second.toNat = total.toNat := by
    rw [hcount]
    exact htotal.symm
  have hrightBudget : (ExecutionContext.start left.machine).result.retiredInstructions.toNat +
      second.toNat = second.toNat := Nat.zero_add _
  obtain ⟨halike, hsum⟩ := interpretLoop_alike hcallback hstart hbytes' hleftBudget hrightBudget
  rw [← hwhole, ← hright] at halike hsum
  refine ⟨halike, ?_⟩
  have hleftCount : left.result.retiredInstructions = last.result.retiredInstructions := by
    rw [show left = _ from hleft]
    rfl
  apply UInt64.toNat_inj.mp
  rw [hleftCount, UInt64.toNat_add]
  have hzero : (ExecutionContext.start left.machine).result.retiredInstructions.toNat = 0 := rfl
  have hbound := whole.result.retiredInstructions.toNat_lt
  omega

end Splitting

/-- Splitting a run is unobservable. -/
theorem runX64Emulator_split (machine : Machine σ) (callbacks : Callbacks σ) (engine : Engine)
    (first second total : UInt64) (hsecond : 0 < second)
    (htotal : total.toNat = first.toNat + second.toNat)
    (hlimit : (runX64Emulator machine.recorded callbacks.recorded
      ⟨engine, first⟩).result.completion = .instructionLimitReached) :
    let left := runX64Emulator machine.recorded callbacks.recorded ⟨engine, first⟩
    let right := runX64Emulator left.machine callbacks.recorded ⟨engine, second⟩
    let whole := runX64Emulator machine.recorded callbacks.recorded ⟨engine, total⟩
    SameRun whole right ∧ whole.result.retiredInstructions =
      left.result.retiredInstructions + right.result.retiredInstructions := by
  obtain ⟨halike, hretired⟩ := runX64Emulator_add engine hsecond htotal hlimit
  exact ⟨halike.sameRun, hretired⟩

/-- A guest that runs into its syscall after five instructions, split behind the second. -/
theorem nopsThenExit_split :
    let machine := sampleMachine [0x90, 0x90, 0x90, 0x90, 0x0F, 0x05] 0
    let left := runX64Emulator machine.recorded exitingCallbacks.recorded ⟨.interpreter, 2⟩
    let right := runX64Emulator left.machine exitingCallbacks.recorded ⟨.interpreter, 8⟩
    let whole := runX64Emulator machine.recorded exitingCallbacks.recorded ⟨.interpreter, 10⟩
    whole.machine.world.2.length = 1 ∧ SameRun whole right ∧
      whole.result.retiredInstructions =
        left.result.retiredInstructions + right.result.retiredInstructions := by
  refine ⟨by decide +kernel, ?_⟩
  exact runX64Emulator_split _ _ .interpreter 2 8 10 (by decide) (by decide) (by decide +kernel)

end Ringos.Emulator
