import Ringos.Emulator.Runs

/-!
# Precise guest faults

A run that stops at a fault should leave the registers, flags, instruction
pointer and guest memory that its retired instructions left. It does, unless
the faulting instruction pushes: the stack pointer is then moved already when
the slot turns out to lie outside the guest region.
-/

namespace Ringos.Emulator

open Ringos.Core

variable {σ : Type}

namespace Machine

/-- The instruction at the instruction pointer misses its push. -/
def faultsPushing (machine : Machine σ) : Bool :=
  match machine.fetchInstruction with
  | none => false
  | some instruction => machine.missesPush instruction

theorem afterStepFault_eq (machine : Machine σ) :
    machine.afterStepFault = if machine.faultsPushing then machine.lowerStack else machine := by
  unfold afterStepFault faultsPushing
  cases machine.fetchInstruction with
  | none => rfl
  | some instruction =>
    simp only [afterFault, missesPush, afterFailedPush]
    by_cases h : machine.reachesPush instruction = true <;> simp [h]

/-- Moving the stack pointer is visible. -/
theorem lowerStack_state_ne (machine : Machine σ) : machine.lowerStack.state ≠ machine.state := by
  intro heq
  have hregister : machine.lowerStack.register rsp = machine.register rsp := by
    rw [register, heq]
    rfl
  rw [lowerStack, register_setRegister machine (by decide)] at hregister
  have hnat := congrArg UInt64.toNat hregister
  rw [UInt64.toNat_sub, show (8 : UInt64).toNat = 8 from rfl] at hnat
  have hlt := (machine.register rsp).toNat_lt
  omega

end Machine

/-- A step that misses its push faults. -/
theorem interpretInstruction_of_faultsPushing {callbacks : Callbacks σ}
    {start : ExecutionContext σ} (hcallback : callbacks.handleSyscall.isSome)
    (hbytes : start.machine.memory.bytes ≠ 0) (hpush : start.machine.faultsPushing = true) :
    ∃ next, interpretInstruction callbacks start = (none, next) := by
  rcases hstep : interpretInstruction callbacks start with ⟨_ | outcome, next⟩
  · exact ⟨next, rfl⟩
  exfalso
  obtain ⟨instruction, dispatched, hfetch, hdispatched, -⟩ :=
    interpretInstruction_stepped hcallback hbytes hstep
  simp only [Machine.faultsPushing, hfetch] at hpush
  unfold Dispatched at hdispatched
  split at hdispatched
  · rename_i hsyscall
    have hopcode : instruction.opcode = 0x0F := by
      simp only [Machine.isSyscall, Bool.and_eq_true, beq_iff_eq] at hsyscall
      exact hsyscall.1.1
    have hreach : start.machine.reachesPush instruction = false :=
      reachesPush_of_not_pushes (by rw [hopcode]; decide)
    rw [Machine.missesPush, hreach] at hpush
    cases hpush
  · obtain ⟨-, store, ⟨hallowed, -⟩, -⟩ := hdispatched
    rw [hallowed] at hpush
    cases hpush

/-- If the run stops at a guest fault after some retired instructions, `good` holds of what they
left and of what the run leaves. -/
def OnFault (machine : Machine σ) (callbacks : Callbacks σ) (options : Options)
    (good : ExecutionContext σ → ExecutionContext σ → Prop) : Prop :=
  let final := runX64Emulator machine callbacks options
  final.result.completion = .invalidMemoryAccess ∨
      final.result.completion = .unsupportedInstruction →
    ∃ last, retire callbacks final.result.retiredInstructions.toNat
        (ExecutionContext.start machine) = some last ∧ good last final

/-- Within its budget the run comes to a context of a kind. -/
def Reaches (machine : Machine σ) (callbacks : Callbacks σ) (options : Options)
    (bad : ExecutionContext σ → Prop) : Prop :=
  options.engine = .interpreter ∧
    isValidInvocation machine.memory callbacks options = true ∧
    ∃ count last, count < options.instructionBudget.toNat ∧
      retire callbacks count (ExecutionContext.start machine) = some last ∧ bad last

/-- If the run stops at a guest fault after some retired instructions, its guest state and
guest memory are those the retired instructions left. -/
def FaultsPrecisely (machine : Machine σ) (callbacks : Callbacks σ) (options : Options) : Prop :=
  OnFault machine callbacks options fun last final =>
    final.machine.state = last.machine.state ∧
      ∀ address, InRange machine.memory.bytes machine.memory.size.toNat address →
        final.machine.host address = last.machine.host address

/-- Within its budget the run comes to an instruction that gets as far as a push, with the
stack pointer above the lower check and the slot outside the guest region. -/
def PushesOffStack (machine : Machine σ) (callbacks : Callbacks σ) (options : Options) : Prop :=
  Reaches machine callbacks options fun last => last.machine.faultsPushing = true

section Precision

variable {machine : Machine σ} {callbacks : Callbacks σ} {options : Options}

/-- The callback's ending is no fault. -/
theorem Stepped.not_fault {start next : ExecutionContext σ}
    (h : Stepped callbacks start .retireAndStop next) :
    next.result.completion ≠ .invalidMemoryAccess ∧
      next.result.completion ≠ .unsupportedInstruction := by
  obtain ⟨-, -, answer, -, -, hanswered⟩ := h.stopped
  unfold Answered at hanswered
  cases haction : answer.action <;> simp_all

section Endings

variable {bad : ExecutionContext σ → Prop}
  (hbad : callbacks.handleSyscall.isSome → ∀ {last : ExecutionContext σ},
    last.machine.memory.bytes ≠ 0 → bad last → ∃ next, interpretInstruction callbacks last = (none, next))

include hbad

/-- A run that ends otherwise than by a fault never comes to an instruction that faults. -/
theorem not_reaches_of_stop {count : Nat} {last : ExecutionContext σ}
    (hcallback : callbacks.handleSyscall.isSome) (hbytes : machine.memory.bytes ≠ 0)
    (hretired : retire callbacks count (ExecutionContext.start machine) = some last)
    (hstop : count = options.instructionBudget.toNat ∨
      ∃ next, interpretInstruction callbacks last = (some .retireAndStop, next)) :
    ¬ Reaches machine callbacks options bad := by
  rintro ⟨-, -, first, middle, hwithin, hmiddle, hreached⟩
  have hmemory := (retire_progressed hcallback hbytes hmiddle).memory
  obtain ⟨next, hfault⟩ := hbad hcallback (hmemory ▸ hbytes) hreached
  rcases hstop with rfl | ⟨next', hstep⟩
  · obtain ⟨next', hstep⟩ := retire_step hretired hmiddle hwithin
    simp [hfault] at hstep
  · obtain ⟨-, rfl⟩ := retire_unique hmiddle hretired (by simp [hfault]) (by simp [hstep])
    simp [hfault] at hstep

/-- If a faulting instruction leaves what it should exactly when it is not bad, so does a run
exactly when it comes to no bad instruction. -/
theorem onFault_iff {good : ExecutionContext σ → ExecutionContext σ → Prop}
    (hgood : callbacks.handleSyscall.isSome → ∀ {last next : ExecutionContext σ},
      last.machine.memory.bytes ≠ 0 → interpretInstruction callbacks last = (none, next) →
        (good last next ↔ ¬ bad last)) :
    OnFault machine callbacks options good ↔ ¬ Reaches machine callbacks options bad := by
  by_cases hengine : options.engine = .interpreter
  case neg =>
    refine iff_of_true (fun h => ?_) fun h => hengine h.1
    simp [runX64Emulator, hengine, EmulatorResult.initial] at h
  by_cases hvalid : isValidInvocation machine.memory callbacks options = true
  case neg =>
    refine iff_of_true (fun h => ?_) fun h => hvalid h.2.1
    simp [runX64Emulator, hengine, runInterpreter, hvalid, ExecutionContext.mapResult,
      EmulatorResult.setBackendFailure] at h
  obtain ⟨hcallback, hbytes, -⟩ := isValidInvocation_iff.mp hvalid
  rcases ending_of_valid hengine hvalid with
    ⟨hretired, hfinal⟩ | ⟨hwithin, hretired, hstep⟩ | ⟨hwithin, hretired, hstep⟩
  · refine iff_of_true (fun h => ?_)
      (not_reaches_of_stop hbad hcallback hbytes hretired (.inl rfl))
    simp [hfinal, ExecutionContext.mapResult, EmulatorResult.setBackendFailure] at h
  · refine iff_of_true (fun h => ?_)
      (not_reaches_of_stop hbad hcallback hbytes hretired (.inr ⟨_, hstep⟩))
    rename_i last
    have hlast := (retire_progressed hcallback hbytes hretired).memory
    have hend := (interpretInstruction_stepped hcallback (hlast ▸ hbytes) hstep).not_fault
    exact absurd h (not_or.mpr hend)
  · rename_i count last
    have hprogress := retire_progressed hcallback hbytes hretired
    have hbytes' := hprogress.memory ▸ hbytes
    have hfault := interpretInstruction_faulted hcallback hbytes' hstep
    have hcount : (runX64Emulator machine callbacks options).result.retiredInstructions.toNat =
        count := by
      have hbudget := options.instructionBudget.toNat_lt
      rw [hfault.retired, hprogress.retired]
      show (0 + count.toUInt64).toNat = count
      rw [UInt64.zero_add]
      exact UInt64.toNat_ofNat_of_lt' (Nat.lt_trans hwithin hbudget)
    have hreached : Reaches machine callbacks options bad ↔ bad last := by
      constructor
      · rintro ⟨-, -, first, middle, -, hmiddle, hbadMiddle⟩
        have hmemory := (retire_progressed hcallback hbytes hmiddle).memory
        obtain ⟨next, hmissed⟩ := hbad hcallback (hmemory ▸ hbytes) hbadMiddle
        obtain ⟨-, rfl⟩ := retire_unique hmiddle hretired (by simp [hmissed]) (by simp [hstep])
        exact hbadMiddle
      · intro hbadLast
        exact ⟨hengine, hvalid, count, last, hwithin, hretired, hbadLast⟩
    rw [hreached, ← hgood hcallback hbytes' hstep]
    constructor
    · intro hruns
      obtain ⟨last', hlast, hkept⟩ := hruns (hfault.fault.2.imp And.left And.left)
      rw [hcount, hretired] at hlast
      obtain rfl := Option.some.inj hlast
      exact hkept
    · intro hkept _
      rw [hcount]
      exact ⟨last, hretired, hkept⟩

end Endings

/-- Guest faults are precise exactly when the run never comes to a push it misses. -/
theorem faultsPrecisely_iff (machine : Machine σ) (callbacks : Callbacks σ) (options : Options) :
    FaultsPrecisely machine callbacks options ↔ ¬ PushesOffStack machine callbacks options := by
  refine onFault_iff (fun hcallback {last} hbytes hpush =>
    interpretInstruction_of_faultsPushing hcallback hbytes hpush)
    fun hcallback {last next} hbytes hstep => ?_
  have hfault := interpretInstruction_faulted hcallback hbytes hstep
  rw [hfault.machine, Machine.afterStepFault_eq]
  constructor
  · rintro ⟨hstate, -⟩ hmissed
    rw [if_pos hmissed] at hstate
    exact last.machine.lowerStack_state_ne hstate
  · intro hkept
    rw [if_neg hkept]
    exact ⟨rfl, fun _ _ => rfl⟩

end Precision

/-- A guest of one region of sixteen bytes at guest and host address `0x1000`. -/
def sampleMachine (code : List UInt8) (stackPointer : UInt64) : Machine Unit where
  memory := ⟨0x1000, 0x1000, 16⟩
  state :=
    { generalRegisters := (Vector.replicate 16 0).setIfInBounds 4 stackPointer
      simdRegisters := Vector.replicate 16 (Vector.replicate 16 0)
      instructionPointer := 0x1000
      flags := 0x202 }
  host := storeBytes (fun _ => 0) 0x1000 code
  world := ()

/-- A callback that ends the thread. -/
def exitingCallbacks : Callbacks Unit where
  handleSyscall := some fun _ host world => (⟨0, .exitThread⟩, host, world)

/-- `push rax` with the stack pointer beyond the region faults, but leaves the stack pointer
eight bytes lower. -/
theorem pushBeyondRegion_imprecise :
    ¬ FaultsPrecisely (sampleMachine [0x50] 0x2000) exitingCallbacks ⟨.interpreter, 8⟩ := by
  intro h
  have hretired : (runX64Emulator (sampleMachine [0x50] 0x2000) exitingCallbacks
      ⟨.interpreter, 8⟩).result.retiredInstructions.toNat = 0 := by decide +kernel
  obtain ⟨last, hlast, hstate, -⟩ := h (.inl (by decide +kernel))
  rw [hretired] at hlast
  obtain rfl := Option.some.inj hlast
  exact absurd hstate (by decide +kernel)

end Ringos.Emulator
