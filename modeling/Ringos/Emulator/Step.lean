import Ringos.Emulator.ControlFlowEffects

/-!
# One step of the interpreter

Dispatch selects a handler; together with the decoder it makes a step, which
retires one instruction with at most one store, or returns from the syscall
callback, or faults.
-/

namespace Ringos.Emulator

open Ringos.Core
open Exec

variable {σ : Type}

section Dispatch

variable {start : ExecutionContext σ} (hbytes : start.machine.memory.bytes ≠ 0)
  {instruction : DecodedInstruction}

theorem reachesPush_of_not_pushes {machine : Machine σ} (h : ¬ Pushes instruction.opcode) :
    machine.reachesPush instruction = false := by
  rw [Machine.reachesPush, if_neg fun hc => h (.inl hc), if_neg fun hc => h (.inr (.inl hc)),
    if_neg fun hc => h (.inr (.inr hc))]

/-- An instruction that does not push leaves the machine alone when it faults. -/
theorem afterFault_of_not_pushes {machine : Machine σ} (h : ¬ Pushes instruction.opcode) :
    machine.afterFault instruction = machine := by
  rw [Machine.afterFault, reachesPush_of_not_pushes h]
  rfl

/-- An instruction that stores nothing may always retire, unless it misses a push. -/
theorem allows_none {machine : Machine σ} (h : machine.reachesPush instruction = false) :
    machine.Allows instruction none :=
  ⟨by rw [Machine.missesPush, h]; rfl, trivial⟩

/-- The stores of the primary opcodes with a memory operand are allowed. -/
theorem admits_primary {machine : Machine σ} (h : ¬ Pushes instruction.opcode)
    (hprimary : instruction.opcode ≠ 0x0F) :
    Admits machine instruction instruction.nextAddress (machine.Allows instruction) where
  none := allows_none (reachesPush_of_not_pushes h)
  operand address bytes haddress hlength := by
    refine ⟨(allows_none (reachesPush_of_not_pushes h)).1, ?_, hlength⟩
    rw [Machine.storeAddress, if_neg h, if_neg hprimary]
    exact haddress

/-- The stores of the secondary opcodes are allowed. -/
theorem admits_secondary {machine : Machine σ} (hsecondary : instruction.opcode = 0x0F) :
    Admits machine instruction (instruction.nextAddress + 1) (machine.Allows instruction) := by
  have hnone : machine.Allows instruction none :=
    allows_none (reachesPush_of_not_pushes (by rw [hsecondary]; decide))
  refine ⟨hnone, fun address bytes haddress hlength => ⟨hnone.1, ?_, hlength⟩⟩
  rw [Machine.storeAddress, if_neg (by rw [hsecondary]; decide), if_pos hsecondary]
  exact haddress

/-- Pushes are allowed to the opcodes that push. -/
theorem allows_push {machine : Machine σ} (h : Pushes instruction.opcode) (value : UInt64)
    (hfound : machine.pushMissesStack = false) :
    machine.Allows instruction (some (machine.register rsp - 8, toLittleEndian 8 value)) := by
  refine ⟨by rw [Machine.missesPush, hfound, Bool.and_false], ?_,
    .inr (.inl (length_toLittleEndian 8 value))⟩
  rw [Machine.storeAddress, if_pos h]

/-- A table entry is chosen by a test on the opcode. -/
theorem entry_completes {c : Prop} [Decidable c] {allowed : GuestStore → Prop}
    {machine : Machine σ} {entry others : DecodedInstruction → Exec σ InstructionOutcome}
    (hentry : c → Completes start allowed machine (entry instruction))
    (hothers : ¬ c → Completes start allowed machine (others instruction)) :
    Completes start allowed machine ((if c then entry else others) instruction) := by
  split
  · rename_i hc
    exact hentry hc
  · rename_i hc
    exact hothers hc

/-- The handlers that do not push meet the specification of dispatch. -/
theorem completes_afterFault {allowed : GuestStore → Prop} {x : Exec σ InstructionOutcome}
    (h : ¬ Pushes instruction.opcode) (hx : Completes start allowed start.machine x) :
    Completes start allowed (start.machine.afterFault instruction) x := by
  rw [afterFault_of_not_pushes h]
  exact hx

/-- The other opcode ranges of the table do not push. -/
theorem not_pushes_of_range {opcode low high : UInt8} (hlow : low ≤ opcode)
    (hhigh : opcode ≤ high) (habove : 0x57 < low) (hbelow : high < 0xE8) : ¬ Pushes opcode := by
  rw [UInt8.le_iff_toNat_le] at hlow hhigh
  rw [UInt8.lt_iff_toNat_lt] at habove hbelow
  change 0x57 < _ at habove
  change _ < 0xE8 at hbelow
  rintro (⟨-, h⟩ | rfl | rfl)
  · rw [UInt8.le_iff_toNat_le] at h
    change _ ≤ 0x57 at h
    omega
  · change 0xE8 ≤ _ at hhigh
    omega
  · change 0xFF ≤ _ at hhigh
    omega

include hbytes

/-- Every primary opcode completes. -/
theorem primaryOpcodeHandler_completes (hprimary : instruction.opcode ≠ 0x0F) :
    Completes start (start.machine.Allows instruction) (start.machine.afterFault instruction)
      (primaryOpcodeHandler instruction.opcode instruction) := by
  have hnone (h : ¬ Pushes instruction.opcode) : start.machine.Allows instruction none :=
    allows_none (reachesPush_of_not_pushes h)
  have hadmits (h : ¬ Pushes instruction.opcode) : Admits start.machine instruction
      instruction.nextAddress (start.machine.Allows instruction) := admits_primary h hprimary
  unfold primaryOpcodeHandler
  refine entry_completes (fun h => completes_afterFault (by rw [h]; decide)
    (executeX64Group80_completes hbytes (hnone (by rw [h]; decide)))) fun _ => ?_
  refine entry_completes (fun h => completes_afterFault (by rw [h]; decide)
    (executeX64Group81_completes hbytes (hadmits (by rw [h]; decide)))) fun _ => ?_
  refine entry_completes (fun h => completes_afterFault (by rw [h]; decide)
    (executeX64OrRegisterByte_completes hbytes (hnone (by rw [h]; decide)))) fun _ => ?_
  refine entry_completes (fun h => completes_afterFault (by rw [h]; decide)
    (executeX64OrRmToRegister_completes hbytes (hnone (by rw [h]; decide)))) fun _ => ?_
  refine entry_completes (fun h => completes_afterFault (by rw [h]; decide)
    (executeX64MovRegister_completes hbytes (hadmits (by rw [h]; decide)))) fun _ => ?_
  refine entry_completes (fun h => completes_afterFault (by rw [h]; decide)
    (executeX64MovRegister_completes hbytes (hadmits (by rw [h]; decide)))) fun _ => ?_
  refine entry_completes (fun h => completes_afterFault (by rw [h]; decide)
    (executeX64CompareRmWithRegister_completes hbytes (hnone (by rw [h]; decide)))) fun _ => ?_
  refine entry_completes (fun h => completes_afterFault (by rw [h]; decide)
    (executeX64XorRegister_completes hbytes (hnone (by rw [h]; decide)))) fun _ => ?_
  refine entry_completes (fun h => completes_afterFault (by rw [h]; decide)
    (executeX64TestRegister_completes hbytes (hnone (by rw [h]; decide)))) fun _ => ?_
  refine entry_completes (fun h => completes_afterFault (by rw [h]; decide)
    (executeX64TestAccumulatorImmediate_completes hbytes (hnone (by rw [h]; decide)))) fun _ => ?_
  refine entry_completes (fun h => completes_afterFault (by rw [h]; decide)
    (executeX64Group83_completes hbytes (hadmits (by rw [h]; decide)))) fun _ => ?_
  refine entry_completes (fun h => completes_afterFault (by rw [h]; decide)
    (executeX64Lea_completes hbytes (hnone (by rw [h]; decide)))) fun _ => ?_
  refine entry_completes (fun h => completes_afterFault (by rw [h]; decide)
    (executeX64Nop_completes (hnone (by rw [h]; decide)))) fun _ => ?_
  refine entry_completes (fun h => completes_afterFault (by rw [h]; decide)
    (executeX64MovImmediateToRm_completes hbytes (hadmits (by rw [h]; decide)))) fun _ => ?_
  refine entry_completes (fun h => completes_afterFault (by rw [h]; decide)
    (executeX64GroupF6_completes hbytes (hnone (by rw [h]; decide)))) fun _ => ?_
  refine entry_completes (fun h => completes_afterFault (by rw [h]; decide)
    (executeX64GroupF7_completes hbytes (hadmits (by rw [h]; decide)))) fun _ => ?_
  refine entry_completes (fun h => completes_afterFault (by rw [h]; decide)
    (executeX64Return_completes hbytes (hnone (by rw [h]; decide)))) fun _ => ?_
  refine entry_completes (fun h =>
    executeX64CallRelative_completes hbytes (allows_push (by rw [h]; decide)) h) fun hcall => ?_
  refine entry_completes (fun h => completes_afterFault (by rw [h]; decide)
    (executeX64JumpRelativeNear_completes hbytes (hnone (by rw [h]; decide)))) fun _ => ?_
  refine entry_completes (fun h => completes_afterFault (by rw [h]; decide)
    (executeX64JumpRelativeShort_completes hbytes (hnone (by rw [h]; decide)))) fun _ => ?_
  refine entry_completes (fun h => completes_afterFault (by rw [h]; decide)
    (executeX64JumpShortCondition_completes hbytes (hnone (by rw [h]; decide)))) fun _ => ?_
  refine entry_completes (fun h => completes_afterFault (by rw [h]; decide)
    (executeX64JumpShortCondition_completes hbytes (hnone (by rw [h]; decide)))) fun _ => ?_
  refine entry_completes (fun h =>
    executeX64GroupFf_completes hbytes (allows_push (by rw [h]; decide)) allows_none h) fun hgroup => ?_
  refine entry_completes (fun h =>
    executeX64PushRegister_completes hbytes (allows_push (.inl h)) h.1 h.2) fun hpush => ?_
  refine entry_completes (fun h => ?_) fun _ => ?_
  · have hother := not_pushes_of_range h.1 h.2 (by decide) (by decide)
    exact completes_afterFault hother
      (executeX64PopRegister_completes hbytes (hnone hother) h.1 h.2)
  refine entry_completes (fun h => ?_) fun _ => ?_
  · have hother := not_pushes_of_range h.1 h.2 (by decide) (by decide)
    exact completes_afterFault hother
      (executeX64MovImmediate32_completes hbytes (hnone hother) h.1 h.2)
  apply completes_afterFault
  · rintro (h | h | h)
    · exact hpush h
    · exact hcall h
    · exact hgroup h
  · exact unsupported_triple _

/-- Every secondary opcode but the syscall completes. -/
theorem secondaryOpcodeHandler_completes {callbacks : Callbacks σ} {secondaryOpcode : UInt8}
    (hsecondary : instruction.opcode = 0x0F) (hsyscall : secondaryOpcode ≠ 0x05) :
    Completes start (start.machine.Allows instruction) (start.machine.afterFault instruction)
      (secondaryOpcodeHandler callbacks secondaryOpcode instruction) := by
  have hadmits : Admits start.machine instruction (instruction.nextAddress + 1)
      (start.machine.Allows instruction) := admits_secondary hsecondary
  have hnone := hadmits.none
  apply completes_afterFault (by rw [hsecondary]; decide)
  unfold secondaryOpcodeHandler
  refine entry_completes (fun _ => executeX64SecondaryMovXmm_completes hbytes hnone) fun _ => ?_
  refine entry_completes (fun _ => executeX64SecondaryStoreXmm_completes hbytes hadmits)
    fun _ => ?_
  refine entry_completes (fun h => absurd h hsyscall) fun _ => ?_
  refine entry_completes (fun _ => executeX64SecondaryStoreXmm_completes hbytes hadmits)
    fun _ => ?_
  refine entry_completes (fun _ => executeX64JumpNearCondition_completes hbytes hnone)
    fun _ => ?_
  refine entry_completes (fun _ => executeX64JumpNearCondition_completes hbytes hnone)
    fun _ => ?_
  refine entry_completes (fun _ => executeX64SecondarySetcc_completes hbytes hnone) fun _ => ?_
  refine entry_completes (fun _ => executeX64SecondarySetcc_completes hbytes hnone) fun _ => ?_
  refine entry_completes (fun _ => executeX64SecondaryMovzxByte_completes hbytes hnone)
    fun _ => ?_
  refine entry_completes (fun _ => executeX64SecondaryXorps_completes hbytes hnone) fun _ => ?_
  refine entry_completes (fun _ => executeX64SecondaryPunpcklbw_completes hbytes hnone)
    fun _ => ?_
  refine entry_completes (fun _ => executeX64SecondaryMovd_completes hbytes hnone) fun _ => ?_
  refine entry_completes (fun _ => executeX64SecondaryShuffle_completes hbytes hnone) fun _ => ?_
  refine entry_completes (fun _ => executeX64SecondaryStoreXmm_completes hbytes hadmits)
    fun _ => ?_
  refine entry_completes (fun _ => executeX64SecondaryMovqStore_completes hbytes hadmits)
    fun _ => ?_
  refine entry_completes (fun _ => executeX64SecondaryNop_completes hbytes hnone) fun _ => ?_
  exact unsupported_triple _

omit hbytes in
/-- The syscall never gives up: it returns from the callback and records how to go on. -/
theorem executeX64Syscall_triple {callbacks : Callbacks σ} {E : ExecutionContext σ → Prop}
    (hcallback : callbacks.handleSyscall.isSome) :
    Attempt.Triple (Untouched start) (executeX64Syscall callbacks instruction)
      (Returned callbacks start) E := by
  obtain ⟨handleSyscall, hhandle⟩ := Option.isSome_iff_exists.mp hcallback
  -- up to the call only the instruction pointer has changed
  let entered (context : ExecutionContext σ) : Prop :=
    context.machine =
        start.machine.mapState
          (fun state => { state with instructionPointer := instruction.nextAddress + 1 }) ∧
      context.result.status = start.result.status ∧ Traced start [] context
  -- after it the callback has given its answer
  let answered (answer : SyscallResult) (context : ExecutionContext σ) : Prop :=
    context.machine.memory = start.machine.memory ∧
      context.result.status = start.result.status ∧ Traced start [] context ∧
      handleSyscall { start.machine.state with instructionPointer := instruction.nextAddress + 1 }
          start.machine.host start.machine.world =
        (answer, context.machine.host, context.machine.world)
  have hset : Attempt.Triple (Untouched start)
      (setInstructionPointer (instruction.nextAddress + 1)) (fun _ => entered) E := by
    apply Attempt.Triple.update
    intro context h
    refine ⟨?_, h.status, h.traced⟩
    rw [← h.machine]
    rfl
  have hcall : Attempt.Triple entered (callHandler callbacks) answered E := by
    rintro context ⟨hmachine, hstatus, htraced⟩
    unfold callHandler
    rw [hhandle]
    constructor
    · intro answer next heq
      cases heq
      simp only [hmachine]
      exact ⟨rfl, hstatus, htraced, rfl⟩
    · intro next heq
      cases heq
  have hrax (answer : SyscallResult) (value : UInt64) :
      Attempt.Triple (answered answer) (setRegister64 rax value) (fun _ => answered answer) E := by
    refine Attempt.Triple.bind (Q := fun _ => answered answer) (Attempt.Triple.update ?_) fun _ =>
      Attempt.Triple.update ?_
    · rintro context ⟨hmemory, hstatus, htraced, hanswer⟩
      exact ⟨hmemory, hstatus, htraced.note (show rax < 16 by decide) rfl, hanswer⟩
    · intro context h
      exact h
  refine Attempt.Triple.bind hset fun _ => Attempt.Triple.bind hcall fun answer =>
    Attempt.Triple.bind (hrax answer _) fun _ => ?_
  have hretired (context : ExecutionContext σ) (h : answered answer context) :
      context.result.retiredInstructions = start.result.retiredInstructions := by
    have hstatus := h.2.1
    simp only [EmulatorResult.status, Prod.mk.injEq] at hstatus
    exact hstatus.2.2.2
  have hreturned {outcome : InstructionOutcome} {context : ExecutionContext σ}
      (f : EmulatorResult → EmulatorResult)
      (hkept : (f context.result).retiredInstructions = context.result.retiredInstructions)
      (h : answered answer context)
      (houtcome : Answered start answer.action outcome (context.mapResult f)) :
      Returned callbacks start outcome (context.mapResult f) :=
    ⟨h.1, h.2.2.1, hkept.trans (hretired context h),
      handleSyscall, _, answer, hhandle, h.2.2.2, houtcome⟩
  cases haction : answer.action with
  | continueRun =>
    refine Attempt.Triple.pure fun context h => hreturned id rfl h ?_
    rw [haction]
    exact ⟨rfl, h.2.1⟩
  | yield =>
    refine Attempt.Triple.bind (Attempt.Triple.update fun context h =>
      hreturned EmulatorResult.setYielded rfl h ?_) fun _ => Attempt.Triple.pure fun _ h => h
    rw [haction]
    exact ⟨rfl, rfl, rfl, rfl⟩
  | exitThread =>
    refine Attempt.Triple.bind (Attempt.Triple.update fun context h =>
      hreturned EmulatorResult.setThreadExited rfl h ?_) fun _ => Attempt.Triple.pure fun _ h => h
    rw [haction]
    exact ⟨rfl, rfl, rfl, rfl⟩

/-- What a dispatched instruction that retires has done. -/
def Dispatched (callbacks : Callbacks σ) (start : ExecutionContext σ)
    (instruction : DecodedInstruction) (outcome : InstructionOutcome)
    (context : ExecutionContext σ) : Prop :=
  if start.machine.isSyscall instruction = true then Returned callbacks start outcome context
  else outcome = .continueRunning ∧
    ∃ store, start.machine.Allows instruction store ∧ Advanced start store context

/-- Dispatch retires the instruction or faults, and says which machine a fault leaves. -/
theorem dispatch_triple {callbacks : Callbacks σ} (hcallback : callbacks.handleSyscall.isSome) :
    Attempt.Triple (Untouched start) (dispatch callbacks instruction)
      (Dispatched callbacks start instruction) (Faulted start (start.machine.afterFault instruction)) := by
  refine Attempt.Triple.bind (Q := fun _ => Untouched start) (Attempt.Triple.update fun context h =>
    h.mapResult fun _ => rfl) fun _ => ?_
  apply Attempt.Triple.ite
  · intro hsecondary
    have hkept : start.machine.afterFault instruction = start.machine :=
      afterFault_of_not_pushes (by rw [hsecondary]; decide)
    unfold dispatchSecondaryOpcode
    apply Attempt.Triple.ite
    · intro _
      rw [hkept]
      exact unsupported_triple _
    intro hrex
    refine (readOpcode_denotes hbytes _).then ?_ fun secondaryOpcode hopcode => ?_
    · intro context _ hrefused
      rw [hkept]
      exact hrefused.1
    refine Attempt.Triple.bind (Q := fun _ => Untouched start) (Attempt.Triple.update
      fun context h => h.mapResult fun _ => rfl) fun _ => ?_
    by_cases hsyscall : secondaryOpcode = 0x05
    · subst hsyscall
      have hcalls : start.machine.isSyscall instruction = true := by
        simp [Machine.isSyscall, hsecondary, Bool.eq_false_iff.mpr hrex, hopcode]
      exact (executeX64Syscall_triple hcallback).conseq (fun _ h => h)
        (fun _ _ h => (if_pos hcalls).mpr h) fun _ h => h
    · have hcalls : ¬ start.machine.isSyscall instruction = true := by
        simp [Machine.isSyscall, hopcode, hsyscall]
      exact (secondaryOpcodeHandler_completes hbytes hsecondary hsyscall).conseq (fun _ h => h)
        (fun _ _ h => (if_neg hcalls).mpr h) fun _ h => h
  · intro hprimary
    have hcalls : ¬ start.machine.isSyscall instruction = true := by
      simp [Machine.isSyscall, hprimary]
    exact (primaryOpcodeHandler_completes hbytes hprimary).conseq (fun _ h => h)
      (fun _ _ h => (if_neg hcalls).mpr h) fun _ h => h

end Dispatch

/-- The machine a fault at the present instruction pointer leaves. -/
def Machine.afterStepFault (machine : Machine σ) : Machine σ :=
  match machine.fetchInstruction with
  | none => machine
  | some instruction => machine.afterFault instruction

/-- A step that has retired an instruction: it did what dispatch says, and was counted. -/
def Stepped (callbacks : Callbacks σ) (start : ExecutionContext σ) (outcome : InstructionOutcome)
    (context : ExecutionContext σ) : Prop :=
  ∃ instruction dispatched, start.machine.fetchInstruction = some instruction ∧
    Dispatched callbacks start instruction outcome dispatched ∧
    context = dispatched.mapResult EmulatorResult.countRetired

/-- A step retires an instruction or faults. -/
theorem interpretInstruction_triple {callbacks : Callbacks σ} {start : ExecutionContext σ}
    (hcallback : callbacks.handleSyscall.isSome) (hbytes : start.machine.memory.bytes ≠ 0) :
    Attempt.Triple (Untouched start) (interpretInstruction callbacks) (Stepped callbacks start)
      (Faulted start start.machine.afterStepFault) := by
  unfold interpretInstruction Machine.afterStepFault
  refine (decodeX64Instruction_denotes hbytes).then ?_ fun instruction hfetch => ?_
  · intro context hnone hrefused
    rw [hnone]
    exact hrefused.1
  rw [hfetch]
  refine Attempt.Triple.bind (dispatch_triple hbytes hcallback) fun outcome => ?_
  refine Attempt.Triple.bind (Q := fun _ => Stepped callbacks start outcome)
    (Attempt.Triple.update fun context h => ⟨instruction, context, hfetch, h, rfl⟩) fun _ =>
      Attempt.Triple.pure fun _ h => h

end Ringos.Emulator
