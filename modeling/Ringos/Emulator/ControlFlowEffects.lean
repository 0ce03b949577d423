import Ringos.Emulator.HandlerEffects

/-!
# The effects of pushes, jumps and syscalls, and of one dispatched instruction

A push that is refused after the stack pointer has moved is the one fault that
changes the machine. The states in which it happens are described exactly: the
instruction gets as far as its push, the stack pointer passes the lower check,
and the slot below it is not in the guest region.
-/

namespace Ringos.Emulator

open Ringos.Core
open Exec

variable {σ : Type}

/-- The opcodes that push: `push`, `call` and the group of the indirect call. -/
def Pushes (opcode : UInt8) : Prop :=
  (0x50 ≤ opcode ∧ opcode ≤ 0x57) ∨ opcode = 0xE8 ∨ opcode = 0xFF

instance (opcode : UInt8) : Decidable (Pushes opcode) := inferInstanceAs (Decidable (_ ∨ _))

namespace Machine

/-- The stack pointer passes the lower check of `push_u64`, and the slot is not writable. -/
def pushMissesStack (machine : Machine σ) : Bool :=
  !(machine.register rsp < machine.memory.baseAddress + 8) &&
    (machine.memory.offsetOf (machine.register rsp - 8) 8).isNone

/-- The machine with its stack pointer moved by a push. -/
def lowerStack (machine : Machine σ) : Machine σ :=
  machine.setRegister rsp (machine.register rsp - 8)

/-- What a push that is refused leaves. -/
def afterFailedPush (machine : Machine σ) : Machine σ :=
  if machine.pushMissesStack then machine.lowerStack else machine

/-- The target and the return address of an indirect call. -/
def callTarget (machine : Machine σ) (instruction : DecodedInstruction) (modrm : UInt8) :
    Option (UInt64 × UInt64) :=
  if modField modrm = 3 then
    some (machine.register (registerIndex (rmField modrm) instruction.rexB),
      instruction.nextAddress + 1)
  else if modField modrm = 0 ∧ rmField modrm = 5 ∧ !instruction.rexB then
    ((machine.wordAt (instruction.nextAddress + 1)).bind fun displacement =>
      machine.quadAt (instruction.nextAddress + 5 + displacement32 displacement.toInt32)).map
        fun target => (target, instruction.nextAddress + 5)
  else none

/-- The instruction gets as far as a push. -/
def reachesPush (machine : Machine σ) (instruction : DecodedInstruction) : Bool :=
  if 0x50 ≤ instruction.opcode ∧ instruction.opcode ≤ 0x57 then !instruction.rexW
  else if instruction.opcode = 0xE8 then
    !instruction.rexW && (machine.wordAt instruction.nextAddress).isSome
  else if instruction.opcode = 0xFF then
    ((machine.byteAt instruction.nextAddress).bind fun modrm =>
      if regField modrm = 2 then machine.callTarget instruction modrm else none).isSome
  else false

/-- What a fault of the instruction leaves. -/
def afterFault (machine : Machine σ) (instruction : DecodedInstruction) : Machine σ :=
  if machine.reachesPush instruction then machine.afterFailedPush else machine

/-- The instruction is a syscall that is dispatched. -/
def isSyscall (machine : Machine σ) (instruction : DecodedInstruction) : Bool :=
  instruction.opcode == 0x0F && !instruction.rexW &&
    machine.byteAt instruction.nextAddress == some 0x05

/-- Push and call store at the moved stack pointer, everything else at its memory operand. -/
def storeAddress (machine : Machine σ) (instruction : DecodedInstruction) : Option UInt64 :=
  if Pushes instruction.opcode then some (machine.register rsp - 8)
  else if instruction.opcode = 0x0F then
    machine.operandAddress instruction (instruction.nextAddress + 1)
  else machine.operandAddress instruction instruction.nextAddress

/-- The instruction gets as far as a push that is refused after the stack pointer has moved. -/
def missesPush (machine : Machine σ) (instruction : DecodedInstruction) : Bool :=
  machine.reachesPush instruction && machine.pushMissesStack

/-- The stores an instruction may make. -/
def Stored (machine : Machine σ) (instruction : DecodedInstruction) : GuestStore → Prop
  | none => True
  | some (address, bytes) =>
    machine.storeAddress instruction = some address ∧
      (bytes.length = 4 ∨ bytes.length = 8 ∨ bytes.length = 16)

/-- The stores with which an instruction may retire; one that misses its push does not. -/
def Allows (machine : Machine σ) (instruction : DecodedInstruction) (store : GuestStore) : Prop :=
  machine.missesPush instruction = false ∧ machine.Stored instruction store

end Machine

/-- How the run goes on after the callback's answer. -/
def Answered (start : ExecutionContext σ) (action : SyscallAction) (outcome : InstructionOutcome)
    (context : ExecutionContext σ) : Prop :=
  match action with
  | .continueRun => outcome = .continueRunning ∧ context.result.status = start.result.status
  | .yield => outcome = .retireAndStop ∧ context.result.backendFailure = .none ∧
      context.result.completion = .yielded ∧ context.result.guestStopReason = .yielded
  | .exitThread => outcome = .retireAndStop ∧ context.result.backendFailure = .none ∧
      context.result.completion = .threadExited ∧ context.result.guestStopReason = .threadExited

/-- Since `start` only the syscall callback has changed host memory and its own state, and the
result says how the run goes on. -/
structure Returned (callbacks : Callbacks σ) (start : ExecutionContext σ)
    (outcome : InstructionOutcome) (context : ExecutionContext σ) : Prop where
  memory : context.machine.memory = start.machine.memory
  traced : Traced start [] context
  retired : context.result.retiredInstructions = start.result.retiredInstructions
  called : ∃ handleSyscall returnAddress answer, callbacks.handleSyscall = some handleSyscall ∧
    handleSyscall { start.machine.state with instructionPointer := returnAddress }
        start.machine.host start.machine.world =
      (answer, context.machine.host, context.machine.world) ∧
    Answered start answer.action outcome context

section Stack

variable {start : ExecutionContext σ} (hbytes : start.machine.memory.bytes ≠ 0)
  {allowed : GuestStore → Prop} {instruction : DecodedInstruction}

/-- Traces compose. -/
theorem Traced.trans {middle context : ExecutionContext σ} {writes : List (UInt64 × Nat)}
    (hfirst : Traced start [] middle) (hmemory : middle.machine.memory = start.machine.memory)
    (hsecond : Traced middle writes context) : Traced start writes context := by
  obtain ⟨first, happend, hsafe, hwrites⟩ := hfirst
  obtain ⟨second, happend', hsafe', hwrites'⟩ := hsecond
  refine ⟨second ++ first, ?_, ?_, ?_⟩
  · rw [happend', happend, List.append_assoc]
  · intro access hmem
    rcases List.mem_append.mp hmem with h | h
    · exact hmemory ▸ hsafe' access h
    · exact hsafe access h
  · rw [guestWrites, List.filterMap_append]
    simp only [guestWrites] at hwrites hwrites'
    rw [hwrites, hwrites', List.append_nil]

/-- Marking the completion after a refused access changes nothing. -/
theorem orInvalidMemory_stores {α : Type} {machine : Machine σ} {x : Exec σ α}
    (h : Attempt.Triple (Untouched start) x
      (fun _ context => ∃ store, allowed store ∧ Advanced start store context)
      (Refused start machine)) :
    Stores start allowed machine (orInvalidMemory x) := by
  apply Attempt.Triple.onFailure h
  intro context hrefused
  rw [hrefused.mark]
  exact hrefused.1

/-- Only the stack pointer has moved since `start`. -/
structure StackLowered (start context : ExecutionContext σ) : Prop where
  machine : context.machine = start.machine.lowerStack
  status : context.result.status = start.result.status
  traced : Traced start [] context

include hbytes

/-- The write of a push, once the stack pointer has moved. -/
theorem pushedWrite_triple (guestAddress : UInt64) (bytes : List UInt8) :
    Attempt.Triple (StackLowered start) (writeGuest guestAddress bytes)
      (fun _ context => (start.machine.memory.offsetOf guestAddress bytes.length).isSome ∧
        Advanced start (some (guestAddress, bytes)) context)
      (fun context => start.machine.memory.offsetOf guestAddress bytes.length = none ∧
        Refused start start.machine.lowerStack context) := by
  intro middle hmiddle
  have hmemory : middle.machine.memory = start.machine.memory := by rw [hmiddle.machine]; rfl
  have hstatus := hmiddle.status
  simp only [EmulatorResult.status, Prod.mk.injEq] at hstatus
  obtain ⟨hret, hfail⟩ := writeGuest_triple (hmemory ▸ hbytes) guestAddress bytes middle
    (Untouched.refl middle)
  constructor
  · intro a context heq
    obtain ⟨hfound, h⟩ := hret a context heq
    refine ⟨hmemory ▸ hfound, h.memory.trans hmemory, ?_, ?_, h.status.trans hmiddle.status, ?_⟩
    · rw [h.host, hmiddle.machine]
      rfl
    · rw [h.world, hmiddle.machine]
      rfl
    · exact hmiddle.traced.trans hmemory (hmemory ▸ h.traced)
  · intro context heq
    obtain ⟨hnone, hrefused, hcompletion⟩ := hfail context heq
    refine ⟨hmemory ▸ hnone, ⟨?_, hrefused.fault, ?_, ?_⟩, hcompletion⟩
    · rw [hrefused.machine, hmiddle.machine]
    · exact hrefused.retired.trans hstatus.2.2.2
    · exact hmiddle.traced.trans hmemory hrefused.traced

/-- After a push the machine differs in its stack pointer and the pushed quadword; a push
refused by the lower check leaves it alone, one refused later does not. -/
theorem pushU64_stores (value : UInt64)
    (hallowed : start.machine.pushMissesStack = false →
      allowed (some (start.machine.register rsp - 8, toLittleEndian 8 value))) :
    Stores start allowed start.machine.afterFailedPush (orInvalidMemory (pushU64 value)) := by
  have hrsp : rsp < 16 := by decide
  apply orInvalidMemory_stores
  refine (getRegister64_denotes hrsp).then (fun _ h => by cases h) fun stackPointer hpointer => ?_
  obtain rfl := Option.some.inj hpointer
  refine (read_denotes fun machine => machine.memory.baseAddress).then (fun _ h => by cases h)
    fun baseAddress hbase => ?_
  obtain rfl := Option.some.inj hbase
  refine Attempt.Triple.bind (Attempt.Triple.read (Q := fun _ => Untouched start)
    fun _ h => h) fun opcode => ?_
  apply Attempt.Triple.ite
  · intro hlow
    have hkept : start.machine.afterFailedPush = start.machine := by
      rw [Machine.afterFailedPush, if_neg (by simp [Machine.pushMissesStack, hlow])]
    rw [hkept]
    refine Attempt.Triple.bind (Attempt.Triple.update (Q := fun _ context =>
      Refused start start.machine context) fun context h => ?_) fun _ =>
        Attempt.Triple.fail fun _ h => h
    exact ⟨h.fault (setInvalidMemoryAccess_isFault _ opcode) fun _ => rfl, rfl⟩
  · intro hlow
    refine Attempt.Triple.bind (Q := fun _ => StackLowered start) ?_ fun _ =>
      (pushedWrite_triple hbytes _ _).conseq (fun _ h => h) ?_ ?_
    · refine (note_denotes (show (Access.generalRegister rsp).Safe _ from hrsp) rfl).then
        (fun _ h => by cases h) fun _ _ => Attempt.Triple.update fun context h => ?_
      exact ⟨by rw [ExecutionContext.mapMachine, h.machine]; rfl, h.status, h.traced⟩
    · rintro a context ⟨hfound, hadvanced⟩
      rw [length_toLittleEndian] at hfound
      exact ⟨_, hallowed (by simp [Machine.pushMissesStack, hfound]), hadvanced⟩
    · rintro context ⟨hnone, hrefused⟩
      have hmissed : start.machine.afterFailedPush = start.machine.lowerStack := by
        rw [length_toLittleEndian] at hnone
        rw [Machine.afterFailedPush, if_pos (by simp [Machine.pushMissesStack, hlow, hnone])]
      rw [hmissed]
      exact hrefused

/-- A pop reads before it moves the stack pointer. -/
theorem popU64_stores (hnone : allowed none) :
    Stores start allowed start.machine (orInvalidMemory (popU64 : Exec σ UInt64)) := by
  have hrsp : rsp < 16 := by decide
  apply orInvalidMemory_stores
  refine (getRegister64_denotes hrsp).then (fun _ h => by cases h) fun stackPointer _ => ?_
  refine (readU64_denotes hbytes _).then (fun _ _ h => h) fun value _ => ?_
  refine ((setRegister64_commits hrsp _).bind (fun _ => Commits.pure value) none).conseq
    (fun _ h => h.advanced) ?_ (fun _ h => h.elim)
  intro a context hadvanced
  exact ⟨none, hnone, hadvanced⟩

end Stack

section ControlFlowHandlers

variable {start : ExecutionContext σ} (hbytes : start.machine.memory.bytes ≠ 0)
  {allowed : GuestStore → Prop} {instruction : DecodedInstruction}

include hbytes

section Storeless

variable (hnone : allowed none)

include hnone

theorem executeX64PopRegister_completes (hlow : 0x58 ≤ instruction.opcode)
    (hhigh : instruction.opcode ≤ 0x5F) :
    Completes start allowed start.machine (executeX64PopRegister instruction) := by
  have hindex := opcodeIndex_lt instruction.rexB hlow hhigh (by decide)
  refine rejectRexW_then (fun _ => rfl) fun _ => ?_
  exact (popU64_stores hbytes hnone).completes fun value =>
    (setRegister64_commits hindex value).finishes fun _ => continueAt_finishes _

theorem executeX64Return_completes :
    Completes start allowed start.machine (executeX64Return instruction) := by
  refine rejectRexW_then (fun _ => rfl) fun _ => ?_
  exact (popU64_stores hbytes hnone).completes fun _ => continueAt_finishes _

theorem executeX64JumpRelativeNear_completes :
    Completes start allowed start.machine (executeX64JumpRelativeNear instruction) := by
  refine rejectRexW_then (fun _ => rfl) fun _ => ?_
  exact (readI32_denotes hbytes _).orInvalidMemory.completes fun _ _ =>
    (continueAt_finishes _).completes hnone

theorem executeX64JumpRelativeShort_completes :
    Completes start allowed start.machine (executeX64JumpRelativeShort instruction) := by
  refine rejectRexW_then (fun _ => rfl) fun _ => ?_
  exact (readI8_denotes hbytes _).orInvalidMemory.completes fun _ _ =>
    (continueAt_finishes _).completes hnone

theorem executeX64JumpShortCondition_completes :
    Completes start allowed start.machine (executeX64JumpShortCondition instruction) := by
  refine rejectRexW_then (fun _ => rfl) fun _ => ?_
  refine (readI8_denotes hbytes _).orInvalidMemory.completes fun displacement _ => ?_
  apply Finishes.completes _ hnone
  exact getFlags_commits.finishes fun _ => continueAt_finishes _

theorem executeX64JumpNearCondition_completes :
    Completes start allowed start.machine (executeX64JumpNearCondition instruction) := by
  unfold executeX64JumpNearCondition
  refine (readU8_denotes hbytes _).orInvalidMemory.completes fun secondaryOpcode _ => ?_
  refine (readI32_denotes hbytes _).orInvalidMemory.completes fun displacement _ => ?_
  apply Finishes.completes _ hnone
  exact getFlags_commits.finishes fun _ => continueAt_finishes _

omit hbytes in
theorem incDecRegister_completes {index : UInt32} (hindex : index < 16) (isDecrement : Bool) :
    Completes start allowed start.machine (incDecRegister instruction index isDecrement) := by
  unfold incDecRegister
  split
  · refine (getRegister64_denotes hindex).completes fun lhs _ => ?_
    apply Finishes.completes _ hnone
    exact (setRegister64_commits hindex _).finishes fun _ =>
      (setIncDecFlags_commits _ _ _ _).finishes fun _ => continueAt_finishes _
  · refine (getRegister32_denotes hindex).completes fun lhs _ => ?_
    apply Finishes.completes _ hnone
    exact (setRegister32_commits hindex _).finishes fun _ =>
      (setIncDecFlags_commits _ _ _ _).finishes fun _ => continueAt_finishes _

/-- Code whose every failure leaves the context untouched or faulted. -/
def Skims (start : ExecutionContext σ) {α : Type} (x : Exec σ α) : Prop :=
  Attempt.Triple (Untouched start) x (fun _ => Untouched start)
    (fun context => Untouched start context ∨ Faulted start start.machine context)

omit hbytes hnone in
theorem Denotes.skims {α β : Type} {x : Exec σ α} {value : Option α} {f : α → Exec σ β}
    (hx : Denotes start x value) (hf : ∀ a, Skims start (f a)) : Skims start (x >>= f) :=
  hx.then (fun _ _ h => .inr h.1) fun a _ => hf a

omit hbytes hnone in
theorem Skims.pure {α : Type} (a : α) : Skims start (Pure.pure a : Exec σ α) :=
  Attempt.Triple.pure fun _ h => h

omit hnone in
theorem skipBaseBytes_skims (mod rm : UInt8) (nextInstruction : UInt64) :
    Skims start (skipBaseBytes instruction mod rm nextInstruction) := by
  unfold skipBaseBytes
  split
  · refine (readU8_denotes hbytes _).skims fun sib => ?_
    split
    · exact (readU32_denotes hbytes _).skims fun _ => Skims.pure _
    · exact Skims.pure _
  split
  · exact (readU32_denotes hbytes _).skims fun _ => Skims.pure _
  · exact Skims.pure _

omit hnone in
theorem trySkipModrmOperand_skims (modrmAddress : UInt64) :
    Skims start (trySkipModrmOperand instruction modrmAddress) := by
  unfold trySkipModrmOperand
  refine (readU8_denotes hbytes _).skims fun modrm => ?_
  split
  · exact Attempt.Triple.fail fun _ h => .inl h
  split
  · exact Skims.pure _
  refine Attempt.Triple.bind (skipBaseBytes_skims hbytes _ _ _) fun nextInstruction => ?_
  split
  · exact (readU8_denotes hbytes _).skims fun _ => Skims.pure _
  split
  · exact (readU32_denotes hbytes _).skims fun _ => Skims.pure _
  · exact Skims.pure _

theorem executeX64SecondaryNop_completes :
    Completes start allowed start.machine (executeX64SecondaryNop instruction) := by
  refine Attempt.Triple.bind (Attempt.Triple.onFailure (trySkipModrmOperand_skims hbytes _)
    ?_) fun nextInstruction => (continueAt_finishes nextInstruction).completes hnone
  rintro context (huntouched | hfaulted)
  · exact huntouched.fault (setUnsupportedInstruction_isFault 0x1F) fun _ => rfl
  · exact hfaulted.refault (setUnsupportedInstruction_isFault 0x1F) fun _ => rfl

end Storeless

variable (hpush : ∀ value, start.machine.pushMissesStack = false →
  allowed (some (start.machine.register rsp - 8, toLittleEndian 8 value)))

include hpush

theorem executeX64PushRegister_completes (hlow : 0x50 ≤ instruction.opcode)
    (hhigh : instruction.opcode ≤ 0x57) :
    Completes start allowed (start.machine.afterFault instruction)
      (executeX64PushRegister instruction) := by
  have hindex := opcodeIndex_lt instruction.rexB hlow hhigh (by decide)
  have hreach : start.machine.reachesPush instruction = !instruction.rexW := by
    rw [Machine.reachesPush, if_pos ⟨hlow, hhigh⟩]
  refine rejectRexW_then (fun hrex => ?_) fun hrex => ?_
  · rw [Machine.afterFault, hreach, hrex]
    rfl
  · rw [Machine.afterFault, hreach, hrex]
    refine (getRegister64_denotes hindex).then (fun _ h => by cases h) fun value _ => ?_
    exact (pushU64_stores hbytes value (hpush value)).completes fun _ => continueAt_finishes _

theorem executeX64CallRelative_completes (hopcode : instruction.opcode = 0xE8) :
    Completes start allowed (start.machine.afterFault instruction)
      (executeX64CallRelative instruction) := by
  have hreach : start.machine.reachesPush instruction =
      (!instruction.rexW && (start.machine.wordAt instruction.nextAddress).isSome) := by
    rw [Machine.reachesPush, if_neg (by rw [hopcode]; decide), if_pos hopcode]
  refine rejectRexW_then (fun hrex => ?_) fun hrex => ?_
  · rw [Machine.afterFault, hreach, hrex]
    rfl
  · rw [Machine.afterFault, hreach, hrex]
    refine (readI32_denotes hbytes _).orInvalidMemory.then ?_ fun displacement hword => ?_
    · intro context hnone hrefused
      rw [Option.map_eq_none_iff.mp hnone]
      exact hrefused.1
    · obtain ⟨word, hword, -⟩ := Option.map_eq_some_iff.mp hword
      rw [hword]
      exact (pushU64_stores hbytes _ (hpush _)).completes fun _ => continueAt_finishes _

omit hpush in
/-- An indirect call without a target is a fault that leaves the machine alone. -/
theorem indirectCallTarget_triple (modrm : UInt8) :
    Attempt.Triple (Untouched start) (indirectCallTarget instruction modrm)
      (fun target context => start.machine.callTarget instruction modrm = some target ∧
        Untouched start context)
      (fun context => start.machine.callTarget instruction modrm = none ∧
        Faulted start start.machine context) := by
  unfold indirectCallTarget Machine.callTarget
  split
  · exact ((getRegister64_denotes (rmIndex_lt modrm instruction.rexB)).map _).conseq
      (fun _ h => h) (fun _ _ h => h) fun _ h => ⟨h.1, h.2.1⟩
  split
  · have htarget := (readI32_denotes hbytes (instruction.nextAddress + 1)).orInvalidMemory.bind
      fun displacement _ => (readU64_denotes hbytes
        (instruction.nextAddress + 5 + displacement32 displacement)).orInvalidMemory.map
          fun target => (target, instruction.nextAddress + 5)
    have hvalue : ((start.machine.wordAt (instruction.nextAddress + 1)).map UInt32.toInt32).bind
        (fun displacement => (start.machine.quadAt
          (instruction.nextAddress + 5 + displacement32 displacement)).map
            fun target => (target, instruction.nextAddress + 5)) =
        ((start.machine.wordAt (instruction.nextAddress + 1)).bind fun displacement =>
          start.machine.quadAt (instruction.nextAddress + 5 +
            displacement32 displacement.toInt32)).map
              fun target => (target, instruction.nextAddress + 5) := by
      cases start.machine.wordAt (instruction.nextAddress + 1) <;> rfl
    rw [hvalue] at htarget
    exact htarget.conseq (fun _ h => h) (fun _ _ h => h) fun _ h => ⟨h.1, h.2.1⟩
  · exact (unsupported_triple _).conseq (fun _ h => h) (fun _ _ h => h) fun _ h => ⟨rfl, h⟩

theorem executeX64GroupFf_completes
    (hnone : start.machine.reachesPush instruction = false → allowed none)
    (hopcode : instruction.opcode = 0xFF) :
    Completes start allowed (start.machine.afterFault instruction)
      (executeX64GroupFf instruction) := by
  have hreach : start.machine.reachesPush instruction =
      ((start.machine.byteAt instruction.nextAddress).bind fun modrm =>
        if regField modrm = 2 then start.machine.callTarget instruction modrm else none).isSome := by
    rw [Machine.reachesPush, if_neg (by rw [hopcode]; decide), if_neg (by rw [hopcode]; decide),
      if_pos hopcode]
  unfold executeX64GroupFf
  rw [Machine.afterFault, hreach]
  refine (readU8_denotes hbytes _).orInvalidMemory.then ?_ fun modrm hmodrm => ?_
  · intro context hmissing hrefused
    rw [hmissing]
    exact hrefused.1
  rw [hmodrm, Option.bind_some]
  apply Attempt.Triple.ite
  · intro hoperation
    have hcall : regField modrm ≠ 2 := by
      rcases hoperation with h | h <;> rw [h] <;> decide
    rw [hmodrm, Option.bind_some, if_neg hcall] at hreach
    rw [if_neg hcall]
    apply Attempt.Triple.ite
    · intro _
      exact unsupported_triple _
    · intro _
      exact incDecRegister_completes (hnone hreach) (rmIndex_lt modrm _) _
  intro _
  apply Attempt.Triple.ite
  · intro hcall
    rw [if_neg hcall]
    exact unsupported_triple _
  intro hcall
  rw [if_pos (not_not.mp hcall)]
  refine Attempt.Triple.bind ((indirectCallTarget_triple hbytes modrm).conseq (fun _ h => h)
    (fun _ _ h => h) ?_) ?_
  · rintro context ⟨hmissing, hfaulted⟩
    rw [hmissing]
    exact hfaulted
  · rintro ⟨target, returnAddress⟩ context ⟨htarget, huntouched⟩
    rw [htarget]
    exact (pushU64_stores hbytes _ (hpush _)).completes (fun _ => continueAt_finishes _) context
      huntouched

end ControlFlowHandlers

end Ringos.Emulator
