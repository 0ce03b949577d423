import Ringos.Emulator.Step

/-!
# The guest accesses that code attempts

Every guest access goes through `translateGuestPointer`, which may refuse it.
The accesses that code attempts, in order, are read off its structure: those of
its first part, and after it has returned those of the rest. No code of the
emulator is changed for this; the list is ghost state beside it.
-/

namespace Ringos.Emulator

open Ringos.Core
open Exec

variable {σ α β : Type}

/-- A guest address and the number of bytes accessed there. -/
abbrev GuestAccess := UInt64 × Nat

/-- Code with the guest accesses it attempts from a context. -/
class Tracked (x : Exec σ α) where
  attempts : ExecutionContext σ → List GuestAccess

export Tracked (attempts)

namespace Tracked

instance pure (a : α) : Tracked (Pure.pure a : Exec σ α) := ⟨fun _ => []⟩

instance fail : Tracked (Attempt.fail : Exec σ α) := ⟨fun _ => []⟩

instance read (f : ExecutionContext σ → α) : Tracked (Attempt.read f) := ⟨fun _ => []⟩

instance update (f : ExecutionContext σ → ExecutionContext σ) : Tracked (Attempt.update f) :=
  ⟨fun _ => []⟩

/-- A sequence attempts what its first part does, and goes on after it has returned. -/
instance bind (x : Exec σ α) (f : α → Exec σ β) [Tracked x] [∀ a, Tracked (f a)] :
    Tracked (x >>= f) where
  attempts context := Tracked.attempts x context ++
    match x context with
    | (some a, next) => Tracked.attempts (f a) next
    | (none, _) => []

instance ite (c : Prop) [Decidable c] (x y : Exec σ α) [Tracked x] [Tracked y] :
    Tracked (if c then x else y) where
  attempts context := if c then Tracked.attempts x context else Tracked.attempts y context

/-- A repair attempts nothing. -/
instance onFailure (f : ExecutionContext σ → ExecutionContext σ) (x : Exec σ α) [Tracked x] :
    Tracked (Attempt.onFailure f x) :=
  ⟨Tracked.attempts x⟩

/-- An entry of a handler table. -/
instance entry {ι : Type} (i : ι) (c : Prop) [Decidable c] (x y : ι → Exec σ α) [Tracked (x i)]
    [Tracked (y i)] : Tracked ((if c then x else y) i) where
  attempts context :=
    if c then Tracked.attempts (x i) context else Tracked.attempts (y i) context

end Tracked

section Accessors

/-- The attempt itself, whether it is admitted or refused. -/
instance (guestAddress : UInt64) (length : Nat) :
    Tracked (translateGuestPointer guestAddress length : Exec σ UInt64) :=
  ⟨fun _ => [(guestAddress, length)]⟩

instance (f : EmulatorResult → EmulatorResult) : Tracked (setResult f : Exec σ Unit) := by
  delta setResult
  infer_instance

instance (f : Machine σ → Machine σ) : Tracked (setMachine f : Exec σ Unit) := by
  delta setMachine
  infer_instance

instance (access : Access) : Tracked (Exec.note access : Exec σ Unit) := by
  delta Exec.note
  infer_instance

instance (guestAddress : UInt64) (length : Nat) :
    Tracked (readGuest guestAddress length : Exec σ (List UInt8)) := by
  delta readGuest
  infer_instance

instance (guestAddress : UInt64) (bytes : List UInt8) :
    Tracked (writeGuest guestAddress bytes : Exec σ Unit) := by
  delta writeGuest
  infer_instance

instance (guestAddress : UInt64) : Tracked (readU8 guestAddress : Exec σ UInt8) := by
  delta readU8
  infer_instance

instance (guestAddress : UInt64) : Tracked (readI8 guestAddress : Exec σ Int8) := by
  delta readI8
  infer_instance

instance (guestAddress : UInt64) : Tracked (readU32 guestAddress : Exec σ UInt32) := by
  delta readU32
  infer_instance

instance (guestAddress : UInt64) : Tracked (readI32 guestAddress : Exec σ Int32) := by
  delta readI32
  infer_instance

instance (guestAddress : UInt64) : Tracked (readU64 guestAddress : Exec σ UInt64) := by
  delta readU64
  infer_instance

instance (guestAddress : UInt64) : Tracked (readU128 guestAddress : Exec σ SimdRegister) := by
  delta readU128
  infer_instance

instance (guestAddress : UInt64) (value : UInt32) :
    Tracked (writeU32 guestAddress value : Exec σ Unit) := by
  delta writeU32
  infer_instance

instance (guestAddress value : UInt64) : Tracked (writeU64 guestAddress value : Exec σ Unit) := by
  delta writeU64
  infer_instance

instance (guestAddress : UInt64) (value : SimdRegister) :
    Tracked (writeU128 guestAddress value : Exec σ Unit) := by
  delta writeU128
  infer_instance

instance (index : UInt32) : Tracked (getRegister64 index : Exec σ UInt64) := by
  delta getRegister64
  infer_instance

instance (index : UInt32) (value : UInt64) : Tracked (setRegister64 index value : Exec σ Unit) := by
  delta setRegister64
  infer_instance

instance (index : UInt32) : Tracked (getRegister32 index : Exec σ UInt32) := by
  delta getRegister32
  infer_instance

instance (index : UInt32) : Tracked (getRegister8Low index : Exec σ UInt8) := by
  delta getRegister8Low
  infer_instance

instance (index : UInt32) (value : UInt8) :
    Tracked (setRegister8Low index value : Exec σ Unit) := by
  delta setRegister8Low
  infer_instance

instance (index value : UInt32) : Tracked (setRegister32 index value : Exec σ Unit) := by
  delta setRegister32
  infer_instance

instance (index : UInt32) : Tracked (getSimdRegister index : Exec σ SimdRegister) := by
  delta getSimdRegister
  infer_instance

instance (index : UInt32) (value : SimdRegister) :
    Tracked (setSimdRegister index value : Exec σ Unit) := by
  delta setSimdRegister
  infer_instance

instance : Tracked (getFlags : Exec σ UInt64) := by
  delta getFlags
  infer_instance

instance (flags : UInt64) : Tracked (Exec.setFlags flags : Exec σ Unit) := by
  delta Exec.setFlags
  infer_instance

instance (value : UInt64) (is64Bit : Bool) :
    Tracked (setLogicFlags value is64Bit : Exec σ Unit) := by
  delta setLogicFlags
  infer_instance

instance (lhs rhs result : UInt64) (is64Bit : Bool) :
    Tracked (setCompareFlags lhs rhs result is64Bit : Exec σ Unit) := by
  delta setCompareFlags
  infer_instance

instance (lhs rhs result : UInt64) (is64Bit : Bool) :
    Tracked (setAddFlags lhs rhs result is64Bit : Exec σ Unit) := by
  delta setAddFlags
  infer_instance

instance (lhs result : UInt64) (isDecrement is64Bit : Bool) :
    Tracked (setIncDecFlags lhs result isDecrement is64Bit : Exec σ Unit) := by
  delta setIncDecFlags
  infer_instance

instance (instructionPointer : UInt64) :
    Tracked (setInstructionPointer instructionPointer : Exec σ Unit) := by
  delta setInstructionPointer
  infer_instance

/-- A push attempts to write below the stack pointer, also where its own check refuses it. -/
instance (value : UInt64) : Tracked (pushU64 value : Exec σ Unit) :=
  ⟨fun context => [(context.machine.register rsp - 8, 8)]⟩

instance : Tracked (popU64 : Exec σ UInt64) := by
  delta popU64
  infer_instance

end Accessors

section Decoders

variable (x : Exec σ α) [Tracked x] (instruction : DecodedInstruction)

instance : Tracked (orInvalidMemory x) := by
  delta orInvalidMemory
  infer_instance

instance (faultOpcode : UInt8) : Tracked (orUnsupported faultOpcode x) := by
  delta orUnsupported
  infer_instance

instance (faultOpcode : UInt8) : Tracked (unsupported faultOpcode : Exec σ α) := by
  delta unsupported
  infer_instance

instance : Tracked (rejectRexW instruction : Exec σ Unit) := by
  delta rejectRexW
  infer_instance

instance (instructionPointer : UInt64) :
    Tracked (continueAt instructionPointer : Exec σ InstructionOutcome) := by
  delta continueAt
  infer_instance

instance (opcodeAddress : UInt64) : Tracked (readOpcode opcodeAddress : Exec σ UInt8) := by
  delta readOpcode
  infer_instance

/-- The prefix loop attempts to read the next opcode byte after each prefix. -/
instance decodePrefixes_tracked : ∀ (fuel : Nat) (instruction : DecodedInstruction),
    Tracked (decodePrefixes fuel instruction : Exec σ DecodedInstruction)
  | 0, _ => ⟨fun _ => []⟩
  | fuel + 1, instruction =>
    match instruction.applyPrefix with
    | none => ⟨fun _ => []⟩
    | some prefixed =>
      have (next : DecodedInstruction) := decodePrefixes_tracked fuel next
      ⟨attempts (readOpcode (prefixed.opcodeAddress + 1) >>= fun opcode =>
        decodePrefixes fuel
          { prefixed with opcodeAddress := prefixed.opcodeAddress + 1, opcode := opcode })⟩

instance : Tracked (decodeX64Instruction : Exec σ DecodedInstruction) := by
  delta decodeX64Instruction
  infer_instance

instance (indexField : UInt8) : Tracked (sibIndexValue instruction indexField : Exec σ UInt64) := by
  delta sibIndexValue
  infer_instance

instance (modrmAddress : UInt64) (mod : UInt8) :
    Tracked (tryReadSibOperandAddress instruction modrmAddress mod : Exec σ (UInt64 × UInt64)) := by
  delta tryReadSibOperandAddress readSibOperand
  infer_instance

instance (modrmAddress : UInt64) (mod : UInt8) :
    Tracked (tryReadSibAddress instruction modrmAddress mod : Exec σ (UInt64 × UInt64)) := by
  delta tryReadSibAddress readSibOperand
  infer_instance

instance (modrmAddress : UInt64) (modrm : UInt8) :
    Tracked (decodeModrmAddress instruction modrmAddress modrm : Exec σ (UInt64 × UInt64)) := by
  delta decodeModrmAddress
  infer_instance

instance (modrmAddress : UInt64) (modrm : UInt8) :
    Tracked (tryGetMemoryOperandAddress instruction modrmAddress modrm : Exec σ (UInt64 × UInt64)) := by
  delta tryGetMemoryOperandAddress
  infer_instance

instance (modrmAddress : UInt64) :
    Tracked (tryDecodeRmOperand instruction modrmAddress : Exec σ DecodedRmOperand) := by
  delta tryDecodeRmOperand
  infer_instance

instance (modrmAddress : UInt64) :
    Tracked (tryDecodeModrmOperand instruction modrmAddress : Exec σ DecodedModrmOperand) := by
  delta tryDecodeModrmOperand
  infer_instance

end Decoders

section Handlers

variable (instruction : DecodedInstruction)

instance (operand : DecodedRmOperand) : Tracked (loadRm64 operand : Exec σ UInt64) := by
  delta loadRm64
  infer_instance

instance (operand : DecodedRmOperand) : Tracked (loadRm32 operand : Exec σ UInt32) := by
  delta loadRm32
  infer_instance

instance (operand : DecodedRmOperand) : Tracked (loadRm8 operand : Exec σ UInt8) := by
  delta loadRm8
  infer_instance

instance (operand : DecodedRmOperand) (value : UInt64) :
    Tracked (storeRm64 operand value : Exec σ Unit) := by
  delta storeRm64
  infer_instance

instance (operand : DecodedRmOperand) (value : UInt32) :
    Tracked (storeRm32 operand value : Exec σ Unit) := by
  delta storeRm32
  infer_instance

instance (operand : DecodedRmOperand) (immediate64 : UInt64) (immediate32 : UInt32)
    (nextInstruction : UInt64) : Tracked (executeArithmeticImmediate instruction operand immediate64
      immediate32 nextInstruction : Exec σ InstructionOutcome) := by
  delta executeArithmeticImmediate
  infer_instance

instance : Tracked (executeX64XorRegister instruction : Exec σ InstructionOutcome) := by
  delta executeX64XorRegister
  infer_instance

instance : Tracked (executeX64OrRegisterByte instruction : Exec σ InstructionOutcome) := by
  delta executeX64OrRegisterByte
  infer_instance

instance : Tracked (executeX64OrRmToRegister instruction : Exec σ InstructionOutcome) := by
  delta executeX64OrRmToRegister
  infer_instance

instance : Tracked (executeX64TestRegister instruction : Exec σ InstructionOutcome) := by
  delta executeX64TestRegister
  infer_instance

instance :
    Tracked (executeX64TestAccumulatorImmediate instruction : Exec σ InstructionOutcome) := by
  delta executeX64TestAccumulatorImmediate
  infer_instance

instance : Tracked (executeX64GroupF6 instruction : Exec σ InstructionOutcome) := by
  delta executeX64GroupF6
  infer_instance

instance : Tracked (executeX64GroupF7 instruction : Exec σ InstructionOutcome) := by
  delta executeX64GroupF7
  infer_instance

instance : Tracked (executeX64Group83 instruction : Exec σ InstructionOutcome) := by
  delta executeX64Group83
  infer_instance

instance : Tracked (executeX64Group81 instruction : Exec σ InstructionOutcome) := by
  delta executeX64Group81
  infer_instance

instance : Tracked (executeX64CompareRmWithRegister instruction : Exec σ InstructionOutcome) := by
  delta executeX64CompareRmWithRegister
  infer_instance

instance (index rmRegisterIndex : UInt32) :
    Tracked (movBetweenRegisters instruction index rmRegisterIndex : Exec σ Unit) := by
  delta movBetweenRegisters
  infer_instance

instance (index : UInt32) (memoryAddress : UInt64) :
    Tracked (movWithMemory instruction index memoryAddress : Exec σ Unit) := by
  delta movWithMemory
  infer_instance

instance (modrmAddress : UInt64) (modrm faultOpcode : UInt8) :
    Tracked (loadByteOperand instruction modrmAddress modrm faultOpcode :
      Exec σ (UInt8 × UInt64)) := by
  delta loadByteOperand
  infer_instance

instance : Tracked (executeX64MovImmediate32 instruction : Exec σ InstructionOutcome) := by
  delta executeX64MovImmediate32
  infer_instance

instance : Tracked (executeX64MovImmediateToRm instruction : Exec σ InstructionOutcome) := by
  delta executeX64MovImmediateToRm
  infer_instance

instance : Tracked (executeX64MovRegister instruction : Exec σ InstructionOutcome) := by
  delta executeX64MovRegister
  infer_instance

instance : Tracked (executeX64Lea instruction : Exec σ InstructionOutcome) := by
  delta executeX64Lea
  infer_instance

instance : Tracked (executeX64Group80 instruction : Exec σ InstructionOutcome) := by
  delta executeX64Group80
  infer_instance

instance : Tracked (executeX64SecondarySetcc instruction : Exec σ InstructionOutcome) := by
  delta executeX64SecondarySetcc
  infer_instance

instance : Tracked (executeX64SecondaryMovzxByte instruction : Exec σ InstructionOutcome) := by
  delta executeX64SecondaryMovzxByte
  infer_instance

instance : Tracked (executeX64Nop instruction : Exec σ InstructionOutcome) := by
  delta executeX64Nop
  infer_instance

instance (operand : DecodedModrmOperand) :
    Tracked (tryReadSimdOperand operand : Exec σ SimdRegister) := by
  delta tryReadSimdOperand
  infer_instance

instance (operand : DecodedModrmOperand) :
    Tracked (tryReadRm32Operand operand : Exec σ UInt32) := by
  delta tryReadRm32Operand
  infer_instance

instance (operand : DecodedModrmOperand) : Tracked (storeSimdOperand operand : Exec σ Unit) := by
  delta storeSimdOperand
  infer_instance

instance : Tracked (executeX64SecondaryMovXmm instruction : Exec σ InstructionOutcome) := by
  delta executeX64SecondaryMovXmm
  infer_instance

instance : Tracked (executeX64SecondaryStoreXmm instruction : Exec σ InstructionOutcome) := by
  delta executeX64SecondaryStoreXmm
  infer_instance

instance : Tracked (executeX64SecondaryXorps instruction : Exec σ InstructionOutcome) := by
  delta executeX64SecondaryXorps
  infer_instance

instance : Tracked (executeX64SecondaryMovd instruction : Exec σ InstructionOutcome) := by
  delta executeX64SecondaryMovd
  infer_instance

instance : Tracked (executeX64SecondaryPunpcklbw instruction : Exec σ InstructionOutcome) := by
  delta executeX64SecondaryPunpcklbw
  infer_instance

instance : Tracked (executeX64SecondaryShuffle instruction : Exec σ InstructionOutcome) := by
  delta executeX64SecondaryShuffle
  infer_instance

instance : Tracked (executeX64SecondaryMovqStore instruction : Exec σ InstructionOutcome) := by
  delta executeX64SecondaryMovqStore
  infer_instance

instance (rmRegisterIndex : UInt32) (isDecrement : Bool) :
    Tracked (incDecRegister instruction rmRegisterIndex isDecrement : Exec σ InstructionOutcome) := by
  delta incDecRegister
  infer_instance

instance (modrm : UInt8) :
    Tracked (indirectCallTarget instruction modrm : Exec σ (UInt64 × UInt64)) := by
  delta indirectCallTarget
  infer_instance

instance : Tracked (executeX64PushRegister instruction : Exec σ InstructionOutcome) := by
  delta executeX64PushRegister
  infer_instance

instance : Tracked (executeX64PopRegister instruction : Exec σ InstructionOutcome) := by
  delta executeX64PopRegister
  infer_instance

instance : Tracked (executeX64Return instruction : Exec σ InstructionOutcome) := by
  delta executeX64Return
  infer_instance

instance : Tracked (executeX64CallRelative instruction : Exec σ InstructionOutcome) := by
  delta executeX64CallRelative
  infer_instance

instance : Tracked (executeX64GroupFf instruction : Exec σ InstructionOutcome) := by
  delta executeX64GroupFf
  infer_instance

instance : Tracked (executeX64JumpRelativeNear instruction : Exec σ InstructionOutcome) := by
  delta executeX64JumpRelativeNear
  infer_instance

instance : Tracked (executeX64JumpRelativeShort instruction : Exec σ InstructionOutcome) := by
  delta executeX64JumpRelativeShort
  infer_instance

instance : Tracked (executeX64JumpShortCondition instruction : Exec σ InstructionOutcome) := by
  delta executeX64JumpShortCondition
  infer_instance

instance : Tracked (executeX64JumpNearCondition instruction : Exec σ InstructionOutcome) := by
  delta executeX64JumpNearCondition
  infer_instance

instance : Tracked (executeX64Unsupported instruction : Exec σ InstructionOutcome) := by
  delta executeX64Unsupported
  infer_instance

instance (mod rm : UInt8) (nextInstruction : UInt64) :
    Tracked (skipBaseBytes instruction mod rm nextInstruction : Exec σ UInt64) := by
  delta skipBaseBytes
  infer_instance

instance (modrmAddress : UInt64) :
    Tracked (trySkipModrmOperand instruction modrmAddress : Exec σ UInt64) := by
  delta trySkipModrmOperand
  infer_instance

instance : Tracked (executeX64SecondaryNop instruction : Exec σ InstructionOutcome) := by
  delta executeX64SecondaryNop
  infer_instance

variable (callbacks : Callbacks σ)

/-- The callback sees the guest state, and is no part of the instruction; the handler itself only
changes registers and the result. -/
instance : Tracked (executeX64Syscall callbacks instruction) := ⟨fun _ => []⟩

instance (opcode : UInt8) :
    Tracked (primaryOpcodeHandler opcode instruction : Exec σ InstructionOutcome) := by
  delta primaryOpcodeHandler
  infer_instance

instance (opcode : UInt8) : Tracked (secondaryOpcodeHandler callbacks opcode instruction) := by
  delta secondaryOpcodeHandler
  infer_instance

instance : Tracked (dispatchSecondaryOpcode callbacks instruction) := by
  delta dispatchSecondaryOpcode
  infer_instance

instance : Tracked (dispatch callbacks instruction) := by
  delta dispatch
  infer_instance

instance : Tracked (interpretInstruction callbacks) := by
  delta interpretInstruction
  infer_instance

end Handlers

end Ringos.Emulator
