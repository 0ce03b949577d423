import Ringos.Emulator.Interpreter

/-!
# Properties of composed code

Every decoder and handler is composed of the accessors by sequencing and
branching. A property of code that the accessors have and that composition keeps
is therefore a property of every instruction. The calls of the syscall handler
and the flags of the increments stay open here: a property has to be given for
them where it is used.
-/

namespace Ringos.Emulator

open Ringos.Core
open Exec

variable {σ : Type}

/-- The same verdict. -/
structure EmulatorResult.SameVerdict (left right : EmulatorResult) : Prop where
  completion : left.completion = right.completion
  guestStopReason : left.guestStopReason = right.guestStopReason
  backendFailure : left.backendFailure = right.backendFailure

/-- The verdict that an update leaves depends on nothing but the verdict before it. -/
def Judges (f : EmulatorResult → EmulatorResult) : Prop :=
  ∀ left right, left.SameVerdict right → (f left).SameVerdict (f right)

/-- A property that sequencing and the repair of failures keep, and that the accessors have. -/
class Compositional (P : (α : Type) → Exec σ α → Prop) : Prop where
  pure {α : Type} (a : α) : P α (Pure.pure a)
  fail {α : Type} : P α Attempt.fail
  bind {α β : Type} {x : Exec σ α} {f : α → Exec σ β} :
    P α x → (∀ a, P β (f a)) → P β (x >>= f)
  onFailure {α : Type} {x : Exec σ α} {f : EmulatorResult → EmulatorResult} :
    Judges f → P α x → P α (Attempt.onFailure (ExecutionContext.mapResult f) x)
  readMachine {α : Type} (f : Machine σ → α) :
    P α (Attempt.read fun context => f context.machine)
  setMachine {f : Machine σ → Machine σ} :
    (∀ machine, (f machine).state.flags = machine.state.flags ∧
      (f machine).world = machine.world) → P Unit (setMachine f)
  setResult {f : EmulatorResult → EmulatorResult} : Judges f → P Unit (setResult f)
  note (access : Access) : P Unit (note access)
  translateGuestPointer (guestAddress : UInt64) (length : Nat) :
    P UInt64 (translateGuestPointer guestAddress length)
  refuse {α : Type} {c : Prop} [Decidable c] {x : Exec σ α} (guestAddress : UInt64) :
    P α x → P α (do
      let opcode ← Attempt.read fun context => context.result.fault.opcode
      if c then do
        Exec.setResult (EmulatorResult.setInvalidMemoryAccess guestAddress opcode)
        Attempt.fail
      else x)
  setLogicFlags (value : UInt64) (is64Bit : Bool) : P Unit (setLogicFlags value is64Bit)
  setCompareFlags (lhs rhs result : UInt64) (is64Bit : Bool) :
    P Unit (setCompareFlags lhs rhs result is64Bit)
  setAddFlags (lhs rhs result : UInt64) (is64Bit : Bool) :
    P Unit (setAddFlags lhs rhs result is64Bit)

/-- The code has the property. -/
class Satisfies (P : (α : Type) → Exec σ α → Prop) {α : Type} (x : Exec σ α) : Prop where
  satisfied : P α x

section Verdicts

theorem judges_setInvalidMemoryAccess (guestAddress : UInt64) (faultOpcode : UInt8) :
    Judges (EmulatorResult.setInvalidMemoryAccess guestAddress faultOpcode) :=
  fun _ _ _ => ⟨rfl, rfl, rfl⟩

theorem judges_setUnsupportedInstruction (faultOpcode : UInt8) :
    Judges (EmulatorResult.setUnsupportedInstruction faultOpcode) :=
  fun _ _ _ => ⟨rfl, rfl, rfl⟩

theorem judges_markInvalidMemoryAccess : Judges EmulatorResult.markInvalidMemoryAccess :=
  fun _ _ h => ⟨rfl, h.guestStopReason, h.backendFailure⟩

theorem judges_setFault (instruction : DecodedInstruction) :
    Judges (EmulatorResult.setFault instruction) :=
  fun _ _ h => ⟨h.completion, h.guestStopReason, h.backendFailure⟩

theorem judges_setFaultOpcode (opcode : UInt8) : Judges (EmulatorResult.setFaultOpcode opcode) :=
  fun _ _ h => ⟨h.completion, h.guestStopReason, h.backendFailure⟩

theorem judges_countRetired : Judges EmulatorResult.countRetired :=
  fun _ _ h => ⟨h.completion, h.guestStopReason, h.backendFailure⟩

theorem judges_setThreadExited : Judges EmulatorResult.setThreadExited :=
  fun _ _ _ => ⟨rfl, rfl, rfl⟩

theorem judges_setYielded : Judges EmulatorResult.setYielded :=
  fun _ _ _ => ⟨rfl, rfl, rfl⟩

/-- The update of `orUnsupported`. -/
theorem judges_orUnsupported (faultOpcode : UInt8) :
    Judges fun result => if result.completion = .invalidMemoryAccess then result
      else result.setUnsupportedInstruction faultOpcode := by
  intro left right h
  simp only [h.completion]
  split
  · exact h
  · exact ⟨rfl, rfl, rfl⟩

end Verdicts

variable {P : (α : Type) → Exec σ α → Prop} [hP : Compositional P]

section Composition

variable {α β : Type}

instance (a : α) : Satisfies P (Pure.pure a : Exec σ α) := ⟨hP.pure a⟩

instance : Satisfies P (Attempt.fail : Exec σ α) := ⟨hP.fail⟩

theorem Satisfies.seq {x : Exec σ α} {f : α → Exec σ β} (hx : Satisfies P x)
    (hf : ∀ a, Satisfies P (f a)) : Satisfies P (x >>= f) :=
  ⟨hP.bind hx.satisfied fun a => (hf a).satisfied⟩

instance (x : Exec σ α) (f : α → Exec σ β) [hx : Satisfies P x] [hf : ∀ a, Satisfies P (f a)] :
    Satisfies P (x >>= f) := hx.seq hf

omit hP in
instance (c : Prop) [Decidable c] (x y : Exec σ α) [hx : Satisfies P x] [hy : Satisfies P y] :
    Satisfies P (if c then x else y) := by
  split
  · exact hx
  · exact hy

omit hP in
/-- An entry of a handler table. -/
theorem satisfies_entry {c : Prop} [Decidable c] {instruction : DecodedInstruction}
    {x y : DecodedInstruction → Exec σ InstructionOutcome} (hx : c → Satisfies P (x instruction))
    (hy : ¬ c → Satisfies P (y instruction)) :
    Satisfies P ((if c then x else y) instruction) := by
  split
  next hc => exact hx hc
  next hc => exact hy hc

end Composition

section Accessors

instance (access : Access) : Satisfies P (Exec.note access : Exec σ Unit) := ⟨hP.note access⟩

/-- A read of the guest. -/
theorem satisfies_read {α : Type} (f : Machine σ → α) :
    Satisfies P (Attempt.read fun context : ExecutionContext σ => f context.machine) :=
  ⟨hP.readMachine f⟩

/-- A write to the guest that changes neither flags nor the callback's state. -/
theorem satisfies_setMachine {f : Machine σ → Machine σ}
    (hf : ∀ machine, (f machine).state.flags = machine.state.flags ∧
      (f machine).world = machine.world) : Satisfies P (setMachine f) :=
  ⟨hP.setMachine hf⟩

theorem satisfies_setResult {f : EmulatorResult → EmulatorResult} (hf : Judges f) :
    Satisfies P (setResult f : Exec σ Unit) :=
  ⟨hP.setResult hf⟩

theorem satisfies_onFailure {α : Type} {f : EmulatorResult → EmulatorResult} (hf : Judges f)
    (x : Exec σ α) [hx : Satisfies P x] :
    Satisfies P (Attempt.onFailure (ExecutionContext.mapResult f) x) :=
  ⟨hP.onFailure hf hx.satisfied⟩

instance (guestAddress : UInt64) (length : Nat) :
    Satisfies P (translateGuestPointer guestAddress length : Exec σ UInt64) :=
  ⟨hP.translateGuestPointer guestAddress length⟩

instance (value : UInt64) (is64Bit : Bool) :
    Satisfies P (setLogicFlags value is64Bit : Exec σ Unit) := ⟨hP.setLogicFlags value is64Bit⟩

instance (lhs rhs result : UInt64) (is64Bit : Bool) :
    Satisfies P (setCompareFlags lhs rhs result is64Bit : Exec σ Unit) :=
  ⟨hP.setCompareFlags lhs rhs result is64Bit⟩

instance (lhs rhs result : UInt64) (is64Bit : Bool) :
    Satisfies P (setAddFlags lhs rhs result is64Bit : Exec σ Unit) :=
  ⟨hP.setAddFlags lhs rhs result is64Bit⟩

instance (guestAddress : UInt64) (length : Nat) :
    Satisfies P (readGuest guestAddress length : Exec σ (List UInt8)) :=
  .seq inferInstance fun offset =>
    .seq inferInstance fun _ =>
      satisfies_read fun machine => loadBytes machine.host (machine.memory.bytes + offset) length

instance (guestAddress : UInt64) (bytes : List UInt8) :
    Satisfies P (writeGuest guestAddress bytes : Exec σ Unit) :=
  .seq inferInstance fun _ =>
    .seq inferInstance fun _ => satisfies_setMachine fun _ => ⟨rfl, rfl⟩

instance (guestAddress : UInt64) : Satisfies P (readU8 guestAddress : Exec σ UInt8) := by
  unfold readU8
  infer_instance

instance (guestAddress : UInt64) : Satisfies P (readI8 guestAddress : Exec σ Int8) := by
  unfold readI8
  infer_instance

instance (guestAddress : UInt64) : Satisfies P (readU32 guestAddress : Exec σ UInt32) := by
  unfold readU32
  infer_instance

instance (guestAddress : UInt64) : Satisfies P (readI32 guestAddress : Exec σ Int32) := by
  unfold readI32
  infer_instance

instance (guestAddress : UInt64) : Satisfies P (readU64 guestAddress : Exec σ UInt64) := by
  unfold readU64
  infer_instance

instance (guestAddress : UInt64) : Satisfies P (readU128 guestAddress : Exec σ SimdRegister) := by
  unfold readU128
  infer_instance

instance (guestAddress : UInt64) (value : UInt32) :
    Satisfies P (writeU32 guestAddress value : Exec σ Unit) := by
  unfold writeU32
  infer_instance

instance (guestAddress value : UInt64) :
    Satisfies P (writeU64 guestAddress value : Exec σ Unit) := by
  unfold writeU64
  infer_instance

instance (guestAddress : UInt64) (value : SimdRegister) :
    Satisfies P (writeU128 guestAddress value : Exec σ Unit) := by
  unfold writeU128
  infer_instance

instance (index : UInt32) : Satisfies P (getRegister64 index : Exec σ UInt64) :=
  .seq inferInstance fun _ =>
    satisfies_read fun machine => machine.register index

instance (index : UInt32) (value : UInt64) :
    Satisfies P (setRegister64 index value : Exec σ Unit) :=
  .seq inferInstance fun _ => satisfies_setMachine fun _ => ⟨rfl, rfl⟩

instance (index : UInt32) : Satisfies P (getSimdRegister index : Exec σ SimdRegister) :=
  .seq inferInstance fun _ =>
    satisfies_read fun machine => machine.simdRegister index

instance (index : UInt32) (value : SimdRegister) :
    Satisfies P (setSimdRegister index value : Exec σ Unit) :=
  .seq inferInstance fun _ => satisfies_setMachine fun _ => ⟨rfl, rfl⟩

instance (index : UInt32) : Satisfies P (getRegister32 index : Exec σ UInt32) := by
  unfold getRegister32
  infer_instance

instance (index : UInt32) : Satisfies P (getRegister8Low index : Exec σ UInt8) := by
  unfold getRegister8Low
  infer_instance

instance (index : UInt32) (value : UInt8) :
    Satisfies P (setRegister8Low index value : Exec σ Unit) := by
  unfold setRegister8Low
  infer_instance

instance (index value : UInt32) : Satisfies P (setRegister32 index value : Exec σ Unit) := by
  unfold setRegister32
  infer_instance

instance : Satisfies P (getFlags : Exec σ UInt64) :=
  satisfies_read fun machine => machine.state.flags

instance (instructionPointer : UInt64) :
    Satisfies P (setInstructionPointer instructionPointer : Exec σ Unit) :=
  satisfies_setMachine fun _ => ⟨rfl, rfl⟩

end Accessors

section Decoders

variable {α : Type} (x : Exec σ α) [Satisfies P x] (instruction : DecodedInstruction)

instance : Satisfies P (orInvalidMemory x) := satisfies_onFailure judges_markInvalidMemoryAccess x

instance (faultOpcode : UInt8) : Satisfies P (orUnsupported faultOpcode x) := by
  have hupdate : (fun context : ExecutionContext σ =>
      if context.result.completion = .invalidMemoryAccess then context
      else context.mapResult (EmulatorResult.setUnsupportedInstruction faultOpcode)) =
      ExecutionContext.mapResult fun result =>
        if result.completion = .invalidMemoryAccess then result
        else result.setUnsupportedInstruction faultOpcode := by
    ext1 context
    simp only [ExecutionContext.mapResult]
    split <;> rfl
  rw [orUnsupported, hupdate]
  exact satisfies_onFailure (judges_orUnsupported faultOpcode) x

instance (faultOpcode : UInt8) :
    Satisfies P (unsupported faultOpcode : Exec σ α) :=
  .seq (satisfies_setResult (judges_setUnsupportedInstruction faultOpcode)) fun _ => inferInstance

instance : Satisfies P (rejectRexW instruction : Exec σ Unit) := by
  unfold rejectRexW
  infer_instance

instance (instructionPointer : UInt64) :
    Satisfies P (continueAt instructionPointer : Exec σ InstructionOutcome) := by
  unfold continueAt
  infer_instance

instance (opcodeAddress : UInt64) : Satisfies P (readOpcode opcodeAddress : Exec σ UInt8) :=
  satisfies_onFailure (judges_setInvalidMemoryAccess opcodeAddress 0) _

/-- The prefix loop, by induction on its fuel. -/
instance decodePrefixes_satisfies (fuel : Nat) :
    Satisfies P (decodePrefixes fuel instruction : Exec σ DecodedInstruction) := by
  induction fuel generalizing instruction with
  | zero => exact inferInstanceAs (Satisfies P Attempt.fail)
  | succ fuel ih =>
    unfold decodePrefixes
    split <;> infer_instance

instance : Satisfies P (decodeX64Instruction : Exec σ DecodedInstruction) :=
  .seq (satisfies_read fun machine => machine.state.instructionPointer)
    fun _ => .seq (satisfies_read fun machine => machine.memory.size)
      fun _ => inferInstance

instance (indexField : UInt8) :
    Satisfies P (sibIndexValue instruction indexField : Exec σ UInt64) := by
  unfold sibIndexValue
  infer_instance

/-- The SIB decoder has the property around any guard that keeps it. -/
theorem readSibOperand_satisfies (guarded : ∀ {α : Type}, Exec σ α → Exec σ α)
    (hguarded : ∀ {α : Type} (x : Exec σ α), Satisfies P x → Satisfies P (guarded x))
    (modrmAddress : UInt64) (mod : UInt8) :
    Satisfies P (readSibOperand guarded instruction modrmAddress mod) := by
  have hbyte (address : UInt64) : Satisfies P (guarded (readU8 address)) := hguarded _ inferInstance
  have hsigned (address : UInt64) : Satisfies P (guarded (readI8 address)) :=
    hguarded _ inferInstance
  have hword (address : UInt64) : Satisfies P (guarded (readI32 address)) :=
    hguarded _ inferInstance
  unfold readSibOperand
  infer_instance

instance (modrmAddress : UInt64) (mod : UInt8) :
    Satisfies P (tryReadSibOperandAddress instruction modrmAddress mod :
      Exec σ (UInt64 × UInt64)) :=
  readSibOperand_satisfies instruction _ (fun _ h => h) modrmAddress mod

instance (modrmAddress : UInt64) (mod : UInt8) :
    Satisfies P (tryReadSibAddress instruction modrmAddress mod : Exec σ (UInt64 × UInt64)) :=
  readSibOperand_satisfies instruction _ (fun _ _ => inferInstance) modrmAddress mod

instance (modrmAddress : UInt64) (modrm : UInt8) :
    Satisfies P (decodeModrmAddress instruction modrmAddress modrm :
      Exec σ (UInt64 × UInt64)) := by
  unfold decodeModrmAddress
  infer_instance

instance (modrmAddress : UInt64) :
    Satisfies P (tryDecodeRmOperand instruction modrmAddress : Exec σ DecodedRmOperand) := by
  unfold tryDecodeRmOperand
  infer_instance

instance (modrmAddress : UInt64) :
    Satisfies P (tryDecodeModrmOperand instruction modrmAddress : Exec σ DecodedModrmOperand) := by
  unfold tryDecodeModrmOperand
  infer_instance

instance (modrmAddress : UInt64) (modrm : UInt8) :
    Satisfies P (tryGetMemoryOperandAddress instruction modrmAddress modrm :
      Exec σ (UInt64 × UInt64)) := by
  unfold tryGetMemoryOperandAddress
  infer_instance

end Decoders

section Handlers

variable (instruction : DecodedInstruction)

instance (value : UInt64) : Satisfies P (pushU64 value : Exec σ Unit) := by
  refine .seq inferInstance fun stackPointer => ?_
  refine .seq (satisfies_read fun machine => machine.memory.baseAddress) fun baseAddress => ?_
  have hwrite : Satisfies P (do
      setRegister64 rsp (stackPointer - 8)
      writeU64 (stackPointer - 8) value : Exec σ Unit) := inferInstance
  exact ⟨hP.refuse stackPointer hwrite.satisfied⟩

instance : Satisfies P (popU64 : Exec σ UInt64) := by
  unfold popU64
  infer_instance

instance (operand : DecodedRmOperand) : Satisfies P (loadRm64 operand : Exec σ UInt64) := by
  unfold loadRm64
  infer_instance

instance (operand : DecodedRmOperand) : Satisfies P (loadRm32 operand : Exec σ UInt32) := by
  unfold loadRm32
  infer_instance

instance (operand : DecodedRmOperand) : Satisfies P (loadRm8 operand : Exec σ UInt8) := by
  unfold loadRm8
  infer_instance

instance (operand : DecodedRmOperand) (value : UInt64) :
    Satisfies P (storeRm64 operand value : Exec σ Unit) := by
  unfold storeRm64
  infer_instance

instance (operand : DecodedRmOperand) (value : UInt32) :
    Satisfies P (storeRm32 operand value : Exec σ Unit) := by
  unfold storeRm32
  infer_instance

instance (operand : DecodedRmOperand) (immediate64 : UInt64) (immediate32 : UInt32)
    (nextInstruction : UInt64) :
    Satisfies P (executeArithmeticImmediate instruction operand immediate64 immediate32
      nextInstruction : Exec σ InstructionOutcome) := by
  unfold executeArithmeticImmediate
  infer_instance

instance : Satisfies P (executeX64XorRegister instruction : Exec σ InstructionOutcome) := by
  unfold executeX64XorRegister
  infer_instance

instance : Satisfies P (executeX64OrRegisterByte instruction : Exec σ InstructionOutcome) := by
  unfold executeX64OrRegisterByte
  infer_instance

instance : Satisfies P (executeX64OrRmToRegister instruction : Exec σ InstructionOutcome) := by
  unfold executeX64OrRmToRegister
  infer_instance

instance : Satisfies P (executeX64TestRegister instruction : Exec σ InstructionOutcome) := by
  unfold executeX64TestRegister
  infer_instance

instance :
    Satisfies P (executeX64TestAccumulatorImmediate instruction : Exec σ InstructionOutcome) := by
  unfold executeX64TestAccumulatorImmediate
  infer_instance

instance : Satisfies P (executeX64GroupF6 instruction : Exec σ InstructionOutcome) := by
  unfold executeX64GroupF6
  infer_instance

instance : Satisfies P (executeX64GroupF7 instruction : Exec σ InstructionOutcome) := by
  unfold executeX64GroupF7
  infer_instance

instance : Satisfies P (executeX64Group83 instruction : Exec σ InstructionOutcome) := by
  unfold executeX64Group83
  infer_instance

instance : Satisfies P (executeX64Group81 instruction : Exec σ InstructionOutcome) := by
  unfold executeX64Group81
  infer_instance

instance : Satisfies P (executeX64CompareRmWithRegister instruction : Exec σ InstructionOutcome) :=
  by
  unfold executeX64CompareRmWithRegister
  infer_instance

instance (index rmRegisterIndex : UInt32) :
    Satisfies P (movBetweenRegisters instruction index rmRegisterIndex : Exec σ Unit) := by
  unfold movBetweenRegisters
  infer_instance

instance (index : UInt32) (memoryAddress : UInt64) :
    Satisfies P (movWithMemory instruction index memoryAddress : Exec σ Unit) := by
  unfold movWithMemory
  infer_instance

instance (modrmAddress : UInt64) (modrm faultOpcode : UInt8) :
    Satisfies P (loadByteOperand instruction modrmAddress modrm faultOpcode :
      Exec σ (UInt8 × UInt64)) := by
  unfold loadByteOperand
  infer_instance

instance : Satisfies P (executeX64MovImmediate32 instruction : Exec σ InstructionOutcome) := by
  unfold executeX64MovImmediate32
  infer_instance

instance : Satisfies P (executeX64MovImmediateToRm instruction : Exec σ InstructionOutcome) := by
  unfold executeX64MovImmediateToRm
  infer_instance

instance : Satisfies P (executeX64MovRegister instruction : Exec σ InstructionOutcome) := by
  unfold executeX64MovRegister
  infer_instance

instance : Satisfies P (executeX64Lea instruction : Exec σ InstructionOutcome) := by
  unfold executeX64Lea
  infer_instance

instance : Satisfies P (executeX64Group80 instruction : Exec σ InstructionOutcome) := by
  unfold executeX64Group80
  infer_instance

instance : Satisfies P (executeX64SecondarySetcc instruction : Exec σ InstructionOutcome) := by
  unfold executeX64SecondarySetcc
  infer_instance

instance : Satisfies P (executeX64SecondaryMovzxByte instruction : Exec σ InstructionOutcome) := by
  unfold executeX64SecondaryMovzxByte
  infer_instance

instance : Satisfies P (executeX64Nop instruction : Exec σ InstructionOutcome) := by
  unfold executeX64Nop
  infer_instance

instance (operand : DecodedModrmOperand) :
    Satisfies P (tryReadSimdOperand operand : Exec σ SimdRegister) := by
  unfold tryReadSimdOperand
  infer_instance

instance (operand : DecodedModrmOperand) :
    Satisfies P (tryReadRm32Operand operand : Exec σ UInt32) := by
  unfold tryReadRm32Operand
  infer_instance

instance (operand : DecodedModrmOperand) :
    Satisfies P (storeSimdOperand operand : Exec σ Unit) := by
  unfold storeSimdOperand
  infer_instance

instance : Satisfies P (executeX64SecondaryMovXmm instruction : Exec σ InstructionOutcome) := by
  unfold executeX64SecondaryMovXmm
  infer_instance

instance : Satisfies P (executeX64SecondaryStoreXmm instruction : Exec σ InstructionOutcome) := by
  unfold executeX64SecondaryStoreXmm
  infer_instance

instance : Satisfies P (executeX64SecondaryXorps instruction : Exec σ InstructionOutcome) := by
  unfold executeX64SecondaryXorps
  infer_instance

instance : Satisfies P (executeX64SecondaryMovd instruction : Exec σ InstructionOutcome) := by
  unfold executeX64SecondaryMovd
  infer_instance

instance : Satisfies P (executeX64SecondaryPunpcklbw instruction : Exec σ InstructionOutcome) := by
  unfold executeX64SecondaryPunpcklbw
  infer_instance

instance : Satisfies P (executeX64SecondaryShuffle instruction : Exec σ InstructionOutcome) := by
  unfold executeX64SecondaryShuffle
  infer_instance

instance : Satisfies P (executeX64SecondaryMovqStore instruction : Exec σ InstructionOutcome) := by
  unfold executeX64SecondaryMovqStore
  infer_instance

/-- An increment has the property if its flags have it. -/
theorem incDecRegister_satisfies
    (hflags : ∀ lhs result isDecrement is64Bit,
      Satisfies P (setIncDecFlags lhs result isDecrement is64Bit : Exec σ Unit))
    (rmRegisterIndex : UInt32) (isDecrement : Bool) :
    Satisfies P (incDecRegister instruction rmRegisterIndex isDecrement :
      Exec σ InstructionOutcome) := by
  unfold incDecRegister
  infer_instance

instance (modrm : UInt8) :
    Satisfies P (indirectCallTarget instruction modrm : Exec σ (UInt64 × UInt64)) := by
  unfold indirectCallTarget
  infer_instance

instance : Satisfies P (executeX64PushRegister instruction : Exec σ InstructionOutcome) := by
  unfold executeX64PushRegister
  infer_instance

instance : Satisfies P (executeX64PopRegister instruction : Exec σ InstructionOutcome) := by
  unfold executeX64PopRegister
  infer_instance

instance : Satisfies P (executeX64Return instruction : Exec σ InstructionOutcome) := by
  unfold executeX64Return
  infer_instance

instance : Satisfies P (executeX64CallRelative instruction : Exec σ InstructionOutcome) := by
  unfold executeX64CallRelative
  infer_instance

theorem executeX64GroupFf_satisfies
    (hflags : ∀ lhs result isDecrement is64Bit,
      Satisfies P (setIncDecFlags lhs result isDecrement is64Bit : Exec σ Unit)) :
    Satisfies P (executeX64GroupFf instruction : Exec σ InstructionOutcome) := by
  have hincDec := incDecRegister_satisfies instruction hflags
  unfold executeX64GroupFf
  infer_instance

instance : Satisfies P (executeX64JumpRelativeNear instruction : Exec σ InstructionOutcome) := by
  unfold executeX64JumpRelativeNear
  infer_instance

instance : Satisfies P (executeX64JumpRelativeShort instruction : Exec σ InstructionOutcome) := by
  unfold executeX64JumpRelativeShort
  infer_instance

instance : Satisfies P (executeX64JumpShortCondition instruction : Exec σ InstructionOutcome) := by
  unfold executeX64JumpShortCondition
  infer_instance

instance : Satisfies P (executeX64JumpNearCondition instruction : Exec σ InstructionOutcome) := by
  unfold executeX64JumpNearCondition
  infer_instance

instance : Satisfies P (executeX64Unsupported instruction : Exec σ InstructionOutcome) := by
  unfold executeX64Unsupported
  infer_instance

instance (mod rm : UInt8) (nextInstruction : UInt64) :
    Satisfies P (skipBaseBytes instruction mod rm nextInstruction : Exec σ UInt64) := by
  unfold skipBaseBytes
  infer_instance

instance (modrmAddress : UInt64) :
    Satisfies P (trySkipModrmOperand instruction modrmAddress : Exec σ UInt64) := by
  unfold trySkipModrmOperand
  infer_instance

instance : Satisfies P (executeX64SecondaryNop instruction : Exec σ InstructionOutcome) :=
  .seq (satisfies_onFailure (judges_setUnsupportedInstruction 0x1F) _)
    fun _ => inferInstance

variable (callbacks : Callbacks σ) [hcall : Satisfies P (callHandler callbacks)]

instance : Satisfies P (executeX64Syscall callbacks instruction) := by
  refine .seq inferInstance fun _ => .seq hcall fun answer => .seq inferInstance fun _ => ?_
  cases answer.action with
  | exitThread => exact .seq (satisfies_setResult judges_setThreadExited) fun _ => inferInstance
  | yield => exact .seq (satisfies_setResult judges_setYielded) fun _ => inferInstance
  | continueRun => infer_instance

omit hcall in
/-- The increments are among the instructions of `FF`. -/
theorem primaryOpcodeHandler_satisfies {opcode : UInt8}
    (hgroup : opcode = 0xFF → Satisfies P (executeX64GroupFf instruction)) :
    Satisfies P (primaryOpcodeHandler opcode instruction : Exec σ InstructionOutcome) := by
  unfold primaryOpcodeHandler
  repeat' first | exact inferInstance | exact hgroup ‹_› | (apply satisfies_entry <;> intro _)

instance (opcode : UInt8) : Satisfies P (secondaryOpcodeHandler callbacks opcode instruction) := by
  unfold secondaryOpcodeHandler
  repeat' first | exact inferInstance | (apply satisfies_entry <;> intro _)

instance : Satisfies P (dispatchSecondaryOpcode callbacks instruction) := by
  have hfault (opcode : UInt8) :
      Satisfies P (setResult (EmulatorResult.setFaultOpcode opcode) : Exec σ Unit) :=
    satisfies_setResult (judges_setFaultOpcode opcode)
  unfold dispatchSecondaryOpcode
  infer_instance

/-- A dispatched instruction has the property, if those of `FF` have it. -/
theorem dispatch_satisfies
    (hgroup : instruction.opcode = 0xFF → Satisfies P (executeX64GroupFf instruction)) :
    Satisfies P (dispatch callbacks instruction) := by
  have hfault : Satisfies P (setResult (EmulatorResult.setFault instruction) : Exec σ Unit) :=
    satisfies_setResult (judges_setFault instruction)
  have hprimary := primaryOpcodeHandler_satisfies (P := P) instruction hgroup
  unfold dispatch
  infer_instance

end Handlers

/-- So has a step. -/
theorem interpretInstruction_satisfies (callbacks : Callbacks σ)
    [Satisfies P (callHandler callbacks)]
    (hgroup : ∀ instruction, Satisfies P (executeX64GroupFf instruction)) :
    Satisfies P (interpretInstruction callbacks) := by
  have hcount : Satisfies P (setResult EmulatorResult.countRetired : Exec σ Unit) :=
    satisfies_setResult judges_countRetired
  have hdispatch (instruction : DecodedInstruction) :=
    dispatch_satisfies (P := P) instruction callbacks fun _ => hgroup instruction
  unfold interpretInstruction
  infer_instance

end Ringos.Emulator
