import Ringos.Core.WordParts
import Ringos.Emulator.Endings

/-!
# Operand sizes

An instruction works on the operands of a size: 64 bits with REX.W, otherwise 16
bits with an operand size prefix, otherwise 32 bits. An encoding stands for an
operation at each size; the sizes differ in the bytes of an immediate and in
those of an operand in guest memory. A write of 16 bits keeps the other bits of
a register, one of 32 bits clears them.
-/

namespace Ringos.Emulator

open Ringos.Core

variable {σ α : Type}

/-- The size of operands. -/
inductive OperandSize where
  | bits16
  | bits32
  | bits64
  deriving DecidableEq

namespace OperandSize

/-- The bytes of an operand. -/
def bytes : OperandSize → Nat
  | bits16 => 2
  | bits32 => 4
  | bits64 => 8

/-- The bytes of a long immediate, which is never of 64 bits. -/
def immediateBytes : OperandSize → UInt64
  | bits16 => 2
  | _ => 4

/-- Stack operands have 64 bits unless they have 16. -/
def onStack : OperandSize → OperandSize
  | bits16 => bits16
  | _ => bits64

/-- A register after an operand has been written to it. -/
def merge (old value : UInt64) : OperandSize → UInt64
  | bits16 => ⟨replacePart old.toBitVec 0 (value.toBitVec.setWidth 16)⟩
  | bits32 => value.toUInt32.toUInt64
  | bits64 => value

end OperandSize

/-- The operand size that the prefixes select. -/
def DecodedInstruction.operandSize (instruction : DecodedInstruction) : OperandSize :=
  if instruction.rexW then .bits64 else if instruction.prefix66 then .bits16 else .bits32

/-- The operations whose size the prefixes select. -/
inductive SizedOperation where
  | integer (integer : IntegerInstruction)
  | push (index : UInt32)
  | pop (index : UInt32)
  | exchange (index : UInt32)

namespace Place

/-- The place is in guest memory. -/
def InMemory : Place → Prop
  | register _ => False
  | memory _ => True

end Place

/-- The source is in guest memory. -/
def Source.InMemory : Source → Prop
  | .place operand => operand.InMemory
  | .immediate _ => False

/-- An operand is in guest memory; a loaded address is none. -/
def IntegerInstruction.UsesMemory : IntegerInstruction → Prop
  | binary _ destination source => destination.InMemory ∨ source.InMemory
  | unary _ destination => destination.InMemory
  | move destination source => destination.InMemory ∨ source.InMemory
  | loadAddress destination _ => destination.InMemory

section Decoding

/-- What guest memory has to hold; otherwise the access is refused. -/
def required : Option α → Except Completion α
  | some a => .ok a
  | none => .error .invalidMemoryAccess

/-- An encoding has to be supported; otherwise it is rejected. -/
def supported (condition : Bool) : Except Completion Unit :=
  if condition then .ok () else .error .unsupportedInstruction

namespace Machine

variable (machine : Machine σ) (size : OperandSize) (instruction : DecodedInstruction)

/-- An operand in guest memory has to lie in the guest region. -/
def reachable : Place → Except Completion Unit
  | .register _ => .ok ()
  | .memory guestAddress =>
    (required (machine.memory.offsetOf guestAddress size.bytes)).map fun _ => ()

/-- A sign-extended long immediate. -/
def immediateAt (guestAddress : UInt64) : Except Completion Int :=
  match size with
  | .bits16 => required ((machine.bytesAt guestAddress 2).map fun bytes =>
    (ofLittleEndian bytes).toUInt16.toInt16.toInt)
  | _ => required (machine.immediate32At guestAddress)

/-- An instruction of an r/m and a register operand, both of which it uses. -/
def rmForm (build : DecodedRmOperand → UInt8 → IntegerInstruction) :
    Except Completion (SizedOperation × UInt64) := do
  let modrm ← required (machine.byteAt instruction.nextAddress)
  let operand ← required (machine.rmOperand instruction instruction.nextAddress)
  machine.reachable size operand.place
  pure (.integer (build operand modrm), operand.nextInstruction)

/-- The same where only registers are supported. -/
def registerForm (build : DecodedRmOperand → UInt8 → IntegerInstruction) :
    Except Completion (SizedOperation × UInt64) := do
  let modrm ← required (machine.byteAt instruction.nextAddress)
  supported (modField modrm = 3)
  machine.rmForm size instruction build

/-- The instructions of opcodes `81` and `83`; an operation that is not supported is rejected after
the operand has been read. -/
def arithmeticForm (immediateAt : UInt64 → Except Completion (Int × UInt64)) :
    Except Completion (SizedOperation × UInt64) := do
  let operand ← required (machine.rmOperand instruction instruction.nextAddress)
  let (immediate, behind) ← immediateAt operand.nextInstruction
  machine.reachable size operand.place
  match arithmeticOperation operand.operation with
  | none => .error .unsupportedInstruction
  | some operation => pure (.integer (.binary operation operand.place (.immediate immediate)), behind)

/-- A move of an immediate to an r/m operand. -/
def moveImmediateForm : Except Completion (SizedOperation × UInt64) := do
  let modrm ← required (machine.byteAt instruction.nextAddress)
  supported (regField modrm = 0)
  let operand ← required (machine.rmOperand instruction instruction.nextAddress)
  let immediate ← machine.immediateAt size operand.nextInstruction
  machine.reachable size operand.place
  pure (.integer (.move operand.place (.immediate immediate)),
    operand.nextInstruction + size.immediateBytes)

/-- A load of an effective address. -/
def loadAddressForm : Except Completion (SizedOperation × UInt64) := do
  let modrm ← required (machine.byteAt instruction.nextAddress)
  supported (modField modrm ≠ 3)
  let operand ← required (machine.rmOperand instruction instruction.nextAddress)
  pure (.integer (.loadAddress (registerPlace instruction modrm) operand.rmAddress),
    operand.nextInstruction)

/-- A push; its slot has to lie above the base of the guest region. -/
def pushForm : Except Completion (SizedOperation × UInt64) := do
  let slotBytes := size.onStack.bytes
  let stackPointer := machine.register rsp
  if stackPointer < machine.memory.baseAddress + slotBytes.toUInt64 then
    .error .invalidMemoryAccess
  else do
    machine.reachable size.onStack (.memory (stackPointer - slotBytes.toUInt64))
    pure (.push (instruction.opcode.toUInt32 - 0x50 + if instruction.rexB then 8 else 0),
      instruction.nextAddress)

def popForm : Except Completion (SizedOperation × UInt64) := do
  machine.reachable size.onStack (.memory (machine.register rsp))
  pure (.pop (instruction.opcode.toUInt32 - 0x58 + if instruction.rexB then 8 else 0),
    instruction.nextAddress)

/-- The operation that a decoded instruction stands for at an operand size, and the address behind
the instruction; or how it stops. -/
def operationAt : Except Completion (SizedOperation × UInt64) :=
  let opcode := instruction.opcode
  if 0x50 ≤ opcode ∧ opcode ≤ 0x57 then machine.pushForm size instruction
  else if 0x58 ≤ opcode ∧ opcode ≤ 0x5F then machine.popForm size instruction
  else if 0xB8 ≤ opcode ∧ opcode ≤ 0xBF then do
    let immediate ← machine.immediateAt size instruction.nextAddress
    pure (.integer (.move (.register (opcode.toUInt32 - 0xB8 + if instruction.rexB then 8 else 0))
      (.immediate immediate)), instruction.nextAddress + size.immediateBytes)
  else if opcode = 0x90 then do
    supported !instruction.rexW
    pure (.exchange (if instruction.rexB then 8 else 0), instruction.nextAddress)
  else if opcode = 0xA9 then do
    let immediate ← machine.immediateAt size instruction.nextAddress
    pure (.integer (.binary .test (.register rax) (.immediate immediate)),
      instruction.nextAddress + size.immediateBytes)
  else if opcode = 0x81 then machine.arithmeticForm size instruction fun immediateAddress => do
    let immediate ← machine.immediateAt size immediateAddress
    pure (immediate, immediateAddress + size.immediateBytes)
  else if opcode = 0x83 then machine.arithmeticForm size instruction fun immediateAddress => do
    let immediate ← required (machine.immediate8At immediateAddress)
    pure (immediate, immediateAddress + 1)
  else if opcode = 0xC7 then machine.moveImmediateForm size instruction
  else if opcode = 0x8D then machine.loadAddressForm instruction
  else if opcode = 0x31 then machine.registerForm size instruction fun operand modrm =>
    .binary .xor operand.place (.place (registerPlace instruction modrm))
  else if opcode = 0x85 then machine.registerForm size instruction fun operand modrm =>
    .binary .test operand.place (.place (registerPlace instruction modrm))
  else if opcode = 0xFF then machine.registerForm size instruction fun operand _ =>
    .unary (if operand.operation = 0 then .inc else .dec) operand.place
  else if opcode = 0x39 then machine.rmForm size instruction fun operand modrm =>
    .binary .cmp operand.place (.place (registerPlace instruction modrm))
  else if opcode = 0x0B then machine.rmForm size instruction fun operand modrm =>
    .binary .or (registerPlace instruction modrm) (.place operand.place)
  else if opcode = 0x89 then machine.rmForm size instruction fun operand modrm =>
    .move operand.place (.place (registerPlace instruction modrm))
  else if opcode = 0x8B then machine.rmForm size instruction fun operand modrm =>
    .move (registerPlace instruction modrm) (.place operand.place)
  else if opcode = 0xF7 then do
    let operand ← required (machine.rmOperand instruction instruction.nextAddress)
    supported (operand.operation = 3)
    machine.rmForm size instruction fun operand _ => .unary .neg operand.place
  else .error .unsupportedInstruction

end Machine

end Decoding

/-- The machine an effect leaves behind an instruction, with the flags of the effect. -/
def Effect.Left {is64Bit : Bool} (effect : Effect is64Bit) (machine : Machine σ)
    (behind : UInt64) (next : Machine σ) : Prop :=
  (∀ place value, effect.written = some (place, value) → machine.Holds is64Bit place) ∧
    ∃ flags, statusFlags flags = effect.status.getD (statusFlags machine.state.flags) ∧
      next = ((effect.leaves machine).setFlags flags).jumpTo behind

section Halfwords

/-- What an instruction on 16 bits writes, and the flags it leaves unless it leaves them alone. -/
structure HalfwordEffect where
  written : Option (Place × BitVec 16)
  status : Option StatusFlags

namespace Machine

variable (machine : Machine σ)

/-- The 16-bit operand at a place. -/
def halfwordAt : Place → Option (BitVec 16)
  | .register index => some ((machine.register index).toBitVec.setWidth 16)
  | .memory guestAddress => (machine.bytesAt guestAddress 2).map fun bytes =>
    (ofLittleEndian bytes).toBitVec.setWidth 16

/-- The 16-bit source operand. -/
def halfwordSource : Source → Option (BitVec 16)
  | .place place => machine.halfwordAt place
  | .immediate value => some (BitVec.ofInt 16 value)

/-- The machine with 16 bits of a place assigned. -/
def assignHalfword : Place → BitVec 16 → Machine σ
  | .register index, value =>
    machine.setRegister index ⟨replacePart (machine.register index).toBitVec 0 value⟩
  | .memory guestAddress, value =>
    { machine with
      host := storeBytes machine.host (machine.hostAddress guestAddress)
        (toLittleEndian 2 ⟨value.setWidth 64⟩) }

end Machine

/-- What an integer instruction does on 16-bit operands. -/
def IntegerInstruction.halfwordEffect (machine : Machine σ) :
    IntegerInstruction → Option HalfwordEffect
  | binary operation destination source => do
    let x ← machine.halfwordAt destination
    let y ← machine.halfwordSource source
    some
      { written := if operation.writes then some (destination, operation.result x y) else none
        status := some (operation.status x y) }
  | unary operation destination => do
    let x ← machine.halfwordAt destination
    let carry := flagSet machine.state.flags rflagsCarry
    some
      { written := some (destination, operation.result x)
        status := some (operation.status x carry) }
  | move destination source => do
    let value ← machine.halfwordSource source
    some { written := some (destination, value), status := none }
  | loadAddress destination guestAddress =>
    some { written := some (destination, guestAddress.toBitVec.setWidth 16), status := none }

/-- The machine a 16-bit effect leaves, but for its flags. -/
def HalfwordEffect.leaves (effect : HalfwordEffect) (machine : Machine σ) : Machine σ :=
  match effect.written with
  | none => machine
  | some (place, value) => machine.assignHalfword place value

end Halfwords

section Meaning

/-- The integer instruction has been performed on operands of a size: the destination holds the
result, the flags are those of the operation, and nothing else has changed. -/
def IntegerInstruction.PerformedAt (integer : IntegerInstruction) (machine : Machine σ)
    (behind : UInt64) (next : Machine σ) : OperandSize → Prop
  | .bits16 => ∃ effect flags, integer.halfwordEffect machine = some effect ∧
    statusFlags flags = effect.status.getD (statusFlags machine.state.flags) ∧
    next = ((effect.leaves machine).setFlags flags).jumpTo behind
  | .bits32 => ∃ effect, integer.effect false machine = some effect ∧ effect.Left machine behind next
  | .bits64 => ∃ effect, integer.effect true machine = some effect ∧ effect.Left machine behind next

namespace Machine

variable (machine : Machine σ) (size : OperandSize)

/-- The machine with two registers exchanged. -/
def exchange (index : UInt32) : Machine σ :=
  let x := machine.register rax
  let y := machine.register index
  (machine.setRegister rax (size.merge x y)).setRegister index (size.merge y x)

/-- The machine with a register pushed. -/
def pushed (index : UInt32) : Machine σ :=
  let slot := machine.register rsp - size.onStack.bytes.toUInt64
  let lowered := machine.setRegister rsp slot
  { lowered with
    host := storeBytes machine.host (machine.hostAddress slot)
      (toLittleEndian size.onStack.bytes (machine.register index)) }

/-- The machine with a register popped. -/
def popped (index : UInt32) : Machine σ :=
  let slot := machine.register rsp
  let value := ofLittleEndian (loadBytes machine.host (machine.hostAddress slot) size.onStack.bytes)
  (machine.setRegister rsp (slot + size.onStack.bytes.toUInt64)).setRegister index
    (size.onStack.merge (machine.register index) value)

end Machine

namespace SizedOperation

/-- The operation has been performed on operands of a size. -/
def Performed (machine : Machine σ) (size : OperandSize) (behind : UInt64) (next : Machine σ) :
    SizedOperation → Prop
  | .integer operation => operation.PerformedAt machine behind next size
  | .push index => next = (machine.pushed size index).jumpTo behind
  | .pop index => next = (machine.popped size index).jumpTo behind
  | .exchange index => next = (machine.exchange size index).jumpTo behind

/-- The bytes of the operand in guest memory, where the operation has one. -/
def MemoryBytes (size : OperandSize) (count : Nat) : SizedOperation → Prop
  | .integer operation => operation.UsesMemory ∧ count = size.bytes
  | .push _ | .pop _ => count = size.onStack.bytes
  | .exchange _ => False

end SizedOperation

/-- How a step ends that honours the operand size: it stops since the encoding is not supported, or
since the operation at that size cannot access its memory; or it performs the operation at that
size and goes on behind the instruction, and where an operand is in guest memory the latest access,
which is that to the operand, touches no more than its bytes. -/
def Machine.Honours (machine : Machine σ) (instruction : DecodedInstruction) :
    Option InstructionOutcome × ExecutionContext σ → Prop
  | (none, next) => next.result.completion = .unsupportedInstruction ∨
    next.result.completion = .invalidMemoryAccess ∧
      machine.operationAt instruction.operandSize instruction = .error .invalidMemoryAccess
  | (some outcome, next) => outcome = .continueRunning ∧ ∃ operation behind,
    machine.operationAt instruction.operandSize instruction = .ok (operation, behind) ∧
      operation.Performed machine instruction.operandSize behind next.machine ∧
      ∀ count, operation.MemoryBytes instruction.operandSize count →
        ∃ length ≤ count, latestAccess next.accesses = some length

end Meaning

section Conditions

namespace Machine

variable (machine : Machine σ)

/-- The lowest 32 bits of a register. -/
def lowOperand : Place → BitVec 32
  | .register index => (machine.register index).toBitVec.setWidth 32
  | .memory _ => 0

/-- A 32-bit source that is not in guest memory. -/
def lowSource : Source → BitVec 32
  | .place place => machine.lowOperand place
  | .immediate value => BitVec.ofInt 32 value

/-- The bits of a register above the lowest 16 are those of a zero-extended 32-bit value. -/
def KeepsUpper (value : BitVec 32) : Place → Prop
  | .register index => (machine.register index).toBitVec >>> 16 = value.setWidth 64 >>> 16
  | .memory _ => False

end Machine

/-- The 32-bit operation does what the 16-bit operation does: it uses no guest memory, above the
lowest 16 bits its result is what the destination holds, and the flags of the operands are those of
their lowest 16 bits. -/
def IntegerInstruction.Coincides (machine : Machine σ) : IntegerInstruction → Prop
  | binary operation destination source =>
    let x := machine.lowOperand destination
    let y := machine.lowSource source
    ¬ destination.InMemory ∧ ¬ source.InMemory ∧
      (operation.writes → machine.KeepsUpper (operation.result x y) destination) ∧
      operation.status x y = operation.status (x.setWidth 16) (y.setWidth 16)
  | unary operation destination =>
    let x := machine.lowOperand destination
    let carry := flagSet machine.state.flags rflagsCarry
    ¬ destination.InMemory ∧ machine.KeepsUpper (operation.result x) destination ∧
      operation.status x carry = operation.status (x.setWidth 16) carry
  | move destination source =>
    ¬ destination.InMemory ∧ ¬ source.InMemory ∧
      machine.KeepsUpper (machine.lowSource source) destination
  | loadAddress destination guestAddress =>
    machine.KeepsUpper (guestAddress.toBitVec.setWidth 32) destination

/-- The 32-bit operation, or doing nothing in place of an exchange, does what the operation does at
a size. -/
def SizedOperation.Coincides (machine : Machine σ) (size : OperandSize) : SizedOperation → Prop
  | .integer operation => operation.Coincides machine
  | .push _ | .pop _ => False
  | .exchange index =>
    match size with
    | .bits16 =>
      (machine.register rax).toBitVec.setWidth 16 = (machine.register index).toBitVec.setWidth 16
    | .bits32 => machine.register rax = machine.register index ∧ machine.register rax < 0x100000000
    | .bits64 => machine.register rax = machine.register index

/-- The opcodes with a long immediate. -/
def HasLongImmediate (opcode : UInt8) : Prop :=
  opcode ∈ [0x81, 0xA9, 0xC7] ∨ 0xB8 ≤ opcode ∧ opcode ≤ 0xBF

instance (opcode : UInt8) : Decidable (HasLongImmediate opcode) :=
  inferInstanceAs (Decidable (_ ∨ _))

/-- When the operand size is honoured: the encoding is not supported; or the 32-bit operation and
the operation at that size both cannot access their memory; or no immediate depends on the size and
the 32-bit operation does what the one at that size does. -/
def Machine.HonoursWhen (machine : Machine σ) (instruction : DecodedInstruction) : Prop :=
  match machine.operationAt .bits32 instruction with
  | .error completion => completion = .unsupportedInstruction ∨
    completion = .invalidMemoryAccess ∧
      machine.operationAt instruction.operandSize instruction = .error .invalidMemoryAccess
  | .ok (operation, _) => ¬ HasLongImmediate instruction.opcode ∧
    operation.Coincides machine instruction.operandSize

end Conditions

end Ringos.Emulator
