import Ringos.Emulator.Flags
import Ringos.Emulator.Outcomes
import Ringos.Emulator.Step

/-!
# What integer instructions compute

An integer instruction has a destination and a source, each a register or a
place in guest memory, and computes on words of its operand width. Its meaning
is stated once for both widths, with the flags of the operation; the handlers,
which have separate code for each width and kind of operand, are shown to carry
it out and to change nothing else.
-/

namespace Ringos.Emulator

open Ringos.Core
open Exec

variable {σ α : Type}

/-- The bytes of an operand. -/
def operandBytes : Bool → Nat
  | true => 8
  | false => 4

/-- Where an operand is. -/
inductive Place where
  | register (index : UInt32)
  | memory (guestAddress : UInt64)
  deriving DecidableEq

/-- A source operand; an immediate is extended to the operand width. -/
inductive Source where
  | place (place : Place)
  | immediate (value : Int)

/-- The operations of two operands. -/
inductive BinaryOperation where
  | add
  | sub
  | cmp
  | or
  | xor
  | test
  deriving DecidableEq

/-- The operations of one operand. -/
inductive UnaryOperation where
  | neg
  | inc
  | dec
  deriving DecidableEq

/-- The integer instructions. -/
inductive IntegerInstruction where
  | binary (operation : BinaryOperation) (destination : Place) (source : Source)
  | unary (operation : UnaryOperation) (destination : Place)
  | move (destination : Place) (source : Source)
  | loadAddress (destination : Place) (guestAddress : UInt64)

section Operations

variable {w : Nat} (x y : BitVec w)

namespace BinaryOperation

/-- The result of an operation in two's complement. -/
def result : BinaryOperation → BitVec w
  | add => x + y
  | sub | cmp => x - y
  | or => x ||| y
  | xor => x ^^^ y
  | test => x &&& y

/-- The flags of an operation. -/
def status : BinaryOperation → StatusFlags
  | add => .add x y
  | sub | cmp => .sub x y
  | or => .logic (x ||| y)
  | xor => .logic (x ^^^ y)
  | test => .logic (x &&& y)

/-- Whether the destination takes the result. -/
def writes : BinaryOperation → Bool
  | cmp | test => false
  | _ => true

end BinaryOperation

namespace UnaryOperation

def result : UnaryOperation → BitVec w
  | neg => -x
  | inc => x + 1#w
  | dec => x - 1#w

/-- The flags of an operation; increment and decrement keep the carry flag. -/
def status (carry : Bool) : UnaryOperation → StatusFlags
  | neg => .neg x
  | inc => .inc carry x
  | dec => .dec carry x

end UnaryOperation

end Operations

/-- What an instruction writes, and the flags it leaves unless it leaves them alone. -/
structure Effect (is64Bit : Bool) where
  written : Option (Place × BitVec (operandBits is64Bit))
  status : Option StatusFlags

namespace Machine

/-- The operand at a place. -/
def valueAt (machine : Machine σ) (is64Bit : Bool) : Place → Option (BitVec (operandBits is64Bit))
  | .register index => some (lowBits is64Bit (machine.register index))
  | .memory guestAddress => (machine.bytesAt guestAddress (operandBytes is64Bit)).map fun bytes =>
    lowBits is64Bit (ofLittleEndian bytes)

/-- The source operand. -/
def sourceValue (machine : Machine σ) (is64Bit : Bool) :
    Source → Option (BitVec (operandBits is64Bit))
  | .place place => machine.valueAt is64Bit place
  | .immediate value => some (BitVec.ofInt _ value)

/-- The host address of a guest address. -/
def hostAddress (machine : Machine σ) (guestAddress : UInt64) : UInt64 :=
  machine.memory.bytes + (guestAddress - machine.memory.baseAddress)

end Machine

/-- What an integer instruction does, at its operand width. -/
def IntegerInstruction.effect (is64Bit : Bool) (machine : Machine σ) :
    IntegerInstruction → Option (Effect is64Bit)
  | binary operation destination source => do
    let x ← machine.valueAt is64Bit destination
    let y ← machine.sourceValue is64Bit source
    some
      { written := if operation.writes then some (destination, operation.result x y) else none
        status := some (operation.status x y) }
  | unary operation destination => do
    let x ← machine.valueAt is64Bit destination
    let carry := flagSet machine.state.flags rflagsCarry
    some
      { written := some (destination, operation.result x)
        status := some (operation.status x carry) }
  | move destination source => do
    let value ← machine.sourceValue is64Bit source
    some { written := some (destination, value), status := none }
  | loadAddress destination guestAddress =>
    some { written := some (destination, lowBits is64Bit guestAddress), status := none }

/-- The effect has happened, and nothing else: a register takes a zero-extended value. -/
structure Effect.CarriedOut {is64Bit : Bool} (effect : Effect is64Bit)
    (machine next : Machine σ) : Prop where
  register : ∀ index value, effect.written = some (.register index, value) →
    next.register index = zeroExtended value
  memory : ∀ guestAddress value, effect.written = some (.memory guestAddress, value) →
    next.valueAt is64Bit (.memory guestAddress) = some value
  status : statusFlags next.state.flags =
    effect.status.getD (statusFlags machine.state.flags)
  otherRegisters : ∀ index, (∀ value, effect.written ≠ some (.register index, value)) →
    next.register index = machine.register index
  otherBytes : ∀ address, (∀ guestAddress value,
      effect.written = some (.memory guestAddress, value) →
        ¬ InRange (machine.hostAddress guestAddress) (operandBytes is64Bit) address) →
    next.host address = machine.host address
  simdRegisters : next.state.simdRegisters = machine.state.simdRegisters
  window : next.memory = machine.memory
  world : next.world = machine.world

/-- The integer instruction has been carried out. -/
def IntegerInstruction.Performed (integer : IntegerInstruction) (is64Bit : Bool)
    (machine next : Machine σ) : Prop :=
  ∃ effect, integer.effect is64Bit machine = some effect ∧ effect.CarriedOut machine next

section Decoding

/-- The place of a decoded r/m operand. -/
def DecodedRmOperand.place (operand : DecodedRmOperand) : Place :=
  if operand.rmIsRegister then .register operand.rmIndex else .memory operand.rmAddress

/-- The place of the register operand of a ModRM byte. -/
def registerPlace (instruction : DecodedInstruction) (modrm : UInt8) : Place :=
  .register (registerIndex (regField modrm) instruction.rexR)

/-- The operations of opcodes `81` and `83`. -/
def arithmeticOperation (operation : UInt8) : Option BinaryOperation :=
  if operation = 0 then some .add
  else if operation = 5 then some .sub
  else if operation = 7 then some .cmp
  else none

namespace Machine

variable (machine : Machine σ) (instruction : DecodedInstruction)

/-- An instruction of an r/m and a register operand. -/
def withOperands (build : DecodedRmOperand → UInt8 → IntegerInstruction) :
    Option IntegerInstruction := do
  let modrm ← machine.byteAt instruction.nextAddress
  let operand ← machine.rmOperand instruction instruction.nextAddress
  some (build operand modrm)

/-- An instruction of an r/m operand and an immediate behind it. -/
def withImmediate (immediateAt : UInt64 → Option Int)
    (build : DecodedRmOperand → Int → Option IntegerInstruction) : Option IntegerInstruction := do
  let operand ← machine.rmOperand instruction instruction.nextAddress
  let immediate ← immediateAt operand.nextInstruction
  build operand immediate

/-- A sign-extended byte immediate. -/
def immediate8At (guestAddress : UInt64) : Option Int :=
  (machine.byteAt guestAddress).map fun byte => byte.toInt8.toInt

/-- A sign-extended word immediate. -/
def immediate32At (guestAddress : UInt64) : Option Int :=
  (machine.wordAt guestAddress).map fun word => word.toInt32.toInt

/-- The integer instruction that a decoded instruction stands for. -/
def integerInstruction : Option IntegerInstruction :=
  let opcode := instruction.opcode
  if 0xB8 ≤ opcode ∧ opcode ≤ 0xBF then
    (machine.immediate32At instruction.nextAddress).map fun immediate =>
      .move (.register (opcode.toUInt32 - 0xB8 + if instruction.rexB then 8 else 0))
        (.immediate immediate)
  else if opcode = 0x81 then
    machine.withImmediate instruction machine.immediate32At fun operand immediate =>
      (arithmeticOperation operand.operation).map fun operation =>
        .binary operation operand.place (.immediate immediate)
  else if opcode = 0x83 then
    machine.withImmediate instruction machine.immediate8At fun operand immediate =>
      (arithmeticOperation operand.operation).map fun operation =>
        .binary operation operand.place (.immediate immediate)
  else if opcode = 0x39 then
    machine.withOperands instruction fun operand modrm =>
      .binary .cmp operand.place (.place (registerPlace instruction modrm))
  else if opcode = 0x31 then
    machine.withOperands instruction fun operand modrm =>
      .binary .xor operand.place (.place (registerPlace instruction modrm))
  else if opcode = 0x85 then
    machine.withOperands instruction fun operand modrm =>
      .binary .test operand.place (.place (registerPlace instruction modrm))
  else if opcode = 0x0B then
    machine.withOperands instruction fun operand modrm =>
      .binary .or (registerPlace instruction modrm) (.place operand.place)
  else if opcode = 0xA9 then
    (machine.immediate32At instruction.nextAddress).map fun immediate =>
      .binary .test (.register rax) (.immediate immediate)
  else if opcode = 0xF7 then
    machine.withOperands instruction fun operand _ => .unary .neg operand.place
  else if opcode = 0xFF then
    machine.withOperands instruction fun operand _ =>
      .unary (if operand.operation = 0 then .inc else .dec) operand.place
  else if opcode = 0x89 then
    machine.withOperands instruction fun operand modrm =>
      .move operand.place (.place (registerPlace instruction modrm))
  else if opcode = 0x8B then
    machine.withOperands instruction fun operand modrm =>
      .move (registerPlace instruction modrm) (.place operand.place)
  else if opcode = 0xC7 then
    machine.withImmediate instruction machine.immediate32At fun operand immediate =>
      some (.move operand.place (.immediate immediate))
  else if opcode = 0x8D then
    machine.withOperands instruction fun operand modrm =>
      .loadAddress (registerPlace instruction modrm) operand.rmAddress
  else none

/-- The instruction is one of the integer instructions. -/
def IsInteger : Prop :=
  instruction.prefix66 = false ∧
    (0xB8 ≤ instruction.opcode ∧ instruction.opcode ≤ 0xBF ∨
      instruction.opcode ∈ [0x81, 0x83, 0x39, 0x31, 0x85, 0x0B, 0xA9, 0xF7, 0x89, 0x8B, 0xC7, 0x8D] ∨
      instruction.opcode = 0xFF ∧ ∃ modrm, machine.byteAt instruction.nextAddress = some modrm ∧
        (regField modrm = 0 ∨ regField modrm = 1))

end Machine

end Decoding

end Ringos.Emulator
