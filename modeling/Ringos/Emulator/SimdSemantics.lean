import Ringos.Core.Lanes
import Ringos.Emulator.Endings

/-!
# What the SIMD instructions compute

An XMM register is a word of 128 bits that an instruction reads and writes by
lanes. The secondary opcode and the mandatory prefix select an operation
together, by the rows of a table. The operations are given here as the processor
defines them, and each byte loop of the handlers is shown to compute one.
-/

namespace Ringos.Emulator

open Ringos.Core

variable {σ : Type}

namespace SimdRegister

/-- The word that a register holds. -/
def bits (register : SimdRegister) : BitVec 128 :=
  ofLanes 128 8 fun index => (register[index]?.getD 0).toBitVec

/-- The register that holds a word. -/
def ofBits (word : BitVec 128) : SimdRegister :=
  Vector.ofFn fun index : Fin 16 => ⟨lane 8 index word⟩

/-- The byte lanes of a register are its bytes. -/
theorem lane_bits (register : SimdRegister) {index : Nat} (hindex : index < 16) :
    lane 8 index (bits register) = (register[index]?.getD 0).toBitVec := by
  rw [bits, lane_ofLanes _ (by omega)]

@[simp] theorem bits_ofBits (word : BitVec 128) : bits (ofBits word) = word := by
  apply eq_of_lanes (v := 8) (by decide)
  intro index hindex
  have hlt : index < 16 := by omega
  rw [lane_bits _ hlt]
  simp [ofBits, hlt]

/-- A register holds a word if its bytes are those of the word. -/
theorem eq_ofBits {register : SimdRegister} {word : BitVec 128}
    (h : ∀ index (hindex : index < 16), register[index].toBitVec = lane 8 index word) :
    register = ofBits word := by
  apply Vector.ext
  intro index hindex
  rw [ofBits, Vector.getElem_ofFn]
  exact UInt8.toBitVec_inj.mp (h index hindex)

@[simp] theorem ofBits_bits (register : SimdRegister) : ofBits (bits register) = register := by
  refine (eq_ofBits fun index hindex => ?_).symm
  rw [lane_bits _ hindex, Vector.getElem?_eq_getElem hindex, Option.getD_some]

/-- The bytes of a register, in memory order. -/
theorem toList_eq_laneBytes (register : SimdRegister) :
    register.toList = laneBytes 16 (bits register) := by
  apply List.ext_getElem
  · simp
  · intro index hindex hlane
    have hlt : index < 16 := by simpa using hlane
    simp [laneBytes, lane_bits register hlt, hlt]

end SimdRegister

section Operations

/-- `PUNPCKLBW`: the bytes of the two low halves alternate, the destination's first. -/
def punpcklbw (destination source : BitVec 128) : BitVec 128 :=
  ofLanes 128 8 fun index => lane 8 (index / 2) (if index % 2 = 0 then destination else source)

/-- The lane that a two-bit field of an order byte names. -/
def orderedLane (order : UInt8) (index : Nat) : Nat := (lane 2 index order.toBitVec).toNat

/-- `PSHUFD`: each of the four doublewords is chosen by the order byte. -/
def pshufd (order : UInt8) (source : BitVec 128) : BitVec 128 :=
  ofLanes 128 32 fun index => lane 32 (orderedLane order index) source

/-- `PSHUFLW`: the four low words are chosen by the order byte, the high ones copied. -/
def pshuflw (order : UInt8) (source : BitVec 128) : BitVec 128 :=
  ofLanes 128 16 fun index => lane 16 (if index < 4 then orderedLane order index else index) source

/-- The exclusive or of the handler is that of the words. -/
theorem zipWith_xor_eq (destination source : SimdRegister) :
    Vector.zipWith (· ^^^ ·) destination source =
      SimdRegister.ofBits (destination.bits ^^^ source.bits) := by
  apply SimdRegister.eq_ofBits
  intro index hindex
  rw [lane_xor, SimdRegister.lane_bits _ hindex, SimdRegister.lane_bits _ hindex]
  simp [hindex]

/-- The handler zero-extends the doubleword. -/
theorem movdValue_eq (source : UInt32) :
    movdValue source = SimdRegister.ofBits (source.toBitVec.setWidth 128) := by
  apply SimdRegister.eq_ofBits
  intro index hindex
  rw [movdValue, Vector.getElem_ofFn, toLittleEndian_eq_laneBytes (by decide),
    lane_setWidth _ (by omega)]
  by_cases hlow : index < 4
  · have hvalue : lane 8 index (source.toBitVec.setWidth 64) = lane 8 index source.toBitVec :=
      lane_setWidth _ (by omega)
    simp [laneBytes, hlow, hvalue]
  · rw [lane_of_le _ (by omega)]
    simp [laneBytes, hlow]

/-- The handler interleaves the low halves. -/
theorem punpcklbwValue_eq (destination source : SimdRegister) :
    punpcklbwValue destination source =
      SimdRegister.ofBits (punpcklbw destination.bits source.bits) := by
  apply SimdRegister.eq_ofBits
  intro index hindex
  rw [punpcklbwValue, Vector.getElem_ofFn, punpcklbw, lane_ofLanes _ (by omega)]
  dsimp only
  split
  · rw [SimdRegister.lane_bits _ (by omega)]
  · rw [SimdRegister.lane_bits _ (by omega)]

/-- The handler takes the same fields from the order byte. -/
theorem shuffleSource_eq (order : UInt8) {index : Nat} (hindex : index < 4) :
    shuffleSource order index = orderedLane order index := by
  have hshift : ((index * 2).toUInt8).toNat % 8 = 2 * index := by
    rw [Nat.toUInt8, UInt8.toNat_ofNat_of_lt' (Nat.lt_trans (by omega : _ < 8) (by decide)),
      Nat.mod_eq_of_lt (by omega), Nat.mul_comm]
  rw [shuffleSource, orderedLane, lane, BitVec.extractLsb'_toNat, UInt8.toNat_and,
    UInt8.toNat_shiftRight, hshift]
  exact Nat.and_two_pow_sub_one_eq_mod _ 2

theorem orderedLane_lt (order : UInt8) (index : Nat) : orderedLane order index < 4 :=
  (lane 2 index order.toBitVec).isLt

/-- With lanes of four bytes the handler shuffles doublewords. -/
theorem shuffleValue_four (order : UInt8) (source : SimdRegister) :
    shuffleValue 4 order source = SimdRegister.ofBits (pshufd order source.bits) := by
  apply SimdRegister.eq_ofBits
  intro index hindex
  have hordered := orderedLane_lt order (index / 4)
  rw [shuffleValue, Vector.getElem_ofFn, if_pos hindex, shuffleSource_eq _ (by omega), pshufd,
    lane_ofLanes_part _ (show 32 = 8 * 4 from rfl) (by omega),
    lane_lane _ (show 32 = 8 * 4 from rfl) (Nat.mod_lt _ (by decide)),
    SimdRegister.lane_bits _ (by omega), Nat.mul_comm]

/-- The order byte `0x1b` reverses the doublewords. -/
example : pshufd 0x1B 0x33333333222222221111111100000000 =
    0x00000000111111112222222233333333 := by decide +kernel

/-- With lanes of two bytes the handler shuffles the low words. -/
theorem shuffleValue_two (order : UInt8) (source : SimdRegister) :
    shuffleValue 2 order source = SimdRegister.ofBits (pshuflw order source.bits) := by
  apply SimdRegister.eq_ofBits
  intro index hindex
  have hordered := orderedLane_lt order (index / 2)
  rw [shuffleValue, Vector.getElem_ofFn, pshuflw,
    lane_ofLanes_part _ (show 16 = 8 * 2 from rfl) (by omega),
    lane_lane _ (show 16 = 8 * 2 from rfl) (Nat.mod_lt _ (by decide))]
  dsimp only
  by_cases hlow : index < 8
  · have hfield : index / 2 < 4 := by omega
    rw [if_pos hlow, if_pos hfield, shuffleSource_eq _ hfield, SimdRegister.lane_bits _ (by omega),
      Nat.mul_comm]
  · have hfield : ¬ index / 2 < 4 := by omega
    rw [if_neg hlow, if_neg hfield, Nat.div_add_mod, SimdRegister.lane_bits _ hindex,
      Vector.getElem?_eq_getElem hindex, Option.getD_some]

/-- The low quadword that the handler writes is the lowest lane. -/
theorem toLittleEndian_lowHalf (register : SimdRegister) :
    toLittleEndian 8 (ofLittleEndian (register.toList.take 8)) =
      laneBytes 8 (lane 64 0 register.bits) := by
  have hlength : (register.toList.take 8).length = 8 := by simp
  have hencoded := toLittleEndian_ofLittleEndian hlength.le
  rw [hlength] at hencoded
  rw [hencoded, register.toList_eq_laneBytes]
  apply List.ext_getElem
  · simp
  · intro index hindex hlane
    have hlt : index < 8 := by simpa using hlane
    have hlow : lane 8 index (lane 64 0 register.bits) = lane 8 index register.bits := by
      rw [lane_lane _ (show 64 = 8 * 8 from rfl) hlt, Nat.mul_zero, Nat.zero_add]
    simp [laneBytes, hlow]

end Operations

section Selection

/-- What selects between the instructions at a secondary opcode. -/
inductive MandatoryPrefix where
  | none
  | prefix66
  | prefixF2
  | prefixF3
  deriving DecidableEq

/-- What the supported SIMD instructions do. -/
inductive SimdOperation where
  | load
  | store
  | xorps
  | movd
  | punpcklbw
  | pshufd
  | pshuflw
  | movqStore
  deriving DecidableEq

/-- The supported SIMD instructions. -/
def simdInstructions : List (UInt8 × MandatoryPrefix × SimdOperation) :=
  [ (0x10, .none, .load), -- `MOVUPS xmm, xmm/m128`
    (0x11, .none, .store), -- `MOVUPS xmm/m128, xmm`
    (0x29, .none, .store), -- `MOVAPS xmm/m128, xmm`
    (0x7F, .prefixF3, .store), -- `MOVDQU xmm/m128, xmm`
    (0x57, .none, .xorps), -- `XORPS xmm, xmm/m128`
    (0x6E, .prefix66, .movd), -- `MOVD xmm, r/m32`
    (0x60, .prefix66, .punpcklbw), -- `PUNPCKLBW xmm, xmm/m128`
    (0x70, .prefix66, .pshufd), -- `PSHUFD xmm, xmm/m128, imm8`
    (0x70, .prefixF2, .pshuflw), -- `PSHUFLW xmm, xmm/m128, imm8`
    (0xD6, .prefix66, .movqStore) ] -- `MOVQ m64, xmm`

/-- The operation in the row of an opcode and a prefix. -/
def simdOperationAt (secondaryOpcode : UInt8) (mandatoryPrefix : MandatoryPrefix) :
    Option SimdOperation :=
  (simdInstructions.find? fun row =>
    row.1 = secondaryOpcode ∧ row.2.1 = mandatoryPrefix).map fun row => row.2.2

namespace DecodedInstruction

variable (instruction : DecodedInstruction)

/-- The mandatory prefix; several of them select nothing. -/
def mandatoryPrefix : Option MandatoryPrefix :=
  match instruction.prefix66, instruction.prefixF2, instruction.prefixF3 with
  | false, false, false => some .none
  | true, false, false => some .prefix66
  | false, true, false => some .prefixF2
  | false, false, true => some .prefixF3
  | _, _, _ => Option.none

/-- The operation that the prefixes select at a secondary opcode. No supported instruction has a
64-bit operand. -/
def simdOperation (secondaryOpcode : UInt8) : Option SimdOperation :=
  if instruction.rexW then Option.none
  else instruction.mandatoryPrefix.bind (simdOperationAt secondaryOpcode)

variable {instruction}

theorem hasNoSimdPrefix_iff :
    hasNoSimdPrefix instruction = true ↔ instruction.mandatoryPrefix = some .none := by
  unfold hasNoSimdPrefix mandatoryPrefix
  cases instruction.prefix66 <;> cases instruction.prefixF2 <;> cases instruction.prefixF3 <;> simp

theorem hasOnlyPrefix66_iff :
    hasOnlyPrefix66 instruction = true ↔ instruction.mandatoryPrefix = some .prefix66 := by
  unfold hasOnlyPrefix66 mandatoryPrefix
  cases instruction.prefix66 <;> cases instruction.prefixF2 <;> cases instruction.prefixF3 <;> simp

/-- The test of `is_pshuflw`. -/
theorem hasOnlyPrefixF2_iff :
    (instruction.prefixF2 && !instruction.prefix66 && !instruction.prefixF3) = true ↔
      instruction.mandatoryPrefix = some .prefixF2 := by
  unfold mandatoryPrefix
  cases instruction.prefix66 <;> cases instruction.prefixF2 <;> cases instruction.prefixF3 <;> simp

/-- The test of `is_movdqu`. -/
theorem hasOnlyPrefixF3_iff :
    (instruction.prefixF3 && !instruction.prefix66 && !instruction.prefixF2) = true ↔
      instruction.mandatoryPrefix = some .prefixF3 := by
  unfold mandatoryPrefix
  cases instruction.prefix66 <;> cases instruction.prefixF2 <;> cases instruction.prefixF3 <;> simp

end DecodedInstruction

end Selection

/-- What a SIMD instruction writes. -/
inductive SimdEffect where
  | register (index : UInt32) (word : BitVec 128)
  | memory (guestAddress : UInt64) (bytes : List UInt8)

/-- The address behind an instruction: an order byte follows the operand. -/
def SimdOperation.behind (operation : SimdOperation) (operand : DecodedModrmOperand) : UInt64 :=
  match operation with
  | .pshufd => operand.nextInstruction + 1
  | .pshuflw => operand.nextInstruction + 1
  | _ => operand.nextInstruction

namespace Machine

variable (machine : Machine σ)

/-- The word in an XMM register. -/
def simdWord (index : UInt32) : BitVec 128 := (machine.simdRegister index).bits

/-- The source operand of 128 bits. -/
def simdSource (operand : DecodedModrmOperand) : Option (BitVec 128) :=
  if operand.rmIsRegister then some (machine.simdWord operand.rmIndex)
  else (machine.simdAt operand.rmAddress).map SimdRegister.bits

/-- The source operand of 32 bits, in a general register or in memory. -/
def doublewordSource (operand : DecodedModrmOperand) : Option (BitVec 32) :=
  if operand.rmIsRegister then some (machine.register operand.rmIndex).toUInt32.toBitVec
  else (machine.wordAt operand.rmAddress).map UInt32.toBitVec

/-- The order byte behind the operand shuffles the source. -/
def shuffledSource (operand : DecodedModrmOperand)
    (shuffle : UInt8 → BitVec 128 → BitVec 128) : Option (BitVec 128) :=
  (machine.byteAt operand.nextInstruction).bind fun order =>
    (machine.simdSource operand).map (shuffle order)

/-- A memory operand is written where the guest region holds all of it. -/
def simdStore (operand : DecodedModrmOperand) (bytes : List UInt8) : Option SimdEffect :=
  (machine.memory.offsetOf operand.rmAddress bytes.length).map fun _ =>
    .memory operand.rmAddress bytes

/-- What an operation writes, where its operands are accessible. The register form of the
quadword store is another instruction. -/
def simdEffect (operation : SimdOperation) (operand : DecodedModrmOperand) : Option SimdEffect :=
  let word := machine.simdWord operand.regIndex
  match operation with
  | .load => (machine.simdSource operand).map fun source => .register operand.regIndex source
  | .store =>
    if operand.rmIsRegister then some (.register operand.rmIndex word)
    else machine.simdStore operand (laneBytes 16 word)
  | .xorps =>
    (machine.simdSource operand).map fun source => .register operand.regIndex (word ^^^ source)
  | .movd =>
    (machine.doublewordSource operand).map fun source =>
      .register operand.regIndex (source.setWidth 128)
  | .punpcklbw =>
    (machine.simdSource operand).map fun source =>
      .register operand.regIndex (punpcklbw word source)
  | .pshufd =>
    (machine.shuffledSource operand pshufd).map fun shuffled =>
      .register operand.regIndex shuffled
  | .pshuflw =>
    (machine.shuffledSource operand pshuflw).map fun shuffled =>
      .register operand.regIndex shuffled
  | .movqStore =>
    if operand.rmIsRegister then none
    else machine.simdStore operand (laneBytes 8 (lane 64 0 word))

/-- The machine with an effect. -/
def performSimd : SimdEffect → Machine σ
  | .register index word => machine.setSimdRegister index (.ofBits word)
  | .memory guestAddress bytes =>
    { machine with host := storeBytes machine.host (machine.hostAddress guestAddress) bytes }

/-- What an operation comes to with a decoded operand. -/
def afterSimdOperand (operation : SimdOperation) (operand : DecodedModrmOperand) :
    Except Completion (Machine σ) :=
  if operation = .movqStore ∧ operand.rmIsRegister then .error .unsupportedInstruction
  else
    match machine.simdEffect operation operand with
    | none => .error .invalidMemoryAccess
    | some effect => .ok ((machine.performSimd effect).jumpTo (operation.behind operand))

/-- What the SIMD instruction with a secondary opcode comes to. -/
def afterSimd (instruction : DecodedInstruction) (secondaryOpcode : UInt8) :
    Except Completion (Machine σ) :=
  match instruction.simdOperation secondaryOpcode with
  | none => .error .unsupportedInstruction
  | some operation =>
    match machine.modrmOperand instruction (instruction.nextAddress + 1) with
    | none => .error .invalidMemoryAccess
    | some operand => machine.afterSimdOperand operation operand

end Machine

end Ringos.Emulator
