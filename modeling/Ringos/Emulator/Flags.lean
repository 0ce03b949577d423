import Mathlib.Data.Nat.Bitwise
import Ringos.Core.StatusFlags
import Ringos.Emulator.ControlFlowInstructions

/-!
# The flags the handlers compute

The handlers mask 64-bit values to the operand width and test sign bits. At both
widths this is the carry, zero, sign and overflow flag of the operation on words
of that width.
-/

namespace Ringos.Emulator

open Ringos.Core

/-- `is_64_bit ? 64 : 32`. -/
abbrev operandBits : Bool → Nat
  | true => 64
  | false => 32

/-- A flag of the flags register is set. -/
def flagSet (flags flag : UInt64) : Bool := flags &&& flag != 0

/-- The four status flags of the flags register. -/
def statusFlags (flags : UInt64) : StatusFlags where
  carry := flagSet flags rflagsCarry
  zero := flagSet flags rflagsZero
  sign := flagSet flags rflagsSign
  overflow := flagSet flags rflagsOverflow

variable {is64Bit : Bool}

/-- The operand in the low bits of a register. -/
def lowBits (is64Bit : Bool) (value : UInt64) : BitVec (operandBits is64Bit) :=
  value.toBitVec.setWidth _

/-- The register value of an operand: a 32-bit one is zero-extended. -/
def zeroExtended (value : BitVec (operandBits is64Bit)) : UInt64 := ⟨value.setWidth 64⟩

section Values

variable (x y : BitVec (operandBits is64Bit))

theorem zeroExtended_toNat : (zeroExtended x).toNat = x.toNat := by
  have hx := x.isLt
  show (x.setWidth 64).toNat = _
  rw [BitVec.toNat_setWidth, Nat.mod_eq_of_lt]
  cases is64Bit
  · exact Nat.lt_trans hx (by decide)
  · exact hx

@[simp] theorem lowBits_zeroExtended : lowBits is64Bit (zeroExtended x) = x := by
  apply BitVec.eq_of_toNat_eq
  rw [lowBits, BitVec.toNat_setWidth, UInt64.toNat_toBitVec, zeroExtended_toNat,
    Nat.mod_eq_of_lt x.isLt]

theorem zeroExtended_eq_zero : (zeroExtended x == 0) = (x == 0#_) := by
  rw [Bool.eq_iff_iff, beq_iff_eq, beq_iff_eq, ← UInt64.toNat_inj, zeroExtended_toNat,
    BitVec.toNat_eq, BitVec.toNat_zero]
  rfl

theorem zeroExtended_lt : zeroExtended x < zeroExtended y ↔ x < y := by
  rw [UInt64.lt_iff_toNat_lt, zeroExtended_toNat, zeroExtended_toNat, BitVec.lt_def]

/-- Masking changes nothing in an operand of the width. -/
theorem zeroExtended_mask : zeroExtended x &&& widthMask is64Bit = zeroExtended x := by
  have hx := x.isLt
  apply UInt64.toNat_inj.mp
  rw [UInt64.toNat_and, zeroExtended_toNat]
  cases is64Bit
  · exact (Nat.and_two_pow_sub_one_eq_mod x.toNat 32).trans (Nat.mod_eq_of_lt hx)
  · exact (Nat.and_two_pow_sub_one_eq_mod x.toNat 64).trans (Nat.mod_eq_of_lt hx)

/-- The sign mask tests the sign bit of an operand of the width. -/
theorem zeroExtended_sign : (zeroExtended x &&& signMask is64Bit != 0) = x.msb := by
  have hpow (i : Nat) : (x.toNat &&& 2 ^ i != 0) = x.toNat.testBit i := by
    rw [Nat.and_two_pow]
    cases x.toNat.testBit i
    · simp
    · simp
  have hne (a : UInt64) : (a != 0) = (a.toNat != 0) := by
    rw [Bool.eq_iff_iff, bne_iff_ne, bne_iff_ne, ne_eq, ne_eq, ← UInt64.toNat_inj]
    rfl
  rw [hne, UInt64.toNat_and, zeroExtended_toNat, BitVec.msb_eq_getLsbD_last, BitVec.getLsbD]
  cases is64Bit
  · exact hpow 31
  · exact hpow 63

end Values

section FlagBits

/-- What the flags register says after one flag has been added. -/
theorem flagSet_or (flags added flag : UInt64) :
    flagSet (flags ||| added) flag = (flagSet flags flag || flagSet added flag) := by
  have hor (a b : UInt64) : (a ||| b != 0) = (a != 0 || b != 0) := by
    rw [Bool.eq_iff_iff]
    simp only [bne_iff_ne, ne_eq, Bool.or_eq_true]
    rw [UInt64.or_eq_zero_iff]
    tauto
  have hdistrib : (flags ||| added) &&& flag = (flags &&& flag) ||| (added &&& flag) := by
    apply UInt64.toNat_inj.mp
    simp only [UInt64.toNat_and, UInt64.toNat_or, Nat.and_or_distrib_right]
  rw [flagSet, hdistrib, hor]
  rfl

/-- Adding a flag conditionally sets it and no other flag. -/
theorem flagSet_flagIf (condition : Bool) (added flag : UInt64) :
    flagSet (flagIf condition added) flag = (condition && flagSet added flag) := by
  cases condition
  · rw [flagIf, if_neg Bool.false_ne_true, flagSet, UInt64.zero_and]
    rfl
  · rfl

/-- Clearing a set of flags clears each of them. -/
theorem flagSet_and_not (flags cleared flag : UInt64) (h : cleared &&& flag = flag) :
    flagSet (flags &&& ~~~cleared) flag = false := by
  have hzero : ~~~cleared &&& flag = 0 := by
    rw [← h, ← UInt64.and_assoc, UInt64.not_and_self, UInt64.zero_and]
  rw [flagSet, UInt64.and_assoc, hzero, UInt64.and_zero]
  rfl

/-- Clearing other flags leaves a flag as it is. -/
theorem flagSet_and (flags kept flag : UInt64) (h : kept &&& flag = flag) :
    flagSet (flags &&& kept) flag = flagSet flags flag := by
  rw [flagSet, UInt64.and_assoc, h]
  rfl

theorem statusFlags_carry : flagSet rflagsCarry rflagsCarry = true ∧
    flagSet rflagsCarry rflagsZero = false ∧ flagSet rflagsCarry rflagsSign = false ∧
    flagSet rflagsCarry rflagsOverflow = false := by
  decide

theorem statusFlags_zero : flagSet rflagsZero rflagsCarry = false ∧
    flagSet rflagsZero rflagsZero = true ∧ flagSet rflagsZero rflagsSign = false ∧
    flagSet rflagsZero rflagsOverflow = false := by
  decide

theorem statusFlags_sign : flagSet rflagsSign rflagsCarry = false ∧
    flagSet rflagsSign rflagsZero = false ∧ flagSet rflagsSign rflagsSign = true ∧
    flagSet rflagsSign rflagsOverflow = false := by
  decide

theorem statusFlags_overflow : flagSet rflagsOverflow rflagsCarry = false ∧
    flagSet rflagsOverflow rflagsZero = false ∧ flagSet rflagsOverflow rflagsSign = false ∧
    flagSet rflagsOverflow rflagsOverflow = true := by
  decide

theorem statusFlags_reserved : flagSet rflagsReserved rflagsCarry = false ∧
    flagSet rflagsReserved rflagsZero = false ∧ flagSet rflagsReserved rflagsSign = false ∧
    flagSet rflagsReserved rflagsOverflow = false := by
  decide

/-- The arithmetic instructions set the flags they have cleared before. -/
theorem statusFlags_cleared (flags : UInt64) (carry zero sign overflow : Bool) :
    statusFlags (clearedFlags flags ||| flagIf zero rflagsZero ||| flagIf sign rflagsSign |||
      flagIf carry rflagsCarry ||| flagIf overflow rflagsOverflow) =
        ⟨carry, zero, sign, overflow⟩ := by
  have hcleared (flag : UInt64)
      (h : (rflagsCarry ||| rflagsZero ||| rflagsSign ||| rflagsOverflow) &&& flag = flag)
      (hreserved : flagSet rflagsReserved flag = false) :
      flagSet (clearedFlags flags) flag = false := by
    rw [clearedFlags, flagSet_or, flagSet_and_not _ _ _ h, hreserved]
    rfl
  simp only [statusFlags, flagSet_or, flagSet_flagIf]
  rw [hcleared rflagsCarry (by decide) (by decide), hcleared rflagsZero (by decide) (by decide),
    hcleared rflagsSign (by decide) (by decide), hcleared rflagsOverflow (by decide) (by decide)]
  simp [statusFlags_carry, statusFlags_zero, statusFlags_sign, statusFlags_overflow]

end FlagBits

section Handlers

variable (flags : UInt64) (x y : BitVec (operandBits is64Bit))

/-- `set_add_flags` at the sum leaves the flags of the addition. -/
theorem statusFlags_addFlags :
    statusFlags (addFlags flags (zeroExtended x) (zeroExtended y) (zeroExtended (x + y)) is64Bit) =
      .add x y := by
  simp only [addFlags, zeroExtended_mask, zeroExtended_sign, zeroExtended_eq_zero,
    statusFlags_cleared, zeroExtended_lt]
  rw [StatusFlags.add, StatusFlags.ofResult, StatusFlags.uaddOverflow_eq_lt,
    StatusFlags.saddOverflow_eq_msb]

/-- `set_compare_flags` at the difference leaves the flags of the subtraction. -/
theorem statusFlags_compareFlags :
    statusFlags (compareFlags flags (zeroExtended x) (zeroExtended y) (zeroExtended (x - y))
      is64Bit) = .sub x y := by
  simp only [compareFlags, zeroExtended_mask, zeroExtended_sign, zeroExtended_eq_zero,
    statusFlags_cleared, zeroExtended_lt]
  rw [StatusFlags.sub, StatusFlags.ofResult, BitVec.usubOverflow_eq,
    StatusFlags.ssubOverflow_eq_msb]

/-- `set_logic_flags` leaves the flags of a bitwise operation. -/
theorem statusFlags_logicFlags :
    statusFlags (logicFlags flags (zeroExtended x) is64Bit) = .logic x := by
  have hmasked : (if is64Bit then zeroExtended x else (zeroExtended x).toUInt32.toUInt64) =
      zeroExtended x := by
    have hx := x.isLt
    cases is64Bit
    · apply UInt64.toNat_inj.mp
      rw [if_neg Bool.false_ne_true, UInt32.toNat_toUInt64, UInt64.toNat_toUInt32,
        zeroExtended_toNat]
      exact Nat.mod_eq_of_lt hx
    · rfl
  have hor : logicFlags flags (zeroExtended x) is64Bit =
      clearedFlags flags ||| flagIf (zeroExtended x == 0) rflagsZero |||
        flagIf ((zeroExtended x &&& signMask is64Bit) != 0) rflagsSign |||
        flagIf false rflagsCarry ||| flagIf false rflagsOverflow := by
    simp only [logicFlags, hmasked, flagIf, Bool.false_eq_true, if_false, UInt64.or_zero]
  rw [hor, statusFlags_cleared, zeroExtended_sign, zeroExtended_eq_zero]
  rfl

/-- The flags of `set_inc_dec_flags`: carry is kept, the rest is set anew. -/
theorem statusFlags_incDec (zero sign overflow : Bool) :
    statusFlags (((flags &&& rflagsCarry) ||| rflagsReserved) ||| flagIf zero rflagsZero |||
      flagIf sign rflagsSign ||| flagIf overflow rflagsOverflow) =
        ⟨flagSet flags rflagsCarry, zero, sign, overflow⟩ := by
  have hkept : flagSet (flags &&& rflagsCarry) rflagsCarry = flagSet flags rflagsCarry :=
    flagSet_and _ _ _ (by decide)
  have hothers (flag : UInt64) (h : rflagsCarry &&& flag = 0) :
      flagSet (flags &&& rflagsCarry) flag = false := by
    rw [flagSet, UInt64.and_assoc, h, UInt64.and_zero]
    rfl
  simp only [statusFlags, flagSet_or, flagSet_flagIf]
  rw [hkept, hothers rflagsZero (by decide), hothers rflagsSign (by decide),
    hothers rflagsOverflow (by decide)]
  simp [statusFlags_reserved, statusFlags_zero, statusFlags_sign, statusFlags_overflow]

/-- One has a clear sign bit at both widths. -/
theorem msb_one : (1#(operandBits is64Bit)).msb = false := by
  cases is64Bit <;> rfl

/-- `set_inc_dec_flags` of an increment. -/
theorem statusFlags_incFlags :
    statusFlags (incDecFlags flags (zeroExtended x) (zeroExtended (x + 1#_)) false is64Bit) =
      .inc (flagSet flags rflagsCarry) x := by
  simp only [incDecFlags, zeroExtended_mask, zeroExtended_sign, zeroExtended_eq_zero,
    statusFlags_incDec]
  rw [StatusFlags.inc, StatusFlags.ofResult, StatusFlags.saddOverflow_eq_msb, msb_one]
  cases x.msb <;> simp

/-- `set_inc_dec_flags` of a decrement. -/
theorem statusFlags_decFlags :
    statusFlags (incDecFlags flags (zeroExtended x) (zeroExtended (x - 1#_)) true is64Bit) =
      .dec (flagSet flags rflagsCarry) x := by
  simp only [incDecFlags, zeroExtended_mask, zeroExtended_sign, zeroExtended_eq_zero,
    statusFlags_incDec]
  rw [StatusFlags.dec, StatusFlags.ofResult, StatusFlags.ssubOverflow_eq_msb, msb_one]
  cases x.msb <;> simp

end Handlers

section Widths

theorem zeroExtended_64 (value : UInt64) :
    @zeroExtended true value.toBitVec = value := by
  apply UInt64.toNat_inj.mp
  rw [zeroExtended_toNat]
  rfl

theorem zeroExtended_32 (value : UInt32) :
    @zeroExtended false value.toBitVec = value.toUInt64 := by
  apply UInt64.toNat_inj.mp
  rw [zeroExtended_toNat]
  rfl

variable (flags : UInt64)

theorem statusFlags_add64 (lhs rhs : UInt64) :
    statusFlags (addFlags flags lhs rhs (lhs + rhs) true) = .add lhs.toBitVec rhs.toBitVec := by
  have h := @statusFlags_addFlags true flags lhs.toBitVec rhs.toBitVec
  rwa [zeroExtended_64, zeroExtended_64, ← UInt64.toBitVec_add, zeroExtended_64] at h

theorem statusFlags_add32 (lhs rhs : UInt32) :
    statusFlags (addFlags flags lhs.toUInt64 rhs.toUInt64 (lhs + rhs).toUInt64 false) =
      .add lhs.toBitVec rhs.toBitVec := by
  have h := @statusFlags_addFlags false flags lhs.toBitVec rhs.toBitVec
  rwa [zeroExtended_32, zeroExtended_32, ← UInt32.toBitVec_add, zeroExtended_32] at h

theorem statusFlags_compare64 (lhs rhs : UInt64) :
    statusFlags (compareFlags flags lhs rhs (lhs - rhs) true) = .sub lhs.toBitVec rhs.toBitVec := by
  have h := @statusFlags_compareFlags true flags lhs.toBitVec rhs.toBitVec
  rwa [zeroExtended_64, zeroExtended_64, ← UInt64.toBitVec_sub, zeroExtended_64] at h

theorem statusFlags_compare32 (lhs rhs : UInt32) :
    statusFlags (compareFlags flags lhs.toUInt64 rhs.toUInt64 (lhs - rhs).toUInt64 false) =
      .sub lhs.toBitVec rhs.toBitVec := by
  have h := @statusFlags_compareFlags false flags lhs.toBitVec rhs.toBitVec
  rwa [zeroExtended_32, zeroExtended_32, ← UInt32.toBitVec_sub, zeroExtended_32] at h

theorem statusFlags_logic64 (value : UInt64) :
    statusFlags (logicFlags flags value true) = .logic value.toBitVec := by
  have h := @statusFlags_logicFlags true flags value.toBitVec
  rwa [zeroExtended_64] at h

theorem statusFlags_logic32 (value : UInt32) :
    statusFlags (logicFlags flags value.toUInt64 false) = .logic value.toBitVec := by
  have h := @statusFlags_logicFlags false flags value.toBitVec
  rwa [zeroExtended_32] at h

end Widths

end Ringos.Emulator
