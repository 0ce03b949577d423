import Mathlib.Data.BitVec

/-!
# Status flags of two's complement operations

The carry, zero, sign and overflow flag of an operation at any width, stated
through unbounded integers: carry is overflow of the unsigned and overflow that
of the signed reading. Implementations decide the same from sign bits and from a
comparison of the wrapped result, which the last section justifies.
-/

namespace Ringos.Core

/-- The flags an operation on words leaves. -/
structure StatusFlags where
  carry : Bool
  zero : Bool
  sign : Bool
  overflow : Bool
  deriving DecidableEq, Repr

namespace StatusFlags

variable {w : Nat}

/-- The zero and the sign flag describe the result. -/
def ofResult (carry overflow : Bool) (result : BitVec w) : StatusFlags where
  carry := carry
  zero := result == 0#w
  sign := result.msb
  overflow := overflow

/-- The flags of a bitwise operation. -/
def logic (result : BitVec w) : StatusFlags := ofResult false false result

/-- The flags of `x + y`. -/
def add (x y : BitVec w) : StatusFlags := ofResult (x.uaddOverflow y) (x.saddOverflow y) (x + y)

/-- The flags of `x - y`, where carry is borrow. -/
def sub (x y : BitVec w) : StatusFlags := ofResult (x.usubOverflow y) (x.ssubOverflow y) (x - y)

/-- The flags of `-x`: it borrows unless `x` is zero. -/
def neg (x : BitVec w) : StatusFlags := ofResult (x != 0#w) x.negOverflow (-x)

/-- The flags of `x + 1`, which keeps the carry flag. -/
def inc (carry : Bool) (x : BitVec w) : StatusFlags := ofResult carry (x.saddOverflow 1#w) (x + 1#w)

/-- The flags of `x - 1`, which keeps the carry flag. -/
def dec (carry : Bool) (x : BitVec w) : StatusFlags := ofResult carry (x.ssubOverflow 1#w) (x - 1#w)

section SignBits

variable (x y : BitVec w)

/-- A sum wraps if it is below its first summand. -/
theorem uaddOverflow_eq_lt : x.uaddOverflow y = decide (x + y < x) := by
  have hx := x.isLt
  have hy := y.isLt
  rw [BitVec.uaddOverflow, decide_eq_decide, BitVec.lt_def, BitVec.toNat_add]
  by_cases hfit : x.toNat + y.toNat < 2 ^ w
  · rw [Nat.mod_eq_of_lt hfit]
    omega
  · rw [Nat.mod_eq_sub_mod (Nat.le_of_not_lt hfit), Nat.mod_eq_of_lt (by omega)]
    omega

/-- A sum overflows if summands of one sign have a sum of the other. -/
theorem saddOverflow_eq_msb : x.saddOverflow y = (x.msb == y.msb && x.msb != (x + y).msb) := by
  rw [BitVec.saddOverflow_eq]
  cases x.msb <;> cases (x + y).msb <;> rfl

/-- A difference overflows if its operands differ in sign and its sign is not the first one's. -/
theorem ssubOverflow_eq_msb : x.ssubOverflow y = (x.msb != y.msb && x.msb != (x - y).msb) := by
  rw [BitVec.ssubOverflow_eq]
  cases x.msb <;> cases y.msb <;> cases (x - y).msb <;> rfl

/-- The most negative word of a positive width is what overflows when it is negated. -/
theorem negOverflow_eq_ssub : x.negOverflow = (0#w).ssubOverflow x := by
  have hlower : x.toInt ≥ -2 ^ (w - 1) := BitVec.le_toInt x
  have hupper : x.toInt < 2 ^ (w - 1) ∨ w = 0 := by
    cases w with
    | zero => exact .inr rfl
    | succ w => exact .inl BitVec.toInt_lt
  rw [Bool.eq_iff_iff]
  simp only [BitVec.negOverflow, BitVec.ssubOverflow, BitVec.toInt_zero, beq_iff_eq, Bool.or_eq_true,
    decide_eq_true_eq]
  rcases hupper with hupper | rfl
  · omega
  · have hzero : x.toInt = 0 := by rw [BitVec.of_length_zero (x := x)]; rfl
    rw [hzero]
    decide

/-- Negation leaves the flags of the subtraction from zero. -/
theorem neg_eq_sub : neg x = sub 0#w x := by
  rw [neg, sub, negOverflow_eq_ssub, BitVec.zero_sub]
  congr 1
  rw [BitVec.usubOverflow, Bool.eq_iff_iff, bne_iff_ne, decide_eq_true_eq, BitVec.toNat_zero,
    Nat.pos_iff_ne_zero, ne_eq, ne_eq, BitVec.toNat_eq, BitVec.toNat_zero]

end SignBits

end StatusFlags

end Ringos.Core
