import Mathlib.Data.BitVec

/-!
# Parts of a word

A part of a word is the bits from an offset on, as many as a shorter word has.
Replacing a part changes the bits of that part and no other bit.
-/

namespace Ringos.Core

variable {w v : Nat}

/-- The bits of a part. -/
def partMask (w offset v : Nat) : BitVec w := (BitVec.allOnes v).setWidth w <<< offset

/-- A word with a part replaced. -/
def replacePart (word : BitVec w) (offset : Nat) (value : BitVec v) : BitVec w :=
  (word &&& ~~~partMask w offset v) ||| (value.setWidth w <<< offset)

/-- The bits of the part are those of the value, the others are kept. -/
theorem getLsbD_replacePart (word : BitVec w) (offset : Nat) (value : BitVec v) (bit : Nat) :
    (replacePart word offset value).getLsbD bit =
      (decide (bit < w) && if offset ≤ bit ∧ bit < offset + v then value.getLsbD (bit - offset)
        else word.getLsbD bit) := by
  unfold replacePart partMask
  simp only [BitVec.getLsbD_or, BitVec.getLsbD_and, BitVec.getLsbD_not, BitVec.getLsbD_shiftLeft,
    BitVec.getLsbD_setWidth, BitVec.getLsbD_allOnes]
  by_cases hbit : bit < w
  · by_cases hpart : offset ≤ bit ∧ bit < offset + v
    · have hlt : ¬ bit < offset := by omega
      have hvalue : bit - offset < v := by omega
      have hword : bit - offset < w := by omega
      simp [hbit, hpart, hlt, hvalue, hword]
    · by_cases hbelow : bit < offset
      · simp [hbit, hpart, hbelow]
      · have hvalue : ¬ bit - offset < v := by omega
        have hzero : value.getLsbD (bit - offset) = false :=
          BitVec.getLsbD_of_ge _ _ (by omega)
        simp [hbit, hpart, hbelow, hvalue, hzero]
  · simp [hbit]

/-- The replaced part holds the value. -/
theorem extractLsb'_replacePart (word : BitVec w) {offset : Nat} (value : BitVec v)
    (hfit : offset + v ≤ w) : (replacePart word offset value).extractLsb' offset v = value := by
  ext bit hbit
  rw [BitVec.getElem_extractLsb', getLsbD_replacePart, if_pos (by omega), Nat.add_sub_cancel_left,
    BitVec.getLsbD_eq_getElem hbit]
  simp only [Bool.and_eq_right_iff_imp, decide_eq_true_eq]
  omega

/-- A part that shares no bit with the replaced one is kept. -/
theorem extractLsb'_replacePart_apart (word : BitVec w) {offset other u : Nat} (value : BitVec v)
    (hapart : other + u ≤ offset ∨ offset + v ≤ other) :
    (replacePart word offset value).extractLsb' other u = word.extractLsb' other u := by
  ext bit hbit
  rw [BitVec.getElem_extractLsb', BitVec.getElem_extractLsb', getLsbD_replacePart,
    if_neg (by omega)]
  by_cases hword : other + bit < w
  · simp [hword]
  · simp [hword, BitVec.getLsbD_of_ge word (other + bit) (by omega)]

/-- Replacing a part by what it holds changes nothing. -/
theorem replacePart_extractLsb' (word : BitVec w) (offset v : Nat) :
    replacePart word offset (word.extractLsb' offset v) = word := by
  apply BitVec.eq_of_getLsbD_eq
  intro bit hbit
  rw [getLsbD_replacePart, decide_eq_true hbit, Bool.true_and]
  split
  · next hpart =>
    rw [BitVec.getLsbD_extractLsb', decide_eq_true (by omega), Bool.true_and,
      Nat.add_sub_of_le hpart.1]
  · rfl

/-- Replacing a part changes nothing exactly if the part holds the value. -/
theorem replacePart_eq_self_iff (word : BitVec w) {offset : Nat} (value : BitVec v)
    (hfit : offset + v ≤ w) : replacePart word offset value = word ↔
      word.extractLsb' offset v = value := by
  constructor
  · intro h
    rw [← h]
    exact extractLsb'_replacePart word value hfit
  · rintro rfl
    exact replacePart_extractLsb' word offset v

/-- A word is another one with its lowest part replaced if they agree above that part. -/
theorem eq_replacePart_iff (word result : BitVec w) (v : Nat) :
    result = replacePart word 0 (result.setWidth v) ↔ word >>> v = result >>> v := by
  constructor
  · intro h
    apply BitVec.eq_of_getLsbD_eq
    intro bit hbit
    rw [BitVec.getLsbD_ushiftRight, BitVec.getLsbD_ushiftRight, h, getLsbD_replacePart,
      if_neg (by omega)]
    by_cases hword : v + bit < w
    · simp [hword]
    · simp [hword, BitVec.getLsbD_of_ge word (v + bit) (by omega)]
  · intro h
    apply BitVec.eq_of_getLsbD_eq
    intro bit hbit
    rw [getLsbD_replacePart, decide_eq_true hbit, Bool.true_and]
    split
    · next hpart =>
      rw [BitVec.getLsbD_setWidth, decide_eq_true (by omega), Bool.true_and, Nat.sub_zero]
    · next hpart =>
      have hshifted := congrArg (fun word => BitVec.getLsbD word (bit - v)) h
      simp only [BitVec.getLsbD_ushiftRight] at hshifted
      rw [Nat.add_sub_of_le (by omega)] at hshifted
      exact hshifted.symm

end Ringos.Core
