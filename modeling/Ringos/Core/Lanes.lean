import Mathlib.Data.BitVec
import Ringos.Core.ByteMemory

/-!
# Lanes of a word

A word divides into lanes of one width, the least significant first. A word is
built from a function that gives each lane, and is determined by its lanes. A
lane of a lane is a lane of the word. Its bytes are its lanes of eight bits, and
these are what the little-endian encoding lists.
-/

namespace Ringos.Core

variable {w v u : Nat}

/-- The lane of a word with a given width and index. -/
def lane (v index : Nat) (word : BitVec w) : BitVec v := word.extractLsb' (v * index) v

/-- The word with given lanes. -/
def ofLanes (w v : Nat) (lanes : Nat → BitVec v) : BitVec w :=
  .ofNat w (Nat.ofBits fun bit : Fin w => (lanes (bit / v)).getLsbD (bit % v))

theorem getLsbD_lane (word : BitVec w) (index bit : Nat) :
    (lane v index word).getLsbD bit = (decide (bit < v) && word.getLsbD (v * index + bit)) := by
  rw [lane, BitVec.getLsbD_extractLsb']

theorem getLsbD_ofLanes (lanes : Nat → BitVec v) (bit : Nat) :
    (ofLanes w v lanes).getLsbD bit =
      (decide (bit < w) && (lanes (bit / v)).getLsbD (bit % v)) := by
  rw [ofLanes, BitVec.getLsbD_ofNat]
  by_cases hbit : bit < w
  · rw [Nat.testBit_ofBits_lt _ _ hbit]
  · rw [decide_eq_false hbit, Bool.false_and, Bool.false_and]

/-- A word is determined by its lanes. -/
theorem eq_of_lanes (hv : 0 < v) {x y : BitVec w} (h : ∀ index, v * index < w →
    lane v index x = lane v index y) : x = y := by
  apply BitVec.eq_of_getLsbD_eq
  intro bit hbit
  have hdivision : v * (bit / v) + bit % v = bit := Nat.div_add_mod bit v
  have hlane := congrArg (fun lane => BitVec.getLsbD lane (bit % v)) (h (bit / v) (by omega))
  simpa only [getLsbD_lane, hdivision, decide_eq_true (Nat.mod_lt bit hv), Bool.true_and]
    using hlane

/-- A lane of a lane is a lane of the word. -/
theorem lane_lane (word : BitVec w) {count index : Nat} (hv : v = u * count)
    (hindex : index < count) (outer : Nat) :
    lane u index (lane v outer word) = lane u (count * outer + index) word := by
  subst hv
  apply BitVec.eq_of_getLsbD_eq
  intro bit hbit
  have hinner : u * index + bit < u * count :=
    Nat.lt_of_lt_of_le (by rw [Nat.mul_add_one]; omega) (Nat.mul_le_mul_left u hindex)
  rw [getLsbD_lane, getLsbD_lane, getLsbD_lane, decide_eq_true hinner, Bool.true_and, Nat.mul_add,
    ← Nat.mul_assoc, Nat.add_assoc]

/-- A narrower lane of a built word is a lane of one of its parts. -/
theorem lane_ofLanes_part (lanes : Nat → BitVec v) {count index : Nat} (hv : v = u * count)
    (hfit : u * index + u ≤ w) :
    lane u index (ofLanes w v lanes) = lane u (index % count) (lanes (index / count)) := by
  subst hv
  apply BitVec.eq_of_getLsbD_eq
  intro bit hbit
  have hu : 0 < u := by omega
  have hinside : u * index + bit < w := by omega
  have hquotient : (u * index + bit) / u = index := by
    rw [Nat.mul_add_div hu, Nat.div_eq_of_lt hbit, Nat.add_zero]
  have hdiv : (u * index + bit) / (u * count) = index / count := by
    rw [← Nat.div_div_eq_div_mul, hquotient]
  have hmod : (u * index + bit) % (u * count) = u * (index % count) + bit := by
    rw [Nat.mod_mul, hquotient, Nat.mul_add_mod, Nat.mod_eq_of_lt hbit, Nat.add_comm]
  rw [getLsbD_lane, getLsbD_lane, getLsbD_ofLanes, hdiv, hmod, decide_eq_true hinside,
    Bool.true_and]

/-- The lanes of a built word. -/
theorem lane_ofLanes (lanes : Nat → BitVec v) {index : Nat} (hfit : v * index + v ≤ w) :
    lane v index (ofLanes w v lanes) = lanes index := by
  apply BitVec.eq_of_getLsbD_eq
  intro bit hbit
  rw [getLsbD_lane, getLsbD_ofLanes, decide_eq_true hbit, decide_eq_true (by omega),
    Bool.true_and, Bool.true_and, Nat.mul_add_div (by omega), Nat.div_eq_of_lt hbit, Nat.add_zero,
    Nat.mul_add_mod, Nat.mod_eq_of_lt hbit]

/-- The lanes of an exclusive or. -/
theorem lane_xor (x y : BitVec w) (index : Nat) :
    lane v index (x ^^^ y) = lane v index x ^^^ lane v index y := by
  apply BitVec.eq_of_getLsbD_eq
  intro bit hbit
  simp only [getLsbD_lane, BitVec.getLsbD_xor, decide_eq_true hbit, Bool.true_and]

/-- Zero extension keeps the lanes of a word and adds zero ones. -/
theorem lane_setWidth (word : BitVec w) {extended : Nat} {index : Nat}
    (hfit : v * index + v ≤ extended) :
    lane v index (word.setWidth extended) = lane v index word := by
  apply BitVec.eq_of_getLsbD_eq
  intro bit hbit
  rw [getLsbD_lane, getLsbD_lane, BitVec.getLsbD_setWidth, decide_eq_true (by omega : _ < extended),
    Bool.true_and]

/-- Beyond the end of a word its lanes are zero. -/
theorem lane_of_le (word : BitVec w) {index : Nat} (h : w ≤ v * index) :
    lane v index word = 0 := by
  apply BitVec.eq_of_getLsbD_eq
  intro bit hbit
  rw [getLsbD_lane, BitVec.getLsbD_of_ge word _ (by omega), Bool.and_false]
  exact (BitVec.getLsbD_zero).symm

/-- The lowest bytes of a word, least significant first. -/
def laneBytes (count : Nat) (word : BitVec w) : List UInt8 :=
  (List.range count).map fun index => ⟨lane 8 index word⟩

@[simp] theorem length_laneBytes (count : Nat) (word : BitVec w) :
    (laneBytes count word).length = count := by
  simp only [laneBytes, List.length_map, List.length_range]

/-- A little-endian encoding lists the bytes of a word. -/
theorem toLittleEndian_eq_laneBytes {width : Nat} (hfit : width ≤ 8) (value : UInt64) :
    toLittleEndian width value = laneBytes width value.toBitVec := by
  rw [toLittleEndian, laneBytes]
  apply List.map_congr_left
  intro index hindex
  have hlt : index < width := List.mem_range.mp hindex
  have hshift : ((8 * index).toUInt64).toNat % 64 = 8 * index := by
    have hsize : 8 * index < UInt64.size := Nat.lt_trans (by omega : _ < 64) (by decide)
    rw [Nat.toUInt64, UInt64.toNat_ofNat_of_lt' hsize, Nat.mod_eq_of_lt (by omega)]
  apply UInt8.toNat_inj.mp
  rw [UInt64.toNat_toUInt8, UInt64.toNat_shiftRight, hshift]
  change _ = (lane 8 index value.toBitVec).toNat
  rw [lane, BitVec.extractLsb'_toNat, UInt64.toNat_toBitVec]

/-- The lanes of a decoded word are the bytes that it was decoded from. -/
theorem lane_ofLittleEndian (bytes : List UInt8) {index : Nat} (hfit : index < 8) :
    lane 8 index (ofLittleEndian bytes).toBitVec = (bytes.getD index 0).toBitVec := by
  apply BitVec.eq_of_getLsbD_eq
  intro bit hbit
  rw [getLsbD_lane, decide_eq_true hbit, Bool.true_and]
  induction bytes generalizing index with
  | nil => simp [ofLittleEndian]
  | cons byte rest ih =>
    have hword : (ofLittleEndian (byte :: rest)).toBitVec =
        byte.toBitVec.setWidth 64 ||| (ofLittleEndian rest).toBitVec <<< 8 := by
      rw [ofLittleEndian, List.foldr_cons, UInt64.toBitVec_or, UInt64.toBitVec_shiftLeft]
      rfl
    rw [hword, BitVec.getLsbD_or, BitVec.getLsbD_setWidth, BitVec.getLsbD_shiftLeft]
    cases index with
    | zero => simp [hbit, show bit < 64 by omega]
    | succ index =>
      have hbyte : byte.toBitVec.getLsbD (8 * (index + 1) + bit) = false :=
        BitVec.getLsbD_of_ge _ _ (by omega)
      have hbehind : 8 * (index + 1) + bit - 8 = 8 * index + bit := by omega
      rw [hbyte, Bool.and_false, Bool.false_or, decide_eq_true (by omega), hbehind,
        ih (by omega), List.getD_cons_succ, decide_eq_false (by omega), Bool.not_false,
        Bool.true_and, Bool.true_and]

/-- Encoding a decoded word restores its bytes. -/
theorem toLittleEndian_ofLittleEndian {bytes : List UInt8} (hfit : bytes.length ≤ 8) :
    toLittleEndian bytes.length (ofLittleEndian bytes) = bytes := by
  apply List.ext_getElem
  · exact length_toLittleEndian _ _
  · intro index hindex hbytes
    have hlane := lane_ofLittleEndian bytes (show index < 8 by omega)
    rw [List.getD_eq_getElem?_getD, List.getElem?_eq_getElem hbytes, Option.getD_some] at hlane
    simp only [toLittleEndian_eq_laneBytes hfit, laneBytes, List.getElem_map, List.getElem_range,
      hlane]

end Ringos.Core
