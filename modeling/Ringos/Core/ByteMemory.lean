import Mathlib.Algebra.Group.Nat.Defs
import Mathlib.Logic.Function.Basic
import Mathlib.Tactic.Cases

/-!
# Byte-addressed memory

A memory is a total map from 64-bit addresses to bytes. Stores and copies
proceed upwards byte by byte, as `memcpy` does, so an overlapping copy reads
bytes that it has already written. What a store or a copy may change is stated
with wrapping distance, which needs no bound on the address.
-/

namespace Ringos.Core

/-- Memory contents. -/
abbrev ByteMemory := UInt64 → UInt8

/-- The `length` addresses from `start` upwards, modulo `2 ^ 64`. -/
def InRange (start : UInt64) (length : Nat) (address : UInt64) : Prop :=
  (address - start).toNat < length

instance (start : UInt64) (length : Nat) (address : UInt64) :
    Decidable (InRange start length address) := inferInstanceAs (Decidable (_ < _))

/-- Write a byte string upwards from an address. -/
def storeBytes (memory : ByteMemory) (address : UInt64) : List UInt8 → ByteMemory
  | [] => memory
  | byte :: rest => storeBytes (Function.update memory address byte) (address + 1) rest

/-- Read a byte string upwards from an address. -/
def loadBytes (memory : ByteMemory) (address : UInt64) : Nat → List UInt8
  | 0 => []
  | length + 1 => memory address :: loadBytes memory (address + 1) length

/-- `memcpy` within one memory. -/
def copyBytes (memory : ByteMemory) (destination source : UInt64) : Nat → ByteMemory
  | 0 => memory
  | length + 1 =>
    copyBytes (Function.update memory destination (memory source)) (destination + 1)
      (source + 1) length

/-- The first `width` bytes of a word, least significant first. -/
def toLittleEndian (width : Nat) (value : UInt64) : List UInt8 :=
  (List.range width).map fun index => (value >>> (8 * index).toUInt64).toUInt8

/-- The word whose least significant bytes are given first. -/
def ofLittleEndian (bytes : List UInt8) : UInt64 :=
  bytes.foldr (fun byte high => byte.toUInt64 ||| (high <<< 8)) 0

/-- The addresses behind the next one are the later addresses. -/
theorem add_one_add_ofNat (address : UInt64) (i : Nat) :
    address + 1 + UInt64.ofNat i = address + UInt64.ofNat (i + 1) := by
  rw [UInt64.ofNat_add, UInt64.add_assoc, UInt64.add_comm 1]
  rfl

/-- An offset that does not wrap is an offset of numbers. -/
theorem toNat_add_ofNat {address : UInt64} {i : Nat} (hfit : address.toNat + i < 2 ^ 64) :
    (address + UInt64.ofNat i).toNat = address.toNat + i := by
  rw [UInt64.toNat_add, UInt64.toNat_ofNat_of_lt' (by show i < 2 ^ 64; omega)]
  omega

@[simp] theorem length_toLittleEndian (width : Nat) (value : UInt64) :
    (toLittleEndian width value).length = width := by
  simp only [toLittleEndian, List.length_map, List.length_range]

@[simp] theorem length_loadBytes (memory : ByteMemory) (address : UInt64) (length : Nat) :
    (loadBytes memory address length).length = length := by
  induction length generalizing address with
  | zero => rfl
  | succ length ih => simp only [loadBytes, List.length_cons, ih]

/-- The first address of a nonempty range lies in it. -/
theorem inRange_start (start : UInt64) (length : Nat) : InRange start (length + 1) start := by
  simp [InRange]

/-- A range is its first address and the range behind it. -/
theorem InRange.tail {start address : UInt64} {length : Nat}
    (h : InRange (start + 1) length address) (hfit : length < 2 ^ 64) :
    InRange start (length + 1) address := by
  unfold InRange at *
  rw [UInt64.toNat_sub] at *
  have hs := start.toNat_lt
  have ha := address.toNat_lt
  rw [UInt64.toNat_add, show (1 : UInt64).toNat = 1 from rfl] at h
  omega

/-- Wrapping distance is distance in a range that does not wrap. -/
theorem InRange.toNat_eq {start address : UInt64} {length : Nat} (h : InRange start length address)
    (hfit : start.toNat + length ≤ 2 ^ 64) :
    ∃ offset < length, address.toNat = start.toNat + offset := by
  unfold InRange at h
  refine ⟨(address - start).toNat, h, ?_⟩
  rw [UInt64.toNat_sub] at h ⊢
  have hs := start.toNat_lt
  have ha := address.toNat_lt
  omega

/-- A range within another one, by its offset. -/
theorem InRange.within {start offset address : UInt64} {length size : Nat}
    (h : InRange (start + offset) length address) (hfit : offset.toNat + length ≤ size)
    (hsize : size ≤ 2 ^ 64) : InRange start size address := by
  unfold InRange at *
  rw [UInt64.toNat_sub] at *
  have hs := start.toNat_lt
  have ha := address.toNat_lt
  have ho := offset.toNat_lt
  rw [UInt64.toNat_add] at h
  omega

/-- A load reads its range only. -/
theorem loadBytes_congr {memory memory' : ByteMemory} {start : UInt64} {length : Nat}
    (hfit : length ≤ 2 ^ 64)
    (h : ∀ address, InRange start length address → memory address = memory' address) :
    loadBytes memory start length = loadBytes memory' start length := by
  induction length generalizing start with
  | zero => rfl
  | succ length ih =>
    rw [loadBytes, loadBytes, h start (inRange_start start length),
      ih (by omega) fun address hin => h address (hin.tail (by omega))]

/-- A store changes no byte outside the range it writes. -/
theorem storeBytes_of_not_inRange {memory : ByteMemory} {start address : UInt64}
    {bytes : List UInt8} (hfit : bytes.length < 2 ^ 64)
    (h : ¬ InRange start bytes.length address) :
    storeBytes memory start bytes address = memory address := by
  induction bytes generalizing memory start with
  | nil => rfl
  | cons byte rest ih =>
    rw [List.length_cons] at hfit h
    have hne : address ≠ start := fun he => h (he ▸ inRange_start start rest.length)
    rw [storeBytes, ih (by omega) fun ht => h (ht.tail (by omega)), Function.update_of_ne hne]

/-- A copy changes no byte outside its destination range. -/
theorem copyBytes_of_not_inRange {memory : ByteMemory} {destination source address : UInt64}
    {length : Nat} (hfit : length < 2 ^ 64) (h : ¬ InRange destination length address) :
    copyBytes memory destination source length address = memory address := by
  induction length generalizing memory destination source with
  | zero => rfl
  | succ length ih =>
    have hne : address ≠ destination := fun he => h (he ▸ inRange_start destination length)
    rw [copyBytes, ih (by omega) fun ht => h (ht.tail (by omega)), Function.update_of_ne hne]

/-- A load of the range that a store has written reads its bytes. -/
theorem loadBytes_storeBytes (memory : ByteMemory) (start : UInt64) {bytes : List UInt8}
    (hfit : bytes.length ≤ 2 ^ 64) :
    loadBytes (storeBytes memory start bytes) start bytes.length = bytes := by
  induction bytes generalizing memory start with
  | nil => rfl
  | cons byte rest ih =>
    rw [List.length_cons] at hfit
    have hfirst : ¬ InRange (start + 1) rest.length start := by
      have hs := start.toNat_lt
      rw [InRange, UInt64.toNat_sub, UInt64.toNat_add, show (1 : UInt64).toNat = 1 from rfl]
      omega
    rw [List.length_cons, loadBytes, storeBytes, storeBytes_of_not_inRange (by omega) hfirst,
      Function.update_self, ih _ _ (by omega)]

/-- The least significant byte comes first. -/
theorem toLittleEndian_succ (width : Nat) (value : UInt64) (hfit : width < 8) :
    toLittleEndian (width + 1) value = value.toUInt8 :: toLittleEndian width (value >>> 8) := by
  rw [toLittleEndian, List.range_succ_eq_map, List.map_cons, List.map_map, toLittleEndian]
  refine congrArg₂ _ (by simp) (List.map_congr_left fun index hindex => ?_)
  have hlt : index < width := List.mem_range.mp hindex
  apply UInt8.toNat_inj.mp
  have hsmall (n : Nat) (h : n < 64) : (n.toUInt64).toNat % 64 = n := by
    have hsize : n < UInt64.size := Nat.lt_trans h (by decide)
    rw [Nat.toUInt64, UInt64.toNat_ofNat_of_lt' hsize, Nat.mod_eq_of_lt h]
  rw [Function.comp_apply, UInt64.toNat_toUInt8, UInt64.toNat_toUInt8, UInt64.toNat_shiftRight,
    UInt64.toNat_shiftRight, UInt64.toNat_shiftRight, hsmall _ (by omega), hsmall _ (by omega),
    show (8 : UInt64).toNat % 64 = 8 from rfl, ← Nat.shiftRight_add,
    show 8 * index.succ = 8 + 8 * index by omega]

/-- Decoding what has been encoded keeps the encoded bits. -/
theorem ofLittleEndian_toLittleEndian {width : Nat} (hfit : width ≤ 8) (value : UInt64) :
    (ofLittleEndian (toLittleEndian width value)).toNat = value.toNat % 2 ^ (8 * width) := by
  induction width generalizing value with
  | zero => rw [Nat.mul_zero, Nat.pow_zero, Nat.mod_one]; rfl
  | succ width ih =>
    have hvalue := value.toNat_lt
    have hhigh := ih (by omega) (value >>> 8)
    have hshift : (value >>> 8).toNat = value.toNat / 2 ^ 8 := by
      rw [UInt64.toNat_shiftRight, show (8 : UInt64).toNat % 64 = 8 from rfl,
        Nat.shiftRight_eq_div_pow]
    rw [hshift] at hhigh
    have hlt : (ofLittleEndian (toLittleEndian width (value >>> 8))).toNat * 2 ^ 8 < 2 ^ 64 := by
      have hle : (ofLittleEndian (toLittleEndian width (value >>> 8))).toNat ≤
          value.toNat / 2 ^ 8 := hhigh ▸ Nat.mod_le _ _
      omega
    rw [toLittleEndian_succ width value (by omega)]
    simp only [ofLittleEndian, List.foldr_cons] at hhigh hlt ⊢
    rw [UInt64.toNat_or, UInt64.toNat_shiftLeft, show (8 : UInt64).toNat % 64 = 8 from rfl,
      Nat.shiftLeft_eq, Nat.mod_eq_of_lt hlt, UInt8.toNat_toUInt64, UInt64.toNat_toUInt8,
      Nat.or_comm, ← Nat.shiftLeft_eq, ← Nat.shiftLeft_add_eq_or_of_lt (Nat.mod_lt _ (by decide)),
      hhigh, Nat.shiftLeft_eq, show 8 * (width + 1) = 8 + 8 * width by omega, Nat.pow_add,
      Nat.mod_mul]
    omega

end Ringos.Core
