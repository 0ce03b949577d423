import Ringos.Calls.TornWrites

/-!
# What user ranges are valid

The recorded mappings of an address space are nonempty and disjoint and end
below the top of the address space. A range is valid exactly when each of its
bytes is mapped, in however many mappings, and it is translated exactly when
one mapping holds all of it.
-/

namespace Ringos.Kernel

open Ringos.Core

/-- The recorded user ranges of an address space. -/
structure AddressSpace.Ranges (addressSpaceInfo : AddressSpace) : Prop where
  nonempty : ∀ mapping ∈ addressSpaceInfo.mappings, mapping.size ≠ 0
  disjoint : addressSpaceInfo.mappings.Pairwise fun left right =>
    ∀ address, ¬ (left.Holds address ∧ right.Holds address)
  bounded : ∀ mapping ∈ addressSpaceInfo.mappings,
    mapping.userAddress.toNat + mapping.size.toNat ≤ uintptrMax.toNat

/-- Every byte from `low` up to `high` lies in a mapping with memory behind it. -/
def Covered (addressSpaceInfo : AddressSpace) (low high : Nat) : Prop :=
  ∀ address, low ≤ address → address < high →
    ∃ mapping ∈ addressSpaceInfo.mappings, mapping.hostAddress ≠ 0 ∧ mapping.Holds address

/-- One mapping with memory behind it holds the whole range, the host address at its start. -/
def HeldByOne (addressSpaceInfo : AddressSpace) (userAddress length hostAddress : UInt64) : Prop :=
  ∃ mapping ∈ addressSpaceInfo.mappings, mapping.hostAddress ≠ 0 ∧
    mapping.userAddress.toNat ≤ userAddress.toNat ∧
    userAddress.toNat + length.toNat ≤ mapping.userAddress.toNat + mapping.size.toNat ∧
    hostAddress = mapping.hostAddress + (userAddress - mapping.userAddress)

/-- A recorded mapping is not empty. -/
theorem BuiltAddressSpace.size_ne_zero {addressSpaceInfo : AddressSpace}
    (h : BuiltAddressSpace addressSpaceInfo) :
    ∀ mapping ∈ addressSpaceInfo.mappings, mapping.size ≠ 0 := by
  induction h with
  | empty archRootTable => simp
  | @add before userAddress hostAddress size _ ih =>
    unfold addAddressSpaceMapping
    split
    · exact ih
    rename_i hvalid
    split
    · exact ih
    split
    · exact ih
    intro mapping hmem
    rcases List.mem_append.mp hmem with hold | hnew
    · exact ih mapping hold
    · obtain rfl := List.mem_singleton.mp hnew
      simp only [isValidAddressRange, Bool.or_eq_true, Bool.not_eq_true', not_or,
        Bool.not_eq_false, Bool.and_eq_true, decide_eq_true_eq] at hvalid
      exact hvalid.1.1

/-- No two recorded mappings hold one address. -/
theorem BuiltAddressSpace.disjoint {addressSpaceInfo : AddressSpace}
    (h : BuiltAddressSpace addressSpaceInfo) :
    addressSpaceInfo.mappings.Pairwise fun left right =>
      ∀ address, ¬ (left.Holds address ∧ right.Holds address) := by
  induction h with
  | empty archRootTable => exact List.Pairwise.nil
  | @add before userAddress hostAddress size hbefore ih =>
    rcases addAddressSpaceMapping_cases before userAddress hostAddress size with
      hsame | ⟨hadded, huser, _, hfree⟩
    · rw [hsame]
      exact ih
    · rw [hadded]
      refine List.pairwise_append.mpr ⟨ih, List.pairwise_singleton _ _, ?_⟩
      rintro old hold added hnew address ⟨ho, ha⟩
      obtain rfl := List.mem_singleton.mp hnew
      have hoverlap := rangesOverlap_of_common huser (hbefore.bounds old hold).1 ha ho
      rw [hfree old hold] at hoverlap
      cases hoverlap

theorem BuiltAddressSpace.ranges {addressSpaceInfo : AddressSpace}
    (h : BuiltAddressSpace addressSpaceInfo) : addressSpaceInfo.Ranges where
  nonempty := h.size_ne_zero
  disjoint := h.disjoint
  bounded mapping hmem := by
    have hbound := (h.bounds mapping hmem).1
    rw [show uintptrMax.toNat = 2 ^ 64 - 1 from rfl]
    omega

section Validation

variable {addressSpaceInfo : AddressSpace} (hbuilt : BuiltAddressSpace addressSpaceInfo)

include hbuilt

/-- A user address is mapped when a mapping with memory behind it holds the address. -/
theorem mappedAt_iff {userAddress : UInt64} :
    MappedAt addressSpaceInfo userAddress ↔ ∃ mapping ∈ addressSpaceInfo.mappings,
      mapping.hostAddress ≠ 0 ∧ mapping.Holds userAddress.toNat := by
  constructor
  · rintro ⟨hostAddress, mapping, hmem, hhost, hlow, hhigh, _⟩
    exact ⟨mapping, hmem, hhost, hlow, hhigh⟩
  · rintro ⟨mapping, hmem, hhost, hlow, hhigh⟩
    have hbound := (hbuilt.bounds mapping hmem).2
    obtain ⟨hostAddress, hhostAddress⟩ := @exists_toNat_add mapping.hostAddress
      (userAddress.toNat - mapping.userAddress.toNat) (by omega)
    exact ⟨hostAddress, mapping, hmem, hhost, hlow, hhigh, hhostAddress⟩

/-- The highest user address is never mapped. -/
theorem not_mappedAt_top {userAddress : UInt64} (h : userAddress.toNat + 1 = 2 ^ 64) :
    ¬ MappedAt addressSpaceInfo userAddress := by
  rintro ⟨hostAddress, mapping, hmem, _, _, hhigh, _⟩
  have hbound := (hbuilt.bounds mapping hmem).1
  omega

/-- A mapped range does not wrap: the highest address is not mapped. -/
theorem MappedRange.bound {userAddress : UInt64} {length : Nat}
    (h : MappedRange addressSpaceInfo userAddress length) :
    userAddress.toNat + length < 2 ^ 64 := by
  by_contra hwraps
  have hlt := userAddress.toNat_lt
  refine not_mappedAt_top hbuilt ?_ (h (2 ^ 64 - 1 - userAddress.toNat) (by omega))
  rw [toNat_add_ofNat (by omega)]
  omega

/-- A range is mapped exactly when it does not wrap and all of it is covered. -/
theorem mappedRange_iff_covered {userAddress : UInt64} {length : Nat} :
    MappedRange addressSpaceInfo userAddress length ↔
      userAddress.toNat + length < 2 ^ 64 ∧
        Covered addressSpaceInfo userAddress.toNat (userAddress.toNat + length) := by
  constructor
  · intro h
    have hbound := h.bound hbuilt
    refine ⟨hbound, fun address hlow hhigh => ?_⟩
    have hmapped := (mappedAt_iff hbuilt).mp (h (address - userAddress.toNat) (by omega))
    rwa [toNat_add_ofNat (by omega), Nat.add_sub_cancel' hlow] at hmapped
  · rintro ⟨hbound, hcovered⟩ i hi
    refine (mappedAt_iff hbuilt).mpr ?_
    rw [toNat_add_ofNat (by omega)]
    exact hcovered _ (by omega) (by omega)

/-- The loop of the validation succeeds exactly on a mapped range, by induction on the fuel. -/
theorem validateAddressSpaceRangeLoop_iff (fuel : Nat) {currentAddress remainingLength : UInt64}
    (hfuel : remainingLength.toNat ≤ fuel) :
    validateAddressSpaceRangeLoop addressSpaceInfo fuel currentAddress remainingLength = true ↔
      MappedRange addressSpaceInfo currentAddress remainingLength.toNat := by
  induction fuel generalizing currentAddress remainingLength with
  | zero =>
    obtain rfl : remainingLength = 0 := UInt64.toNat_inj.mp (Nat.le_zero.mp hfuel)
    exact iff_of_true rfl mappedRange_zero
  | succ fuel ih =>
    rw [validateAddressSpaceRangeLoop]
    split
    · rename_i hzero
      subst hzero
      exact iff_of_true rfl mappedRange_zero
    rename_i hlength
    have hpos : 0 < remainingLength.toNat :=
      Nat.pos_of_ne_zero fun hzero => hlength (UInt64.toNat_inj.mp hzero)
    by_cases hmapped : MappedAt addressSpaceInfo currentAddress
    swap
    · rw [tryTranslateAddressSpaceChunk_of_unmapped hbuilt hlength hmapped]
      exact iff_of_false Bool.false_ne_true fun hall => hmapped (hall.head hpos)
    obtain ⟨host, translated, hchunk, hne, hle, hrange⟩ :=
      tryTranslateAddressSpaceChunk_of_mapped hbuilt hlength hmapped
    have hbound := (tryTranslateAddressSpaceChunk_backs hbuilt hlength hchunk).2.1
    have hcut : ¬ (translated = 0 ∨ translated > remainingLength) := by
      rintro (hzero | hgt)
      · exact hne hzero
      · exact absurd hle (Nat.not_le.mpr (UInt64.lt_iff_toNat_lt.mp hgt))
    have htop : ¬ translated > uintptrMax - currentAddress := by
      intro hover
      have hover := UInt64.lt_iff_toNat_lt.mp hover
      rw [UInt64.toNat_sub, show uintptrMax.toNat = 2 ^ 64 - 1 from rfl] at hover
      omega
    have hstep : translated.toNat ≠ 0 := fun hzero => hne (UInt64.toNat_inj.mp hzero)
    have hleft : (remainingLength - translated).toNat =
        remainingLength.toNat - translated.toNat :=
      UInt64.toNat_sub_of_le _ _ (UInt64.le_iff_toNat_le.mpr hle)
    simp only [hchunk, if_neg hcut, if_neg htop]
    rw [ih (by omega), hleft, mappedRange_split hle, UInt64.ofNat_toNat]
    exact ⟨fun hrest => ⟨hrange, hrest⟩, And.right⟩

theorem validateAddressSpaceRange_iff {userAddress length : UInt64} (hlength : length ≠ 0) :
    validateAddressSpaceRange addressSpaceInfo userAddress length = true ↔
      MappedRange addressSpaceInfo userAddress length.toNat := by
  rw [validateAddressSpaceRange, if_neg hlength]
  exact validateAddressSpaceRangeLoop_iff hbuilt length.toNat (le_refl _)

/-- A range that one mapping holds is mapped. -/
theorem HeldByOne.mappedRange {userAddress length hostAddress : UInt64}
    (h : HeldByOne addressSpaceInfo userAddress length hostAddress) :
    MappedRange addressSpaceInfo userAddress length.toNat := by
  obtain ⟨mapping, hmem, hhost, hlow, hhigh, -⟩ := h
  have hbound := (hbuilt.bounds mapping hmem).1
  intro i hi
  refine (mappedAt_iff hbuilt).mpr ⟨mapping, hmem, hhost, ?_⟩
  rw [toNat_add_ofNat (by omega)]
  exact ⟨by omega, by omega⟩

/-- A range is translated exactly where one mapping holds it. -/
theorem tryTranslateAddressSpaceAddress_iff {userAddress length hostAddress : UInt64}
    (hlength : length ≠ 0) :
    tryTranslateAddressSpaceAddress addressSpaceInfo userAddress length = some hostAddress ↔
      HeldByOne addressSpaceInfo userAddress length hostAddress := by
  have hpos : 0 < length.toNat :=
    Nat.pos_of_ne_zero fun hzero => hlength (UInt64.toNat_inj.mp hzero)
  by_cases hvalid : validateAddressSpaceRange addressSpaceInfo userAddress length = true
  swap
  · rw [tryTranslateAddressSpaceAddress, if_pos (by simpa using hvalid)]
    exact iff_of_false (by simp) fun hheld => hvalid
      ((validateAddressSpaceRange_iff hbuilt hlength).mpr (hheld.mappedRange hbuilt))
  have hmapped := ((validateAddressSpaceRange_iff hbuilt hlength).mp hvalid).head hpos
  obtain ⟨mapping, hmem, hhost, hholds⟩ := (mappedAt_iff hbuilt).mp hmapped
  obtain ⟨translated, cut, hchunk, htranslated, hcut⟩ :=
    tryTranslateAddressSpaceChunk_of_holds hbuilt hlength hmem hhost hholds
  have hbounds := hbuilt.bounds mapping hmem
  obtain ⟨hlow, hhigh⟩ := hholds
  have hoffset : translated = mapping.hostAddress + (userAddress - mapping.userAddress) := by
    rw [← UInt64.toNat_inj, htranslated, UInt64.toNat_add,
      UInt64.toNat_sub_of_le _ _ (UInt64.le_iff_toNat_le.mpr hlow)]
    omega
  have hwhole : cut = length ↔
      userAddress.toNat + length.toNat ≤ mapping.userAddress.toNat + mapping.size.toNat := by
    rw [← UInt64.toNat_inj]
    omega
  simp only [tryTranslateAddressSpaceAddress, hvalid, hchunk, Bool.not_true, Bool.false_eq_true,
    if_false]
  constructor
  · intro h
    split at h
    · rename_i heq
      refine ⟨mapping, hmem, hhost, hlow, hwhole.mp heq, ?_⟩
      rw [← Option.some.inj h, hoffset]
    · cases h
  · rintro ⟨other, hother, -, hlow', hhigh', rfl⟩
    obtain rfl : mapping = other :=
      hbuilt.unique hmem hother ⟨hlow, hhigh⟩ ⟨hlow', by omega⟩
    rw [if_pos (hwhole.mpr hhigh'), hoffset]

end Validation

/-- What the range checks of a built address space say about any range that is not empty. -/
theorem rangeValidation_exact {addressSpaceInfo : AddressSpace}
    (hbuilt : BuiltAddressSpace addressSpaceInfo) :
    addressSpaceInfo.Ranges ∧ ∀ userAddress length : UInt64, length ≠ 0 →
      (validateAddressSpaceRange addressSpaceInfo userAddress length = true ↔
        userAddress.toNat + length.toNat < 2 ^ 64 ∧ Covered addressSpaceInfo userAddress.toNat
          (userAddress.toNat + length.toNat)) ∧
      ∀ hostAddress,
        tryTranslateAddressSpaceAddress addressSpaceInfo userAddress length = some hostAddress ↔
          HeldByOne addressSpaceInfo userAddress length hostAddress := by
  refine ⟨hbuilt.ranges, fun userAddress length hlength => ⟨?_, fun hostAddress => ?_⟩⟩
  · rw [validateAddressSpaceRange_iff hbuilt hlength, mappedRange_iff_covered hbuilt]
  · exact tryTranslateAddressSpaceAddress_iff hbuilt hlength

/-- Two adjacent mappings, registered from high to low. -/
def adjacentMappings : AddressSpace :=
  (addAddressSpaceMapping (addAddressSpaceMapping ⟨0, []⟩ 0x2000 0x9000 0x1000).2
    0x1000 0x5000 0x1000).2

/-- A range over both is valid, and no host address is behind all of it. -/
theorem adjacentMappings_valid :
    validateAddressSpaceRange adjacentMappings 0x1FFF 2 = true ∧
      tryTranslateAddressSpaceAddress adjacentMappings 0x1FFF 2 = none := by
  obtain ⟨-, hexact⟩ := rangeValidation_exact (.add 0x1000 0x5000 0x1000
    (.add 0x2000 0x9000 0x1000 (.empty 0)))
  obtain ⟨hvalid, htranslates⟩ := hexact 0x1FFF 2 (by decide)
  refine ⟨hvalid.mpr ⟨by decide, fun address hlow hhigh => ?_⟩, ?_⟩
  · have hlow' : 0x1FFF ≤ address := hlow
    have hhigh' : address < 0x2001 := hhigh
    by_cases hfirst : address = 0x1FFF
    · exact ⟨⟨0x1000, 0x5000, 0x1000⟩, by decide, by decide, by subst hfirst; decide,
        by subst hfirst; decide⟩
    · obtain rfl : address = 0x2000 := by omega
      exact ⟨⟨0x2000, 0x9000, 0x1000⟩, by decide, by decide, by decide, by decide⟩
  · cases htranslate : tryTranslateAddressSpaceAddress adjacentMappings 0x1FFF 2 with
    | none => rfl
    | some hostAddress =>
      obtain ⟨mapping, hmem, -, hlow, hhigh, -⟩ := (htranslates hostAddress).mp htranslate
      have hno : ∀ mapping ∈ adjacentMappings.mappings,
          ¬ (mapping.userAddress.toNat ≤ (0x1FFF : UInt64).toNat ∧
            (0x1FFF : UInt64).toNat + (2 : UInt64).toNat ≤
              mapping.userAddress.toNat + mapping.size.toNat) := by decide
      exact absurd ⟨hlow, hhigh⟩ (hno mapping hmem)

end Ringos.Kernel
