import Ringos.Calls.Confinement

/-!
# Byte strings in user memory

A name crosses the trap boundary as a pointer to a NUL-terminated byte string.
Three loops with bounds of their own carry it: the translated copy into a
32-byte buffer, the copy into the endpoint and the comparison of two buffers.
On a built address space all three see the byte string the pointer refers to.
-/

namespace Ringos.Kernel

open Ringos.Core

/-- A mapping with memory behind it puts the host byte behind the user address; a null host
address is no memory. -/
def Translates (addressSpaceInfo : AddressSpace) (userAddress hostAddress : UInt64) : Prop :=
  ∃ mapping ∈ addressSpaceInfo.mappings, mapping.hostAddress ≠ 0 ∧
    mapping.userAddress.toNat ≤ userAddress.toNat ∧
    userAddress.toNat < mapping.userAddress.toNat + mapping.size.toNat ∧
    hostAddress.toNat =
      mapping.hostAddress.toNat + (userAddress.toNat - mapping.userAddress.toNat)

/-- The user address holds the byte. -/
def ByteAt (addressSpaceInfo : AddressSpace) (memory : ByteMemory) (userAddress : UInt64)
    (byte : UInt8) : Prop :=
  ∃ hostAddress, Translates addressSpaceInfo userAddress hostAddress ∧ memory hostAddress = byte

/-- The user address points to the byte string and a NUL behind it. -/
def StringAt (addressSpaceInfo : AddressSpace) (memory : ByteMemory) :
    UInt64 → List UInt8 → Prop
  | userAddress, [] => ByteAt addressSpaceInfo memory userAddress 0
  | userAddress, byte :: rest =>
    byte ≠ 0 ∧ ByteAt addressSpaceInfo memory userAddress byte ∧
      StringAt addressSpaceInfo memory (userAddress + 1) rest

/-- The first bytes at the user address are mapped and none is NUL. -/
def NoNulWithin (addressSpaceInfo : AddressSpace) (memory : ByteMemory) (userAddress : UInt64)
    (length : Nat) : Prop :=
  ∀ i < length, ∃ byte, byte ≠ 0 ∧
    ByteAt addressSpaceInfo memory (userAddress + UInt64.ofNat i) byte

/-- A buffer that holds a byte string and NULs behind it. -/
def padded (capacity : Nat) (name : List UInt8) : List UInt8 :=
  name ++ List.replicate (capacity - name.length) 0

/-- Ranges that hold one address overlap. -/
theorem rangesOverlap_of_common {leftAddress leftSize rightAddress rightSize : UInt64}
    {address : Nat} (hleft : leftAddress.toNat + leftSize.toNat < 2 ^ 64)
    (hright : rightAddress.toNat + rightSize.toNat < 2 ^ 64)
    (hl : leftAddress.toNat ≤ address ∧ address < leftAddress.toNat + leftSize.toNat)
    (hr : rightAddress.toNat ≤ address ∧ address < rightAddress.toNat + rightSize.toNat) :
    rangesOverlap leftAddress leftSize rightAddress rightSize = true := by
  simp only [rangesOverlap, Bool.and_eq_true, decide_eq_true_eq, UInt64.lt_iff_toNat_lt,
    UInt64.toNat_add, Nat.mod_eq_of_lt hleft, Nat.mod_eq_of_lt hright]
  omega

/-- The mapping holds the user address. -/
def AddressSpaceMapping.Holds (mapping : AddressSpaceMapping) (address : Nat) : Prop :=
  mapping.userAddress.toNat ≤ address ∧
    address < mapping.userAddress.toNat + mapping.size.toNat

/-- Two mappings of a built address space that hold one address are one mapping. -/
theorem BuiltAddressSpace.unique {addressSpaceInfo : AddressSpace}
    (h : BuiltAddressSpace addressSpaceInfo) {left right : AddressSpaceMapping}
    (hleft : left ∈ addressSpaceInfo.mappings) (hright : right ∈ addressSpaceInfo.mappings)
    {address : Nat} (hl : left.Holds address) (hr : right.Holds address) : left = right := by
  induction h with
  | empty archRootTable => cases hleft
  | @add before userAddress hostAddress size hbefore ih =>
    rcases addAddressSpaceMapping_cases before userAddress hostAddress size with
      hsame | ⟨hadded, huser, _, hfree⟩
    · rw [hsame] at hleft hright
      exact ih hleft hright
    · have hclash : ∀ old ∈ before.mappings, old.Holds address →
          ¬ (userAddress.toNat ≤ address ∧ address < userAddress.toNat + size.toNat) := by
        intro old hold ho hu
        have hoverlap := rangesOverlap_of_common huser (hbefore.bounds old hold).1 hu ho
        rw [hfree old hold] at hoverlap
        cases hoverlap
      rw [hadded] at hleft hright
      rcases List.mem_append.mp hleft with hold | hnew
      · rcases List.mem_append.mp hright with hold' | hnew'
        · exact ih hold hold'
        · obtain rfl := List.mem_singleton.mp hnew'
          exact absurd hr (hclash left hold hl)
      · obtain rfl := List.mem_singleton.mp hnew
        rcases List.mem_append.mp hright with hold' | hnew'
        · exact absurd hl (hclash right hold' hr)
        · exact (List.mem_singleton.mp hnew').symm

/-- A mapping that holds an address is found by it. -/
theorem findAddressSpaceMapping_of_holds {addressSpaceInfo : AddressSpace}
    (hbuilt : BuiltAddressSpace addressSpaceInfo) {userAddress : UInt64}
    {mapping : AddressSpaceMapping} (hmem : mapping ∈ addressSpaceInfo.mappings)
    (hholds : mapping.Holds userAddress.toNat) :
    findAddressSpaceMapping addressSpaceInfo userAddress false = some mapping := by
  have hbound := (hbuilt.bounds mapping hmem).1
  cases hfind : findAddressSpaceMapping addressSpaceInfo userAddress false with
  | none =>
    have htest := List.find?_eq_none.mp hfind mapping hmem
    refine absurd ?_ htest
    obtain ⟨hlow, hhigh⟩ := hholds
    have hsize : mapping.size ≠ 0 := by
      intro hzero
      rw [hzero] at hhigh
      simp at hhigh
      omega
    simp only [Bool.and_eq_true, Bool.not_eq_true', decide_eq_false_iff_not, decide_eq_true_eq,
      Bool.false_and, Bool.or_false, UInt64.lt_iff_toNat_lt, UInt64.toNat_add,
      Nat.mod_eq_of_lt hbound]
    exact ⟨⟨hsize, by omega⟩, hhigh⟩
  | some found =>
    obtain ⟨hfound, hlow, hhigh⟩ := findAddressSpaceMapping_some hbuilt hfind
    rw [hbuilt.unique hfound hmem ⟨hlow, hhigh⟩ hholds]

/-- A chunk at an address that a mapping with memory behind it holds runs to the end of the
request or of the mapping. -/
theorem tryTranslateAddressSpaceChunk_of_holds {addressSpaceInfo : AddressSpace}
    (hbuilt : BuiltAddressSpace addressSpaceInfo) {userAddress requestedLength : UInt64}
    (hlength : requestedLength ≠ 0) {mapping : AddressSpaceMapping}
    (hmem : mapping ∈ addressSpaceInfo.mappings) (hhost : mapping.hostAddress ≠ 0)
    (hholds : mapping.Holds userAddress.toNat) :
    ∃ hostAddress translatedLength,
      tryTranslateAddressSpaceChunk addressSpaceInfo userAddress requestedLength =
        some (hostAddress, translatedLength) ∧
      hostAddress.toNat =
        mapping.hostAddress.toNat + (userAddress.toNat - mapping.userAddress.toNat) ∧
      translatedLength.toNat = min requestedLength.toNat
        (mapping.userAddress.toNat + mapping.size.toNat - userAddress.toNat) := by
  obtain ⟨huser, hhostBound⟩ := hbuilt.bounds mapping hmem
  have hfind := findAddressSpaceMapping_of_holds hbuilt hmem hholds
  obtain ⟨hlow, hhigh⟩ := hholds
  have hzero : (requestedLength == 0) = false := by simpa using hlength
  have hoffset : (userAddress - mapping.userAddress).toNat =
      userAddress.toNat - mapping.userAddress.toNat :=
    UInt64.toNat_sub_of_le _ _ (UInt64.le_iff_toNat_le.mpr hlow)
  have havailable : (mapping.size - (userAddress - mapping.userAddress)).toNat =
      mapping.userAddress.toNat + mapping.size.toNat - userAddress.toNat := by
    rw [UInt64.toNat_sub_of_le _ _ (UInt64.le_iff_toNat_le.mpr (by omega)), hoffset]
    omega
  have htop : ¬ (mapping.hostAddress = 0 ∨
      userAddress - mapping.userAddress > uintptrMax - mapping.hostAddress) := by
    rintro (hnull | hover)
    · exact hhost hnull
    · have hover := UInt64.lt_iff_toNat_lt.mp hover
      rw [UInt64.toNat_sub, hoffset, show uintptrMax.toNat = 2 ^ 64 - 1 from rfl] at hover
      omega
  have hsome : ¬ (requestedLength ≠ 0 ∧
      mapping.size - (userAddress - mapping.userAddress) = 0) := by
    rintro ⟨_, hempty⟩
    rw [hempty] at havailable
    simp only [UInt64.toNat_zero] at havailable
    omega
  refine ⟨mapping.hostAddress + (userAddress - mapping.userAddress),
    if requestedLength = 0 ∨
        requestedLength ≤ mapping.size - (userAddress - mapping.userAddress) then requestedLength
      else mapping.size - (userAddress - mapping.userAddress), ?_, ?_, ?_⟩
  · simp only [tryTranslateAddressSpaceChunk, hzero, hfind, if_neg htop, if_neg hsome]
  · rw [UInt64.toNat_add, hoffset]
    omega
  · simp only [hlength, false_or]
    split
    · rename_i hle
      rw [UInt64.le_iff_toNat_le, havailable] at hle
      omega
    · rename_i hlt
      rw [UInt64.le_iff_toNat_le, havailable] at hlt
      omega

/-- A chunk is translated exactly where its first byte is mapped. -/
theorem tryTranslateAddressSpaceChunk_eq_none {addressSpaceInfo : AddressSpace}
    (hbuilt : BuiltAddressSpace addressSpaceInfo) {userAddress requestedLength : UInt64}
    (hlength : requestedLength ≠ 0) :
    tryTranslateAddressSpaceChunk addressSpaceInfo userAddress requestedLength = none ↔
      ∀ hostAddress, ¬ Translates addressSpaceInfo userAddress hostAddress := by
  constructor
  · rintro hnone hostAddress ⟨mapping, hmem, hhost, hlow, hhigh, _⟩
    obtain ⟨_, _, hsome, _⟩ :=
      tryTranslateAddressSpaceChunk_of_holds hbuilt hlength hmem hhost ⟨hlow, hhigh⟩
    rw [hnone] at hsome
    cases hsome
  · intro hunmapped
    have hzero : (requestedLength == 0) = false := by simpa using hlength
    unfold tryTranslateAddressSpaceChunk
    rw [hzero]
    cases hfind : findAddressSpaceMapping addressSpaceInfo userAddress false with
    | none => rfl
    | some mapping =>
      obtain ⟨hmem, hlow, hhigh⟩ := findAddressSpaceMapping_some hbuilt hfind
      have hbound := (hbuilt.bounds mapping hmem).2
      have hnull : mapping.hostAddress = 0 := by
        by_contra hhost
        have hfit : mapping.hostAddress.toNat +
            (userAddress.toNat - mapping.userAddress.toNat) < 2 ^ 64 := by omega
        obtain ⟨hostAddress, hhostAddress⟩ := exists_toNat_add hfit
        exact hunmapped hostAddress ⟨mapping, hmem, hhost, hlow, hhigh, hhostAddress⟩
      simp only [hnull, true_or, if_true]

/-- A user address has one host address behind it. -/
theorem Translates.unique {addressSpaceInfo : AddressSpace}
    (hbuilt : BuiltAddressSpace addressSpaceInfo) {userAddress left right : UInt64}
    (hl : Translates addressSpaceInfo userAddress left)
    (hr : Translates addressSpaceInfo userAddress right) : left = right := by
  obtain ⟨mapping, hmem, _, hlow, hhigh, hleft⟩ := hl
  obtain ⟨mapping', hmem', _, hlow', hhigh', hright⟩ := hr
  obtain rfl := hbuilt.unique hmem hmem' ⟨hlow, hhigh⟩ ⟨hlow', hhigh'⟩
  exact UInt64.toNat_inj.mp (hleft.trans hright.symm)

/-- A mapped byte is a valid range of one byte, translated to its host address. -/
theorem tryTranslateAddressSpaceAddress_of_translates {addressSpaceInfo : AddressSpace}
    (hbuilt : BuiltAddressSpace addressSpaceInfo) {userAddress hostAddress : UInt64}
    (h : Translates addressSpaceInfo userAddress hostAddress) :
    validateAddressSpaceRange addressSpaceInfo userAddress 1 = true ∧
      tryTranslateAddressSpaceAddress addressSpaceInfo userAddress 1 = some hostAddress := by
  have hone : (1 : UInt64) ≠ 0 := by decide
  obtain ⟨mapping, hmem, hhost, hlow, hhigh, hhostAddress⟩ := h
  obtain ⟨translated, length, hchunk, htranslated, hcut⟩ :=
    tryTranslateAddressSpaceChunk_of_holds hbuilt hone hmem hhost ⟨hlow, hhigh⟩
  have hbound := (hbuilt.bounds mapping hmem).1
  obtain rfl : translated = hostAddress :=
    UInt64.toNat_inj.mp (htranslated.trans hhostAddress.symm)
  obtain rfl : length = 1 := by
    refine UInt64.toNat_inj.mp (hcut.trans ?_)
    rw [show (1 : UInt64).toNat = 1 from rfl]
    omega
  have htop : ¬ (1 : UInt64) > uintptrMax - userAddress := by
    intro hover
    have hover := UInt64.lt_iff_toNat_lt.mp hover
    rw [UInt64.toNat_sub, show uintptrMax.toNat = 2 ^ 64 - 1 from rfl,
      show (1 : UInt64).toNat = 1 from rfl] at hover
    omega
  have hvalid : validateAddressSpaceRange addressSpaceInfo userAddress 1 = true := by
    simp only [validateAddressSpaceRange, if_neg hone, show (1 : UInt64).toNat = 1 from rfl,
      validateAddressSpaceRangeLoop, hchunk, if_neg htop]
    rfl
  refine ⟨hvalid, ?_⟩
  simp only [tryTranslateAddressSpaceAddress, hvalid, hchunk]
  rfl

/-- The translation of one byte. -/
theorem tryTranslateAddressSpaceAddress_one {addressSpaceInfo : AddressSpace}
    (hbuilt : BuiltAddressSpace addressSpaceInfo) {userAddress hostAddress : UInt64} :
    tryTranslateAddressSpaceAddress addressSpaceInfo userAddress 1 = some hostAddress ↔
      Translates addressSpaceInfo userAddress hostAddress := by
  refine ⟨fun hsome => ?_, fun h => (tryTranslateAddressSpaceAddress_of_translates hbuilt h).2⟩
  by_cases hmapped : ∃ hostAddress, Translates addressSpaceInfo userAddress hostAddress
  · obtain ⟨host, htranslates⟩ := hmapped
    rw [(tryTranslateAddressSpaceAddress_of_translates hbuilt htranslates).2] at hsome
    exact Option.some.inj hsome ▸ htranslates
  · have hchunk := (tryTranslateAddressSpaceChunk_eq_none hbuilt
      (show (1 : UInt64) ≠ 0 by decide)).mpr fun host htranslates => hmapped ⟨host, htranslates⟩
    simp only [tryTranslateAddressSpaceAddress, hchunk] at hsome
    split at hsome <;> cases hsome

/-- A user address holds one byte. -/
theorem ByteAt.unique {addressSpaceInfo : AddressSpace}
    (hbuilt : BuiltAddressSpace addressSpaceInfo) {memory : ByteMemory} {userAddress : UInt64}
    {left right : UInt8} (hl : ByteAt addressSpaceInfo memory userAddress left)
    (hr : ByteAt addressSpaceInfo memory userAddress right) : left = right := by
  obtain ⟨host, htranslates, rfl⟩ := hl
  obtain ⟨host', htranslates', rfl⟩ := hr
  rw [htranslates.unique hbuilt htranslates']

/-- A pointer refers to one byte string. -/
theorem StringAt.unique {addressSpaceInfo : AddressSpace}
    (hbuilt : BuiltAddressSpace addressSpaceInfo) {memory : ByteMemory} {userAddress : UInt64}
    {left right : List UInt8} (hl : StringAt addressSpaceInfo memory userAddress left)
    (hr : StringAt addressSpaceInfo memory userAddress right) : left = right := by
  induction left generalizing userAddress right with
  | nil =>
    cases right with
    | nil => rfl
    | cons byte rest => exact absurd (hr.2.1.unique hbuilt hl) hr.1
  | cons byte rest ih =>
    cases right with
    | nil => exact absurd (hl.2.1.unique hbuilt hr) hl.1
    | cons byte' rest' => rw [hl.2.1.unique hbuilt hr.2.1, ih hl.2.2 hr.2.2]

/-- A byte string ends at its first NUL. -/
theorem StringAt.nulFree {addressSpaceInfo : AddressSpace} {memory : ByteMemory}
    {userAddress : UInt64} {name : List UInt8}
    (h : StringAt addressSpaceInfo memory userAddress name) : 0 ∉ name := by
  induction name generalizing userAddress with
  | nil => exact List.not_mem_nil
  | cons byte rest ih =>
    rw [List.mem_cons, not_or]
    exact ⟨h.1.symm, ih h.2.2⟩

theorem noNulWithin_succ {addressSpaceInfo : AddressSpace} {memory : ByteMemory}
    {userAddress : UInt64} {length : Nat} :
    NoNulWithin addressSpaceInfo memory userAddress (length + 1) ↔
      (∃ byte, byte ≠ 0 ∧ ByteAt addressSpaceInfo memory userAddress byte) ∧
        NoNulWithin addressSpaceInfo memory (userAddress + 1) length := by
  constructor
  · intro h
    refine ⟨by simpa using h 0 (by omega), fun i hi => ?_⟩
    rw [add_one_add_ofNat]
    exact h (i + 1) (by omega)
  · rintro ⟨hfirst, hrest⟩ i hi
    cases i with
    | zero => simpa using hfirst
    | succ i =>
      rw [← add_one_add_ofNat]
      exact hrest i (by omega)

/-- One iteration of the loop of `copy_user_string`, at a mapped byte. -/
theorem copyUserStringLoop_byteAt {addressSpaceInfo : AddressSpace}
    (hbuilt : BuiltAddressSpace addressSpaceInfo) {memory : ByteMemory} {userAddress : UInt64}
    {byte : UInt8} (h : ByteAt addressSpaceInfo memory userAddress byte) (remaining : Nat) :
    copyUserStringLoop addressSpaceInfo memory (remaining + 1) userAddress =
      if byte = 0 then (Status.ok, [0])
      else
        ((copyUserStringLoop addressSpaceInfo memory remaining (userAddress + 1)).1,
          byte :: (copyUserStringLoop addressSpaceInfo memory remaining (userAddress + 1)).2) := by
  obtain ⟨host, htranslates, rfl⟩ := h
  simp only [copyUserStringLoop,
    (tryTranslateAddressSpaceAddress_of_translates hbuilt htranslates).2]

/-- One iteration of the loop of `copy_user_string`, at an unmapped byte. -/
theorem copyUserStringLoop_unmapped {addressSpaceInfo : AddressSpace}
    (hbuilt : BuiltAddressSpace addressSpaceInfo) {memory : ByteMemory} {userAddress : UInt64}
    (h : ¬ ∃ byte, ByteAt addressSpaceInfo memory userAddress byte) (remaining : Nat) :
    copyUserStringLoop addressSpaceInfo memory (remaining + 1) userAddress =
      (Status.fault, []) := by
  cases htranslate : tryTranslateAddressSpaceAddress addressSpaceInfo userAddress 1 with
  | none => simp only [copyUserStringLoop, htranslate]
  | some host =>
    have htranslates := (tryTranslateAddressSpaceAddress_one hbuilt).mp htranslate
    exact absurd ⟨memory host, host, htranslates, rfl⟩ h

/-- A byte string shorter than the buffer is copied with its terminator. -/
theorem copyUserStringLoop_of_stringAt {addressSpaceInfo : AddressSpace}
    (hbuilt : BuiltAddressSpace addressSpaceInfo) {memory : ByteMemory} {userAddress : UInt64}
    {name : List UInt8} (h : StringAt addressSpaceInfo memory userAddress name) {remaining : Nat}
    (hlength : name.length < remaining) :
    copyUserStringLoop addressSpaceInfo memory remaining userAddress =
      (Status.ok, name ++ [0]) := by
  induction name generalizing userAddress remaining with
  | nil =>
    obtain ⟨remaining, rfl⟩ := Nat.exists_eq_succ_of_ne_zero (Nat.ne_of_gt hlength)
    rw [copyUserStringLoop_byteAt hbuilt h, if_pos rfl]
    rfl
  | cons byte rest ih =>
    obtain ⟨hbyte, hat, hrest⟩ := h
    rw [List.length_cons] at hlength
    obtain ⟨remaining, rfl⟩ := Nat.exists_eq_succ_of_ne_zero (Nat.ne_of_gt (by omega : 0 < remaining))
    rw [copyUserStringLoop_byteAt hbuilt hat, if_neg hbyte, ih hrest (by omega)]
    rfl

/-- A successful copy has read a byte string. -/
theorem copyUserStringLoop_ok {addressSpaceInfo : AddressSpace}
    (hbuilt : BuiltAddressSpace addressSpaceInfo) {memory : ByteMemory} {remaining : Nat}
    {userAddress : UInt64}
    (h : (copyUserStringLoop addressSpaceInfo memory remaining userAddress).1 = Status.ok) :
    ∃ name, StringAt addressSpaceInfo memory userAddress name ∧ name.length < remaining := by
  induction remaining generalizing userAddress with
  | zero =>
    have hsmall : Status.bufferTooSmall ≠ Status.ok := by decide
    exact absurd h hsmall
  | succ remaining ih =>
    by_cases hat : ∃ byte, ByteAt addressSpaceInfo memory userAddress byte
    · obtain ⟨byte, hat⟩ := hat
      rw [copyUserStringLoop_byteAt hbuilt hat] at h
      split at h
      · rename_i hbyte
        subst hbyte
        exact ⟨[], hat, Nat.zero_lt_succ remaining⟩
      · rename_i hbyte
        obtain ⟨rest, hrest, hlength⟩ := ih h
        refine ⟨byte :: rest, ⟨hbyte, hat, hrest⟩, ?_⟩
        rw [List.length_cons]
        omega
    · rw [copyUserStringLoop_unmapped hbuilt hat] at h
      exact absurd h (by decide)

/-- The buffer is too small exactly for a run of mapped bytes without a NUL. -/
theorem copyUserStringLoop_bufferTooSmall {addressSpaceInfo : AddressSpace}
    (hbuilt : BuiltAddressSpace addressSpaceInfo) {memory : ByteMemory} {remaining : Nat}
    {userAddress : UInt64} :
    (copyUserStringLoop addressSpaceInfo memory remaining userAddress).1 =
        Status.bufferTooSmall ↔
      NoNulWithin addressSpaceInfo memory userAddress remaining := by
  induction remaining generalizing userAddress with
  | zero => exact ⟨fun _ i hi => absurd hi (Nat.not_lt_zero i), fun _ => rfl⟩
  | succ remaining ih =>
    rw [noNulWithin_succ]
    by_cases hat : ∃ byte, ByteAt addressSpaceInfo memory userAddress byte
    · obtain ⟨byte, hat⟩ := hat
      rw [copyUserStringLoop_byteAt hbuilt hat]
      split
      · rename_i hbyte
        refine iff_of_false (by decide) fun ⟨⟨other, hother, hat'⟩, _⟩ => hother ?_
        rw [hat'.unique hbuilt hat, hbyte]
      · rename_i hbyte
        rw [ih]
        exact ⟨fun hrest => ⟨⟨byte, hbyte, hat⟩, hrest⟩, And.right⟩
    · rw [copyUserStringLoop_unmapped hbuilt hat]
      exact iff_of_false (by decide) fun ⟨⟨byte, _, hat'⟩, _⟩ => hat ⟨byte, hat'⟩

/-- `copy_user_string` fails with the status of its loop. -/
theorem copyUserString_fst (addressSpaceInfo : AddressSpace) (memory : ByteMemory)
    (userAddress : UInt64) (bufferSize : Nat) :
    (copyUserString addressSpaceInfo memory userAddress bufferSize).1 =
      (copyUserStringLoop addressSpaceInfo memory bufferSize userAddress).1 := by
  unfold copyUserString
  dsimp only
  split <;> rfl

/-- `copy_user_string` fills the buffer with a byte string that fits. -/
theorem copyUserString_of_stringAt {addressSpaceInfo : AddressSpace}
    (hbuilt : BuiltAddressSpace addressSpaceInfo) {memory : ByteMemory} {userAddress : UInt64}
    {name : List UInt8} (h : StringAt addressSpaceInfo memory userAddress name) {bufferSize : Nat}
    (hlength : name.length < bufferSize) :
    copyUserString addressSpaceInfo memory userAddress bufferSize =
      (Status.ok, padded bufferSize name) := by
  have hok : Status.ok ≠ Status.bufferTooSmall := by decide
  simp only [copyUserString, copyUserStringLoop_of_stringAt hbuilt h hlength, if_neg hok, padded,
    List.append_assoc]
  rw [List.singleton_append, ← List.replicate_succ, List.length_append, List.length_singleton]
  congr 3
  omega

/-- `copy_user_string` succeeds on a byte string that fits. -/
theorem copyUserString_ok {addressSpaceInfo : AddressSpace}
    (hbuilt : BuiltAddressSpace addressSpaceInfo) {memory : ByteMemory} {userAddress : UInt64}
    {bufferSize : Nat}
    (h : (copyUserString addressSpaceInfo memory userAddress bufferSize).1 = Status.ok) :
    ∃ name, StringAt addressSpaceInfo memory userAddress name ∧ name.length < bufferSize ∧
      (copyUserString addressSpaceInfo memory userAddress bufferSize).2 =
        padded bufferSize name := by
  rw [copyUserString_fst] at h
  obtain ⟨name, hname, hlength⟩ := copyUserStringLoop_ok hbuilt h
  exact ⟨name, hname, hlength, by rw [copyUserString_of_stringAt hbuilt hname hlength]⟩

/-- A byte string that leaves room in its buffer has a NUL behind it. -/
theorem padded_eq {capacity : Nat} {name : List UInt8} (hlength : name.length < capacity) :
    ∃ rest, padded capacity name = name ++ 0 :: rest := by
  refine ⟨List.replicate (capacity - name.length - 1) 0, ?_⟩
  rw [padded, ← List.replicate_succ]
  congr 2
  omega

/-- The loop of `copy_string` stops at the NUL. -/
theorem copyStringLoop_of_nul {name : List UInt8} (hname : 0 ∉ name) {capacity : Nat}
    (hlength : name.length < capacity) (rest : List UInt8) :
    copyStringLoop capacity (name ++ 0 :: rest) = name := by
  induction name generalizing capacity with
  | nil =>
    cases capacity with
    | zero => cases hlength
    | succ capacity => simp [copyStringLoop]
  | cons byte name ih =>
    rw [List.mem_cons, not_or] at hname
    cases capacity with
    | zero => cases hlength
    | succ capacity =>
      rw [List.length_cons] at hlength
      have hcopied : byte ≠ 0 ∧ 0 < capacity := ⟨Ne.symm hname.1, by omega⟩
      rw [List.cons_append, copyStringLoop, if_pos hcopied, ih hname.2 (by omega)]

/-- `copy_string` carries a buffer over whole. -/
theorem copyString_padded {name : List UInt8} (hname : 0 ∉ name) {capacity : Nat}
    (hlength : name.length < capacity) :
    copyString capacity (padded capacity name) = padded capacity name := by
  obtain ⟨rest, hpadded⟩ := padded_eq hlength
  rw [copyString, hpadded, copyStringLoop_of_nul hname hlength, ← hpadded]
  rfl

/-- `strings_equal` compares up to the NUL. -/
theorem stringsEqual_of_nul {left right : List UInt8} (hleft : 0 ∉ left) (hright : 0 ∉ right)
    (leftRest rightRest : List UInt8) :
    stringsEqual (left ++ 0 :: leftRest) (right ++ 0 :: rightRest) = true ↔ left = right := by
  induction left generalizing right with
  | nil =>
    cases right with
    | nil => simp [stringsEqual]
    | cons byte right =>
      rw [List.mem_cons, not_or] at hright
      simp [stringsEqual, hright.1]
  | cons byte left ih =>
    rw [List.mem_cons, not_or] at hleft
    cases right with
    | nil => simp [stringsEqual, Ne.symm hleft.1]
    | cons byte' right =>
      rw [List.mem_cons, not_or] at hright
      rw [List.cons_append, List.cons_append, stringsEqual, List.cons.injEq]
      split
      · rename_i hbyte
        exact iff_of_false (by simp) fun h => hbyte h.1
      · rename_i hbyte
        rw [if_neg (Ne.symm hleft.1), ih hleft.2 hright.2]
        exact ⟨fun h => ⟨not_not.mp hbyte, h⟩, And.right⟩

/-- Two buffers are equal to `strings_equal` when their byte strings are. -/
theorem stringsEqual_padded {left right : List UInt8} (hleft : 0 ∉ left) (hright : 0 ∉ right)
    {capacity : Nat} (hleftLength : left.length < capacity)
    (hrightLength : right.length < capacity) :
    stringsEqual (padded capacity left) (padded capacity right) = true ↔ left = right := by
  obtain ⟨leftRest, hl⟩ := padded_eq hleftLength
  obtain ⟨rightRest, hr⟩ := padded_eq hrightLength
  rw [hl, hr]
  exact stringsEqual_of_nul hleft hright leftRest rightRest

/-- A buffer holds one byte string. -/
theorem padded_inj {left right : List UInt8} (hleft : 0 ∉ left) (hright : 0 ∉ right)
    {capacity : Nat} (hleftLength : left.length < capacity)
    (hrightLength : right.length < capacity)
    (h : padded capacity left = padded capacity right) : left = right := by
  refine (stringsEqual_padded hleft hright hleftLength hrightLength).mp ?_
  rw [h]
  exact (stringsEqual_padded hright hright hrightLength hrightLength).mpr rfl

end Ringos.Kernel
