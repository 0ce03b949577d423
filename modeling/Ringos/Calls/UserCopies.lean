import Ringos.Calls.UserRanges

/-!
# Copies of user memory byte by byte

The kernel copies user memory in chunks, each cut at the end of a mapping on
either side. A chunk is as many steps of the byte-by-byte copy as it has bytes,
whether or not the host ranges overlap, and no chunk is found exactly where the
next byte cannot be translated. So the copies agree, faults included.
-/

namespace Ringos.Kernel

open Ringos.Core

/-- The host address behind a user address. -/
def byteTranslation (addressSpaceInfo : AddressSpace) (userAddress : UInt64) : Option UInt64 :=
  (addressSpaceInfo.mappings.find? fun mapping =>
    mapping.hostAddress ≠ 0 ∧ mapping.userAddress ≤ userAddress ∧
      userAddress - mapping.userAddress < mapping.size).map fun mapping =>
    mapping.hostAddress + (userAddress - mapping.userAddress)

/-- Copy byte by byte until a byte is unmapped on either side. -/
def copyBetweenBytewise (source destination : AddressSpace) :
    ByteMemory → UInt64 → UInt64 → Nat → Int32 × ByteMemory
  | memory, _, _, 0 => (Status.ok, memory)
  | memory, sourceAddress, destinationAddress, size + 1 =>
    match byteTranslation source sourceAddress, byteTranslation destination destinationAddress with
    | some sourceHost, some destinationHost =>
      copyBetweenBytewise source destination
        (Function.update memory destinationHost (memory sourceHost)) (sourceAddress + 1)
        (destinationAddress + 1) size
    | _, _ => (Status.fault, memory)

/-- Write a buffer byte by byte until a byte is unmapped. -/
def writeUserBytewise (addressSpaceInfo : AddressSpace) :
    ByteMemory → UInt64 → List UInt8 → Int32 × ByteMemory
  | memory, _, [] => (Status.ok, memory)
  | memory, userAddress, byte :: rest =>
    match byteTranslation addressSpaceInfo userAddress with
    | some hostAddress =>
      writeUserBytewise addressSpaceInfo (Function.update memory hostAddress byte)
        (userAddress + 1) rest
    | none => (Status.fault, memory)

/-- Fill a buffer byte by byte until a byte is unmapped. -/
def copyUserBytewise (addressSpaceInfo : AddressSpace) (memory : ByteMemory) :
    UInt64 → List UInt8 → Int32 × List UInt8
  | _, [] => (Status.ok, [])
  | userAddress, byte :: rest =>
    match byteTranslation addressSpaceInfo userAddress with
    | some hostAddress =>
      let (status, copied) := copyUserBytewise addressSpaceInfo memory (userAddress + 1) rest
      (status, memory hostAddress :: copied)
    | none => (Status.fault, byte :: rest)

/-- The next bytes at a user address lie one behind another in host memory. -/
def Contiguous (addressSpaceInfo : AddressSpace) (userAddress hostAddress : UInt64)
    (length : Nat) : Prop :=
  ∀ i < length, byteTranslation addressSpaceInfo (userAddress + UInt64.ofNat i) =
    some (hostAddress + UInt64.ofNat i)

section Chunks

variable {addressSpaceInfo : AddressSpace} {userAddress hostAddress : UInt64} {length : Nat}

theorem Contiguous.head (h : Contiguous addressSpaceInfo userAddress hostAddress (length + 1)) :
    byteTranslation addressSpaceInfo userAddress = some hostAddress := by
  simpa using h 0 (by omega)

theorem Contiguous.tail (h : Contiguous addressSpaceInfo userAddress hostAddress (length + 1)) :
    Contiguous addressSpaceInfo (userAddress + 1) (hostAddress + 1) length := by
  intro i hi
  have hshift : ∀ address : UInt64,
      address + 1 + UInt64.ofNat i = address + UInt64.ofNat (i + 1) := by
    intro address
    rw [UInt64.ofNat_add, UInt64.add_assoc, UInt64.add_comm 1]
    rfl
  rw [hshift, hshift]
  exact h (i + 1) (by omega)

theorem Contiguous.mono {less : Nat} (h : Contiguous addressSpaceInfo userAddress hostAddress length)
    (hle : less ≤ length) : Contiguous addressSpaceInfo userAddress hostAddress less :=
  fun i hi => h i (by omega)

variable (hbuilt : BuiltAddressSpace addressSpaceInfo)

include hbuilt

/-- In a built address space the mapping that translates a byte is the one that holds it. -/
theorem byteTranslation_of_holds {mapping : AddressSpaceMapping}
    (hmem : mapping ∈ addressSpaceInfo.mappings) (hhost : mapping.hostAddress ≠ 0)
    (hholds : mapping.Holds userAddress.toNat) :
    byteTranslation addressSpaceInfo userAddress =
      some (mapping.hostAddress + (userAddress - mapping.userAddress)) := by
  have hiff (other : AddressSpaceMapping) : other.userAddress ≤ userAddress ∧
      userAddress - other.userAddress < other.size ↔ other.Holds userAddress.toNat := by
    unfold AddressSpaceMapping.Holds
    rw [UInt64.le_iff_toNat_le, UInt64.lt_iff_toNat_lt]
    constructor
    · rintro ⟨hlow, hhigh⟩
      rw [UInt64.toNat_sub_of_le _ _ (UInt64.le_iff_toNat_le.mpr hlow)] at hhigh
      omega
    · rintro ⟨hlow, hhigh⟩
      rw [UInt64.toNat_sub_of_le _ _ (UInt64.le_iff_toNat_le.mpr hlow)]
      omega
  rw [byteTranslation]
  cases hfind : addressSpaceInfo.mappings.find? fun mapping =>
      decide (mapping.hostAddress ≠ 0 ∧ mapping.userAddress ≤ userAddress ∧
        userAddress - mapping.userAddress < mapping.size) with
  | none =>
    have htest := List.find?_eq_none.mp hfind mapping hmem
    exact absurd (decide_eq_true ⟨hhost, (hiff mapping).mpr hholds⟩) htest
  | some found =>
    have htest := List.find?_some hfind
    rw [decide_eq_true_eq] at htest
    rw [Option.map_some,
      hbuilt.unique (List.mem_of_find?_eq_some hfind) hmem ((hiff found).mp htest.2) hholds]

/-- A byte that no mapping with memory behind it holds is not translated. -/
theorem byteTranslation_of_unmapped (h : ¬ MappedAt addressSpaceInfo userAddress) :
    byteTranslation addressSpaceInfo userAddress = none := by
  rw [byteTranslation, Option.map_eq_none_iff, List.find?_eq_none]
  intro mapping hmem htest
  obtain ⟨hhost, hlow, hhigh⟩ := of_decide_eq_true htest
  have hhigh := UInt64.lt_iff_toNat_lt.mp hhigh
  rw [UInt64.toNat_sub_of_le _ _ hlow] at hhigh
  have hlow := UInt64.le_iff_toNat_le.mp hlow
  exact h ((mappedAt_iff hbuilt).mpr ⟨mapping, hmem, hhost, hlow, by omega⟩)

/-- A user byte has the host byte behind it that its mapping puts there. -/
theorem byteTranslation_eq_some_iff :
    byteTranslation addressSpaceInfo userAddress = some hostAddress ↔
      Translates addressSpaceInfo userAddress hostAddress := by
  by_cases hmapped : MappedAt addressSpaceInfo userAddress
  swap
  · rw [byteTranslation_of_unmapped hbuilt hmapped]
    exact iff_of_false (by simp) fun h => hmapped ⟨hostAddress, h⟩
  obtain ⟨host, mapping, hmem, hhost, hlow, hhigh, haddress⟩ := hmapped
  have hbound := (hbuilt.bounds mapping hmem).2
  have hoffset : mapping.hostAddress + (userAddress - mapping.userAddress) = host := by
    rw [← UInt64.toNat_inj, haddress, UInt64.toNat_add,
      UInt64.toNat_sub_of_le _ _ (UInt64.le_iff_toNat_le.mpr hlow)]
    omega
  rw [byteTranslation_of_holds hbuilt hmem hhost ⟨hlow, hhigh⟩, hoffset, Option.some.injEq]
  have htranslates : Translates addressSpaceInfo userAddress host :=
    ⟨mapping, hmem, hhost, hlow, hhigh, haddress⟩
  exact ⟨fun heq => heq ▸ htranslates, fun h => htranslates.unique hbuilt h⟩

/-- A chunk is a nonempty part of the request that is contiguous, or its first byte is unmapped. -/
theorem tryTranslateAddressSpaceChunk_bytewise (userAddress : UInt64) {requestedLength : UInt64}
    (hlength : requestedLength ≠ 0) :
    (tryTranslateAddressSpaceChunk addressSpaceInfo userAddress requestedLength = none ∧
      byteTranslation addressSpaceInfo userAddress = none) ∨
    ∃ hostAddress translatedLength,
      tryTranslateAddressSpaceChunk addressSpaceInfo userAddress requestedLength =
        some (hostAddress, translatedLength) ∧
      translatedLength ≠ 0 ∧ translatedLength.toNat ≤ requestedLength.toNat ∧
      Contiguous addressSpaceInfo userAddress hostAddress translatedLength.toNat := by
  by_cases hmapped : MappedAt addressSpaceInfo userAddress
  swap
  · exact .inl ⟨tryTranslateAddressSpaceChunk_of_unmapped hbuilt hlength hmapped,
      byteTranslation_of_unmapped hbuilt hmapped⟩
  obtain ⟨mapping, hmem, hhost, hholds⟩ := (mappedAt_iff hbuilt).mp hmapped
  obtain ⟨hostAddress, translatedLength, hchunk, htranslated, hcut⟩ :=
    tryTranslateAddressSpaceChunk_of_holds hbuilt hlength hmem hhost hholds
  obtain ⟨huserBound, hhostBound⟩ := hbuilt.bounds mapping hmem
  obtain ⟨hlow, hhigh⟩ := hholds
  have hpos : 0 < requestedLength.toNat :=
    Nat.pos_of_ne_zero fun hzero => hlength (UInt64.toNat_inj.mp hzero)
  refine .inr ⟨hostAddress, translatedLength, hchunk, ?_, by omega, fun i hi => ?_⟩
  · rintro rfl
    rw [show (0 : UInt64).toNat = 0 from rfl] at hcut
    omega
  have hoffset : (UInt64.ofNat i).toNat = i :=
    UInt64.toNat_ofNat_of_lt' (by show i < 2 ^ 64; omega)
  have haddress : (userAddress + UInt64.ofNat i).toNat = userAddress.toNat + i :=
    toNat_add_ofNat (by omega)
  have hle : mapping.userAddress ≤ userAddress + UInt64.ofNat i := by
    rw [UInt64.le_iff_toNat_le]
    omega
  rw [byteTranslation_of_holds hbuilt hmem hhost ⟨by omega, by omega⟩, Option.some.injEq,
    ← UInt64.toNat_inj, UInt64.toNat_add, UInt64.toNat_add, UInt64.toNat_sub_of_le _ _ hle,
    haddress, htranslated, hoffset]
  omega

end Chunks

section Between

variable {source destination : AddressSpace}

/-- A contiguous chunk on both sides is copied byte by byte as `memcpy` copies it, by induction on
the chunk. -/
theorem copyBetweenBytewise_chunk (chunk rest : Nat) {memory : ByteMemory}
    {sourceAddress destinationAddress sourceHost destinationHost : UInt64}
    (hsource : Contiguous source sourceAddress sourceHost chunk)
    (hdestination : Contiguous destination destinationAddress destinationHost chunk) :
    copyBetweenBytewise source destination memory sourceAddress destinationAddress (chunk + rest) =
      copyBetweenBytewise source destination (copyBytes memory destinationHost sourceHost chunk)
        (sourceAddress + UInt64.ofNat chunk) (destinationAddress + UInt64.ofNat chunk) rest := by
  induction chunk generalizing memory sourceAddress destinationAddress sourceHost
    destinationHost with
  | zero =>
    show _ = copyBetweenBytewise source destination memory (sourceAddress + 0)
      (destinationAddress + 0) rest
    rw [Nat.zero_add, UInt64.add_zero, UInt64.add_zero]
  | succ chunk ih =>
    have hshift : ∀ address : UInt64,
        address + 1 + UInt64.ofNat chunk = address + UInt64.ofNat (chunk + 1) := by
      intro address
      rw [UInt64.ofNat_add, UInt64.add_assoc, UInt64.add_comm 1]
      rfl
    rw [Nat.succ_add, copyBetweenBytewise, hsource.head, hdestination.head]
    simp only
    rw [ih hsource.tail hdestination.tail, hshift, hshift, copyBytes]

/-- The loop of the copy does what the byte-by-byte copy does, with any fuel from the size on. -/
theorem copyBetweenUserProcessesLoop_eq (hsource : BuiltAddressSpace source)
    (hdestination : BuiltAddressSpace destination) (fuel : Nat) {memory : ByteMemory}
    {sourceAddress destinationAddress size : UInt64} (hfuel : size.toNat ≤ fuel) :
    copyBetweenUserProcessesLoop source destination fuel memory sourceAddress destinationAddress
        size =
      copyBetweenBytewise source destination memory sourceAddress destinationAddress
        size.toNat := by
  induction fuel generalizing memory sourceAddress destinationAddress size with
  | zero =>
    obtain rfl : size = 0 := UInt64.toNat_inj.mp (Nat.le_zero.mp hfuel)
    rfl
  | succ fuel ih =>
    rw [copyBetweenUserProcessesLoop]
    split
    · rename_i hzero
      subst hzero
      rfl
    rename_i hsize
    obtain ⟨count, hcount⟩ : ∃ count, size.toNat = count + 1 :=
      Nat.exists_eq_succ_of_ne_zero fun hzero => hsize (UInt64.toNat_inj.mp hzero)
    rcases tryTranslateAddressSpaceChunk_bytewise hsource sourceAddress hsize with
      ⟨hnone, hunmapped⟩ | ⟨sourceHost, sourceLength, hchunk, hsourceLength, hsourceLe, hrange⟩
    · rw [hnone, hcount, copyBetweenBytewise, hunmapped]
    simp only [hchunk, if_neg hsourceLength]
    rcases tryTranslateAddressSpaceChunk_bytewise hdestination destinationAddress
      hsourceLength with
      ⟨hnone, hunmapped⟩ | ⟨destinationHost, length, hchunk', hlength, hle, hrange'⟩
    · rw [hnone, hcount, copyBetweenBytewise, hunmapped]
      cases byteTranslation source sourceAddress <;> rfl
    simp only [hchunk', if_neg hlength]
    have hstep : length.toNat ≠ 0 := fun hzero => hlength (UInt64.toNat_inj.mp hzero)
    have hleft : (size - length).toNat = size.toNat - length.toNat :=
      UInt64.toNat_sub_of_le _ _ (UInt64.le_iff_toNat_le.mpr (by omega))
    have hparts : size.toNat = length.toNat + (size - length).toNat := by omega
    rw [ih (by omega), hparts, copyBetweenBytewise_chunk _ _ (hrange.mono hle) hrange',
      UInt64.ofNat_toNat]

end Between

section Buffers

variable {addressSpaceInfo : AddressSpace}

theorem writeUserBytewise_chunk (chunk : List UInt8) (rest : List UInt8) {memory : ByteMemory}
    {userAddress hostAddress : UInt64}
    (h : Contiguous addressSpaceInfo userAddress hostAddress chunk.length) :
    writeUserBytewise addressSpaceInfo memory userAddress (chunk ++ rest) =
      writeUserBytewise addressSpaceInfo (storeBytes memory hostAddress chunk)
        (userAddress + UInt64.ofNat chunk.length) rest := by
  induction chunk generalizing memory userAddress hostAddress with
  | nil =>
    show _ = writeUserBytewise addressSpaceInfo memory (userAddress + 0) rest
    rw [List.nil_append, UInt64.add_zero]
  | cons byte chunk ih =>
    rw [List.length_cons] at h
    rw [List.cons_append, writeUserBytewise, h.head]
    simp only
    rw [ih h.tail, add_one_add_ofNat, storeBytes, List.length_cons]

theorem copyUserBytewise_chunk (chunk : List UInt8) (rest : List UInt8) {memory : ByteMemory}
    {userAddress hostAddress : UInt64}
    (h : Contiguous addressSpaceInfo userAddress hostAddress chunk.length) :
    copyUserBytewise addressSpaceInfo memory userAddress (chunk ++ rest) =
      ((copyUserBytewise addressSpaceInfo memory (userAddress + UInt64.ofNat chunk.length) rest).1,
        loadBytes memory hostAddress chunk.length ++
          (copyUserBytewise addressSpaceInfo memory
            (userAddress + UInt64.ofNat chunk.length) rest).2) := by
  induction chunk generalizing userAddress hostAddress with
  | nil =>
    show _ = ((copyUserBytewise addressSpaceInfo memory (userAddress + 0) rest).1,
      (copyUserBytewise addressSpaceInfo memory (userAddress + 0) rest).2)
    rw [List.nil_append, UInt64.add_zero]
  | cons byte chunk ih =>
    rw [List.length_cons] at h
    rw [List.cons_append, copyUserBytewise, h.head]
    simp only
    rw [ih h.tail, add_one_add_ofNat, List.length_cons, loadBytes, List.cons_append]

variable (hbuilt : BuiltAddressSpace addressSpaceInfo)

include hbuilt

/-- The loop of the write does what the byte-by-byte write does. -/
theorem writeUserBytesLoop_eq (fuel : Nat) {memory : ByteMemory} {userAddress : UInt64}
    {buffer : List UInt8} (hfuel : buffer.length ≤ fuel) (hfit : buffer.length < 2 ^ 64) :
    writeUserBytesLoop addressSpaceInfo fuel memory userAddress buffer =
      writeUserBytewise addressSpaceInfo memory userAddress buffer := by
  induction fuel generalizing memory userAddress buffer with
  | zero =>
    obtain rfl := List.length_eq_zero_iff.mp (Nat.le_zero.mp hfuel)
    rfl
  | succ fuel ih =>
    cases buffer with
    | nil => rfl
    | cons byte rest =>
      have hlength := toUInt64_ne_zero (List.length_pos_of_ne_nil (List.cons_ne_nil byte rest)) hfit
      have hnat : (byte :: rest).length.toUInt64.toNat = (byte :: rest).length :=
        UInt64.toNat_ofNat_of_lt' hfit
      simp only [writeUserBytesLoop]
      rcases tryTranslateAddressSpaceChunk_bytewise hbuilt userAddress hlength with
        ⟨hnone, hunmapped⟩ | ⟨hostAddress, translated, hchunk, hne, hle, hrange⟩
      · simp only [hnone, writeUserBytewise, hunmapped]
      simp only [hchunk, if_neg hne]
      rw [hnat] at hle
      have hstep : translated.toNat ≠ 0 := fun hzero => hne (UInt64.toNat_inj.mp hzero)
      have htaken : ((byte :: rest).take translated.toNat).length = translated.toNat := by
        rw [List.length_take, Nat.min_eq_left hle]
      rw [ih (by rw [List.length_drop]; omega) (by rw [List.length_drop]; omega)]
      conv => rhs; rw [← List.take_append_drop translated.toNat (byte :: rest)]
      rw [writeUserBytewise_chunk _ _ (htaken.symm ▸ hrange), htaken, UInt64.ofNat_toNat]

/-- The loop of the read does what the byte-by-byte read does. -/
theorem copyUserBytesLoop_eq (fuel : Nat) {memory : ByteMemory} {userAddress : UInt64}
    {buffer : List UInt8} (hfuel : buffer.length ≤ fuel) (hfit : buffer.length < 2 ^ 64) :
    copyUserBytesLoop addressSpaceInfo memory fuel userAddress buffer =
      copyUserBytewise addressSpaceInfo memory userAddress buffer := by
  induction fuel generalizing userAddress buffer with
  | zero =>
    obtain rfl := List.length_eq_zero_iff.mp (Nat.le_zero.mp hfuel)
    rfl
  | succ fuel ih =>
    cases buffer with
    | nil => rfl
    | cons byte rest =>
      have hlength := toUInt64_ne_zero (List.length_pos_of_ne_nil (List.cons_ne_nil byte rest)) hfit
      have hnat : (byte :: rest).length.toUInt64.toNat = (byte :: rest).length :=
        UInt64.toNat_ofNat_of_lt' hfit
      simp only [copyUserBytesLoop]
      rcases tryTranslateAddressSpaceChunk_bytewise hbuilt userAddress hlength with
        ⟨hnone, hunmapped⟩ | ⟨hostAddress, translated, hchunk, hne, hle, hrange⟩
      · simp only [hnone, copyUserBytewise, hunmapped]
      simp only [hchunk, if_neg hne]
      rw [hnat] at hle
      have hstep : translated.toNat ≠ 0 := fun hzero => hne (UInt64.toNat_inj.mp hzero)
      have htaken : ((byte :: rest).take translated.toNat).length = translated.toNat := by
        rw [List.length_take, Nat.min_eq_left hle]
      rw [ih (by rw [List.length_drop]; omega) (by rw [List.length_drop]; omega)]
      conv => rhs; rw [← List.take_append_drop translated.toNat (byte :: rest)]
      rw [copyUserBytewise_chunk _ _ (htaken.symm ▸ hrange), htaken, UInt64.ofNat_toNat]

end Buffers

/-- The copies of the kernel are the byte-by-byte copies: between two processes, into a buffer and
out of one. -/
theorem userCopies_bytewise {source destination : AddressSpace}
    (hsource : BuiltAddressSpace source) (hdestination : BuiltAddressSpace destination)
    (memory : ByteMemory) (sourceAddress destinationAddress : UInt64) :
    (∀ size : UInt64,
      copyBetweenUserProcesses source destination memory sourceAddress destinationAddress size =
        copyBetweenBytewise source destination memory sourceAddress destinationAddress
          size.toNat) ∧
    ∀ buffer : List UInt8, buffer.length < 2 ^ 64 →
      copyUserBytes source memory sourceAddress buffer =
        copyUserBytewise source memory sourceAddress buffer ∧
      writeUserBytes destination memory destinationAddress buffer =
        writeUserBytewise destination memory destinationAddress buffer :=
  ⟨fun _ => copyBetweenUserProcessesLoop_eq hsource hdestination _ (le_refl _),
    fun _ hfit => ⟨copyUserBytesLoop_eq hsource _ (le_refl _) hfit,
      writeUserBytesLoop_eq hdestination _ (le_refl _) hfit⟩⟩

/-- A copy over two adjacent mappings onto bytes that it has yet to read. -/
theorem adjacentMappings_copied :
    copyBetweenUserProcesses adjacentMappings adjacentMappings (fun _ => 7) 0x1FFE 0x1FFF 3 =
      copyBetweenBytewise adjacentMappings adjacentMappings (fun _ => 7) 0x1FFE 0x1FFF 3 := by
  have hbuilt : BuiltAddressSpace adjacentMappings :=
    .add 0x1000 0x5000 0x1000 (.add 0x2000 0x9000 0x1000 (.empty 0))
  exact (userCopies_bytewise hbuilt hbuilt (fun _ => 7) 0x1FFE 0x1FFF).1 3

end Ringos.Kernel
