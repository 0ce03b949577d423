import Ringos.Kernel.Types

/-!
# Address spaces

An address space is the list of its recorded mappings, at most eight. All
arithmetic is on 64-bit words and wraps as in the source. The loop of
`validateAddressSpaceRange` consumes at least one byte an iteration, so the
requested length bounds its iterations.
-/

namespace Ringos.Kernel

/-- `UINTPTR_MAX`. -/
def uintptrMax : UInt64 := 0xFFFFFFFFFFFFFFFF

/-- `address_space_mapping`. -/
structure AddressSpaceMapping where
  userAddress : UInt64
  hostAddress : UInt64
  size : UInt64
  deriving DecidableEq, Repr, Inhabited

/-- `address_space`; `mapping_count` is the length of the list. -/
structure AddressSpace where
  archRootTable : UInt64
  mappings : List AddressSpaceMapping
  deriving DecidableEq, Repr, Inhabited

/-- `is_valid_address_range`. -/
def isValidAddressRange (baseAddress size : UInt64) : Bool :=
  size ≠ 0 && size ≤ uintptrMax - baseAddress

/-- `ranges_overlap`. -/
def rangesOverlap (leftAddress leftSize rightAddress rightSize : UInt64) : Bool :=
  let leftLimit := leftAddress + leftSize
  let rightLimit := rightAddress + rightSize
  leftAddress < rightLimit && rightAddress < leftLimit

/-- `find_address_space_mapping`. -/
def findAddressSpaceMapping (addressSpaceInfo : AddressSpace) (userAddress : UInt64)
    (allowMappingLimit : Bool) : Option AddressSpaceMapping :=
  addressSpaceInfo.mappings.find? fun mapping =>
    let mappingLimit := mapping.userAddress + mapping.size
    mapping.size ≠ 0 && !(userAddress < mapping.userAddress) &&
      (userAddress < mappingLimit || (allowMappingLimit && userAddress == mappingLimit))

/-- `add_address_space_mapping`: a rejected mapping leaves the address space alone. -/
def addAddressSpaceMapping (addressSpaceInfo : AddressSpace)
    (userAddress hostAddress size : UInt64) : Bool × AddressSpace :=
  if !isValidAddressRange userAddress size || !isValidAddressRange hostAddress size then
    (false, addressSpaceInfo)
  else if addressSpaceInfo.mappings.length ≥ maxAddressSpaceMappings then
    (false, addressSpaceInfo)
  else if addressSpaceInfo.mappings.any fun existing =>
      rangesOverlap userAddress size existing.userAddress existing.size then
    (false, addressSpaceInfo)
  else
    (true, { addressSpaceInfo with
      mappings := addressSpaceInfo.mappings ++ [⟨userAddress, hostAddress, size⟩] })

/-- `try_translate_address_space_chunk`: host address and translated length. -/
def tryTranslateAddressSpaceChunk (addressSpaceInfo : AddressSpace)
    (userAddress requestedLength : UInt64) : Option (UInt64 × UInt64) :=
  match findAddressSpaceMapping addressSpaceInfo userAddress (requestedLength == 0) with
  | none => none
  | some mapping =>
    let translatedOffset := userAddress - mapping.userAddress
    if mapping.hostAddress = 0 ∨ translatedOffset > uintptrMax - mapping.hostAddress then
      none
    else
      let availableLength := mapping.size - translatedOffset
      if requestedLength ≠ 0 ∧ availableLength = 0 then
        none
      else
        some (mapping.hostAddress + translatedOffset,
          if requestedLength = 0 ∨ requestedLength ≤ availableLength then requestedLength
          else availableLength)

/-- The `while` loop of `validate_address_space_range`. -/
def validateAddressSpaceRangeLoop (addressSpaceInfo : AddressSpace) :
    Nat → UInt64 → UInt64 → Bool
  | 0, _, remainingLength => remainingLength == 0
  | fuel + 1, currentAddress, remainingLength =>
    if remainingLength = 0 then true
    else
      match tryTranslateAddressSpaceChunk addressSpaceInfo currentAddress remainingLength with
      | none => false
      | some (_, translatedLength) =>
        if translatedLength = 0 ∨ translatedLength > remainingLength then false
        else if translatedLength > uintptrMax - currentAddress then false
        else validateAddressSpaceRangeLoop addressSpaceInfo fuel
          (currentAddress + translatedLength) (remainingLength - translatedLength)

/-- `validate_address_space_range`. -/
def validateAddressSpaceRange (addressSpaceInfo : AddressSpace)
    (userAddress length : UInt64) : Bool :=
  if length = 0 then (findAddressSpaceMapping addressSpaceInfo userAddress true).isSome
  else validateAddressSpaceRangeLoop addressSpaceInfo length.toNat userAddress length

/-- `try_translate_address_space_address`. -/
def tryTranslateAddressSpaceAddress (addressSpaceInfo : AddressSpace)
    (userAddress length : UInt64) : Option UInt64 :=
  if !validateAddressSpaceRange addressSpaceInfo userAddress length then none
  else
    match tryTranslateAddressSpaceChunk addressSpaceInfo userAddress length with
    | none => none
    | some (hostAddress, translatedLength) =>
      if translatedLength = length then some hostAddress else none

/-- The address spaces a platform can build: an empty one, then any additions. -/
inductive BuiltAddressSpace : AddressSpace → Prop
  | empty (archRootTable : UInt64) : BuiltAddressSpace ⟨archRootTable, []⟩
  | add {addressSpaceInfo : AddressSpace} (userAddress hostAddress size : UInt64) :
      BuiltAddressSpace addressSpaceInfo →
      BuiltAddressSpace (addAddressSpaceMapping addressSpaceInfo userAddress hostAddress size).2

end Ringos.Kernel
