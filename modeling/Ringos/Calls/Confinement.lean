import Ringos.Scheduler.Runs

/-!
# The memory a syscall may write

User memory is written in two places only: the handle that `RPC_OPEN` returns
and the request that `RPC_CALL` puts on the server's stack. Both go through
chunked translation, which on an address space built mapping by mapping stays
inside the mapping it found; so the bytes a syscall changes back user addresses
of the range it was asked to write, also when it fails half way.
-/

namespace Ringos.Kernel

open Ringos.Core

/-- A mapping of the address space puts the host byte behind the user address. -/
def Backs (addressSpaceInfo : AddressSpace) (userAddress hostAddress : UInt64) : Prop :=
  ∃ mapping ∈ addressSpaceInfo.mappings,
    mapping.userAddress.toNat ≤ userAddress.toNat ∧
    userAddress.toNat < mapping.userAddress.toNat + mapping.size.toNat ∧
    hostAddress.toNat =
      mapping.hostAddress.toNat + (userAddress.toNat - mapping.userAddress.toNat)

/-- The host bytes behind the user addresses from `low` up to `high`. -/
def BacksRange (addressSpaceInfo : AddressSpace) (low high : Nat) (hostAddress : UInt64) : Prop :=
  ∃ userAddress : UInt64, low ≤ userAddress.toNat ∧ userAddress.toNat < high ∧
    Backs addressSpaceInfo userAddress hostAddress

theorem BacksRange.mono {addressSpaceInfo : AddressSpace} {low high low' high' : Nat}
    {hostAddress : UInt64} (h : BacksRange addressSpaceInfo low high hostAddress)
    (hlow : low' ≤ low) (hhigh : high ≤ high') :
    BacksRange addressSpaceInfo low' high' hostAddress := by
  obtain ⟨userAddress, hl, hh, hbacks⟩ := h
  exact ⟨userAddress, by omega, by omega, hbacks⟩

/-- A byte behind a user address lies in the host range of a mapping. -/
theorem Backs.hostRange {addressSpaceInfo : AddressSpace} {userAddress hostAddress : UInt64}
    (h : Backs addressSpaceInfo userAddress hostAddress) :
    ∃ mapping ∈ addressSpaceInfo.mappings, mapping.hostAddress.toNat ≤ hostAddress.toNat ∧
      hostAddress.toNat < mapping.hostAddress.toNat + mapping.size.toNat := by
  obtain ⟨mapping, hmem, hlow, hhigh, hhost⟩ := h
  exact ⟨mapping, hmem, by omega, by omega⟩

/-- An accepted range ends below the top of the address space. -/
theorem isValidAddressRange_bound {baseAddress size : UInt64}
    (h : isValidAddressRange baseAddress size = true) :
    baseAddress.toNat + size.toNat < 2 ^ 64 := by
  simp only [isValidAddressRange, Bool.and_eq_true, decide_eq_true_eq] at h
  have hle := UInt64.le_iff_toNat_le.mp h.2
  have hb := baseAddress.toNat_lt
  rw [UInt64.toNat_sub, show uintptrMax.toNat = 2 ^ 64 - 1 from rfl] at hle
  omega

/-- An addition is refused, or appends a mapping that wraps on neither side and overlaps none of
those there. -/
theorem addAddressSpaceMapping_cases (addressSpaceInfo : AddressSpace)
    (userAddress hostAddress size : UInt64) :
    (addAddressSpaceMapping addressSpaceInfo userAddress hostAddress size).2 = addressSpaceInfo ∨
    (addAddressSpaceMapping addressSpaceInfo userAddress hostAddress size).2.mappings =
        addressSpaceInfo.mappings ++ [⟨userAddress, hostAddress, size⟩] ∧
      userAddress.toNat + size.toNat < 2 ^ 64 ∧ hostAddress.toNat + size.toNat < 2 ^ 64 ∧
      ∀ existing ∈ addressSpaceInfo.mappings,
        rangesOverlap userAddress size existing.userAddress existing.size = false := by
  unfold addAddressSpaceMapping
  split
  · exact .inl rfl
  rename_i hvalid
  simp only [Bool.or_eq_true, Bool.not_eq_true', not_or, Bool.not_eq_false] at hvalid
  split
  · exact .inl rfl
  split
  · exact .inl rfl
  rename_i hfree
  refine .inr ⟨rfl, isValidAddressRange_bound hvalid.1, isValidAddressRange_bound hvalid.2, ?_⟩
  intro existing hmem
  rw [Bool.eq_false_iff]
  exact fun hoverlap => hfree (List.any_eq_true.mpr ⟨existing, hmem, hoverlap⟩)

/-- No mapping of a built address space wraps, on either side. -/
theorem BuiltAddressSpace.bounds {addressSpaceInfo : AddressSpace}
    (h : BuiltAddressSpace addressSpaceInfo) :
    ∀ mapping ∈ addressSpaceInfo.mappings,
      mapping.userAddress.toNat + mapping.size.toNat < 2 ^ 64 ∧
        mapping.hostAddress.toNat + mapping.size.toNat < 2 ^ 64 := by
  induction h with
  | empty archRootTable => simp
  | @add before userAddress hostAddress size _ ih =>
    rcases addAddressSpaceMapping_cases before userAddress hostAddress size with
      hsame | ⟨hadded, huser, hhost, _⟩
    · rw [hsame]
      exact ih
    · intro mapping hmem
      rw [hadded] at hmem
      rcases List.mem_append.mp hmem with hold | hnew
      · exact ih mapping hold
      · obtain rfl := List.mem_singleton.mp hnew
        exact ⟨huser, hhost⟩

/-- A found mapping holds the address. -/
theorem findAddressSpaceMapping_some {addressSpaceInfo : AddressSpace}
    (hbuilt : BuiltAddressSpace addressSpaceInfo) {userAddress : UInt64}
    {mapping : AddressSpaceMapping}
    (h : findAddressSpaceMapping addressSpaceInfo userAddress false = some mapping) :
    mapping ∈ addressSpaceInfo.mappings ∧ mapping.userAddress.toNat ≤ userAddress.toNat ∧
      userAddress.toNat < mapping.userAddress.toNat + mapping.size.toNat := by
  have hmem := List.mem_of_find?_eq_some h
  have htest := List.find?_some h
  have hbound := (hbuilt.bounds mapping hmem).1
  simp only [Bool.and_eq_true, Bool.not_eq_true', decide_eq_false_iff_not, decide_eq_true_eq,
    Bool.false_and, Bool.or_false, UInt64.lt_iff_toNat_lt, UInt64.toNat_add] at htest
  rw [Nat.mod_eq_of_lt hbound] at htest
  exact ⟨hmem, by omega, htest.2⟩

/-- The user address at some distance into a range that does not wrap. -/
theorem exists_toNat_add {userAddress : UInt64} {offset : Nat}
    (h : userAddress.toNat + offset < 2 ^ 64) :
    ∃ address : UInt64, address.toNat = userAddress.toNat + offset :=
  ⟨UInt64.ofNat (userAddress.toNat + offset), UInt64.toNat_ofNat_of_lt' h⟩

/-- A translated chunk stays inside one mapping. -/
theorem tryTranslateAddressSpaceChunk_backs {addressSpaceInfo : AddressSpace}
    (hbuilt : BuiltAddressSpace addressSpaceInfo)
    {userAddress requestedLength hostAddress translatedLength : UInt64}
    (hlength : requestedLength ≠ 0)
    (h : tryTranslateAddressSpaceChunk addressSpaceInfo userAddress requestedLength =
      some (hostAddress, translatedLength)) :
    translatedLength.toNat ≤ requestedLength.toNat ∧
      userAddress.toNat + translatedLength.toNat < 2 ^ 64 ∧
      ∀ address, InRange hostAddress translatedLength.toNat address →
        BacksRange addressSpaceInfo userAddress.toNat
          (userAddress.toNat + translatedLength.toNat) address := by
  have hzero : (requestedLength == 0) = false := by simpa using hlength
  unfold tryTranslateAddressSpaceChunk at h
  rw [hzero] at h
  split at h
  · cases h
  rename_i mapping hfind
  dsimp only at h
  split at h
  · cases h
  split at h
  · cases h
  obtain ⟨hmem, hlow, hhigh⟩ := findAddressSpaceMapping_some hbuilt hfind
  obtain ⟨huser, hhost⟩ := hbuilt.bounds mapping hmem
  have hoffset : (userAddress - mapping.userAddress).toNat =
      userAddress.toNat - mapping.userAddress.toNat :=
    UInt64.toNat_sub_of_le _ _ (UInt64.le_iff_toNat_le.mpr hlow)
  have havailable : (mapping.size - (userAddress - mapping.userAddress)).toNat =
      mapping.size.toNat - (userAddress.toNat - mapping.userAddress.toNat) := by
    rw [UInt64.toNat_sub_of_le _ _ (UInt64.le_iff_toNat_le.mpr (by omega)), hoffset]
  simp only [Option.some.injEq, Prod.mk.injEq] at h
  obtain ⟨rfl, rfl⟩ := h
  have hhostAddress : (mapping.hostAddress + (userAddress - mapping.userAddress)).toNat =
      mapping.hostAddress.toNat + (userAddress.toNat - mapping.userAddress.toNat) := by
    rw [UInt64.toNat_add, hoffset]
    omega
  -- The chunk is cut to what is left of the mapping.
  generalize htranslated : (if requestedLength = 0 ∨
      requestedLength ≤ mapping.size - (userAddress - mapping.userAddress) then requestedLength
    else mapping.size - (userAddress - mapping.userAddress)) = translated
  have hcut : translated.toNat ≤ requestedLength.toNat ∧ translated.toNat ≤
      mapping.size.toNat - (userAddress.toNat - mapping.userAddress.toNat) := by
    rw [← havailable, ← htranslated]
    simp only [hlength, false_or]
    split
    · rename_i hle
      exact ⟨le_refl _, UInt64.le_iff_toNat_le.mp hle⟩
    · rename_i hlt
      rw [UInt64.le_iff_toNat_le] at hlt
      exact ⟨by omega, le_refl _⟩
  refine ⟨hcut.1, by omega, fun address haddress => ?_⟩
  obtain ⟨offset, hin, haddress⟩ := haddress.toNat_eq (by omega)
  have hfit : userAddress.toNat + offset < 2 ^ 64 := by omega
  obtain ⟨user, huserOffset⟩ := exists_toNat_add hfit
  exact ⟨user, by omega, by omega, mapping, hmem, by omega, by omega, by omega⟩

/-- A length that fits a word is zero as a word only when it is zero. -/
theorem toUInt64_ne_zero {length : Nat} (hpos : 0 < length) (hfit : length < 2 ^ 64) :
    length.toUInt64 ≠ 0 := by
  intro hzero
  have hlength : length.toUInt64.toNat = length := UInt64.toNat_ofNat_of_lt' hfit
  rw [hzero] at hlength
  exact absurd hlength (Nat.ne_of_lt hpos)

/-- `write_user_bytes` changes only bytes behind the range it was asked to write. -/
theorem writeUserBytesLoop_changes {addressSpaceInfo : AddressSpace}
    (hbuilt : BuiltAddressSpace addressSpaceInfo) (fuel : Nat) {memory : ByteMemory}
    {userAddress : UInt64} {buffer : List UInt8} (hfit : buffer.length < 2 ^ 64)
    {address : UInt64}
    (h : (writeUserBytesLoop addressSpaceInfo fuel memory userAddress buffer).2 address ≠
      memory address) :
    BacksRange addressSpaceInfo userAddress.toNat (userAddress.toNat + buffer.length)
      address := by
  induction fuel generalizing memory userAddress buffer with
  | zero => cases buffer <;> exact absurd rfl h
  | succ fuel ih =>
    cases buffer with
    | nil => exact absurd rfl h
    | cons byte rest =>
      generalize hbuffer : byte :: rest = buffer at h hfit
      have hpos : 0 < buffer.length := by simp [← hbuffer]
      simp only [← hbuffer, writeUserBytesLoop] at h
      rw [hbuffer] at h
      split at h
      · exact absurd rfl h
      rename_i hostAddress translatedLength htranslate
      split at h
      · exact absurd rfl h
      have hlength : buffer.length.toUInt64.toNat = buffer.length :=
        UInt64.toNat_ofNat_of_lt' hfit
      have hrequested := toUInt64_ne_zero hpos hfit
      obtain ⟨hcut, hnowrap, hbacks⟩ :=
        tryTranslateAddressSpaceChunk_backs hbuilt hrequested htranslate
      rw [hlength] at hcut
      have htake : (buffer.take translatedLength.toNat).length = translatedLength.toNat := by
        rw [List.length_take]
        omega
      by_cases hchunk : InRange hostAddress translatedLength.toNat address
      · exact (hbacks address hchunk).mono (le_refl _) (by omega)
      · -- This chunk leaves the byte alone, so a later one changes it.
        have hkeep : storeBytes memory hostAddress (buffer.take translatedLength.toNat) address =
            memory address :=
          storeBytes_of_not_inRange (by omega) (by rwa [htake])
        rw [← hkeep] at h
        have hrest := ih (by rw [List.length_drop]; omega) h
        have hnext : (userAddress + translatedLength).toNat =
            userAddress.toNat + translatedLength.toNat := by
          rw [UInt64.toNat_add]
          omega
        rw [hnext, List.length_drop] at hrest
        exact hrest.mono (by omega) (by omega)

/-- `copy_between_user_processes` changes only bytes behind its destination range. -/
theorem copyBetweenUserProcessesLoop_changes {source destination : AddressSpace}
    (hsource : BuiltAddressSpace source) (hbuilt : BuiltAddressSpace destination) (fuel : Nat)
    {memory : ByteMemory} {sourceAddress destinationAddress size address : UInt64}
    (h : (copyBetweenUserProcessesLoop source destination fuel memory sourceAddress
      destinationAddress size).2 address ≠ memory address) :
    BacksRange destination destinationAddress.toNat (destinationAddress.toNat + size.toNat)
      address := by
  induction fuel generalizing memory sourceAddress destinationAddress size with
  | zero => exact absurd rfl h
  | succ fuel ih =>
    simp only [copyBetweenUserProcessesLoop] at h
    split at h
    · exact absurd rfl h
    rename_i hsize
    split at h
    · exact absurd rfl h
    rename_i sourceHost sourceLength hsourceChunk
    split at h
    · exact absurd rfl h
    rename_i hsourceLength
    split at h
    · exact absurd rfl h
    rename_i destinationHost destinationLength hdestinationChunk
    split at h
    · exact absurd rfl h
    obtain ⟨hsourceCut, _, _⟩ := tryTranslateAddressSpaceChunk_backs hsource hsize hsourceChunk
    obtain ⟨hcut, hnowrap, hbacks⟩ :=
      tryTranslateAddressSpaceChunk_backs hbuilt hsourceLength hdestinationChunk
    by_cases hchunk : InRange destinationHost destinationLength.toNat address
    · exact (hbacks address hchunk).mono (le_refl _) (by omega)
    · have hkeep : copyBytes memory destinationHost sourceHost destinationLength.toNat address =
          memory address :=
        copyBytes_of_not_inRange destinationLength.toNat_lt hchunk
      rw [← hkeep] at h
      have hrest := ih h
      have hnext : (destinationAddress + destinationLength).toNat =
          destinationAddress.toNat + destinationLength.toNat := by
        rw [UInt64.toNat_add]
        omega
      have hleft : (size - destinationLength).toNat = size.toNat - destinationLength.toNat :=
        UInt64.toNat_sub_of_le _ _ (UInt64.le_iff_toNat_le.mpr (by omega))
      rw [hnext, hleft] at hrest
      exact hrest.mono (by omega) (by omega)

/-- `align_down` to 16 rounds down by less than 16. -/
theorem alignDown_le (value : UInt64) : (alignDown value 16).toNat ≤ value.toNat := by
  simp only [alignDown, show (16 : UInt64) ≠ 0 by decide, if_false]
  rw [UInt64.toNat_and]
  exact Nat.and_le_left

/-- The part of the server's stack that a request may use. -/
def requestLow (stackPointer requestSize : UInt64) : Nat :=
  (alignDown (stackPointer - requestSize) 16).toNat - 8

/-- `prepare_server_thread` changes only bytes behind the stack range below the server's saved
stack pointer. -/
theorem deliverRequest_changes (arch : Arch) {server client : AddressSpace}
    (hserver : BuiltAddressSpace server) (hclient : BuiltAddressSpace client)
    {memory : ByteMemory} {completionAddress stackPointer requestAddress requestSize : UInt64}
    (hsize : requestSize ≤ rpcMaxRequestSize) {address : UInt64}
    (h : (UserRuntime.deliverRequest arch server client memory completionAddress stackPointer requestAddress
      requestSize).2.1 address ≠ memory address) :
    BacksRange server (requestLow stackPointer requestSize) stackPointer.toNat address := by
  have halign := alignDown_le (stackPointer - requestSize)
  have hmax : requestSize.toNat ≤ 256 := UInt64.le_iff_toNat_le.mp hsize
  have hcopy : requestSize.toNat ≤ stackPointer.toNat →
      ∀ fuel, (copyBetweenUserProcessesLoop client server fuel memory requestAddress
        (alignDown (stackPointer - requestSize) 16) requestSize).2 address ≠ memory address →
      BacksRange server (requestLow stackPointer requestSize) stackPointer.toNat address := by
    intro hle fuel hchange
    rw [UInt64.toNat_sub_of_le _ _ (UInt64.le_iff_toNat_le.mpr hle)] at halign
    exact (copyBetweenUserProcessesLoop_changes hclient hserver fuel hchange).mono
      (by unfold requestLow; omega) (by omega)
  cases arch with
  | x64 =>
    simp only [UserRuntime.deliverRequest] at h
    split at h
    · exact absurd rfl h
    rename_i hstack
    have hroom : requestSize.toNat + 8 < stackPointer.toNat := by
      rw [UInt64.le_iff_toNat_le, UInt64.toNat_add, show (8 : UInt64).toNat = 8 from rfl] at hstack
      omega
    split at h
    · exact absurd rfl h
    rename_i hlow
    split at h
    · exact hcopy (by omega) _ h
    · -- Either the return address has changed the byte or the request before it.
      by_cases hrequest : (copyBetweenUserProcesses client server memory requestAddress
          (alignDown (stackPointer - requestSize) 16) requestSize).2 address = memory address
      · rw [← hrequest] at h
        have hlow' : 8 < (alignDown (stackPointer - requestSize) 16).toNat := by
          rw [UInt64.le_iff_toNat_le] at hlow
          exact Nat.lt_of_not_le hlow
        have hlow8 : 8 ≤ alignDown (stackPointer - requestSize) 16 :=
          UInt64.le_iff_toNat_le.mpr hlow'.le
        have hreturn := writeUserBytesLoop_changes hserver _ (by simp) h
        rw [UInt64.toNat_sub_of_le _ _ hlow8, length_toLittleEndian, show (8 : UInt64).toNat = 8 from rfl] at hreturn
        rw [UInt64.toNat_sub_of_le _ _ (UInt64.le_iff_toNat_le.mpr (by omega))] at halign
        exact hreturn.mono (le_refl _) (by omega)
      · exact hcopy (by omega) _ hrequest
  | arm64 =>
    simp only [UserRuntime.deliverRequest] at h
    split at h
    · exact absurd rfl h
    rename_i hstack
    have hroom : requestSize.toNat < stackPointer.toNat := by
      rw [UInt64.le_iff_toNat_le] at hstack
      omega
    exact hcopy hroom.le _ h

namespace UserRuntime

variable {runtime : UserRuntime}

/-- Every process's address space was built mapping by mapping. -/
def BuiltSpaces (runtime : UserRuntime) : Prop :=
  ∀ ref process, runtime.processes.items ref = some process →
    BuiltAddressSpace process.addressSpaceInfo

theorem BuiltSpaces.process (h : BuiltSpaces runtime) (ref : ProcessRef) :
    BuiltAddressSpace (runtime.process ref).addressSpaceInfo := by
  unfold UserRuntime.process KernelObjectPool.get
  cases hitem : runtime.processes.items ref with
  | none => exact .empty 0
  | some process => exact h ref process hitem

/-- The user stack pointer saved for a thread when `active` traps with `context`. -/
def savedStackPointer (runtime : UserRuntime) (active : ThreadRef) (context : UserSyscallContext)
    (server : ThreadRef) : UInt64 :=
  ((runtime.enterSyscall active context).thread server).userContext.stackPointer

/-- The host bytes that a syscall of `active` may change. -/
def MayWrite (runtime : UserRuntime) (active : ThreadRef) (context : UserSyscallContext)
    (address : UInt64) : Prop :=
  match Syscall.ofNumber context.syscallNumber with
  | some .rpcOpen =>
    BacksRange (runtime.process (runtime.thread active).process).addressSpaceInfo
      context.argument1.toNat (context.argument1.toNat + 8) address
  | some .rpcCall =>
    ∃ ref server serverProcess, runtime.resolveCall active context = .ok (ref, server) ∧
      (runtime.endpointOf ref).ownerProcess = some serverProcess ∧
      BacksRange (runtime.process serverProcess).addressSpaceInfo
        (requestLow (runtime.savedStackPointer active context server) context.argument2)
        (runtime.savedStackPointer active context server).toNat address
  | _ => False

theorem rpcOpen_changes (hbuilt : BuiltSpaces runtime) {active : ThreadRef}
    {context : UserSyscallContext} {address : UInt64}
    (h : (runtime.rpcOpen active context).2.memory address ≠ runtime.memory address) :
    BacksRange (runtime.process (runtime.thread active).process).addressSpaceInfo
      context.argument1.toNat (context.argument1.toNat + 8) address := by
  unfold rpcOpen at h
  dsimp only at h
  split at h
  · exact absurd rfl h
  split at h
  · exact absurd rfl h
  split at h
  · exact absurd rfl h
  split at h
  · exact absurd rfl h
  split at h
  · exact absurd rfl h
  split at h
  · exact absurd rfl h
  split at h <;>
    simpa using writeUserBytesLoop_changes (hbuilt.process _) _ (by simp) h

/-- `prepare_server_thread` writes memory only to deliver an admissible request. -/
theorem prepareServerThread_memory (arch : Arch) (runtime : UserRuntime) (endpoint : RpcEndpoint)
    (server : ThreadRef) (clientProcess : ProcessRef) (clientRequestAddress requestSize : UInt64) :
    (runtime.prepareServerThread arch endpoint server clientProcess clientRequestAddress
      requestSize).2.memory = runtime.memory ∨
    ∃ serverProcess, endpoint.ownerProcess = some serverProcess ∧
      requestSize ≤ rpcMaxRequestSize ∧
      (runtime.prepareServerThread arch endpoint server clientProcess clientRequestAddress
        requestSize).2.memory =
        (deliverRequest arch (runtime.process serverProcess).addressSpaceInfo
          (runtime.process clientProcess).addressSpaceInfo runtime.memory
          endpoint.completionAddress (runtime.thread server).userContext.stackPointer
          clientRequestAddress requestSize).2.1 := by
  unfold prepareServerThread
  split
  · exact .inl rfl
  rename_i serverProcess howner
  split
  · exact .inl rfl
  rename_i hsize
  split
  · exact .inl rfl
  dsimp only
  split
  · exact .inl rfl
  have hmax : requestSize ≤ rpcMaxRequestSize := by
    rw [UInt64.le_iff_toNat_le]
    by_contra hgt
    exact hsize (.inr (.inr (UInt64.lt_iff_toNat_lt.mpr (Nat.lt_of_not_le hgt))))
  refine .inr ⟨serverProcess, howner, hmax, ?_⟩
  split <;> rfl

theorem rpcCall_changes (arch : Arch) (hbuilt : BuiltSpaces runtime) {active : ThreadRef}
    {context : UserSyscallContext} {address : UInt64}
    (h : (runtime.rpcCall arch active context).2.memory address ≠ runtime.memory address) :
    ∃ ref server serverProcess, runtime.resolveCall active context = .ok (ref, server) ∧
      (runtime.endpointOf ref).ownerProcess = some serverProcess ∧
      BacksRange (runtime.process serverProcess).addressSpaceInfo
        (requestLow (runtime.thread server).userContext.stackPointer context.argument2)
        (runtime.thread server).userContext.stackPointer.toNat address := by
  unfold rpcCall at h
  cases hresolve : runtime.resolveCall active context with
  | error status =>
    rw [hresolve] at h
    exact absurd rfl h
  | ok target =>
    obtain ⟨ref, server⟩ := target
    rw [hresolve] at h
    dsimp only at h
    have hprepared : (runtime.prepareServerThread arch (runtime.endpointOf ref) server
        (runtime.thread active).process context.argument1 context.argument2).2.memory address ≠
          runtime.memory address := by
      unfold endpointOf
      split at h
      · exact h
      split at h
      · rw [setCurrentThread_memory] at h
        exact h
      · exact h
    rcases prepareServerThread_memory arch runtime (runtime.endpointOf ref) server
      (runtime.thread active).process context.argument1 context.argument2 with
      hsame | ⟨serverProcess, howner, hsize, hmemory⟩
    · rw [hsame] at hprepared
      exact absurd rfl hprepared
    · rw [hmemory] at hprepared
      exact ⟨ref, server, serverProcess, rfl, howner, deliverRequest_changes arch
        (hbuilt.process serverProcess) (hbuilt.process _) hsize hprepared⟩

theorem terminateCurrentThread_memory (arch : Arch) (runtime : UserRuntime) (exitStatus : UInt64)
    (peerFailureStatus : Int32) :
    (runtime.terminateCurrentThread arch exitStatus peerFailureStatus).2.memory =
      runtime.memory := by
  rw [terminateCurrentThread_eq]

/-- The syscalls other than `RPC_OPEN` and `RPC_CALL` write no memory. -/
theorem outcome_memory {arch : Arch} {active : ThreadRef} {context : UserSyscallContext}
    {result : Int32 × UserRuntime} (h : SyscallOutcome arch runtime active context result)
    (hopen : Syscall.ofNumber context.syscallNumber ≠ some .rpcOpen)
    (hcall : Syscall.ofNumber context.syscallNumber ≠ some .rpcCall) :
    result.2.memory = runtime.memory := by
  cases h with
  | kept status memory debugLog _ _ hmemory => exact hmemory hcall
  | exited _ => exact terminateCurrentThread_memory arch runtime _ _
  | registered ref endpointName _ _ => rfl
  | yielded ref endpointName nextThread _ _ _ _ => exact setCurrentThread_memory _ _
  | opened _ _ _ _ _ _ _ hsyscall _ _ _ _ => exact absurd hsyscall hopen
  | openFailed _ _ _ _ _ _ hsyscall _ _ => exact absurd hsyscall hopen
  | called _ _ _ _ _ hsyscall _ _ => exact absurd hsyscall hcall
  | calledSelf _ _ _ _ hsyscall _ => exact absurd hsyscall hcall
  | closed ref _ _ _ => rfl
  | completed ref call _ _ _ _ => exact setCurrentThread_memory _ _
  | completedSelf ref call _ _ _ _ => rfl

/-- Over built address spaces a syscall changes only bytes that it may write, whatever its
outcome. -/
theorem mayWrite_of_changed (arch : Arch) (hbuilt : BuiltSpaces runtime) {active : ThreadRef}
    (hcurrent : runtime.currentThread = some active) (context : UserSyscallContext)
    {address : UInt64}
    (h : (runtime.dispatchSyscall arch context).2.memory address ≠ runtime.memory address) :
    runtime.MayWrite active context address := by
  simp only [dispatchSyscall, hcurrent] at h
  have hentered : BuiltSpaces (runtime.enterSyscall active context) := hbuilt
  by_cases hopen : Syscall.ofNumber context.syscallNumber = some .rpcOpen
  · simp only [dispatchActive, hopen] at h
    have hrange := rpcOpen_changes hentered h
    have hprocess : ((runtime.enterSyscall active context).thread active).process =
        (runtime.thread active).process :=
      thread_enterSyscall_keeps Thread.process (fun _ _ => rfl) active
    rw [hprocess] at hrange
    simp only [MayWrite, hopen]
    exact hrange
  by_cases hcall : Syscall.ofNumber context.syscallNumber = some .rpcCall
  · simp only [dispatchActive, hcall] at h
    obtain ⟨ref, server, serverProcess, hresolve, howner, hrange⟩ :=
      rpcCall_changes arch hentered h
    rw [resolveCall_enterSyscall] at hresolve
    simp only [MayWrite, hcall]
    exact ⟨ref, server, serverProcess, hresolve, howner, hrange⟩
  · have hsame := outcome_memory (dispatchActive_outcome arch
      (runtime.enterSyscall active context) active context) hopen hcall
    rw [hsame] at h
    exact absurd rfl h

/-- A byte that a syscall may write is behind a user address of some process. -/
theorem backs_of_mayWrite {active : ThreadRef} {context : UserSyscallContext} {address : UInt64}
    (h : runtime.MayWrite active context address) :
    ∃ ref userAddress, Backs (runtime.process ref).addressSpaceInfo userAddress address := by
  unfold MayWrite at h
  split at h
  · obtain ⟨userAddress, -, -, hbacks⟩ := h
    exact ⟨_, userAddress, hbacks⟩
  · obtain ⟨_, _, serverProcess, -, -, userAddress, -, -, hbacks⟩ := h
    exact ⟨serverProcess, userAddress, hbacks⟩
  · cases h

/-- A syscall creates no process and changes none. -/
theorem outcome_processes {arch : Arch} {active : ThreadRef} {context : UserSyscallContext}
    {result : Int32 × UserRuntime} (h : SyscallOutcome arch runtime active context result) :
    result.2.processes = runtime.processes := by
  cases h with
  | kept => rfl
  | exited =>
    dsimp only
    rw [terminateCurrentThread_eq]
  | registered => rfl
  | yielded => exact setCurrentThread_processes _ _
  | opened => rfl
  | openFailed => rfl
  | called => exact setCurrentThread_processes _ _
  | calledSelf => rfl
  | closed => rfl
  | completed => exact setCurrentThread_processes _ _
  | completedSelf => rfl

/-- No step creates a process or changes one. -/
theorem act_processes (arch : Arch) (runtime : UserRuntime) (action : Action) :
    (runtime.act arch action).processes = runtime.processes := by
  cases action with
  | syscall context =>
    simp only [act, dispatchSyscall]
    split
    · rfl
    · rename_i active _
      have hkept := outcome_processes (dispatchActive_outcome arch
        (runtime.enterSyscall active context) active context)
      exact hkept
  | terminate exitStatus peerFailureStatus =>
    rw [act, terminateCurrentThread_eq]
  | userStores memory => rfl
  | saveRegisters registers simdQwords =>
    simp only [act, modifyCurrentThread]
    split <;> rfl
  | prepareResume status =>
    simp only [act, modifyCurrentThread]
    split <;> rfl

/-- A process with a built address space joins others of its kind. -/
theorem BuiltSpaces.createProcess (h : BuiltSpaces runtime) (metadata : ProcessMetadata)
    {addressSpaceInfo : AddressSpace} (hspace : BuiltAddressSpace addressSpaceInfo) :
    BuiltSpaces (runtime.createProcess metadata addressSpaceInfo).2 := by
  unfold UserRuntime.createProcess
  split
  · exact h
  · rename_i index processes next hemplace
    obtain ⟨_, hitems, _⟩ := KernelObjectPool.emplace_eq_some hemplace
    intro ref process hitem
    rw [hitems, Function.update_apply] at hitem
    split at hitem
    · obtain rfl := Option.some.inj hitem
      exact hspace
    · exact h ref process hitem

/-- The booted system's process has a built address space. -/
theorem bootStarted_builtSpaces (count : Nat) : BuiltSpaces (bootStarted count) := by
  have hboot : BuiltSpaces (bootRuntime count) := by
    induction count with
    | zero =>
      have hreset : BuiltSpaces (reset bootMemory) := fun _ _ hitem => by cases hitem
      exact hreset.createProcess _ (.add _ _ _ (.empty 0))
    | succ count ih =>
      rw [bootRuntime, createThread]
      split
      · exact ih
      · exact ih
  intro ref process hitem
  rw [bootStarted, setCurrentThread_processes] at hitem
  exact hboot ref process hitem

/-- The bytes that a syscall of the current thread changes, over built address spaces, are among
those it may write, and each lies in the host range of a mapping; that holds for every outcome of
the syscall. -/
theorem dispatchSyscall_confined (arch : Arch) {runtime : UserRuntime}
    (hbuilt : BuiltSpaces runtime) {active : ThreadRef}
    (hcurrent : runtime.currentThread = some active) (context : UserSyscallContext)
    {address : UInt64}
    (h : (runtime.dispatchSyscall arch context).2.memory address ≠ runtime.memory address) :
    runtime.MayWrite active context address ∧
      ∃ ref, ∃ mapping ∈ (runtime.process ref).addressSpaceInfo.mappings,
        mapping.hostAddress.toNat ≤ address.toNat ∧
          address.toNat < mapping.hostAddress.toNat + mapping.size.toNat := by
  have hwrites := mayWrite_of_changed arch hbuilt hcurrent context h
  obtain ⟨ref, userAddress, hbacks⟩ := backs_of_mayWrite hwrites
  exact ⟨hwrites, ref, hbacks.hostRange⟩

/-- A registration leaves the address spaces alone, so the next thread's `RPC_OPEN` is confined:
the handle it writes stands at the address it was given. -/
theorem openedHandle_confined :
    ∃ runtime : UserRuntime, BuiltSpaces runtime ∧ runtime.currentThread = some 1 ∧
      (runtime.dispatchSyscall .x64 ⟨4, 0x1010, 0x1c00, 0x202, 0x1100, 0x1300, 0, 0, 0, 0⟩).2.memory
        0x1300 ≠ runtime.memory 0x1300 ∧
      runtime.MayWrite 1 ⟨4, 0x1010, 0x1c00, 0x202, 0x1100, 0x1300, 0, 0, 0, 0⟩ 0x1300 := by
  have hbuilt : BuiltSpaces ((bootStarted 2).act .x64 (trap 3 0x1100 0x1200 0x1210 0x1800)) :=
    bootStarted_builtSpaces 2
  have hcurrent : ((bootStarted 2).act .x64 (trap 3 0x1100 0x1200 0x1210 0x1800)).currentThread =
      some 1 := by decide +kernel
  have hchange : (((bootStarted 2).act .x64 (trap 3 0x1100 0x1200 0x1210 0x1800)).dispatchSyscall
      .x64 ⟨4, 0x1010, 0x1c00, 0x202, 0x1100, 0x1300, 0, 0, 0, 0⟩).2.memory 0x1300 ≠
        ((bootStarted 2).act .x64 (trap 3 0x1100 0x1200 0x1210 0x1800)).memory 0x1300 := by
    decide +kernel
  exact ⟨_, hbuilt, hcurrent, hchange,
    (dispatchSyscall_confined .x64 hbuilt hcurrent _ hchange).1⟩

end UserRuntime

end Ringos.Kernel
