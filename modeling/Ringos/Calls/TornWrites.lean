import Ringos.Calls.UserStrings

/-!
# What a failed syscall has already written

`write_user_bytes` and `copy_between_user_processes` translate and write chunk
by chunk, so an unmapped tail is found only after the chunks before it have
been written. A failed syscall leaves user memory alone unless its write
straddles the end of what is mapped; on x64 the return slot below a request is
written after the request, so there the slot has to be mapped as well.
-/

namespace Ringos.Kernel

open Ringos.Core

/-- The user address is mapped. -/
def MappedAt (addressSpaceInfo : AddressSpace) (userAddress : UInt64) : Prop :=
  ∃ hostAddress, Translates addressSpaceInfo userAddress hostAddress

/-- Every byte of the range is mapped. -/
def MappedRange (addressSpaceInfo : AddressSpace) (userAddress : UInt64) (length : Nat) : Prop :=
  ∀ i < length, MappedAt addressSpaceInfo (userAddress + UInt64.ofNat i)

theorem mappedRange_zero {addressSpaceInfo : AddressSpace} {userAddress : UInt64} :
    MappedRange addressSpaceInfo userAddress 0 := fun i hi => absurd hi (Nat.not_lt_zero i)

/-- A range is mapped when its two parts are. -/
theorem mappedRange_split {addressSpaceInfo : AddressSpace} {userAddress : UInt64}
    {first length : Nat} (hle : first ≤ length) :
    MappedRange addressSpaceInfo userAddress length ↔
      MappedRange addressSpaceInfo userAddress first ∧
        MappedRange addressSpaceInfo (userAddress + UInt64.ofNat first) (length - first) := by
  have hshift : ∀ i, userAddress + UInt64.ofNat first + UInt64.ofNat i =
      userAddress + UInt64.ofNat (first + i) := by
    intro i
    rw [UInt64.ofNat_add, UInt64.add_assoc]
  constructor
  · intro h
    refine ⟨fun i hi => h i (by omega), fun i hi => ?_⟩
    rw [hshift]
    exact h (first + i) (by omega)
  · rintro ⟨hfirst, hrest⟩ i hi
    by_cases hlow : i < first
    · exact hfirst i hlow
    · have hbehind := hrest (i - first) (by omega)
      rwa [hshift, Nat.add_sub_cancel' (Nat.le_of_not_lt hlow)] at hbehind

/-- A mapped range starts with a mapped byte. -/
theorem MappedRange.head {addressSpaceInfo : AddressSpace} {userAddress : UInt64} {length : Nat}
    (h : MappedRange addressSpaceInfo userAddress length) (hpos : 0 < length) :
    MappedAt addressSpaceInfo userAddress := by
  simpa using h 0 hpos

/-- A chunk is found at a mapped byte, is not empty, and all of it is mapped. -/
theorem tryTranslateAddressSpaceChunk_of_mapped {addressSpaceInfo : AddressSpace}
    (hbuilt : BuiltAddressSpace addressSpaceInfo) {userAddress requestedLength : UInt64}
    (hlength : requestedLength ≠ 0) (hmapped : MappedAt addressSpaceInfo userAddress) :
    ∃ hostAddress translatedLength,
      tryTranslateAddressSpaceChunk addressSpaceInfo userAddress requestedLength =
        some (hostAddress, translatedLength) ∧ translatedLength ≠ 0 ∧
      translatedLength.toNat ≤ requestedLength.toNat ∧
      MappedRange addressSpaceInfo userAddress translatedLength.toNat := by
  obtain ⟨host, mapping, hmem, hhost, hlow, hhigh, _⟩ := hmapped
  obtain ⟨hostAddress, translatedLength, hchunk, _, hcut⟩ :=
    tryTranslateAddressSpaceChunk_of_holds hbuilt hlength hmem hhost ⟨hlow, hhigh⟩
  obtain ⟨huserBound, hhostBound⟩ := hbuilt.bounds mapping hmem
  have hpos : 0 < requestedLength.toNat := by
    rw [Nat.pos_iff_ne_zero]
    exact fun hzero => hlength (UInt64.toNat_inj.mp hzero)
  refine ⟨hostAddress, translatedLength, hchunk, ?_, by omega, fun i hi => ?_⟩
  · rintro rfl
    rw [show (0 : UInt64).toNat = 0 from rfl] at hcut
    omega
  · have hfit : userAddress.toNat + i < 2 ^ 64 := by omega
    have haddress := toNat_add_ofNat hfit
    have hhostFit : mapping.hostAddress.toNat +
        (userAddress.toNat + i - mapping.userAddress.toNat) < 2 ^ 64 := by omega
    obtain ⟨hostByte, hhostByte⟩ := exists_toNat_add hhostFit
    refine ⟨hostByte, mapping, hmem, hhost, ?_, ?_, ?_⟩ <;> omega

/-- No chunk is found at an unmapped byte. -/
theorem tryTranslateAddressSpaceChunk_of_unmapped {addressSpaceInfo : AddressSpace}
    (hbuilt : BuiltAddressSpace addressSpaceInfo) {userAddress requestedLength : UInt64}
    (hlength : requestedLength ≠ 0) (h : ¬ MappedAt addressSpaceInfo userAddress) :
    tryTranslateAddressSpaceChunk addressSpaceInfo userAddress requestedLength = none :=
  (tryTranslateAddressSpaceChunk_eq_none hbuilt hlength).mpr fun host htranslates =>
    h ⟨host, htranslates⟩

/-- A write whose first byte is unmapped writes nothing. -/
theorem writeUserBytes_of_unmapped {addressSpaceInfo : AddressSpace}
    (hbuilt : BuiltAddressSpace addressSpaceInfo) {memory : ByteMemory} {userAddress : UInt64}
    {buffer : List UInt8} (hpos : 0 < buffer.length) (hfit : buffer.length < 2 ^ 64)
    (h : ¬ MappedAt addressSpaceInfo userAddress) :
    writeUserBytes addressSpaceInfo memory userAddress buffer = (Status.fault, memory) := by
  cases buffer with
  | nil => cases hpos
  | cons byte rest =>
    have hlength := toUInt64_ne_zero hpos hfit
    have hchunk := tryTranslateAddressSpaceChunk_of_unmapped hbuilt hlength h
    rw [List.length_cons] at hchunk
    simp only [writeUserBytes, List.length_cons, writeUserBytesLoop, hchunk]

/-- A write succeeds exactly on a mapped range. -/
theorem writeUserBytesLoop_ok_iff {addressSpaceInfo : AddressSpace}
    (hbuilt : BuiltAddressSpace addressSpaceInfo) (fuel : Nat) {memory : ByteMemory}
    {userAddress : UInt64} {buffer : List UInt8} (hfuel : buffer.length ≤ fuel)
    (hfit : buffer.length < 2 ^ 64) :
    (writeUserBytesLoop addressSpaceInfo fuel memory userAddress buffer).1 = Status.ok ↔
      MappedRange addressSpaceInfo userAddress buffer.length := by
  induction fuel generalizing memory userAddress buffer with
  | zero =>
    cases buffer with
    | nil => exact iff_of_true rfl mappedRange_zero
    | cons => cases hfuel
  | succ fuel ih =>
    cases buffer with
    | nil => exact iff_of_true rfl mappedRange_zero
    | cons byte rest =>
      generalize hbuffer : byte :: rest = buffer at hfuel hfit
      have hpos : 0 < buffer.length := by simp [← hbuffer]
      have hnat : buffer.length.toUInt64.toNat = buffer.length :=
        UInt64.toNat_ofNat_of_lt' hfit
      have hlength := toUInt64_ne_zero hpos hfit
      simp only [← hbuffer, writeUserBytesLoop]
      rw [hbuffer]
      by_cases hmapped : MappedAt addressSpaceInfo userAddress
      · obtain ⟨host, translated, hchunk, hne, hle, hrange⟩ :=
          tryTranslateAddressSpaceChunk_of_mapped hbuilt hlength hmapped
        rw [hnat] at hle
        have hstep : translated.toNat ≠ 0 := fun hzero => hne (UInt64.toNat_inj.mp hzero)
        simp only [hchunk, if_neg hne]
        rw [ih (by rw [List.length_drop]; omega) (by rw [List.length_drop]; omega),
          List.length_drop]
        -- The range is the chunk and what is left behind it.
        rw [mappedRange_split hle, UInt64.ofNat_toNat]
        exact ⟨fun hrest => ⟨hrange, hrest⟩, And.right⟩
      · have hfault : Status.fault ≠ Status.ok := by decide
        rw [tryTranslateAddressSpaceChunk_of_unmapped hbuilt hlength hmapped]
        exact iff_of_false hfault fun hall => hmapped (hall.head hpos)

/-- A copy that finds its first byte unmapped on either side copies nothing. -/
theorem copyBetweenUserProcesses_of_unmapped {source destination : AddressSpace}
    (hsource : BuiltAddressSpace source) (hdestination : BuiltAddressSpace destination)
    {memory : ByteMemory} {sourceAddress destinationAddress size : UInt64} (hsize : size ≠ 0)
    (h : ¬ (MappedAt source sourceAddress ∧ MappedAt destination destinationAddress)) :
    copyBetweenUserProcesses source destination memory sourceAddress destinationAddress size =
      (Status.fault, memory) := by
  obtain ⟨fuel, hfuel⟩ : ∃ fuel, size.toNat = fuel + 1 :=
    Nat.exists_eq_succ_of_ne_zero fun hzero => hsize (UInt64.toNat_inj.mp hzero)
  rw [copyBetweenUserProcesses, hfuel]
  simp only [copyBetweenUserProcessesLoop, if_neg hsize]
  by_cases hmapped : MappedAt source sourceAddress
  · obtain ⟨host, translated, hchunk, hne, _, _⟩ :=
      tryTranslateAddressSpaceChunk_of_mapped hsource hsize hmapped
    have hbelow := tryTranslateAddressSpaceChunk_of_unmapped hdestination hne
      fun hdest => h ⟨hmapped, hdest⟩
    simp only [hchunk, if_neg hne, hbelow]
  · rw [tryTranslateAddressSpaceChunk_of_unmapped hsource hsize hmapped]

/-- A copy succeeds exactly between mapped ranges. -/
theorem copyBetweenUserProcessesLoop_ok_iff {source destination : AddressSpace}
    (hsource : BuiltAddressSpace source) (hdestination : BuiltAddressSpace destination)
    (fuel : Nat) {memory : ByteMemory} {sourceAddress destinationAddress size : UInt64}
    (hfuel : size.toNat ≤ fuel) :
    (copyBetweenUserProcessesLoop source destination fuel memory sourceAddress
        destinationAddress size).1 = Status.ok ↔
      MappedRange source sourceAddress size.toNat ∧
        MappedRange destination destinationAddress size.toNat := by
  have hfault : Status.fault ≠ Status.ok := by decide
  induction fuel generalizing memory sourceAddress destinationAddress size with
  | zero =>
    obtain rfl : size = 0 := UInt64.toNat_inj.mp (Nat.le_zero.mp hfuel)
    exact iff_of_true rfl ⟨mappedRange_zero, mappedRange_zero⟩
  | succ fuel ih =>
    simp only [copyBetweenUserProcessesLoop]
    split
    · rename_i hzero
      subst hzero
      exact iff_of_true rfl ⟨mappedRange_zero, mappedRange_zero⟩
    rename_i hsize
    have hpos : 0 < size.toNat :=
      Nat.pos_of_ne_zero fun hzero => hsize (UInt64.toNat_inj.mp hzero)
    by_cases hmapped : MappedAt source sourceAddress
    swap
    · rw [tryTranslateAddressSpaceChunk_of_unmapped hsource hsize hmapped]
      exact iff_of_false hfault fun hall => hmapped (hall.1.head hpos)
    obtain ⟨sourceHost, sourceLength, hsourceChunk, hsourceLength, hsourceLe, hsourceRange⟩ :=
      tryTranslateAddressSpaceChunk_of_mapped hsource hsize hmapped
    simp only [hsourceChunk, if_neg hsourceLength]
    by_cases hmapped' : MappedAt destination destinationAddress
    swap
    · rw [tryTranslateAddressSpaceChunk_of_unmapped hdestination hsourceLength hmapped']
      exact iff_of_false hfault fun hall => hmapped' (hall.2.head hpos)
    obtain ⟨destinationHost, length, hchunk, hlength, hle, hrange⟩ :=
      tryTranslateAddressSpaceChunk_of_mapped hdestination hsourceLength hmapped'
    simp only [hchunk, if_neg hlength]
    have hstep : length.toNat ≠ 0 := fun hzero => hlength (UInt64.toNat_inj.mp hzero)
    have hcut : length.toNat ≤ size.toNat := hle.trans hsourceLe
    have hleft : (size - length).toNat = size.toNat - length.toNat :=
      UInt64.toNat_sub_of_le _ _ (UInt64.le_iff_toNat_le.mpr hcut)
    have hfuel' : (size - length).toNat ≤ fuel := by omega
    refine (ih hfuel').trans ?_
    rw [hleft, mappedRange_split hcut, mappedRange_split hcut, UInt64.ofNat_toNat]
    have hsourcePart := ((mappedRange_split hle).mp hsourceRange).1
    exact ⟨fun h => ⟨⟨hsourcePart, h.1⟩, hrange, h.2⟩, fun h => ⟨h.1.2, h.2.2⟩⟩

/-- The checks of `prepare_server_thread` on the server's stack. -/
def StackRoom : Arch → UInt64 → UInt64 → Prop
  | .x64, stackPointer, size =>
    ¬ stackPointer ≤ size + 8 ∧ ¬ alignDown (stackPointer - size) 16 ≤ 8
  | .arm64, stackPointer, size => ¬ stackPointer ≤ size

/-- A delivery that has written when it fails: the request, or the window it goes to, starts
mapped and ends unmapped, or the request is copied and the return slot below it is not mapped. -/
inductive TornDelivery (arch : Arch) (server client : AddressSpace)
    (stackPointer requestAddress size : UInt64) : Prop
  | request : StackRoom arch stackPointer size → MappedAt client requestAddress →
      MappedAt server (alignDown (stackPointer - size) 16) →
      ¬ (MappedRange client requestAddress size.toNat ∧
        MappedRange server (alignDown (stackPointer - size) 16) size.toNat) →
      TornDelivery arch server client stackPointer requestAddress size
  | returnSlot : arch = .x64 → StackRoom arch stackPointer size →
      MappedRange client requestAddress size.toNat →
      MappedRange server (alignDown (stackPointer - size) 16) size.toNat →
      ¬ MappedRange server (alignDown (stackPointer - size) 16 - 8) 8 →
      TornDelivery arch server client stackPointer requestAddress size

section Delivery

variable {server client : AddressSpace} {memory : ByteMemory}
  {completionAddress stackPointer requestAddress size : UInt64}

/-- The copy of a request succeeds exactly between mapped ranges. -/
theorem copyRequest_ok_iff (hserver : BuiltAddressSpace server)
    (hclient : BuiltAddressSpace client) (memory : ByteMemory) (destination : UInt64) :
    (copyBetweenUserProcesses client server memory requestAddress destination size).1 =
        Status.ok ↔
      MappedRange client requestAddress size.toNat ∧ MappedRange server destination size.toNat :=
  copyBetweenUserProcessesLoop_ok_iff hclient hserver size.toNat (le_refl _)

/-- A delivery that is not torn leaves memory alone when it fails. -/
theorem deliverRequest_kept (arch : Arch) (hserver : BuiltAddressSpace server)
    (hclient : BuiltAddressSpace client) (hsize : size ≠ 0)
    (htorn : ¬ TornDelivery arch server client stackPointer requestAddress size)
    (hfailed : (UserRuntime.deliverRequest arch server client memory completionAddress
      stackPointer requestAddress size).1 ≠ Status.ok) :
    (UserRuntime.deliverRequest arch server client memory completionAddress stackPointer
      requestAddress size).2.1 = memory := by
  -- A copy that fails has copied nothing, or the delivery is torn.
  have hcopy : StackRoom arch stackPointer size →
      (copyBetweenUserProcesses client server memory requestAddress
        (alignDown (stackPointer - size) 16) size).1 ≠ Status.ok →
      (copyBetweenUserProcesses client server memory requestAddress
        (alignDown (stackPointer - size) 16) size).2 = memory := by
    intro hroom hstatus
    by_cases hmapped : MappedAt client requestAddress ∧
        MappedAt server (alignDown (stackPointer - size) 16)
    · rw [ne_eq, copyRequest_ok_iff hserver hclient memory] at hstatus
      exact absurd (.request hroom hmapped.1 hmapped.2 hstatus) htorn
    · rw [copyBetweenUserProcesses_of_unmapped hclient hserver hsize hmapped]
  cases arch with
  | x64 =>
    simp only [UserRuntime.deliverRequest] at hfailed ⊢
    split at hfailed
    · rename_i hstack
      rw [if_pos hstack]
    rename_i hstack
    rw [if_neg hstack]
    split at hfailed
    · rename_i hlow
      rw [if_pos hlow]
    rename_i hlow
    rw [if_neg hlow]
    split at hfailed
    · rename_i hstatus
      rw [if_pos hstatus]
      exact hcopy ⟨hstack, hlow⟩ hstatus
    · rename_i hstatus
      obtain ⟨hsource, hwindow⟩ :=
        (copyRequest_ok_iff hserver hclient memory _).mp (not_not.mp hstatus)
      have hslot := (writeUserBytesLoop_ok_iff hserver _ (le_refl _) (by simp)).not.mp hfailed
      rw [length_toLittleEndian] at hslot
      exact absurd (.returnSlot rfl ⟨hstack, hlow⟩ hsource hwindow hslot) htorn
  | arm64 =>
    simp only [UserRuntime.deliverRequest] at hfailed ⊢
    split at hfailed
    · rename_i hstack
      rw [if_pos hstack]
    · rename_i hstack
      rw [if_neg hstack]
      exact hcopy hstack hfailed

/-- A torn delivery fails. -/
theorem TornDelivery.fault {arch : Arch} (hserver : BuiltAddressSpace server)
    (hclient : BuiltAddressSpace client)
    (h : TornDelivery arch server client stackPointer requestAddress size) :
    (UserRuntime.deliverRequest arch server client memory completionAddress stackPointer
      requestAddress size).1 = Status.fault := by
  refine (UserRuntime.deliverRequest_status _ _ _ _ _ _ _ _).resolve_left fun hok => ?_
  cases h with
  | request hroom _ _ hpart =>
    rw [← copyRequest_ok_iff hserver hclient memory] at hpart
    cases arch with
    | x64 =>
      simp only [UserRuntime.deliverRequest, if_neg hroom.1, if_neg hroom.2, if_pos hpart] at hok
      exact hpart hok
    | arm64 =>
      simp only [UserRuntime.deliverRequest, if_neg hroom] at hok
      exact hpart hok
  | returnSlot harch hroom hsource hwindow hslot =>
    subst harch
    have hstatus := (copyRequest_ok_iff hserver hclient memory _).mpr ⟨hsource, hwindow⟩
    simp only [UserRuntime.deliverRequest, if_neg hroom.1, if_neg hroom.2,
      if_neg (not_not.mpr hstatus)] at hok
    have hall := (writeUserBytesLoop_ok_iff hserver _ (le_refl _) (by simp)).mp hok
    rw [length_toLittleEndian] at hall
    exact hslot hall

/-- A torn delivery has found a stack. -/
theorem TornDelivery.stackPointer_ne_zero {arch : Arch}
    (h : TornDelivery arch server client stackPointer requestAddress size) :
    stackPointer ≠ 0 := by
  have hroom : StackRoom arch stackPointer size := by
    cases h with
    | request hroom _ _ _ => exact hroom
    | returnSlot _ hroom _ _ _ => exact hroom
  rintro rfl
  cases arch with
  | x64 => exact hroom.1 (UInt64.le_iff_toNat_le.mpr (Nat.zero_le _))
  | arm64 => exact hroom (UInt64.le_iff_toNat_le.mpr (Nat.zero_le _))

end Delivery

namespace UserRuntime

variable {runtime : UserRuntime} {active : ThreadRef} {context : UserSyscallContext}

/-- The address space of the thread's process. -/
def spaceOf (runtime : UserRuntime) (t : ThreadRef) : AddressSpace :=
  (runtime.process (runtime.thread t).process).addressSpaceInfo

/-- A syscall that has written user memory when it fails: it passes every check before its write,
and the write is torn. -/
inductive Torn (arch : Arch) (runtime : UserRuntime) (active : ThreadRef)
    (context : UserSyscallContext) : Prop
  | handle (endpointName : List UInt8) (e : EndpointRef) (server : ThreadRef) :
      Syscall.ofNumber context.syscallNumber = some .rpcOpen →
      context.argument0 ≠ 0 → context.argument1 ≠ 0 →
      copyUserString (runtime.spaceOf active) runtime.memory context.argument0
        rpcEndpointNameBufferSize = (Status.ok, endpointName) →
      runtime.findEndpointByName endpointName = some e →
      (runtime.endpoints e).ownerThread = some server →
      (runtime.thread server).state ≠ .exited → (∃ c, runtime.channels.items c = none) →
      MappedAt (runtime.spaceOf active) context.argument1 →
      ¬ MappedRange (runtime.spaceOf active) context.argument1 8 →
      Torn arch runtime active context
  | delivery (ref : ChannelRef) (server : ThreadRef) (serverProcess : ProcessRef) :
      Syscall.ofNumber context.syscallNumber = some .rpcCall →
      runtime.resolveCall active context = .ok (ref, server) →
      (runtime.endpointOf ref).ownerProcess = some serverProcess →
      (runtime.endpointOf ref).callbackAddress ≠ 0 →
      (runtime.endpointOf ref).completionAddress ≠ 0 →
      runtime.validateUserRange serverProcess (runtime.endpointOf ref).callbackAddress 1 = true →
      runtime.validateUserRange serverProcess (runtime.endpointOf ref).completionAddress 1 =
        true →
      TornDelivery arch (runtime.process serverProcess).addressSpaceInfo (runtime.spaceOf active)
        (runtime.thread server).userContext.stackPointer context.argument1 context.argument2 →
      Torn arch runtime active context

/-- An open that is not torn leaves memory alone when it fails. -/
theorem rpcOpen_kept (arch : Arch) (hbuilt : BuiltSpaces runtime)
    (hsyscall : Syscall.ofNumber context.syscallNumber = some .rpcOpen)
    (htorn : ¬ Torn arch runtime active context)
    (hfailed : (runtime.rpcOpen active context).1 ≠ Status.ok) :
    (runtime.rpcOpen active context).2.memory = runtime.memory := by
  revert hfailed
  unfold rpcOpen
  dsimp only
  split
  · exact fun _ => rfl
  rename_i harguments
  rw [not_or] at harguments
  split
  · exact fun _ => rfl
  rename_i hname
  split
  · exact fun _ => rfl
  rename_i e hfound
  split
  · exact fun _ => rfl
  rename_i server howner
  split
  · exact fun _ => rfl
  rename_i halive
  split
  · exact fun _ => rfl
  rename_i ref channels next hemplace
  have hslot := (KernelObjectPool.emplace_eq_some hemplace).1
  split
  · rename_i hwrite
    intro _
    have hspace := hbuilt.process (runtime.thread active).process
    by_cases hmapped : MappedAt (runtime.spaceOf active) context.argument1
    · have hpart := (writeUserBytesLoop_ok_iff hspace _ (le_refl _) (by simp)).not.mp hwrite
      rw [length_toLittleEndian] at hpart
      refine absurd (.handle _ e server hsyscall harguments.1 harguments.2 ?_ hfound howner halive
        ⟨ref, hslot⟩ hmapped hpart) htorn
      ext1
      · exact not_not.mp hname
      · rfl
    · exact congrArg Prod.snd (writeUserBytes_of_unmapped hspace (by simp) (by simp) hmapped)
  · exact fun hfailed => absurd rfl hfailed

/-- A call that is not torn leaves memory alone when it fails. -/
theorem rpcCall_kept (arch : Arch) (hbuilt : BuiltSpaces runtime)
    (hsyscall : Syscall.ofNumber context.syscallNumber = some .rpcCall)
    (htorn : ¬ Torn arch runtime active context)
    (hfailed : (runtime.rpcCall arch active context).1 ≠ Status.ok) :
    (runtime.rpcCall arch active context).2.memory = runtime.memory := by
  revert hfailed
  unfold rpcCall
  cases hresolve : runtime.resolveCall active context with
  | error status => exact fun _ => rfl
  | ok target =>
    obtain ⟨ref, server⟩ := target
    dsimp only
    split
    · rename_i hprepare
      intro _
      revert hprepare
      unfold prepareServerThread
      split
      · exact fun _ => rfl
      rename_i serverProcess howner
      split
      · exact fun _ => rfl
      rename_i harguments
      split
      · exact fun _ => rfl
      rename_i haddresses
      simp only [not_or, Bool.not_eq_true', Bool.not_eq_false] at harguments haddresses
      dsimp only
      split
      · exact fun _ => rfl
      split
      · rename_i hstatus
        intro _
        refine deliverRequest_kept arch (hbuilt.process serverProcess) (hbuilt.process _)
          harguments.2.1 (fun hdelivery => htorn ?_) hstatus
        exact .delivery ref server serverProcess hsyscall hresolve howner haddresses.1
          haddresses.2.1 haddresses.2.2.1 haddresses.2.2.2 hdelivery
      · exact fun hfailed => absurd rfl hfailed
    · split
      · exact fun hfailed => absurd rfl hfailed
      · exact fun hfailed => absurd rfl hfailed

/-- The arguments of a call that passed its checks. -/
theorem resolveCall_arguments {target : ChannelRef × ThreadRef}
    (h : runtime.resolveCall active context = .ok target) :
    context.argument1 ≠ 0 ∧ context.argument2 ≠ 0 ∧ ¬ context.argument2 > rpcMaxRequestSize := by
  unfold resolveCall at h
  split at h
  · cases h
  rename_i harguments
  rw [not_or, not_or] at harguments
  split at h
  · cases h
  rename_i hmax
  exact ⟨harguments.2.1, harguments.2.2, hmax⟩

/-- A torn syscall faults. -/
theorem Torn.fault {arch : Arch} (h : Torn arch runtime active context)
    (hbuilt : BuiltSpaces runtime) :
    (runtime.dispatchActive arch active context).1 = Status.fault := by
  cases h with
  | handle endpointName e server hsyscall hpointer hout hcopy hfound howner halive hslot _ hpart =>
    obtain ⟨c, hc⟩ := hslot
    have hspace := hbuilt.process (runtime.thread active).process
    cases hemplace : runtime.channels.emplace runtime.nextHandleValue
        (RpcChannel.create (runtime.thread active).process e) with
    | none =>
      unfold KernelObjectPool.emplace at hemplace
      split at hemplace
      · rename_i hfull
        have hfree := firstIndex_eq_none.mp hfull c
        simp [hc] at hfree
      · cases hemplace
    | some allocated =>
      obtain ⟨ref, channels, next⟩ := allocated
      unfold spaceOf at hcopy hpart
      simp only [dispatchActive, hsyscall, rpcOpen, hpointer, hout, or_self, if_false, hcopy,
        ne_eq, not_true_eq_false, hfound, howner, halive, hemplace]
      split
      · rename_i hwrite
        exact (writeUserBytesLoop_status _ _ _ _ _).resolve_left hwrite
      · rename_i hwrite
        have hall := (writeUserBytesLoop_ok_iff hspace _ (le_refl _) (by simp)).mp
          (not_not.mp hwrite)
        rw [length_toLittleEndian] at hall
        exact absurd hall hpart
  | delivery ref server serverProcess hsyscall hresolve howner hcallback hcompletion
      hcallbackValid hcompletionValid hdelivery =>
    have hfault : (deliverRequest arch (runtime.process serverProcess).addressSpaceInfo
        (runtime.process (runtime.thread active).process).addressSpaceInfo runtime.memory
        (runtime.endpointOf ref).completionAddress
        (runtime.thread server).userContext.stackPointer context.argument1
        context.argument2).1 = Status.fault :=
      hdelivery.fault (hbuilt.process serverProcess) (hbuilt.process _)
    have hne : Status.fault ≠ Status.ok := by decide
    obtain ⟨haddress, hsize, hmax⟩ := resolveCall_arguments hresolve
    have hprepare : (runtime.prepareServerThread arch (runtime.endpointOf ref) server
        (runtime.thread active).process context.argument1 context.argument2).1 =
          Status.fault := by
      simp only [prepareServerThread, howner, haddress, hsize, hmax, or_self, if_false, hcallback,
        hcompletion, hcallbackValid, hcompletionValid, Bool.not_true, Bool.false_eq_true,
        hdelivery.stackPointer_ne_zero, hfault, ne_eq, hne, not_false_eq_true, if_true]
    unfold endpointOf at hprepare
    simp only [dispatchActive, hsyscall, rpcCall, hresolve, hprepare, ne_eq, hne,
      not_false_eq_true, if_true]

/-- Over built address spaces, a syscall that fails and is not torn leaves user memory alone; a
torn syscall fails. The trap context is written before anything is checked. -/
theorem failed_memoryKept (arch : Arch) {runtime : UserRuntime} (hbuilt : BuiltSpaces runtime)
    {active : ThreadRef} (hcurrent : runtime.currentThread = some active)
    (context : UserSyscallContext) :
    (¬ Torn arch (runtime.enterSyscall active context) active context →
      (runtime.dispatchSyscall arch context).1 ≠ Status.ok →
        (runtime.dispatchSyscall arch context).2.memory = runtime.memory) ∧
    (Torn arch (runtime.enterSyscall active context) active context →
      (runtime.dispatchSyscall arch context).1 = Status.fault) := by
  have hentered : BuiltSpaces (runtime.enterSyscall active context) := hbuilt
  simp only [dispatchSyscall, hcurrent]
  refine ⟨fun htorn hfailed => ?_, fun htorn => htorn.fault hentered⟩
  by_cases hopen : Syscall.ofNumber context.syscallNumber = some .rpcOpen
  · simp only [dispatchActive, hopen] at hfailed ⊢
    exact rpcOpen_kept arch hentered hopen htorn hfailed
  by_cases hcall : Syscall.ofNumber context.syscallNumber = some .rpcCall
  · simp only [dispatchActive, hcall] at hfailed ⊢
    exact rpcCall_kept arch hentered hcall htorn hfailed
  · have hkept := outcome_memory (dispatchActive_outcome arch
      (runtime.enterSyscall active context) active context) hopen hcall
    exact hkept

/-- An open whose output handle starts four bytes below the end of the mapping fails and has
written the first of them. -/
theorem partialHandle_changesMemory :
    ∃ runtime, (runtimeSystem .x64).Reachable TransitionSystem.anyStep runtime ∧
      (runtime.dispatchSyscall .x64
        ⟨4, 0x1010, 0x1800, 0x202, 0x1100, 0x1ffc, 0, 0, 0, 0⟩).1 = Status.fault ∧
      (runtime.dispatchSyscall .x64
        ⟨4, 0x1010, 0x1800, 0x202, 0x1100, 0x1ffc, 0, 0, 0, 0⟩).2.memory 0x1ffc ≠
          runtime.memory 0x1ffc :=
  boot_reachable .x64 TransitionSystem.anyStep 1 [trap 3 0x1100 0x1200 0x1210 0x1800]
    (fun runtime => (runtime.dispatchSyscall .x64
        ⟨4, 0x1010, 0x1800, 0x202, 0x1100, 0x1ffc, 0, 0, 0, 0⟩).1 = Status.fault ∧
      (runtime.dispatchSyscall .x64
        ⟨4, 0x1010, 0x1800, 0x202, 0x1100, 0x1ffc, 0, 0, 0, 0⟩).2.memory 0x1ffc ≠
          runtime.memory 0x1ffc)
    rfl (by decide +kernel)

/-- An open whose output handle is not mapped at all fails and has written nothing. -/
theorem unmappedHandle_memoryKept :
    ∃ runtime : UserRuntime, BuiltSpaces runtime ∧ runtime.currentThread = some 0 ∧
      (runtime.dispatchSyscall .x64
        ⟨4, 0x1010, 0x1800, 0x202, 0x1100, 0x3000, 0, 0, 0, 0⟩).1 = Status.fault ∧
      (runtime.dispatchSyscall .x64
        ⟨4, 0x1010, 0x1800, 0x202, 0x1100, 0x3000, 0, 0, 0, 0⟩).2.memory = runtime.memory := by
  have hbuilt : BuiltSpaces ((bootStarted 1).act .x64 (trap 3 0x1100 0x1200 0x1210 0x1800)) :=
    bootStarted_builtSpaces 1
  have hcurrent : ((bootStarted 1).act .x64 (trap 3 0x1100 0x1200 0x1210 0x1800)).currentThread =
      some 0 := by decide +kernel
  have hfault : (((bootStarted 1).act .x64 (trap 3 0x1100 0x1200 0x1210 0x1800)).dispatchSyscall
      .x64 ⟨4, 0x1010, 0x1800, 0x202, 0x1100, 0x3000, 0, 0, 0, 0⟩).1 = Status.fault := by
    decide +kernel
  have hunmapped : tryTranslateAddressSpaceChunk
      ((((bootStarted 1).act .x64 (trap 3 0x1100 0x1200 0x1210 0x1800)).enterSyscall 0
        ⟨4, 0x1010, 0x1800, 0x202, 0x1100, 0x3000, 0, 0, 0, 0⟩).spaceOf 0) 0x3000 1 = none := by
    decide +kernel
  have hfailed : Status.fault ≠ Status.ok := by decide
  refine ⟨_, hbuilt, hcurrent, hfault, (failed_memoryKept .x64 hbuilt hcurrent _).1 ?_ ?_⟩
  · intro htorn
    cases htorn with
    | handle _ _ _ _ _ _ _ _ _ _ _ hmapped _ =>
      obtain ⟨_, _, hchunk, _⟩ := tryTranslateAddressSpaceChunk_of_mapped (hbuilt.process _)
        (show (1 : UInt64) ≠ 0 by decide) hmapped
      exact absurd (hunmapped.symm.trans hchunk) (by simp)
    | delivery _ _ _ hsyscall _ _ _ _ _ _ _ => exact absurd hsyscall (by decide)
  · rw [hfault]
    exact hfailed

end UserRuntime

end Ringos.Kernel
