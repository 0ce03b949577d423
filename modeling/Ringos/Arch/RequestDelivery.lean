import Ringos.Calls.UserCopies
import Ringos.Calls.Exits
import Ringos.Calls.Switching
import Ringos.Arch.ServerEntry
import Ringos.Arch.TrapReturn

/-!
# The delivery of a request to a native server

A request is copied below the saved stack pointer of the server, aligned down
to sixteen bytes, and the callback is entered with its address and its size. On
x64 the completion address is pushed below the request, on arm64 it is in the
link register. The server reads the request as the client wrote it when the
window it is copied to shares no host byte with the request and none with
itself.
-/

namespace Ringos.Arch

open Ringos.Core Ringos.Kernel UserRuntime

/-- The host byte is behind one of the user addresses of a range. -/
def BehindRange (addressSpaceInfo : AddressSpace) (userAddress : UInt64) (length : Nat)
    (hostAddress : UInt64) : Prop :=
  ∃ i < length, byteTranslation addressSpaceInfo (userAddress + UInt64.ofNat i) = some hostAddress

/-- No host byte is behind two user addresses of a range. -/
def DistinctBytes (addressSpaceInfo : AddressSpace) (userAddress : UInt64) (length : Nat) : Prop :=
  ∀ i < length, ∀ j < length, ∀ hostAddress,
    byteTranslation addressSpaceInfo (userAddress + UInt64.ofNat i) = some hostAddress →
    byteTranslation addressSpaceInfo (userAddress + UInt64.ofNat j) = some hostAddress → i = j

section Ranges

variable {addressSpaceInfo : AddressSpace} {userAddress hostAddress : UInt64} {length : Nat}

/-- A range is its first address and the range behind it. -/
theorem behindRange_succ :
    BehindRange addressSpaceInfo userAddress (length + 1) hostAddress ↔
      byteTranslation addressSpaceInfo userAddress = some hostAddress ∨
        BehindRange addressSpaceInfo (userAddress + 1) length hostAddress := by
  constructor
  · rintro ⟨i, hi, htranslates⟩
    cases i with
    | zero => exact .inl (by simpa using htranslates)
    | succ i => exact .inr ⟨i, by omega, by rwa [add_one_add_ofNat]⟩
  · rintro (hfirst | ⟨i, hi, htranslates⟩)
    · exact ⟨0, by omega, by simpa using hfirst⟩
    · exact ⟨i + 1, by omega, by rwa [add_one_add_ofNat] at htranslates⟩

theorem DistinctBytes.tail (h : DistinctBytes addressSpaceInfo userAddress (length + 1)) :
    DistinctBytes addressSpaceInfo (userAddress + 1) length := by
  intro i hi j hj host hleft hright
  rw [add_one_add_ofNat] at hleft hright
  have heq := h (i + 1) (by omega) (j + 1) (by omega) host hleft hright
  omega

theorem DistinctBytes.head (h : DistinctBytes addressSpaceInfo userAddress (length + 1))
    (hfirst : byteTranslation addressSpaceInfo userAddress = some hostAddress) :
    ¬ BehindRange addressSpaceInfo (userAddress + 1) length hostAddress := by
  rintro ⟨i, hi, htranslates⟩
  rw [add_one_add_ofNat] at htranslates
  have heq := h 0 (by omega) (i + 1) (by omega) hostAddress (by simpa using hfirst) htranslates
  omega

/-- A part of a range by its offset. -/
theorem BehindRange.part {offset whole : Nat}
    (h : BehindRange addressSpaceInfo (userAddress + UInt64.ofNat offset) length hostAddress)
    (hle : offset + length ≤ whole) :
    BehindRange addressSpaceInfo userAddress whole hostAddress := by
  obtain ⟨i, hi, htranslates⟩ := h
  refine ⟨offset + i, by omega, ?_⟩
  rwa [UInt64.ofNat_add, ← UInt64.add_assoc]

theorem DistinctBytes.part {offset whole : Nat}
    (h : DistinctBytes addressSpaceInfo userAddress whole) (hle : offset + length ≤ whole) :
    DistinctBytes addressSpaceInfo (userAddress + UInt64.ofNat offset) length := by
  intro i hi j hj host hleft hright
  rw [UInt64.add_assoc, ← UInt64.ofNat_add] at hleft hright
  have heq := h (offset + i) (by omega) (offset + j) (by omega) host hleft hright
  omega

/-- Two parts of a range of distinct bytes share no host byte. -/
theorem DistinctBytes.parts {offset whole first : Nat}
    (h : DistinctBytes addressSpaceInfo userAddress whole) (hbefore : first ≤ offset)
    (hle : offset + length ≤ whole)
    (hpart : BehindRange addressSpaceInfo (userAddress + UInt64.ofNat offset) length hostAddress) :
    ¬ BehindRange addressSpaceInfo userAddress first hostAddress := by
  rintro ⟨j, hj, hright⟩
  obtain ⟨i, hi, hleft⟩ := hpart
  rw [UInt64.add_assoc, ← UInt64.ofNat_add] at hleft
  have heq := h (offset + i) (by omega) j (by omega) hostAddress hleft hright
  omega

end Ranges

section Reading

variable {addressSpaceInfo : AddressSpace} (hbuilt : BuiltAddressSpace addressSpaceInfo)

include hbuilt

/-- The translation of one byte is the byte-by-byte one. -/
theorem tryTranslateAddressSpaceAddress_byte (userAddress : UInt64) :
    tryTranslateAddressSpaceAddress addressSpaceInfo userAddress 1 =
      byteTranslation addressSpaceInfo userAddress := by
  ext hostAddress
  rw [tryTranslateAddressSpaceAddress_one hbuilt, byteTranslation_eq_some_iff hbuilt]

/-- One step of a read. -/
theorem readUserBytes_succ {userAddress hostAddress : UInt64} {memory : ByteMemory} {length : Nat}
    {bytes : List UInt8} (hfirst : byteTranslation addressSpaceInfo userAddress = some hostAddress)
    (hrest : readUserBytes addressSpaceInfo memory (userAddress + 1) length = some bytes) :
    readUserBytes addressSpaceInfo memory userAddress (length + 1) =
      some (memory hostAddress :: bytes) := by
  rw [readUserBytes, tryTranslateAddressSpaceAddress_byte hbuilt, hfirst, hrest]
  rfl

/-- A read depends on the host bytes behind its range only. -/
theorem readUserBytes_congr {memory memory' : ByteMemory} {userAddress : UInt64} {length : Nat}
    (h : ∀ host, BehindRange addressSpaceInfo userAddress length host →
      memory host = memory' host) :
    readUserBytes addressSpaceInfo memory userAddress length =
      readUserBytes addressSpaceInfo memory' userAddress length := by
  induction length generalizing userAddress with
  | zero => rfl
  | succ length ih =>
    have htail := ih fun host hrange => h host (behindRange_succ.mpr (.inr hrange))
    rw [readUserBytes, readUserBytes, tryTranslateAddressSpaceAddress_byte hbuilt, htail]
    cases hfirst : byteTranslation addressSpaceInfo userAddress with
    | none => rfl
    | some host =>
      show ((readUserBytes addressSpaceInfo memory' (userAddress + 1) length).bind _) =
        (readUserBytes addressSpaceInfo memory' (userAddress + 1) length).bind _
      rw [h host (behindRange_succ.mpr (.inl hfirst))]

end Reading

section Writing

variable {source destination : AddressSpace} {memory : ByteMemory}

/-- A copy changes the host bytes behind its destination only. -/
theorem copyBetweenBytewise_frame {sourceAddress destinationAddress hostAddress : UInt64}
    {size : Nat} (h : ¬ BehindRange destination destinationAddress size hostAddress) :
    (copyBetweenBytewise source destination memory sourceAddress destinationAddress
      size).2 hostAddress = memory hostAddress := by
  induction size generalizing memory sourceAddress destinationAddress with
  | zero => rfl
  | succ size ih =>
    rw [behindRange_succ, not_or] at h
    rw [copyBetweenBytewise]
    split
    · rename_i sourceHost destinationHost _ hdestination
      rw [ih h.2, Function.update_of_ne]
      rintro rfl
      exact h.1 hdestination
    · rfl

/-- A write changes the host bytes behind its range only. -/
theorem writeUserBytewise_frame {userAddress hostAddress : UInt64} {buffer : List UInt8}
    (h : ¬ BehindRange destination userAddress buffer.length hostAddress) :
    (writeUserBytewise destination memory userAddress buffer).2 hostAddress =
      memory hostAddress := by
  induction buffer generalizing memory userAddress with
  | nil => rfl
  | cons byte rest ih =>
    rw [List.length_cons, behindRange_succ, not_or] at h
    rw [writeUserBytewise]
    split
    · rename_i host htranslates
      rw [ih h.2, Function.update_of_ne]
      rintro rfl
      exact h.1 htranslates
    · rfl

/-- A copy that succeeds is read back as the source was, if its destination shares no byte with
the source or with itself. By induction on the size: the rest of the copy leaves the first byte
alone. -/
theorem copyBetweenBytewise_reads (hsource : BuiltAddressSpace source)
    (hdestination : BuiltAddressSpace destination) {sourceAddress destinationAddress : UInt64}
    {size : Nat} (hdistinct : DistinctBytes destination destinationAddress size)
    (hapart : ∀ host, BehindRange source sourceAddress size host →
      ¬ BehindRange destination destinationAddress size host)
    (hok : (copyBetweenBytewise source destination memory sourceAddress destinationAddress
      size).1 = Status.ok) :
    ∃ bytes, readUserBytes source memory sourceAddress size = some bytes ∧
      readUserBytes destination (copyBetweenBytewise source destination memory sourceAddress
        destinationAddress size).2 destinationAddress size = some bytes := by
  have hfault : Status.fault ≠ Status.ok := by decide
  induction size generalizing memory sourceAddress destinationAddress with
  | zero => exact ⟨[], rfl, rfl⟩
  | succ size ih =>
    cases hsourceHost : byteTranslation source sourceAddress with
    | none =>
      rw [copyBetweenBytewise, hsourceHost] at hok
      exact absurd hok hfault
    | some sourceHost =>
    cases hdestinationHost : byteTranslation destination destinationAddress with
    | none =>
      rw [copyBetweenBytewise, hsourceHost, hdestinationHost] at hok
      exact absurd hok hfault
    | some destinationHost =>
    simp only [copyBetweenBytewise, hsourceHost, hdestinationHost] at hok ⊢
    obtain ⟨bytes, hread, hread'⟩ := ih hdistinct.tail
      (fun host hbehind hbehind' => hapart host (behindRange_succ.mpr (.inr hbehind))
        (behindRange_succ.mpr (.inr hbehind'))) hok
    refine ⟨memory sourceHost :: bytes, ?_, ?_⟩
    · refine readUserBytes_succ hsource hsourceHost ?_
      rw [← hread]
      refine readUserBytes_congr hsource fun host hbehind => ?_
      rw [Function.update_of_ne]
      rintro rfl
      exact hapart host (behindRange_succ.mpr (.inr hbehind))
        (behindRange_succ.mpr (.inl hdestinationHost))
    · have hfirst := @copyBetweenBytewise_frame source destination
        (Function.update memory destinationHost (memory sourceHost)) (sourceAddress + 1)
        (destinationAddress + 1) destinationHost size (hdistinct.head hdestinationHost)
      rw [readUserBytes_succ hdestination hdestinationHost hread', hfirst, Function.update_self]

/-- A write that succeeds is read back, if its range shares no byte with itself. -/
theorem writeUserBytewise_reads (hdestination : BuiltAddressSpace destination)
    {userAddress : UInt64} {buffer : List UInt8}
    (hdistinct : DistinctBytes destination userAddress buffer.length)
    (hok : (writeUserBytewise destination memory userAddress buffer).1 = Status.ok) :
    readUserBytes destination (writeUserBytewise destination memory userAddress buffer).2
      userAddress buffer.length = some buffer := by
  have hfault : Status.fault ≠ Status.ok := by decide
  induction buffer generalizing memory userAddress with
  | nil => rfl
  | cons byte rest ih =>
    rw [List.length_cons] at hdistinct
    cases hhost : byteTranslation destination userAddress with
    | none =>
      rw [writeUserBytewise, hhost] at hok
      exact absurd hok hfault
    | some host =>
    simp only [writeUserBytewise, hhost, List.length_cons] at hok ⊢
    have hfirst := @writeUserBytewise_frame destination (Function.update memory host byte)
      (userAddress + 1) host rest (hdistinct.head hhost)
    rw [readUserBytes_succ hdestination hhost (ih hdistinct.tail hok), hfirst,
      Function.update_self]

end Writing

/-- Where a request of a size goes below a saved stack pointer. -/
def deliveryAddress (stackPointer size : UInt64) : UInt64 := alignDown (stackPointer - size) 16

/-- The computation of the addresses does not wrap around zero behind the checks that guard its
steps. -/
structure NoWrap (stackPointer size : UInt64) : Prop where
  guard : (size + 8).toNat = size.toNat + 8
  request : size < stackPointer → (stackPointer - size).toNat = stackPointer.toNat - size.toNat ∧
    (deliveryAddress stackPointer size).toNat + size.toNat ≤ stackPointer.toNat
  returnSlot : 8 < deliveryAddress stackPointer size →
    (deliveryAddress stackPointer size - 8).toNat = (deliveryAddress stackPointer size).toNat - 8

theorem noWrap {stackPointer size : UInt64} (hsize : size ≤ rpcMaxRequestSize) :
    NoWrap stackPointer size := by
  have hmax : size.toNat ≤ 256 := UInt64.le_iff_toNat_le.mp hsize
  refine ⟨?_, fun hroom => ?_, fun habove => ?_⟩
  · rw [UInt64.toNat_add, show (8 : UInt64).toNat = 8 from rfl]
    omega
  · have hroom := UInt64.lt_iff_toNat_lt.mp hroom
    have hdifference : (stackPointer - size).toNat = stackPointer.toNat - size.toNat :=
      UInt64.toNat_sub_of_le _ _ (UInt64.le_iff_toNat_le.mpr (by omega))
    have hle := alignDown_le (stackPointer - size)
    refine ⟨hdifference, ?_⟩
    rw [deliveryAddress]
    omega
  · have habove := UInt64.lt_iff_toNat_lt.mp habove
    rw [show (8 : UInt64).toNat = 8 from rfl] at habove
    exact UInt64.toNat_sub_of_le _ _
      (UInt64.le_iff_toNat_le.mpr (by rw [show (8 : UInt64).toNat = 8 from rfl]; omega))

/-- The part of the server's stack that a delivery writes: its start and its length. -/
def stackWindow (arch : Arch) (stackPointer size : UInt64) : UInt64 × Nat :=
  match arch with
  | .x64 => (deliveryAddress stackPointer size - 8, 8 + size.toNat)
  | .arm64 => (deliveryAddress stackPointer size, size.toNat)

/-- The request and the window share no host byte. -/
def Apart (arch : Arch) (client server : AddressSpace) (requestPointer stackPointer size : UInt64) :
    Prop :=
  ∀ host, BehindRange client requestPointer size.toNat host →
    ¬ BehindRange server (stackWindow arch stackPointer size).1
      (stackWindow arch stackPointer size).2 host

/-- No host byte is in the window twice. -/
def Unfolded (arch : Arch) (server : AddressSpace) (stackPointer size : UInt64) : Prop :=
  DistinctBytes server (stackWindow arch stackPointer size).1 (stackWindow arch stackPointer size).2

/-- What a server finds in memory and below its stack pointer when its callback is entered. -/
structure Delivered (arch : Arch) (client server : AddressSpace) (before after : ByteMemory)
    (completionAddress requestPointer savedStackPointer size requestAddress stackPointer : UInt64) :
    Prop where
  aligned : requestAddress.toNat % 16 = 0
  below : requestAddress.toNat + size.toNat ≤ savedStackPointer.toNat
  request : ∃ bytes, readUserBytes client before requestPointer size.toNat = some bytes ∧
    readUserBytes server after requestAddress size.toNat = some bytes
  stack : match arch with
    | .x64 => stackPointer.toNat + 8 = requestAddress.toNat ∧
      readUserBytes server after stackPointer 8 = some (toLittleEndian 8 completionAddress)
    | .arm64 => stackPointer = requestAddress

section Delivery

variable {client server : AddressSpace} {memory memory' : ByteMemory}
  {completionAddress requestPointer savedStackPointer size requestAddress stackPointer : UInt64}
  (hclient : BuiltAddressSpace client) (hserver : BuiltAddressSpace server)
  (hsize : size ≤ rpcMaxRequestSize)

include hclient hserver hsize

/-- A delivery on the arm64 kernel. -/
theorem deliverRequest_arm64_delivers
    (hapart : Apart .arm64 client server requestPointer savedStackPointer size)
    (hunfolded : Unfolded .arm64 server savedStackPointer size)
    (h : deliverRequest .arm64 server client memory completionAddress savedStackPointer
      requestPointer size = (Status.ok, memory', requestAddress, stackPointer)) :
    Delivered .arm64 client server memory memory' completionAddress requestPointer
      savedStackPointer size requestAddress stackPointer := by
  simp only [deliverRequest] at h
  split at h
  · simp [Status.fault, Status.ok] at h
  rename_i hroom
  simp only [Prod.mk.injEq, copyBetweenUserProcesses,
    copyBetweenUserProcessesLoop_eq hclient hserver _ (le_refl _)] at h
  obtain ⟨hok, rfl, rfl, rfl⟩ := h
  have hbelow := ((noWrap hsize).request (UInt64.not_le.mp hroom)).2
  exact ⟨alignDown_sixteen_mod _, hbelow,
    copyBetweenBytewise_reads hclient hserver hunfolded hapart hok, rfl⟩

/-- A delivery on the x64 kernel: the return slot is written behind the request, and below it. -/
theorem deliverRequest_x64_delivers
    (hapart : Apart .x64 client server requestPointer savedStackPointer size)
    (hunfolded : Unfolded .x64 server savedStackPointer size)
    (h : deliverRequest .x64 server client memory completionAddress savedStackPointer
      requestPointer size = (Status.ok, memory', requestAddress, stackPointer)) :
    Delivered .x64 client server memory memory' completionAddress requestPointer
      savedStackPointer size requestAddress stackPointer := by
  simp only [deliverRequest] at h
  split at h
  · simp [Status.fault, Status.ok] at h
  rename_i hroom
  split at h
  · simp [Status.fault, Status.ok] at h
  rename_i habove
  have hwrap : NoWrap savedStackPointer size := noWrap hsize
  have hroom' : size < savedStackPointer := by
    have hroom := UInt64.lt_iff_toNat_lt.mp (UInt64.not_le.mp hroom)
    rw [hwrap.guard] at hroom
    rw [UInt64.lt_iff_toNat_lt]
    omega
  have hslot := hwrap.returnSlot (UInt64.not_le.mp habove)
  have habove' := UInt64.lt_iff_toNat_lt.mp (UInt64.not_le.mp habove)
  rw [show (8 : UInt64).toNat = 8 from rfl] at habove'
  -- The request is the part of the window behind the return slot.
  have hrequest : deliveryAddress savedStackPointer size - 8 + UInt64.ofNat 8 =
      deliveryAddress savedStackPointer size := UInt64.sub_add_cancel _ _
  have hdistinct : DistinctBytes server (deliveryAddress savedStackPointer size) size.toNat :=
    hrequest ▸ DistinctBytes.part hunfolded (le_refl (8 + size.toNat))
  have hapart' : ∀ host, BehindRange client requestPointer size.toNat host →
      ¬ BehindRange server (deliveryAddress savedStackPointer size) size.toNat host :=
    fun host hbehind hwindow =>
      hapart host hbehind ((hrequest.symm ▸ hwindow).part (le_refl (8 + size.toNat)))
  have hreturn : DistinctBytes server (deliveryAddress savedStackPointer size - 8) 8 := by
    have hpart := @DistinctBytes.part server (deliveryAddress savedStackPointer size - 8) 8 0
      (8 + size.toNat) hunfolded (by omega)
    rwa [show UInt64.ofNat 0 = 0 from rfl, UInt64.add_zero] at hpart
  simp only [copyBetweenUserProcesses,
    copyBetweenUserProcessesLoop_eq hclient hserver _ (le_refl _)] at h
  split at h
  · rename_i hstatus
    exact absurd (congrArg Prod.fst h) hstatus
  rename_i hstatus
  rw [writeUserBytes, writeUserBytesLoop_eq hserver _ (le_refl _)
    (by rw [length_toLittleEndian]; decide)] at h
  simp only [Prod.mk.injEq] at h
  obtain ⟨hok, rfl, rfl, rfl⟩ := h
  obtain ⟨bytes, hread, hread'⟩ := copyBetweenBytewise_reads hclient hserver hdistinct hapart'
    (not_not.mp hstatus)
  refine ⟨alignDown_sixteen_mod _, (hwrap.request hroom').2, ⟨bytes, hread, ?_⟩, ?_, ?_⟩
  · rw [← hread']
    refine readUserBytes_congr hserver fun host hbehind => writeUserBytewise_frame ?_
    have hbehind' : BehindRange server (deliveryAddress savedStackPointer size - 8 + UInt64.ofNat 8)
        size.toNat host := hrequest.symm ▸ hbehind
    exact hunfolded.parts (le_refl 8) (le_refl (8 + size.toNat)) hbehind'
  · have hsum : (deliveryAddress savedStackPointer size - 8).toNat + 8 =
        (deliveryAddress savedStackPointer size).toNat := by
      rw [hslot]
      exact Nat.sub_add_cancel (Nat.le_of_lt habove')
    exact hsum
  · exact writeUserBytewise_reads hserver hreturn hok

theorem deliverRequest_delivers {arch : Arch}
    (hapart : Apart arch client server requestPointer savedStackPointer size)
    (hunfolded : Unfolded arch server savedStackPointer size)
    (h : deliverRequest arch server client memory completionAddress savedStackPointer
      requestPointer size = (Status.ok, memory', requestAddress, stackPointer)) :
    Delivered arch client server memory memory' completionAddress requestPointer
      savedStackPointer size requestAddress stackPointer := by
  cases arch with
  | x64 => exact deliverRequest_x64_delivers hclient hserver hsize hapart hunfolded h
  | arm64 => exact deliverRequest_arm64_delivers hclient hserver hsize hapart hunfolded h

end Delivery

section Processes

variable {arch : Arch} {runtime : UserRuntime}

/-- No action moves a thread to another process. -/
theorem act_process (action : Action) (t : ThreadRef) :
    ((runtime.act arch action).thread t).process = (runtime.thread t).process := by
  have hunwritten : Unwritten Thread.process :=
    ⟨fun _ _ => rfl, fun _ _ _ => rfl, fun _ _ _ _ _ _ => rfl⟩
  exact act_keeps hunwritten (fun _ _ => rfl) (fun _ _ => rfl) (fun _ _ _ => rfl) action
    fun _ _ _ => rfl

/-- An endpoint belongs to the process of the thread that owns it. -/
def OwnersMatch (runtime : UserRuntime) : Prop :=
  ∀ e t, (runtime.endpoints e).ownerThread = some t →
    (runtime.endpoints e).ownerProcess = some (runtime.thread t).process

/-- A step whose endpoints are the earlier ones, up to busy flags and cleared ones, keeps it. -/
theorem OwnersMatch.kept {after : UserRuntime} (h : OwnersMatch runtime)
    (hendpoints : ∀ e t, (after.endpoints e).ownerThread = some t →
      (runtime.endpoints e).ownerThread = some t ∧
        (after.endpoints e).ownerProcess = (runtime.endpoints e).ownerProcess)
    (hprocess : ∀ t, (after.thread t).process = (runtime.thread t).process) :
    OwnersMatch after := by
  intro e t howner
  obtain ⟨hbefore, hsame⟩ := hendpoints e t howner
  rw [hsame, hprocess]
  exact h e t hbefore

/-- What an exit clears has no owner, and the rest is as it was. -/
theorem owner_of_cleared {active : ThreadRef} {after : UserRuntime}
    (hendpoints : after.idleEndpoint = fun e =>
      if (runtime.idleEndpoint e).ownerThread = some active then RpcEndpoint.cleared
      else runtime.idleEndpoint e) (e : EndpointRef) (t : ThreadRef)
    (howner : (after.endpoints e).ownerThread = some t) :
    (runtime.endpoints e).ownerThread = some t ∧
      (after.endpoints e).ownerProcess = (runtime.endpoints e).ownerProcess := by
  have hidle : (after.idleEndpoint e).ownerThread = some t := howner
  have hprocess : (after.idleEndpoint e).ownerProcess = (after.endpoints e).ownerProcess := rfl
  rw [← hprocess]
  rw [hendpoints] at hidle ⊢
  dsimp only at hidle ⊢
  split at hidle
  · cases hidle
  · rename_i hother
    rw [if_neg hother]
    exact ⟨hidle, rfl⟩

theorem OwnersMatch.act (h : OwnersMatch runtime) (action : Action) :
    OwnersMatch (runtime.act arch action) := by
  cases hcurrent : runtime.currentThread with
  | none =>
    have hsame : (runtime.act arch action).endpoints = runtime.endpoints := by
      cases action with
      | syscall context => simp only [UserRuntime.act, dispatchSyscall, hcurrent]
      | terminate exitStatus peerFailureStatus =>
        simp only [UserRuntime.act, terminateCurrentThread, hcurrent]
      | userStores memory => rfl
      | saveRegisters registers simdQwords =>
        simp only [UserRuntime.act, modifyCurrentThread, hcurrent]
      | prepareResume status => simp only [UserRuntime.act, modifyCurrentThread, hcurrent]
    exact h.kept (fun e t howner => by rw [hsame] at howner ⊢; exact ⟨howner, rfl⟩)
      (act_process action)
  | some active =>
    cases action with
    | syscall context =>
      have hprocess := @act_process arch runtime (.syscall context)
      cases dispatchSyscall_endpoints arch context hcurrent with
      | kept hsyscall hendpoints =>
        refine h.kept (fun e t howner => ?_) hprocess
        have hidle := congrFun hendpoints e
        have hsame := congrArg RpcEndpoint.ownerProcess hidle
        exact ⟨(congrArg RpcEndpoint.ownerThread hidle).symm.trans howner, hsame⟩
      | registered ref endpointName hsyscall hresolve hendpoints =>
        intro e t howner
        rw [hprocess]
        have hidle := congrFun hendpoints e
        have hthread := (congrArg RpcEndpoint.ownerThread hidle).symm.trans howner
        have hsame := congrArg RpcEndpoint.ownerProcess hidle
        refine Eq.trans hsame ?_
        rw [Function.update_apply] at hthread ⊢
        split at hthread
        · rename_i he
          rw [if_pos he]
          obtain rfl := Option.some.inj hthread
          rfl
        · rename_i he
          rw [if_neg he]
          exact h e t hthread
      | exited hsyscall hendpoints =>
        exact h.kept (owner_of_cleared hendpoints) hprocess
    | terminate exitStatus peerFailureStatus =>
      exact h.kept (owner_of_cleared
        (terminateCurrentThread_bindings arch hcurrent exitStatus peerFailureStatus).2)
        (@act_process arch runtime (.terminate exitStatus peerFailureStatus))
    | userStores memory => exact h
    | saveRegisters registers simdQwords =>
      refine h.kept (fun e t howner => ?_)
        (@act_process arch runtime (.saveRegisters registers simdQwords))
      simp only [UserRuntime.act, modifyCurrentThread, hcurrent] at howner ⊢
      exact ⟨howner, rfl⟩
    | prepareResume status =>
      refine h.kept (fun e t howner => ?_) (@act_process arch runtime (.prepareResume status))
      simp only [UserRuntime.act, modifyCurrentThread, hcurrent] at howner ⊢
      exact ⟨howner, rfl⟩

theorem reachable_ownersMatch
    (h : (runtimeSystem arch).Reachable TransitionSystem.anyStep runtime) :
    OwnersMatch runtime := by
  refine h.invariant ?_ fun s action _ hmatch _ _ => hmatch.act action
  rintro s ⟨created, thread, hcreated, _, hstarted⟩ e t howner
  rw [hstarted, setCurrentThread_endpoints, hcreated.unstarted.noEndpoint e] at howner
  cases howner

end Processes

/-- What a natively executed thread finds in its registers when it is resumed. -/
structure ServerEntry where
  instructionPointer : UInt64
  argument0 : UInt64
  argument1 : UInt64
  stackPointer : UInt64
  linkRegister : Option UInt64

/-- The entry through the frame that is loaded for a thread. -/
def entryOf (arch : Arch) (thread : Thread) : ServerEntry :=
  match arch with
  | .x64 =>
    let frame := loadUserThreadFrame thread
    ⟨frame.rcx, frame.rdi, frame.rsi, frame.userRsp, none⟩
  | .arm64 =>
    let frame := loadArm64SyscallFrame thread
    ⟨frame.elr, frame.x0, frame.x1, frame.spEl0, some frame.x30⟩

/-- The entry through the frame with which the trap handlers go on behind a syscall of `active`. -/
def resumedEntry (arch : Arch) (active : ThreadRef) (status : Int32) (runtime : UserRuntime) :
    Option ServerEntry :=
  match arch with
  | .x64 => (x64Resume active status runtime).1.map fun frame =>
    ⟨frame.rcx, frame.rdi, frame.rsi, frame.userRsp, none⟩
  | .arm64 => (arm64Resume active status runtime).1.map fun frame =>
    ⟨frame.elr, frame.x0, frame.x1, frame.spEl0, some frame.x30⟩

/-- Both handlers go on with the frame of another thread that is on the CPU and runs natively. -/
theorem resumedEntry_other (arch : Arch) {runtime : UserRuntime} {active server : ThreadRef}
    (hother : server ≠ active) (hcurrent : runtime.currentThread = some server)
    (hrunning : (runtime.thread server).state = .running)
    (hnative : executionBackendOf runtime server = .native) (status : Int32) :
    resumedEntry arch active status runtime = some (entryOf arch (runtime.thread server)) := by
  have hrunnable : runtime.hasRunnableThread = true := by
    simp [hasRunnableThread, hcurrent, hrunning]
  cases arch with
  | x64 =>
    simp only [resumedEntry, x64Resume, hrunnable, Bool.not_true, Bool.false_eq_true, if_false,
      hcurrent, if_neg hother, if_true]
    rfl
  | arm64 =>
    simp only [resumedEntry, arm64Resume, hrunnable, Bool.not_true, Bool.false_eq_true, if_false,
      hcurrent, if_neg hother, hnative, ne_eq, not_true_eq_false, if_true]
    rfl

/-- An accepted `RPC_CALL` to another thread, which is ready and runs natively. -/
structure CallsReadyServer (arch : Arch) (runtime : UserRuntime) (active server : ThreadRef)
    (ref : ChannelRef) (context : UserSyscallContext) : Prop where
  current : runtime.currentThread = some active
  syscall : Syscall.ofNumber context.syscallNumber = some .rpcCall
  resolved : runtime.resolveCall active context = .ok (ref, server)
  other : server ≠ active
  ready : (runtime.thread server).state = .ready
  native : executionBackendOf runtime server = .native
  accepted : (runtime.dispatchSyscall arch context).1 = Status.ok

section Entering

variable {arch : Arch} {runtime : UserRuntime} {active server : ThreadRef} {ref : ChannelRef}
  {context : UserSyscallContext}

/-- A call that passes its checks has a request of at most 256 bytes. -/
theorem resolveCall_size {target : ChannelRef × ThreadRef}
    (h : runtime.resolveCall active context = .ok target) :
    context.argument2 ≤ rpcMaxRequestSize := by
  unfold resolveCall at h
  split at h
  · cases h
  split at h
  · cases h
  · rename_i hsize
    exact UInt64.not_lt.mp hsize

/-- An accepted call has delivered its request, and the server is on the CPU with the record that
was prepared for it. -/
theorem CallsReadyServer.handedOver (hw : WellFormed runtime)
    (h : CallsReadyServer arch runtime active server ref context) :
    ∃ serverProcess requestAddress stackPointer,
      (runtime.endpointOf ref).ownerProcess = some serverProcess ∧
      deliverRequest arch (runtime.process serverProcess).addressSpaceInfo
          (runtime.process (runtime.thread active).process).addressSpaceInfo runtime.memory
          (runtime.endpointOf ref).completionAddress
          (runtime.thread server).userContext.stackPointer context.argument1 context.argument2 =
        (Status.ok, (runtime.dispatchSyscall arch context).2.memory, requestAddress,
          stackPointer) ∧
      (runtime.dispatchSyscall arch context).2.currentThread = some server ∧
      (runtime.dispatchSyscall arch context).2.processes = runtime.processes ∧
      (runtime.dispatchSyscall arch context).2.thread server =
        ((runtime.thread server).prepareRpcResume (runtime.endpointOf ref).callbackAddress
          (runtime.endpointOf ref).completionAddress requestAddress context.argument2
          stackPointer).setState .running := by
  have hresolve := h.resolved
  rw [← resolveCall_enterSyscall active context] at hresolve
  have hlive : (runtime.enterSyscall active context).LiveThread active :=
    liveThread_modifyThread.mpr (hw.currentLive active h.current)
  have hserver : (runtime.enterSyscall active context).LiveThread server :=
    liveThread_modifyThread.mpr (hw.ownerLive _ _ (resolveCall_ok h.resolved).2.2.1)
  have hsaved : (runtime.enterSyscall active context).thread server = runtime.thread server :=
    thread_modifyThread_of_ne h.other _
  have hclient : ((runtime.enterSyscall active context).thread active).process =
      (runtime.thread active).process :=
    thread_enterSyscall_keeps Thread.process (fun _ _ => rfl) active
  have hentered : (runtime.enterSyscall active context).currentThread = some active := h.current
  have haccepted := h.accepted
  simp only [dispatchSyscall, h.current, dispatchActive, h.syscall, rpcCall, hresolve]
    at haccepted ⊢
  have hprepare : ((runtime.enterSyscall active context).prepareServerThread arch
      ((runtime.enterSyscall active context).endpoints
        ((runtime.enterSyscall active context).channel ref).endpoint) server
      ((runtime.enterSyscall active context).thread active).process context.argument1
      context.argument2).1 = Status.ok := by
    by_contra hstatus
    rw [if_pos hstatus] at haccepted
    exact hstatus haccepted
  obtain ⟨serverProcess, memory, requestAddress, stackPointer, howner, _, hdeliver, hprepared⟩ :=
    prepareServerThread_ok hprepare
  rw [hsaved, hclient] at hdeliver
  have hprepared' : (runtime.enterSyscall active context).prepareServerThread arch
      ((runtime.enterSyscall active context).endpoints
        ((runtime.enterSyscall active context).channel ref).endpoint) server
      ((runtime.enterSyscall active context).thread active).process context.argument1
      context.argument2 = (Status.ok, (runtime.enterSyscall active context).serverPrepared memory
        (runtime.endpointOf ref) server requestAddress context.argument2 stackPointer) := by
    exact Prod.ext hprepare hprepared
  simp only [hprepared', ne_eq, not_true_eq_false, if_false, h.other, not_false_eq_true, if_true]
  have hready : ((runtime.enterSyscall active context).serverPrepared memory
      (runtime.endpointOf ref) server requestAddress context.argument2 stackPointer).thread server =
        (runtime.thread server).prepareRpcResume (runtime.endpointOf ref).callbackAddress
          (runtime.endpointOf ref).completionAddress requestAddress context.argument2
          stackPointer := by
    rw [← hsaved]
    exact thread_modifyThread_self hserver _
  have hdelivered : ((runtime.enterSyscall active context).serverPrepared memory
      (runtime.endpointOf ref) server requestAddress context.argument2 stackPointer).memory =
        memory := rfl
  have hprocesses : ((runtime.enterSyscall active context).serverPrepared memory
      (runtime.endpointOf ref) server requestAddress context.argument2 stackPointer).processes =
        runtime.processes := rfl
  have hcur : ((runtime.enterSyscall active context).serverPrepared memory
      (runtime.endpointOf ref) server requestAddress context.argument2
      stackPointer).currentThread = some active := hentered
  have hactive : ((runtime.enterSyscall active context).serverPrepared memory
      (runtime.endpointOf ref) server requestAddress context.argument2
      stackPointer).LiveThread active := liveThread_modifyThread.mpr hlive
  generalize (runtime.enterSyscall active context).serverPrepared memory (runtime.endpointOf ref)
    server requestAddress context.argument2 stackPointer = prepared
    at hready hdelivered hprocesses hcur hactive ⊢
  refine ⟨serverProcess, requestAddress, stackPointer, howner, ?_,
    setCurrentThread_currentThread _ _, ?_, ?_⟩
  · rw [setCurrentThread_memory]
    show _ = (Status.ok, prepared.memory, requestAddress, stackPointer)
    rw [hdelivered]
    exact hdeliver
  · rw [setCurrentThread_processes]
    exact hprocesses
  · have hblocked : ((prepared.beginCall ref active server).modifyThread active
        (Thread.setState .blocked)).thread server = prepared.thread server :=
      thread_modifyThread_of_ne h.other _
    have hnotRunning : ((prepared.beginCall ref active server).modifyThread active
        (Thread.setState .blocked)).currentThread = some server →
          (((prepared.beginCall ref active server).modifyThread active
            (Thread.setState .blocked)).thread server).state ≠ .running := by
      intro hserverCurrent
      have heq : prepared.currentThread = some server := hserverCurrent
      exact absurd (Option.some.inj (heq.symm.trans hcur)) h.other
    rw [thread_setCurrentThread, switchedState_of_not_running hnotRunning, hblocked, hready,
      if_pos ⟨rfl, h.ready⟩]

end Entering

/-- The link register at the entry of a callback; x64 has none. -/
def entryLink (arch : Arch) (completionAddress : UInt64) : Option UInt64 :=
  match arch with
  | .x64 => none
  | .arm64 => some completionAddress

/-- The server goes on in its callback with the request and its size. -/
structure ReceivesRequest (arch : Arch) (runtime after : UserRuntime) (active server : ThreadRef)
    (ref : ChannelRef) (context : UserSyscallContext) : Prop where
  current : after.currentThread = some server
  resumed : resumedEntry arch active Status.ok after = some (entryOf arch (after.thread server))
  callback : (entryOf arch (after.thread server)).instructionPointer =
    (runtime.endpointOf ref).callbackAddress
  size : (entryOf arch (after.thread server)).argument1 = context.argument2
  delivered : Delivered arch
    (runtime.process (runtime.thread active).process).addressSpaceInfo
    (runtime.process (runtime.thread server).process).addressSpaceInfo
    runtime.memory after.memory (runtime.endpointOf ref).completionAddress context.argument1
    (runtime.thread server).userContext.stackPointer context.argument2
    (entryOf arch (after.thread server)).argument0
    (entryOf arch (after.thread server)).stackPointer
  link : (entryOf arch (after.thread server)).linkRegister =
    entryLink arch (runtime.endpointOf ref).completionAddress

/-- Every accepted call to a ready native server enters its callback with the request, if the
window that is written shares no host byte with the request and none with itself. -/
theorem request_delivered {arch : Arch} {runtime : UserRuntime} {active server : ThreadRef}
    {ref : ChannelRef} {context : UserSyscallContext}
    (hreach : (runtimeSystem arch).Reachable TransitionSystem.anyStep runtime)
    (hbuilt : BuiltSpaces runtime) (hcall : CallsReadyServer arch runtime active server ref context)
    (hapart : Apart arch (runtime.process (runtime.thread active).process).addressSpaceInfo
      (runtime.process (runtime.thread server).process).addressSpaceInfo context.argument1
      (runtime.thread server).userContext.stackPointer context.argument2)
    (hunfolded : Unfolded arch (runtime.process (runtime.thread server).process).addressSpaceInfo
      (runtime.thread server).userContext.stackPointer context.argument2) :
    ReceivesRequest arch runtime (runtime.dispatchSyscall arch context).2 active server ref
      context := by
  obtain ⟨serverProcess, requestAddress, stackPointer, howner, hdeliver, hcurrent, hprocesses,
    hthread⟩ := hcall.handedOver (reachable_wellFormed hreach)
  have hprocess : serverProcess = (runtime.thread server).process := by
    have hmatch := reachable_ownersMatch hreach _ _ (resolveCall_ok hcall.resolved).2.2.1
    exact Option.some.inj (howner.symm.trans hmatch)
  subst hprocess
  have hdelivered := deliverRequest_delivers (hbuilt.process _) (hbuilt.process _)
    (resolveCall_size hcall.resolved) hapart hunfolded hdeliver
  generalize (runtime.dispatchSyscall arch context).2 = after
    at hdeliver hcurrent hprocesses hthread hdelivered ⊢
  have hnative : executionBackendOf after server = .native := by
    have hkept : (after.thread server).process = (runtime.thread server).process := by
      rw [hthread]
      rfl
    unfold executionBackendOf UserRuntime.process
    rw [hkept, hprocesses]
    exact hcall.native
  have hrunning : (after.thread server).state = .running := by
    rw [hthread]
    rfl
  have hresumed := resumedEntry_other arch hcall.other hcurrent hrunning hnative Status.ok
  have hentry := congrArg (entryOf arch) hthread
  refine ⟨hcurrent, hresumed, ?_, ?_, ?_, ?_⟩ <;> rw [hentry]
  · cases arch <;> rfl
  · cases arch <;> rfl
  · cases arch <;> exact hdelivered
  · cases arch <;> rfl

/-- Ranges whose bytes have different host bytes behind them are apart. -/
theorem apart_of_ne {arch : Arch} {client server : AddressSpace}
    {requestPointer stackPointer size : UInt64}
    (h : ∀ i < size.toNat, ∀ j < (stackWindow arch stackPointer size).2,
      byteTranslation client (requestPointer + UInt64.ofNat i) ≠
        byteTranslation server ((stackWindow arch stackPointer size).1 + UInt64.ofNat j)) :
    Apart arch client server requestPointer stackPointer size := by
  rintro host ⟨i, hi, hleft⟩ ⟨j, hj, hright⟩
  exact h i hi j hj (hleft.trans hright.symm)

end Ringos.Arch
