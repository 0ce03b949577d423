import Ringos.Arch.RequestDelivery
import Ringos.Arch.Arm64Boot

/-!
# The delivery of a request on the booted kernels

Each kernel maps its initial processes itself: on x64 the image and the stack
behind it, on arm64 a first part of the user region. There every byte lies the
same distance away from its user address, so no host byte is behind two
addresses, and a request is delivered whenever it lies apart from the part of
the server's stack that is written.
-/

namespace Ringos.Arch

open Ringos.Core Ringos.Kernel UserRuntime

/-- Every mapped byte lies the same distance away from its user address. -/
def Displaced (addressSpaceInfo : AddressSpace) (distance : UInt64) : Prop :=
  ∀ mapping ∈ addressSpaceInfo.mappings, mapping.hostAddress = mapping.userAddress + distance

section Distance

variable {addressSpaceInfo : AddressSpace} {distance userAddress hostAddress : UInt64}

theorem Displaced.host (h : Displaced addressSpaceInfo distance)
    (htranslates : byteTranslation addressSpaceInfo userAddress = some hostAddress) :
    hostAddress = userAddress + distance := by
  obtain ⟨mapping, hfind, hhost⟩ := Option.map_eq_some_iff.mp htranslates
  rw [← hhost, h mapping (List.mem_of_find?_eq_some hfind), UInt64.add_comm, ← UInt64.add_assoc,
    UInt64.sub_add_cancel]

/-- A range shorter than the address range has its bytes in different places. -/
theorem Displaced.distinctBytes (h : Displaced addressSpaceInfo distance) {length : Nat}
    (hlength : length ≤ 2 ^ 64) : DistinctBytes addressSpaceInfo userAddress length := by
  intro i hi j hj host hleft hright
  have hsum := (h.host hleft).symm.trans (h.host hright)
  have hoffset := (UInt64.add_right_inj _).mp ((UInt64.add_left_inj _).mp hsum)
  have hindex := congrArg UInt64.toNat hoffset
  rwa [UInt64.toNat_ofNat_of_lt' (hi.trans_le hlength),
    UInt64.toNat_ofNat_of_lt' (hj.trans_le hlength)] at hindex

/-- No window of a request holds a host byte twice. -/
theorem Displaced.unfolded (h : Displaced addressSpaceInfo distance) (arch : Arch)
    {stackPointer size : UInt64} (hsize : size ≤ rpcMaxRequestSize) :
    Unfolded arch addressSpaceInfo stackPointer size := by
  have hmax : size.toNat ≤ 256 := UInt64.le_iff_toNat_le.mp hsize
  refine h.distinctBytes ?_
  cases arch with
  | x64 =>
    show 8 + size.toNat ≤ 2 ^ 64
    omega
  | arm64 =>
    show size.toNat ≤ 2 ^ 64
    omega

end Distance

/-- An address space that the platform of a kernel fills in. -/
def MappedByPlatform (arch : Arch) (addressSpaceInfo : AddressSpace) : Prop :=
  match arch with
  | .x64 => ∃ storage, bootstrapAddressSpace storage = some addressSpaceInfo
  | .arm64 => MapsUserRegion addressSpaceInfo

/-- The platforms of the kernels, with any images attached. -/
inductive InitializesPlatform : Arch →
    (ByteMemory → Except String (InitialUserRuntimeBootstrap × ByteMemory)) → Prop
  | x64 (platform : X64Platform) (terminalServiceImage testAppImage : List UInt8) :
      InitializesPlatform .x64 (platform.initializeBootstrap terminalServiceImage testAppImage)
  | arm64 (platform : Arm64Platform) (terminalServiceImage testAppImage : List UInt8) :
      InitializesPlatform .arm64 (platform.initializeBootstrap terminalServiceImage testAppImage)

/-- The runs of a kernel, from any runtime whose processes have been mapped by its platform. -/
def kernelSystem (arch : Arch) : TransitionSystem UserRuntime Action where
  init runtime := Started runtime ∧ ∀ ref process, runtime.processes.items ref = some process →
    MappedByPlatform arch process.addressSpaceInfo
  enabled := (runtimeSystem arch).enabled
  next := (runtimeSystem arch).next

section Spaces

variable {arch : Arch} {addressSpaceInfo : AddressSpace} {runtime : UserRuntime}

/-- The image and the stack lie behind each other on both sides. -/
theorem MappedByPlatform.displaced (h : MappedByPlatform arch addressSpaceInfo) :
    ∃ distance, Displaced addressSpaceInfo distance := by
  cases arch with
  | x64 =>
    obtain ⟨storage, hspace⟩ := h
    refine ⟨(userImagePages storage).start.toUInt64 - x64UserImageVirtualAddress,
      fun mapping hmem => ?_⟩
    rw [bootstrapAddressSpace_mappings hspace, List.mem_cons, List.mem_singleton] at hmem
    obtain rfl | rfl := hmem
    · exact (UInt64.add_comm _ _).trans (UInt64.sub_add_cancel _ _) |>.symm
    · have hstack : (userStackPage storage).start =
          (userImagePages storage).start + userImageSize := (Nat.add_assoc ..).symm
      have hpage : (userStackPage storage).start.toUInt64 =
          (userImagePages storage).start.toUInt64 + userImageSize.toUInt64 := by
        rw [hstack]
        exact UInt64.ofNat_add _ _
      show (userStackPage storage).start.toUInt64 = x64UserImageVirtualAddress +
        userImageSize.toUInt64 + _
      rw [hpage, UInt64.add_comm _ (_ - _), ← UInt64.add_assoc, UInt64.sub_add_cancel]
  | arm64 =>
    obtain ⟨storage, size, hspace⟩ := h
    refine ⟨arm64UserRegion storage - x64UserImageVirtualAddress, fun mapping hmem => ?_⟩
    rw [arm64AddressSpace_mappings hspace, List.mem_singleton] at hmem
    obtain rfl := hmem
    exact (UInt64.add_comm _ _).trans (UInt64.sub_add_cancel _ _) |>.symm

theorem MappedByPlatform.built (h : MappedByPlatform arch addressSpaceInfo) :
    BuiltAddressSpace addressSpaceInfo := by
  cases arch with
  | x64 =>
    obtain ⟨storage, hspace⟩ := h
    exact bootstrapAddressSpace_built hspace
  | arm64 =>
    obtain ⟨storage, size, hspace⟩ := h
    exact arm64AddressSpace_built hspace

/-- A process that there is not has no mappings. -/
theorem displaced_process (hmapped : ∀ ref process, runtime.processes.items ref = some process →
    MappedByPlatform arch process.addressSpaceInfo) (ref : ProcessRef) :
    ∃ distance, Displaced (runtime.process ref).addressSpaceInfo distance := by
  unfold UserRuntime.process KernelObjectPool.get
  cases hitem : runtime.processes.items ref with
  | none => exact ⟨0, fun _ hmem => absurd hmem List.not_mem_nil⟩
  | some process => exact (hmapped ref process hitem).displaced

/-- What a kernel starts is a runtime that its runs start from. -/
theorem kernelSystem_init
    {initializePlatform : ByteMemory → Except String (InitialUserRuntimeBootstrap × ByteMemory)}
    (hplatform : InitializesPlatform arch initializePlatform) {memory : ByteMemory}
    {initial : ProcessRef × ThreadRef}
    (h : runInitialUserRuntime initializePlatform memory = .ok (initial, runtime)) :
    (kernelSystem arch).init runtime := by
  cases hplatform with
  | x64 platform terminalServiceImage testAppImage =>
    exact runInitialUserRuntime_maps
      (fun _ _ _ hfilled => X64Platform.initializeBootstrap_maps hfilled) h
  | arm64 platform terminalServiceImage testAppImage =>
    exact runInitialUserRuntime_maps
      (fun _ _ _ hfilled => Arm64Platform.initializeBootstrap_maps hfilled) h

/-- Along every run of a kernel the processes are as its platform has mapped them. -/
theorem kernelSystem_reachable
    (h : (kernelSystem arch).Reachable TransitionSystem.anyStep runtime) :
    (runtimeSystem arch).Reachable TransitionSystem.anyStep runtime ∧
      ∀ ref process, runtime.processes.items ref = some process →
        MappedByPlatform arch process.addressSpaceInfo := by
  induction h with
  | init hinit => exact ⟨.init hinit.1, hinit.2⟩
  | @step before action _ henabled hguard ih =>
    refine ⟨ih.1.step henabled hguard, fun ref process hitem => ?_⟩
    have hkept := act_processes arch before action
    exact ih.2 ref process (hkept ▸ hitem)

end Spaces

/-- No address of a delivery wraps around zero, and on the booted kernels every accepted call to a
ready native server enters its callback with the request, if the request and the window that is
written share no host byte. -/
theorem kernel_delivers (arch : Arch) :
    (∀ stackPointer size, size ≤ rpcMaxRequestSize → NoWrap stackPointer size) ∧
    ∀ {runtime : UserRuntime} {active server : ThreadRef} {ref : ChannelRef}
      {context : UserSyscallContext},
      (kernelSystem arch).Reachable TransitionSystem.anyStep runtime →
      CallsReadyServer arch runtime active server ref context →
      Apart arch (runtime.process (runtime.thread active).process).addressSpaceInfo
        (runtime.process (runtime.thread server).process).addressSpaceInfo context.argument1
        (runtime.thread server).userContext.stackPointer context.argument2 →
      ReceivesRequest arch runtime (runtime.dispatchSyscall arch context).2 active server ref
        context := by
  refine ⟨fun _ _ hsize => noWrap hsize, ?_⟩
  intro runtime active server ref context h hcall hapart
  obtain ⟨hreach, hmapped⟩ := kernelSystem_reachable h
  have hbuilt : BuiltSpaces runtime := fun process item hitem => (hmapped process item hitem).built
  refine request_delivered hreach hbuilt hcall hapart ?_
  obtain ⟨distance, hdisplaced⟩ := displaced_process hmapped (runtime.thread server).process
  exact hdisplaced.unfolded arch (resolveCall_size hcall.resolved)

/-- The first byte of every page is a name. -/
def nameMemory : ByteMemory := fun address => if address % 0x1000 = 0 then 97 else 0

/-- The first process registers an endpoint, and the second one opens it. -/
def openedByClient : List Action :=
  [.userStores nameMemory, trap 3 0x400000 0x401200 0x401210 0x408f00,
    trap 4 0x400000 0x401300 0 0x408f00]

/-- A call of the second process on handle 5 with a request of one byte. -/
def clientCall : UserSyscallContext :=
  ⟨5, 0x401010, 0x408f00, 0x202, 5, 0x401400, 1, 0, 0, 0⟩

/-- The call of the second process is accepted, and its request lies apart, for evaluation. -/
def acceptsClientCall (runtime : UserRuntime) : Bool :=
  let window := stackWindow .x64 (runtime.thread 0).userContext.stackPointer clientCall.argument2
  decide (runtime.currentThread = some 1 ∧ runtime.resolveCall 1 clientCall = .ok (0, 0) ∧
    (runtime.thread 0).state = .ready ∧ executionBackendOf runtime 0 = .native ∧
    (runtime.dispatchSyscall .x64 clientCall).1 = Status.ok ∧
    ∀ i < clientCall.argument2.toNat, ∀ j < window.2,
      byteTranslation (runtime.process (runtime.thread 1).process).addressSpaceInfo
          (clientCall.argument1 + UInt64.ofNat i) ≠
        byteTranslation (runtime.process (runtime.thread 0).process).addressSpaceInfo
          (window.1 + UInt64.ofNat j))

/-- Two processes with the same image boot, and the second one calls the first one. -/
theorem clientCall_boots :
    ∃ runtime, (kernelSystem .x64).Reachable TransitionSystem.anyStep runtime ∧
      acceptsClientCall runtime = true := by
  have hruns : (runInitialUserRuntime ((X64Platform.mk 0x100000).initializeBootstrap tenPageImage
      tenPageImage) fun _ => 0).toOption.any (fun started =>
        ((kernelSystem .x64).runs UserRuntime.mayAct started.2 openedByClient).any fun runtime =>
          decide (acceptsClientCall runtime = true)) = true := by decide +kernel
  obtain ⟨started, hboot, hchecks⟩ := ok_of_any hruns
  exact TransitionSystem.exists_reachable openedByClient (fun _ _ hmay => ⟨hmay, trivial⟩)
    (kernelSystem_init (.x64 ⟨0x100000⟩ tenPageImage tenPageImage) hboot) hchecks

/-- The call of the second process of a booted x64 kernel is delivered. -/
theorem kernel_delivers_clientCall :
    ∃ runtime, (kernelSystem .x64).Reachable TransitionSystem.anyStep runtime ∧
      ReceivesRequest .x64 runtime (runtime.dispatchSyscall .x64 clientCall).2 1 0 0
        clientCall := by
  obtain ⟨runtime, hreach, hchecks⟩ := clientCall_boots
  obtain ⟨hcurrent, hresolved, hready, hnative, haccepted, hne⟩ := of_decide_eq_true hchecks
  have hcall : CallsReadyServer .x64 runtime 1 0 0 clientCall :=
    ⟨hcurrent, by decide, hresolved, by decide, hready, hnative, haccepted⟩
  exact ⟨runtime, hreach, (kernel_delivers .x64).2 hreach hcall (apart_of_ne hne)⟩

end Ringos.Arch
