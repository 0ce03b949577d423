import Ringos.Calls.Binding
import Ringos.Calls.UserStrings

/-!
# Endpoint names

A history remembers the pointer that each endpoint was registered under, with
the address space and the memory it was read in. Names are carried whole from
one process to another, so `RPC_OPEN` finds the endpoint whose registration
referred to the byte string it is asked for, and a name that does not fit the
buffer is refused before anything is looked up.
-/

namespace Ringos.Kernel

open Ringos.Core

/-- A name as a process passes it: a pointer, with the memory it is read in. -/
structure NameSource where
  addressSpaceInfo : AddressSpace
  memory : ByteMemory
  pointer : UInt64

/-- The pointer refers to the byte string. -/
def NameSource.Refers (source : NameSource) (name : List UInt8) : Prop :=
  StringAt source.addressSpaceInfo source.memory source.pointer name

/-- The first 32 bytes at the pointer are mapped and none is NUL. -/
def NameSource.TooLong (source : NameSource) : Prop :=
  NoNulWithin source.addressSpaceInfo source.memory source.pointer rpcEndpointNameBufferSize

/-- The name that the registration of each endpoint was given. -/
abbrev NameLog := EndpointRef → Option NameSource

namespace UserRuntime

variable {arch : Arch} {runtime : UserRuntime}

/-- The name that `active` passes to `RPC_REGISTER` or `RPC_OPEN`. -/
def nameSource (runtime : UserRuntime) (active : ThreadRef) (context : UserSyscallContext) :
    NameSource where
  addressSpaceInfo := (runtime.process (runtime.thread active).process).addressSpaceInfo
  memory := runtime.memory
  pointer := context.argument0

/-- The log after a syscall: an endpoint that it has brought into use is registered by it. -/
def recordName (before after : UserRuntime) (active : ThreadRef) (context : UserSyscallContext)
    (log : NameLog) : NameLog := fun e =>
  if newlyInUse before after e then some (before.nameSource active context) else log e

/-- The log after a step. -/
def recordNames (arch : Arch) (before : UserRuntime) (action : Action) (log : NameLog) :
    NameLog :=
  match action, before.currentThread with
  | .syscall context, some active =>
    recordName before (before.act arch action) active context log
  | _, _ => log

/-- The runtime with its name log. -/
def nameSystem (arch : Arch) : TransitionSystem (UserRuntime × NameLog) Action :=
  (runtimeSystem arch).withHistory (fun _ _ => none) (recordNames arch)

/-- The endpoint is in use and its registration referred to the byte string. -/
def RegisteredAs (s : UserRuntime × NameLog) (e : EndpointRef) (name : List UInt8) : Prop :=
  (s.1.endpoints e).isInUse = true ∧ ∃ source ∈ s.2 e, source.Refers name

/-- A user address of the process is mapped. -/
def Mapped (runtime : UserRuntime) (ref : ProcessRef) (userAddress : UInt64) : Prop :=
  ∃ hostAddress, Translates (runtime.process ref).addressSpaceInfo userAddress hostAddress

/-- Every endpoint in use carries the byte string of its registration and no two the same. -/
structure Named (s : UserRuntime × NameLog) : Prop where
  carried : ∀ e, (s.1.endpoints e).isInUse = true → ∃ source ∈ s.2 e,
    BuiltAddressSpace source.addressSpaceInfo ∧ ∃ name, source.Refers name ∧
      name.length < rpcEndpointNameBufferSize ∧
      (s.1.endpoints e).name = padded rpcEndpointNameBufferSize name
  distinct : ∀ e e', (s.1.endpoints e).isInUse = true → (s.1.endpoints e').isInUse = true →
    (s.1.endpoints e).name = (s.1.endpoints e').name → e = e'

/-- An admitted registration has copied a name that no endpoint carries. -/
theorem resolveRegistration_name {active : ThreadRef} {context : UserSyscallContext}
    {ref : EndpointRef} {endpointName : List UInt8}
    (h : runtime.resolveRegistration active context = .ok (ref, endpointName)) :
    copyUserString (runtime.process (runtime.thread active).process).addressSpaceInfo
        runtime.memory context.argument0 rpcEndpointNameBufferSize =
      (Status.ok, endpointName) ∧ runtime.findEndpointByName endpointName = none := by
  unfold resolveRegistration at h
  dsimp only at h
  split at h
  · cases h
  split at h
  · cases h
  split at h
  · cases h
  rename_i hstatus
  split at h
  · cases h
  rename_i hunknown
  split at h
  · cases h
  · simp only [Except.ok.injEq, Prod.mk.injEq] at h
    obtain ⟨rfl, rfl⟩ := h
    refine ⟨?_, by simpa using hunknown⟩
    ext1
    · exact not_not.mp hstatus
    · rfl

/-- A step that brings no endpoint into use and renames none. -/
theorem Named.subset {s : UserRuntime × NameLog} {after : UserRuntime} (h : Named s)
    (hsubset : ∀ e, (after.endpoints e).isInUse = true →
      (s.1.endpoints e).isInUse = true ∧ (after.endpoints e).name = (s.1.endpoints e).name) :
    Named (after, s.2) := by
  constructor
  · intro e hinUse
    obtain ⟨hbefore, hname⟩ := hsubset e hinUse
    rw [hname]
    exact h.carried e hbefore
  · intro e e' hinUse hinUse' hsame
    obtain ⟨hbefore, hname⟩ := hsubset e hinUse
    obtain ⟨hbefore', hname'⟩ := hsubset e' hinUse'
    rw [hname, hname'] at hsame
    exact h.distinct e e' hbefore hbefore' hsame

/-- On a named table, a lookup of a byte string tests for the endpoint that carries it. -/
theorem Named.matchesName {s : UserRuntime × NameLog} (h : Named s) (e : EndpointRef)
    {name : List UInt8} (hname : 0 ∉ name) (hlength : name.length < rpcEndpointNameBufferSize) :
    (s.1.endpoints e).matchesName (padded rpcEndpointNameBufferSize name) = true ↔
      (s.1.endpoints e).isInUse = true ∧
        (s.1.endpoints e).name = padded rpcEndpointNameBufferSize name := by
  simp only [RpcEndpoint.matchesName, Bool.and_eq_true]
  refine and_congr_right fun hinUse => ?_
  obtain ⟨source, _, _, carried, hcarried, hcarriedLength, hbuffer⟩ := h.carried e hinUse
  rw [hbuffer, stringsEqual_padded hcarried.nulFree hname hcarriedLength hlength]
  constructor
  · rintro rfl
    rfl
  · exact padded_inj hcarried.nulFree hname hcarriedLength hlength

/-- The busy flag hides neither use nor name of an endpoint. -/
theorem endpoints_of_idle {before after : UserRuntime} {e : EndpointRef}
    (h : after.idleEndpoint e = before.idleEndpoint e) :
    (after.endpoints e).isInUse = (before.endpoints e).isInUse ∧
      (after.endpoints e).name = (before.endpoints e).name := by
  have hinUse : (after.idleEndpoint e).isInUse = (before.idleEndpoint e).isInUse := by rw [h]
  have hname : (after.idleEndpoint e).name = (before.idleEndpoint e).name := by rw [h]
  exact ⟨hinUse, hname⟩

/-- A registration keeps the log right. -/
theorem Named.registered {s : UserRuntime × NameLog} {after : UserRuntime} (h : Named s)
    (hbuilt : BuiltSpaces s.1) {active : ThreadRef} {context : UserSyscallContext}
    {ref : EndpointRef} {endpointName : List UInt8}
    (hresolve : s.1.resolveRegistration active context = .ok (ref, endpointName))
    (hendpoints : after.idleEndpoint = Function.update s.1.idleEndpoint ref
      (RpcEndpoint.initialized (s.1.thread active).process active endpointName context.argument1
        context.argument2)) :
    Named (after, recordName s.1 after active context s.2) := by
  have hfree : (s.1.endpoints ref).isInUse = false := by
    simpa using firstIndex_some (resolveRegistration_ok hresolve)
  obtain ⟨hcopy, hunknown⟩ := resolveRegistration_name hresolve
  have hspace := hbuilt.process (s.1.thread active).process
  obtain ⟨name, hname, hlength, hbuffer⟩ := copyUserString_ok hspace (by rw [hcopy])
  rw [hcopy] at hbuffer
  obtain rfl : endpointName = padded rpcEndpointNameBufferSize name := hbuffer
  have hnew : (after.idleEndpoint ref).name = padded rpcEndpointNameBufferSize name := by
    rw [hendpoints, Function.update_self]
    exact copyString_padded hname.nulFree hlength
  have hold : ∀ e, e ≠ ref → after.idleEndpoint e = s.1.idleEndpoint e := by
    intro e he
    rw [hendpoints, Function.update_of_ne he]
  have hinUse : ∀ e, e ≠ ref → (after.endpoints e).isInUse = (s.1.endpoints e).isInUse :=
    fun e he => (endpoints_of_idle (hold e he)).1
  have hsame : ∀ e, e ≠ ref → (after.endpoints e).name = (s.1.endpoints e).name :=
    fun e he => (endpoints_of_idle (hold e he)).2
  -- The lookup before the registration has found no endpoint of the name.
  have hother : ∀ e, (s.1.endpoints e).isInUse = true →
      (s.1.endpoints e).name ≠ padded rpcEndpointNameBufferSize name := by
    intro e he hclash
    have hmatch := firstIndex_eq_none.mp hunknown e
    rw [(h.matchesName e hname.nulFree hlength).mpr ⟨he, hclash⟩] at hmatch
    cases hmatch
  unfold recordName
  simp only [newlyInUse_of_register hfree hendpoints rfl, decide_eq_true_eq]
  constructor
  · intro e he
    by_cases href : e = ref
    · subst href
      exact ⟨s.1.nameSource active context, if_pos rfl, hspace, name, hname, hlength, hnew⟩
    · dsimp only at he ⊢
      rw [hinUse e href] at he
      rw [hsame e href, if_neg href]
      exact h.carried e he
  · intro e e' he he' hclash
    dsimp only at he he' hclash
    by_cases href : e = ref
    · by_cases href' : e' = ref
      · rw [href, href']
      · rw [hinUse e' href'] at he'
        rw [hsame e' href', href] at hclash
        exact absurd (hclash.symm.trans hnew) (hother e' he')
    · rw [hinUse e href] at he
      rw [hsame e href] at hclash
      by_cases href' : e' = ref
      · rw [href'] at hclash
        exact absurd (hclash.trans hnew) (hother e he)
      · rw [hinUse e' href'] at he'
        rw [hsame e' href'] at hclash
        exact h.distinct e e' he he' hclash

/-- An exit leaves endpoints that were there. -/
theorem subset_of_exit {before after : UserRuntime} {active : ThreadRef}
    (h : after.idleEndpoint = fun e =>
      if (before.idleEndpoint e).ownerThread = some active then RpcEndpoint.cleared
      else before.idleEndpoint e) (e : EndpointRef) (hinUse : (after.endpoints e).isInUse = true) :
    (before.endpoints e).isInUse = true ∧ (after.endpoints e).name = (before.endpoints e).name := by
  have he : after.idleEndpoint e = if (before.idleEndpoint e).ownerThread = some active then
      RpcEndpoint.cleared else before.idleEndpoint e := congrFun h e
  split at he
  · have hcleared : (after.idleEndpoint e).isInUse = false := by
      rw [he]
      rfl
    exact absurd (hinUse.symm.trans hcleared) (by simp)
  · obtain ⟨hsame, hname⟩ := endpoints_of_idle he
    exact ⟨hsame.symm.trans hinUse, hname⟩

/-- A step that takes endpoints out of use brings none in. -/
theorem newlyInUse_of_subset {before after : UserRuntime} {e : EndpointRef}
    (h : (after.endpoints e).isInUse = true → (before.endpoints e).isInUse = true) :
    newlyInUse before after e = false := by
  cases hafter : (after.endpoints e).isInUse with
  | false => simp only [newlyInUse, hafter, Bool.and_false]
  | true => simp only [newlyInUse, h hafter, Bool.not_true, Bool.false_and]

/-- A syscall that brings no endpoint into use records nothing. -/
theorem recordName_of_none {before after : UserRuntime}
    (h : ∀ e, newlyInUse before after e = false) {active : ThreadRef}
    {context : UserSyscallContext} {log : NameLog} :
    recordName before after active context log = log := by
  ext1 e
  simp only [recordName, h e, Bool.false_eq_true, if_false]

/-- Every step keeps the log right. -/
theorem Named.act {s : UserRuntime × NameLog} (h : Named s) (hbuilt : BuiltSpaces s.1)
    (arch : Arch) (action : Action) :
    Named (s.1.act arch action, recordNames arch s.1 action s.2) := by
  cases action with
  | syscall context =>
    cases hcurrent : s.1.currentThread with
    | none =>
      simp only [recordNames, UserRuntime.act, dispatchSyscall, hcurrent]
      exact h
    | some active =>
      have heffect := dispatchSyscall_endpoints arch context hcurrent
      simp only [recordNames, UserRuntime.act, hcurrent]
      generalize (s.1.dispatchSyscall arch context).2 = after at heffect
      cases heffect with
      | kept _ hendpoints =>
        rw [recordName_of_none (newlyInUse_of_eq hendpoints)]
        refine h.subset fun e hinUse => ?_
        obtain ⟨hsame, hname⟩ := endpoints_of_idle (congrFun hendpoints e)
        exact ⟨hsame.symm.trans hinUse, hname⟩
      | registered ref endpointName _ hresolve hendpoints =>
        exact h.registered hbuilt hresolve hendpoints
      | exited _ hendpoints =>
        have hsubset := subset_of_exit hendpoints
        rw [recordName_of_none fun e => newlyInUse_of_subset fun hinUse => (hsubset e hinUse).1]
        exact h.subset hsubset
  | terminate exitStatus peerFailureStatus =>
    cases hcurrent : s.1.currentThread with
    | none =>
      simp only [recordNames, UserRuntime.act, terminateCurrentThread, hcurrent]
      exact h
    | some active =>
      exact h.subset (subset_of_exit
        (terminateCurrentThread_bindings arch hcurrent exitStatus peerFailureStatus).2)
  | userStores memory => exact h.subset fun e hinUse => ⟨hinUse, rfl⟩
  | saveRegisters registers simdQwords =>
    refine h.subset fun e hinUse => ?_
    simp only [UserRuntime.act, modifyCurrentThread] at hinUse ⊢
    split at hinUse <;> exact ⟨hinUse, rfl⟩
  | prepareResume status =>
    refine h.subset fun e hinUse => ?_
    simp only [UserRuntime.act, modifyCurrentThread] at hinUse ⊢
    split at hinUse <;> exact ⟨hinUse, rfl⟩

/-- Over built address spaces the log is right along every run. -/
theorem reachable_named {s : UserRuntime × NameLog}
    (h : (nameSystem arch).Reachable TransitionSystem.anyStep s) :
    BuiltSpaces s.1 → Named s := by
  refine h.invariant (P := fun s => BuiltSpaces s.1 → Named s) ?_ ?_
  · rintro s ⟨⟨created, thread, hcreated, _, hstarted⟩, _⟩ _
    have hfree : ∀ e, (s.1.endpoints e).isInUse = false := by
      intro e
      rw [hstarted, setCurrentThread_endpoints, hcreated.unstarted.noEndpoint e]
      rfl
    constructor
    · intro e hinUse
      exact absurd ((hfree e).symm.trans hinUse) (by simp)
    · intro e e' hinUse
      exact absurd ((hfree e).symm.trans hinUse) (by simp)
  · intro s action _ hnamed _ _ hbuilt
    have hbefore : BuiltSpaces s.1 := fun ref process hitem => by
      refine hbuilt ref process ?_
      rw [← hitem]
      exact congrArg (fun pool => pool.items ref) (act_processes arch s.1 action)
    exact (hnamed hbefore).act hbefore arch action

/-- The byte string an endpoint is registered under. -/
theorem Named.registeredAs_iff {s : UserRuntime × NameLog} (h : Named s) {e : EndpointRef}
    {name : List UInt8} (hname : 0 ∉ name) (hlength : name.length < rpcEndpointNameBufferSize) :
    RegisteredAs s e name ↔ (s.1.endpoints e).isInUse = true ∧
      (s.1.endpoints e).name = padded rpcEndpointNameBufferSize name := by
  refine and_congr_right fun hinUse => ?_
  obtain ⟨source, hsource, hspace, carried, hcarried, hcarriedLength, hbuffer⟩ :=
    h.carried e hinUse
  constructor
  · rintro ⟨found, hfound, hrefers⟩
    obtain rfl : source = found := Option.some.inj (hsource.symm.trans hfound)
    rw [hbuffer, StringAt.unique hspace hcarried hrefers]
  · intro hsame
    obtain rfl := padded_inj hcarried.nulFree hname hcarriedLength hlength
      (hbuffer.symm.trans hsame)
    exact ⟨source, hsource, hcarried⟩

/-- A registered byte string fits its buffer. -/
theorem Named.fits {s : UserRuntime × NameLog} (h : Named s) {e : EndpointRef}
    {name : List UInt8} (hregistered : RegisteredAs s e name) :
    0 ∉ name ∧ name.length < rpcEndpointNameBufferSize := by
  obtain ⟨hinUse, found, hfound, hrefers⟩ := hregistered
  obtain ⟨source, hsource, hspace, carried, hcarried, hlength, _⟩ := h.carried e hinUse
  obtain rfl : source = found := Option.some.inj (hsource.symm.trans hfound)
  obtain rfl := StringAt.unique hspace hcarried hrefers
  exact ⟨hcarried.nulFree, hlength⟩

/-- No two endpoints are registered under one byte string. -/
theorem Named.unique {s : UserRuntime × NameLog} (h : Named s) {e e' : EndpointRef}
    {name : List UInt8} (hregistered : RegisteredAs s e name)
    (hregistered' : RegisteredAs s e' name) : e = e' := by
  obtain ⟨hname, hlength⟩ := h.fits hregistered
  obtain ⟨hinUse, hbuffer⟩ := (h.registeredAs_iff hname hlength).mp hregistered
  obtain ⟨hinUse', hbuffer'⟩ := (h.registeredAs_iff hname hlength).mp hregistered'
  exact h.distinct e e' hinUse hinUse' (hbuffer.trans hbuffer'.symm)

/-- A lookup finds the endpoint that is registered under the byte string. -/
theorem Named.findEndpointByName {s : UserRuntime × NameLog} (h : Named s) {name : List UInt8}
    (hname : 0 ∉ name) (hlength : name.length < rpcEndpointNameBufferSize)
    (e : EndpointRef) :
    s.1.findEndpointByName (padded rpcEndpointNameBufferSize name) = some e ↔
      RegisteredAs s e name := by
  have hmatches : ∀ e, (s.1.endpoints e).matchesName (padded rpcEndpointNameBufferSize name) =
      true ↔ RegisteredAs s e name := by
    intro e
    rw [h.matchesName e hname hlength, h.registeredAs_iff hname hlength]
  constructor
  · intro hfound
    exact (hmatches e).mp (firstIndex_some hfound)
  · intro hregistered
    refine firstIndex_eq_some ((hmatches e).mpr hregistered) fun e' he' => ?_
    rw [h.unique hregistered ((hmatches e').mp he')]

/-- `RPC_OPEN` of a name that no endpoint carries. -/
theorem rpcOpen_unknown {active : ThreadRef} {context : UserSyscallContext}
    (hpointer : context.argument0 ≠ 0) (hout : context.argument1 ≠ 0) {endpointName : List UInt8}
    (hcopy : copyUserString (runtime.process (runtime.thread active).process).addressSpaceInfo
      runtime.memory context.argument0 rpcEndpointNameBufferSize = (Status.ok, endpointName))
    (hunknown : runtime.findEndpointByName endpointName = none) :
    runtime.rpcOpen active context = (Status.notFound, runtime) := by
  simp only [rpcOpen, hpointer, hout, or_self, if_false, hcopy, ne_eq, not_true_eq_false,
    hunknown]

/-- What `RPC_OPEN` does with the endpoint it has found. -/
theorem rpcOpen_found {active : ThreadRef} {context : UserSyscallContext}
    (hpointer : context.argument0 ≠ 0) (hout : context.argument1 ≠ 0) {endpointName : List UInt8}
    (hcopy : copyUserString (runtime.process (runtime.thread active).process).addressSpaceInfo
      runtime.memory context.argument0 rpcEndpointNameBufferSize = (Status.ok, endpointName))
    {e : EndpointRef} (hfound : runtime.findEndpointByName endpointName = some e) :
    (runtime.rpcOpen active context).1 ∈
      [Status.ok, Status.peerClosed, Status.noMemory, Status.fault] ∧
    ((runtime.rpcOpen active context).1 = Status.ok → ∃ c, runtime.channelKey c = none ∧
      (runtime.rpcOpen active context).2.channelKey =
        Function.update runtime.channelKey c (some (runtime.nextHandleValue, e))) ∧
    ((∃ server, (runtime.endpoints e).ownerThread = some server ∧
        (runtime.thread server).state ≠ .exited) → (∃ c, runtime.channels.items c = none) →
      (writeUserBytes (runtime.process (runtime.thread active).process).addressSpaceInfo
        runtime.memory context.argument1 (toLittleEndian 8 runtime.nextHandleValue)).1 =
          Status.ok → (runtime.rpcOpen active context).1 = Status.ok) := by
  have hpeerClosed : Status.peerClosed ≠ Status.ok := by decide
  have hnoMemory : Status.noMemory ≠ Status.ok := by decide
  simp only [rpcOpen, hpointer, hout, or_self, if_false, hcopy, hfound]
  rw [if_neg (not_not_intro rfl)]
  cases howner : (runtime.endpoints e).ownerThread with
  | none => exact ⟨by simp, fun h => absurd h hpeerClosed, fun ⟨_, h, _⟩ => by cases h⟩
  | some server =>
    dsimp only
    by_cases hexited : (runtime.thread server).state = .exited
    · rw [if_pos hexited]
      refine ⟨by simp, fun h => absurd h hpeerClosed, fun ⟨other, hother, halive⟩ => ?_⟩
      exact absurd (Option.some.inj hother ▸ hexited) halive
    · rw [if_neg hexited]
      cases hemplace : runtime.channels.emplace runtime.nextHandleValue
          (RpcChannel.create (runtime.thread active).process e) with
      | none =>
        refine ⟨by simp, fun h => absurd h hnoMemory, fun _ ⟨c, hc⟩ => ?_⟩
        unfold KernelObjectPool.emplace at hemplace
        split at hemplace
        · rename_i hfull
          have hslot := firstIndex_eq_none.mp hfull c
          simp [hc] at hslot
        · cases hemplace
      | some allocated =>
        obtain ⟨c, channels, next⟩ := allocated
        dsimp only
        rw [emplaced_handle hemplace]
        obtain ⟨hfree, hkeys⟩ := channelKey_emplace (writeUserBytes (runtime.process
          (runtime.thread active).process).addressSpaceInfo runtime.memory context.argument1
          (toLittleEndian 8 runtime.nextHandleValue)).2 hemplace
        split
        · rename_i hwrite
          have hfault := (writeUserBytesLoop_status _ _ _ _ _).resolve_left hwrite
          refine ⟨?_, fun h => absurd h hwrite, fun _ _ h => absurd h hwrite⟩
          rw [writeUserBytes, hfault]
          simp
        · exact ⟨by simp, fun _ => ⟨c, hfree, hkeys⟩, fun _ _ _ => rfl⟩

/-- What a syscall does with a name: too long a name, and no other, is refused as such, and then
nothing has happened. -/
def RefusesLongName (runtime : UserRuntime) (source : NameSource) (result : Int32 × UserRuntime) :
    Prop :=
  (result.1 = Status.bufferTooSmall ↔ source.TooLong) ∧ (source.TooLong → result.2 = runtime)

/-- `copy_user_string` tells whether the name of a syscall is too long. -/
theorem nameSource_tooLong (hbuilt : BuiltSpaces runtime) (active : ThreadRef)
    (context : UserSyscallContext) :
    (copyUserString (runtime.process (runtime.thread active).process).addressSpaceInfo
        runtime.memory context.argument0 rpcEndpointNameBufferSize).1 = Status.bufferTooSmall ↔
      (runtime.nameSource active context).TooLong := by
  rw [copyUserString_fst]
  exact copyUserStringLoop_bufferTooSmall (hbuilt.process _)

theorem rpcOpen_refusesLongName (hbuilt : BuiltSpaces runtime) {active : ThreadRef}
    {context : UserSyscallContext} (hpointer : context.argument0 ≠ 0)
    (hout : context.argument1 ≠ 0) :
    RefusesLongName runtime (runtime.nameSource active context)
      (runtime.rpcOpen active context) := by
  unfold RefusesLongName
  rw [← nameSource_tooLong hbuilt]
  rcases hcopy : copyUserString (runtime.process (runtime.thread active).process).addressSpaceInfo
    runtime.memory context.argument0 rpcEndpointNameBufferSize with ⟨nameStatus, endpointName⟩
  by_cases hstatus : nameStatus = Status.ok
  · subst hstatus
    have hok : Status.ok ≠ Status.bufferTooSmall := by decide
    refine ⟨iff_of_false ?_ hok, fun h => absurd h hok⟩
    cases hfound : runtime.findEndpointByName endpointName with
    | none =>
      rw [rpcOpen_unknown hpointer hout hcopy hfound]
      exact (by decide : Status.notFound ≠ Status.bufferTooSmall)
    | some e =>
      have hcases := (rpcOpen_found hpointer hout hcopy hfound).1
      intro hsmall
      rw [hsmall] at hcases
      exact absurd hcases (by decide)
  · have hresult : runtime.rpcOpen active context = (nameStatus, runtime) := by
      simp only [rpcOpen, hpointer, hout, or_self, if_false, hcopy, ne_eq, hstatus,
        not_false_eq_true, if_true]
    rw [hresult]
    exact ⟨Iff.rfl, fun _ => rfl⟩

theorem rpcRegister_refusesLongName (hbuilt : BuiltSpaces runtime) {active : ThreadRef}
    {context : UserSyscallContext} (hpointer : context.argument0 ≠ 0)
    (hcallback : context.argument1 ≠ 0) (hcompletion : context.argument2 ≠ 0)
    (hcallbackMapped : runtime.Mapped (runtime.thread active).process context.argument1)
    (hcompletionMapped : runtime.Mapped (runtime.thread active).process context.argument2) :
    RefusesLongName runtime (runtime.nameSource active context)
      (runtime.rpcRegister arch active context) := by
  have hspace := hbuilt.process (runtime.thread active).process
  have hvalid : ∀ {address}, runtime.Mapped (runtime.thread active).process address →
      runtime.validateUserRange (runtime.thread active).process address 1 = true := by
    rintro address ⟨host, htranslates⟩
    exact (tryTranslateAddressSpaceAddress_of_translates hspace htranslates).1
  unfold RefusesLongName
  rw [← nameSource_tooLong hbuilt]
  rcases hcopy : copyUserString (runtime.process (runtime.thread active).process).addressSpaceInfo
    runtime.memory context.argument0 rpcEndpointNameBufferSize with ⟨nameStatus, endpointName⟩
  by_cases hstatus : nameStatus = Status.ok
  · subst hstatus
    have hok : Status.ok ≠ Status.bufferTooSmall := by decide
    refine ⟨iff_of_false ?_ hok, fun h => absurd h hok⟩
    have hbadState : Status.badState ≠ Status.bufferTooSmall := by decide
    have hnoMemory : Status.noMemory ≠ Status.bufferTooSmall := by decide
    simp only [rpcRegister, resolveRegistration, hpointer, hcallback, hcompletion, or_self,
      if_false, hvalid hcallbackMapped, hvalid hcompletionMapped, hcopy]
    by_cases hknown : (runtime.findEndpointByName endpointName).isSome = true
    · simp only [hknown]
      exact hbadState
    · simp only [hknown]
      cases runtime.findFreeEndpoint with
      | none => exact hnoMemory
      | some ref =>
        dsimp only
        simp only [ne_eq, not_true_eq_false, if_false, Bool.not_true, Bool.false_eq_true]
        split <;> exact hok
  · have hresult : runtime.rpcRegister arch active context = (nameStatus, runtime) := by
      simp only [rpcRegister, resolveRegistration, hpointer, hcallback, hcompletion, or_self,
        if_false, hvalid hcallbackMapped, hvalid hcompletionMapped, hcopy, ne_eq, hstatus,
        not_false_eq_true, if_true, Bool.not_true, Bool.false_eq_true]
    rw [hresult]
    exact ⟨Iff.rfl, fun _ => rfl⟩

/-- What `RPC_OPEN` makes of a byte string that fits its buffer. -/
structure OpensExactly (arch : Arch) (s : UserRuntime × NameLog) (active : ThreadRef)
    (context : UserSyscallContext) (name : List UInt8) : Prop where
  /-- No endpoint is found exactly when none is registered under the byte string. -/
  notFound : (s.1.dispatchSyscall arch context).1 = Status.notFound ↔
    ∀ e, ¬ RegisteredAs s e name
  /-- A channel that is opened points to the endpoint registered under the byte string. -/
  bound : ∀ e, RegisteredAs s e name → (s.1.dispatchSyscall arch context).1 = Status.ok →
    ∃ c, s.1.channelKey c = none ∧ (s.1.dispatchSyscall arch context).2.channelKey =
      Function.update s.1.channelKey c (some (s.1.nextHandleValue, e))
  /-- It is opened when its server lives, a channel is free and the handle can be written. -/
  opens : ∀ e, RegisteredAs s e name →
    (∃ server, (s.1.endpoints e).ownerThread = some server ∧
      (s.1.thread server).state ≠ .exited) → (∃ c, s.1.channels.items c = none) →
    (writeUserBytes (s.1.process (s.1.thread active).process).addressSpaceInfo s.1.memory
      context.argument1 (toLittleEndian 8 s.1.nextHandleValue)).1 = Status.ok →
    (s.1.dispatchSyscall arch context).1 = Status.ok

/-- Names resolve exactly. -/
structure NamesResolve (arch : Arch) (s : UserRuntime × NameLog) : Prop where
  distinct : ∀ e e', (s.1.endpoints e).isInUse = true → (s.1.endpoints e').isInUse = true →
    (s.1.endpoints e).name = (s.1.endpoints e').name → e = e'
  terminated : ∀ e, (s.1.endpoints e).isInUse = true → ∃ name, RegisteredAs s e name ∧
    0 ∉ name ∧ name.length ≤ 31 ∧ (s.1.endpoints e).name = padded 32 name
  unique : ∀ e e' name, RegisteredAs s e name → RegisteredAs s e' name → e = e'
  opens : ∀ active context name, s.1.currentThread = some active →
    Syscall.ofNumber context.syscallNumber = some .rpcOpen →
    context.argument0 ≠ 0 → context.argument1 ≠ 0 →
    (s.1.nameSource active context).Refers name → name.length ≤ 31 →
    OpensExactly arch s active context name
  openRefuses : ∀ active context, s.1.currentThread = some active →
    Syscall.ofNumber context.syscallNumber = some .rpcOpen →
    context.argument0 ≠ 0 → context.argument1 ≠ 0 →
    RefusesLongName (s.1.enterSyscall active context) (s.1.nameSource active context)
      (s.1.dispatchSyscall arch context)
  registerRefuses : ∀ active context, s.1.currentThread = some active →
    Syscall.ofNumber context.syscallNumber = some .rpcRegister →
    context.argument0 ≠ 0 → context.argument1 ≠ 0 → context.argument2 ≠ 0 →
    s.1.Mapped (s.1.thread active).process context.argument1 →
    s.1.Mapped (s.1.thread active).process context.argument2 →
    RefusesLongName (s.1.enterSyscall active context) (s.1.nameSource active context)
      (s.1.dispatchSyscall arch context)

/-- An open of a byte string that fits. -/
theorem Named.opensExactly {s : UserRuntime × NameLog} (h : Named s) (hbuilt : BuiltSpaces s.1)
    {active : ThreadRef} {context : UserSyscallContext} {name : List UInt8}
    (hcurrent : s.1.currentThread = some active)
    (hsyscall : Syscall.ofNumber context.syscallNumber = some .rpcOpen)
    (hpointer : context.argument0 ≠ 0) (hout : context.argument1 ≠ 0)
    (hrefers : (s.1.nameSource active context).Refers name) (hlength : name.length ≤ 31) :
    OpensExactly arch s active context name := by
  have hprocess : ((s.1.enterSyscall active context).thread active).process =
      (s.1.thread active).process :=
    thread_enterSyscall_keeps Thread.process (fun _ _ => rfl) active
  have hdispatch : s.1.dispatchSyscall arch context =
      (s.1.enterSyscall active context).rpcOpen active context := by
    simp only [dispatchSyscall, hcurrent, dispatchActive, hsyscall]
  have hfits : name.length < rpcEndpointNameBufferSize := Nat.lt_succ_of_le hlength
  have hcopy : copyUserString ((s.1.enterSyscall active context).process
      ((s.1.enterSyscall active context).thread active).process).addressSpaceInfo
      (s.1.enterSyscall active context).memory context.argument0 rpcEndpointNameBufferSize =
        (Status.ok, padded rpcEndpointNameBufferSize name) := by
    rw [hprocess]
    exact copyUserString_of_stringAt (hbuilt.process _) hrefers hfits
  have hfind : ∀ e, (s.1.enterSyscall active context).findEndpointByName
      (padded rpcEndpointNameBufferSize name) = some e ↔ RegisteredAs s e name :=
    h.findEndpointByName hrefers.nulFree hfits
  constructor
  · rw [hdispatch]
    cases hfound : (s.1.enterSyscall active context).findEndpointByName
        (padded rpcEndpointNameBufferSize name) with
    | none =>
      rw [rpcOpen_unknown hpointer hout hcopy hfound]
      refine iff_of_true rfl fun e he => ?_
      rw [(hfind e).mpr he] at hfound
      cases hfound
    | some e =>
      refine iff_of_false ?_ fun hnone => hnone e ((hfind e).mp hfound)
      have hcases := (rpcOpen_found hpointer hout hcopy hfound).1
      intro hstatus
      rw [hstatus] at hcases
      exact absurd hcases (by decide)
  · intro e he hok
    rw [hdispatch] at hok ⊢
    exact (rpcOpen_found hpointer hout hcopy ((hfind e).mpr he)).2.1 hok
  · rintro e he ⟨server, howner, halive⟩ hslot hwrite
    rw [hdispatch]
    rw [← hprocess] at hwrite
    refine (rpcOpen_found hpointer hout hcopy ((hfind e).mpr he)).2.2 ⟨server, howner, ?_⟩ hslot
      hwrite
    rw [thread_enterSyscall_keeps Thread.state (fun _ _ => rfl) server]
    exact halive

/-- In every reachable state over built address spaces, the endpoints in use carry distinct
NUL-terminated names of at most 31 bytes, an open is bound to the endpoint registered under the
byte string it is given, and names that do not fit are refused without effect. -/
theorem reachable_namesResolve (arch : Arch) {s : UserRuntime × NameLog}
    (h : (nameSystem arch).Reachable TransitionSystem.anyStep s) (hbuilt : BuiltSpaces s.1) :
    NamesResolve arch s := by
  have hnamed := reachable_named h hbuilt
  have hentered : ∀ active context, BuiltSpaces (s.1.enterSyscall active context) :=
    fun _ _ => hbuilt
  have hprocess : ∀ active context, ((s.1.enterSyscall active context).thread active).process =
      (s.1.thread active).process :=
    fun active _ => thread_enterSyscall_keeps Thread.process (fun _ _ => rfl) active
  have hsource : ∀ active context, (s.1.enterSyscall active context).nameSource active context =
      s.1.nameSource active context := by
    intro active context
    simp only [nameSource, hprocess]
    rfl
  constructor
  · exact hnamed.distinct
  · intro e hinUse
    obtain ⟨source, hmem, _, name, hrefers, hlength, hbuffer⟩ := hnamed.carried e hinUse
    exact ⟨name, ⟨hinUse, source, hmem, hrefers⟩, hrefers.nulFree, Nat.le_of_lt_succ hlength,
      hbuffer⟩
  · intro e e' name
    exact hnamed.unique
  · intro active context name hcurrent hsyscall hpointer hout hrefers hlength
    exact hnamed.opensExactly hbuilt hcurrent hsyscall hpointer hout hrefers hlength
  · intro active context hcurrent hsyscall hpointer hout
    have hrefuses : RefusesLongName (s.1.enterSyscall active context)
        ((s.1.enterSyscall active context).nameSource active context)
        ((s.1.enterSyscall active context).rpcOpen active context) :=
      rpcOpen_refusesLongName (hentered active context) hpointer hout
    rw [hsource] at hrefuses
    simpa only [dispatchSyscall, hcurrent, dispatchActive, hsyscall] using hrefuses
  · intro active context hcurrent hsyscall hpointer hcallback hcompletion hmapped hmapped'
    rw [← hprocess active context] at hmapped hmapped'
    have hrefuses : RefusesLongName (s.1.enterSyscall active context)
        ((s.1.enterSyscall active context).nameSource active context)
        ((s.1.enterSyscall active context).rpcRegister arch active context) :=
      rpcRegister_refusesLongName (hentered active context) hpointer hcallback hcompletion
        hmapped hmapped'
    rw [hsource] at hrefuses
    simpa only [dispatchSyscall, hcurrent, dispatchActive, hsyscall] using hrefuses

/-- A registration in the booted system, under the name that an open by the next thread finds. -/
theorem registeredName_resolves :
    ∃ s : UserRuntime × NameLog, (nameSystem .x64).Reachable TransitionSystem.anyStep s ∧
      BuiltSpaces s.1 ∧ s.1.currentThread = some 1 ∧ (s.1.endpoints 0).isInUse = true ∧
      (s.1.dispatchSyscall .x64 ⟨4, 0x1010, 0x1c00, 0x202, 0x1100, 0x1300, 0, 0, 0, 0⟩).1 =
        Status.ok ∧ NamesResolve .x64 s := by
  have hlive : (bootRuntime 2).LiveThread 0 := rfl
  have hstart : (nameSystem .x64).Reachable TransitionSystem.anyStep
      (bootStarted 2, fun _ => none) := .init ⟨bootStarted_started hlive, rfl⟩
  have hmay : (bootStarted 2).mayAct (trap 3 0x1100 0x1200 0x1210 0x1800) = true := by
    decide +kernel
  have hreach := hstart.step hmay trivial
  have hbuilt : BuiltSpaces ((bootStarted 2).act .x64 (trap 3 0x1100 0x1200 0x1210 0x1800)) :=
    bootStarted_builtSpaces 2
  exact ⟨_, hreach, hbuilt, by decide +kernel, by decide +kernel, by decide +kernel,
    reachable_namesResolve .x64 hreach hbuilt⟩

end UserRuntime

end Ringos.Kernel
