import Ringos.Arch.ProcessImage
import Ringos.Kernel.WellFormed

/-!
# Starting the initial user runtime

The platform fills in a configuration for each initial process, and the kernel
creates a process and a thread for each of them. They stand in the first slots of
the pools, in the order of the configurations, and the runtime is one of those
that runs start from.
-/

namespace Ringos.Arch

open Ringos.Core Ringos.Kernel UserRuntime

/-- `initial_process_configuration`. -/
structure InitialProcessConfiguration where
  metadata : ProcessMetadata
  addressSpace : AddressSpace
  threadContext : ThreadContext

/-- `initial_user_runtime_bootstrap`; `process_count` is the number of configurations. -/
structure InitialUserRuntimeBootstrap where
  initialProcesses : List InitialProcessConfiguration
  initialProcessIndex : Nat

/-- The loop of `run_initial_user_runtime` over the configurations that are left: the processes and
threads that it creates. -/
def createInitialProcesses : List InitialProcessConfiguration → UserRuntime →
    Except String (List (ProcessRef × ThreadRef) × UserRuntime)
  | [], runtime => .ok ([], runtime)
  | initialProcess :: rest, runtime =>
    match runtime.createProcess initialProcess.metadata initialProcess.addressSpace with
    | (none, _) => .error "failed to create initial process"
    | (some processContext, withProcess) =>
      match withProcess.createThread processContext initialProcess.threadContext with
      | (none, _) => .error "failed to create initial thread"
      | (some initialThread, withThread) =>
        if (withThread.thread initialThread).handle = 0 then
          .error "failed to create initial thread"
        else
          (createInitialProcesses rest withThread).map fun created =>
            ((processContext, initialThread) :: created.1, created.2)

/-- `run_initial_user_runtime` up to the entry of the first thread: the initial process and thread,
and the runtime. `initializePlatform` is the callback of the platform. -/
def runInitialUserRuntime
    (initializePlatform : ByteMemory → Except String (InitialUserRuntimeBootstrap × ByteMemory))
    (memory : ByteMemory) : Except String ((ProcessRef × ThreadRef) × UserRuntime) :=
  match initializePlatform memory with
  | .error text => .error text
  | .ok (bootstrap, initialized) =>
    let processCount := bootstrap.initialProcesses.length
    if processCount = 0 ∨ processCount > userRuntimeMaxInitialProcesses then
      .error "invalid initial process count"
    else if bootstrap.initialProcessIndex ≥ processCount then
      .error "invalid initial process index"
    else
      match createInitialProcesses bootstrap.initialProcesses (reset initialized) with
      | .error text => .error text
      | .ok (created, runtime) =>
        match created[bootstrap.initialProcessIndex]? with
        | none => .error "invalid initial process index"
        | some initial => .ok (initial, runtime.setCurrentThread (some initial.2))

/-- The first slots hold one object for each element of a list, in order, and the others are
free. -/
def SlotsHold {α β γ : Type} {capacity : Nat} (items : Fin capacity → Option α)
    (elements : List β) (held : α → γ) (element : Nat → β → γ) : Prop :=
  ∀ ref, (items ref).map held = elements[ref.val]?.map (element ref.val)

/-- The processes and threads of the configurations stand in the first slots, in order. -/
structure InitialSlots (configurations : List InitialProcessConfiguration)
    (runtime : UserRuntime) : Prop where
  created : Created runtime
  processes : SlotsHold runtime.processes.items configurations
    (fun process => (process.metadata, process.addressSpaceInfo))
    fun _ configuration => (configuration.metadata, configuration.addressSpace)
  threads : SlotsHold runtime.threads.items configurations
    (fun thread => (thread.process.val, thread.userContext))
    fun index configuration => (index, configuration.threadContext)
  handles : runtime.nextHandleValue.toNat = 1 + 2 * configurations.length

section Slots

variable {configurations : List InitialProcessConfiguration} {runtime : UserRuntime}

theorem initialSlots_reset (memory : ByteMemory) : InitialSlots [] (reset memory) where
  created := .reset memory
  processes := fun _ => rfl
  threads := fun _ => rfl
  handles := rfl

/-- The first free slot of a pool whose first slots are taken. -/
theorem emplace_first {α : Type} {capacity : Nat} {pool : KernelObjectPool α capacity} {count : Nat}
    (htaken : ∀ ref : Fin capacity, (pool.items ref).isSome = true ↔ ref.val < count)
    (hfree : count < capacity) (next : Handle) (construct : UInt32 → Handle → α) :
    pool.emplace next construct =
      some (⟨count, hfree⟩, ⟨Function.update pool.items ⟨count, hfree⟩
        (some (construct pool.nextObjectId next)), pool.nextObjectId + 1⟩, next + 1) := by
  have hfirst : firstIndex (fun index => (pool.items index).isNone) = some ⟨count, hfree⟩ := by
    refine firstIndex_eq_some ?_ fun ref href => ?_
    · have hnone := (htaken ⟨count, hfree⟩).not.mpr (Nat.lt_irrefl count)
      simpa using hnone
    · have hnot : ¬ ref.val < count := fun hlt => by
        have hsome := (htaken ref).mpr hlt
        simp [Option.isNone_iff_eq_none.mp href] at hsome
      exact Nat.not_lt.mp hnot
  simp only [KernelObjectPool.emplace, hfirst]

/-- A process in the first free slot. -/
theorem createProcess_first {count : Nat}
    (htaken : ∀ ref : ProcessRef, (runtime.processes.items ref).isSome = true ↔ ref.val < count)
    (hfree : count < maxProcesses) (metadata : ProcessMetadata) (addressSpaceInfo : AddressSpace) :
    runtime.createProcess metadata addressSpaceInfo = (some ⟨count, hfree⟩, { runtime with
      processes := ⟨Function.update runtime.processes.items ⟨count, hfree⟩
        (some ⟨runtime.processes.nextObjectId, runtime.nextHandleValue, metadata,
          addressSpaceInfo⟩), runtime.processes.nextObjectId + 1⟩
      nextHandleValue := runtime.nextHandleValue + 1 }) := by
  rw [createProcess, emplace_first htaken hfree]

/-- A thread in the first free slot. -/
theorem createThread_first {count : Nat}
    (htaken : ∀ ref : ThreadRef, (runtime.threads.items ref).isSome = true ↔ ref.val < count)
    (hfree : count < maxThreads) (processContext : ProcessRef) (initialContext : ThreadContext) :
    runtime.createThread processContext initialContext = (some ⟨count, hfree⟩, { runtime with
      threads := ⟨Function.update runtime.threads.items ⟨count, hfree⟩
        (some (Thread.create processContext initialContext runtime.threads.nextObjectId
          runtime.nextHandleValue)), runtime.threads.nextObjectId + 1⟩
      nextHandleValue := runtime.nextHandleValue + 1 }) := by
  rw [createThread, emplace_first htaken hfree]

/-- What stands behind a list is its last element. -/
theorem getElem?_concat_map {α β : Type} (elements : List α) (last : α) (f : α → β) (i : Nat) :
    (elements ++ [last])[i]?.map f =
      if i = elements.length then some (f last) else elements[i]?.map f := by
  rw [List.getElem?_append]
  split
  · next hlt => rw [if_neg (Nat.ne_of_lt hlt)]
  · next hge =>
    by_cases hlast : i = elements.length
    · rw [if_pos hlast, hlast, Nat.sub_self]
      rfl
    · rw [if_neg hlast, List.getElem?_eq_none (Nat.not_lt.mp hge),
        List.getElem?_eq_none (by rw [List.length_singleton]; omega)]

section Pools

variable {α β γ : Type} {capacity : Nat} {items : Fin capacity → Option α} {elements : List β}
  {held : α → γ} {element : Nat → β → γ} (h : SlotsHold items elements held element)

include h

theorem SlotsHold.taken (ref : Fin capacity) :
    (items ref).isSome = true ↔ ref.val < elements.length := by
  have hslot := congrArg Option.isSome (h ref)
  rw [Option.isSome_map, Option.isSome_map] at hslot
  rw [hslot, isSome_getElem?]

/-- An object in the first free slot is held for one more element. -/
theorem SlotsHold.update {object : α} {last : β} (hfree : elements.length < capacity)
    (hlast : held object = element elements.length last) :
    SlotsHold (Function.update items ⟨elements.length, hfree⟩ (some object)) (elements ++ [last])
      held element := by
  intro ref
  rw [getElem?_concat_map]
  by_cases href : ref.val = elements.length
  · obtain rfl : ref = ⟨elements.length, hfree⟩ := Fin.ext href
    rw [Function.update_self, if_pos rfl, ← hlast]
    rfl
  · rw [Function.update_of_ne fun heq => href (congrArg Fin.val heq), if_neg href]
    exact h ref

end Pools

/-- One more configuration takes the next slots. -/
theorem InitialSlots.step (h : InitialSlots configurations runtime)
    (configuration : InitialProcessConfiguration) (hcount : configurations.length < maxProcesses) :
    ∃ processContext initialThread withProcess withThread,
      runtime.createProcess configuration.metadata configuration.addressSpace =
        (some processContext, withProcess) ∧
      withProcess.createThread processContext configuration.threadContext =
        (some initialThread, withThread) ∧
      (withThread.thread initialThread).handle ≠ 0 ∧
      processContext.val = configurations.length ∧ initialThread.val = configurations.length ∧
      withThread.memory = runtime.memory ∧
      InitialSlots (configurations ++ [configuration]) withThread := by
  obtain ⟨hcreated, hprocesses, hthreads, hhandles⟩ := h
  have hmax : maxProcesses = 4 := rfl
  have hprocess := createProcess_first hprocesses.taken hcount configuration.metadata
    configuration.addressSpace
  have hcreatedProcess := hcreated.process configuration.metadata configuration.addressSpace
  rw [hprocess] at hcreatedProcess
  dsimp only at hcreatedProcess
  generalize hwith : ({ runtime with
      processes := ⟨Function.update runtime.processes.items ⟨configurations.length, hcount⟩
        (some ⟨runtime.processes.nextObjectId, runtime.nextHandleValue, configuration.metadata,
          configuration.addressSpace⟩), runtime.processes.nextObjectId + 1⟩
      nextHandleValue := runtime.nextHandleValue + 1 } : UserRuntime) = withProcess
    at hprocess hcreatedProcess
  have hitems : withProcess.processes.items = Function.update runtime.processes.items
      ⟨configurations.length, hcount⟩ (some ⟨runtime.processes.nextObjectId,
        runtime.nextHandleValue, configuration.metadata, configuration.addressSpace⟩) := by
    rw [← hwith]
  have hkept : withProcess.threads = runtime.threads ∧ withProcess.memory = runtime.memory ∧
      withProcess.nextHandleValue = runtime.nextHandleValue + 1 := by
    rw [← hwith]
    exact ⟨rfl, rfl, rfl⟩
  obtain ⟨hsame, hmemory, hnext⟩ := hkept
  rw [← hsame] at hthreads
  have hthread := createThread_first hthreads.taken hcount
    ⟨configurations.length, hcount⟩ configuration.threadContext
  have hlive : (withProcess.processes.items ⟨configurations.length, hcount⟩).isSome = true := by
    rw [hitems, Function.update_self]
    rfl
  have hcreatedThread := hcreatedProcess.thread configuration.threadContext hlive
  rw [hthread] at hcreatedThread
  have hvalue : withProcess.nextHandleValue.toNat = 2 + 2 * configurations.length := by
    rw [hnext, UInt64.toNat_add, hhandles, show (1 : UInt64).toNat = 1 from rfl]
    omega
  refine ⟨_, _, withProcess, _, hprocess, hthread, ?_, rfl, rfl, hmemory, hcreatedThread, ?_, ?_,
    ?_⟩
  · have hhandle : (Thread.create ⟨configurations.length, hcount⟩ configuration.threadContext
        withProcess.threads.nextObjectId withProcess.nextHandleValue).handle ≠ 0 := fun hzero => by
      have hnumber := congrArg UInt64.toNat hzero
      change withProcess.nextHandleValue.toNat = 0 at hnumber
      omega
    rwa [UserRuntime.thread, KernelObjectPool.get_of_items (Function.update_self ..)]
  · dsimp only
    rw [hitems]
    exact hprocesses.update hcount rfl
  · exact hthreads.update hcount rfl
  · dsimp only
    rw [UInt64.toNat_add, hvalue, List.length_append, List.length_singleton,
      show (1 : UInt64).toNat = 1 from rfl]
    omega

/-- The loop creates a process and a thread for every configuration that is left. -/
theorem createInitialProcesses_slots (rest : List InitialProcessConfiguration)
    (h : InitialSlots configurations runtime)
    (hcount : configurations.length + rest.length ≤ maxProcesses) :
    ∃ created after, createInitialProcesses rest runtime = .ok (created, after) ∧
      created.map (fun pair => (pair.1.val, pair.2.val)) =
        (List.range' configurations.length rest.length).map (fun index => (index, index)) ∧
      after.memory = runtime.memory ∧ InitialSlots (configurations ++ rest) after := by
  induction rest generalizing configurations runtime with
  | nil => exact ⟨[], runtime, rfl, rfl, rfl, by rwa [List.append_nil]⟩
  | cons configuration rest ih =>
    rw [List.length_cons] at hcount
    obtain ⟨processContext, initialThread, withProcess, withThread, hprocess, hthread, hhandle,
      hprocessSlot, hthreadSlot, hmemory, hslots⟩ := h.step configuration (by omega)
    obtain ⟨created, after, hrun, hrefs, hafter, hall⟩ := ih hslots
      (by rw [List.length_append, List.length_singleton]; omega)
    refine ⟨(processContext, initialThread) :: created, after, ?_, ?_, hafter.trans hmemory, ?_⟩
    · simp only [createInitialProcesses, hprocess, hthread, if_neg hhandle, hrun]
      rfl
    · rw [List.length_append, List.length_singleton] at hrefs
      rw [List.map_cons, hrefs, List.length_cons, List.range'_succ, List.map_cons, hprocessSlot,
        hthreadSlot]
    · rwa [List.append_assoc, List.singleton_append] at hall

/-- Once the platform has filled in one or two configurations, the runtime starts: every process and
thread stands in the slot of its configuration, the memory is the platform's, and the runtime is
one that runs start from. -/
theorem runInitialUserRuntime_started
    {initializePlatform : ByteMemory → Except String (InitialUserRuntimeBootstrap × ByteMemory)}
    {memory initialized : ByteMemory} {bootstrap : InitialUserRuntimeBootstrap}
    (hplatform : initializePlatform memory = .ok (bootstrap, initialized))
    (hindex : bootstrap.initialProcessIndex < bootstrap.initialProcesses.length)
    (hcount : bootstrap.initialProcesses.length ≤ userRuntimeMaxInitialProcesses) :
    ∃ initial created, runInitialUserRuntime initializePlatform memory =
        .ok (initial, created.setCurrentThread (some initial.2)) ∧
      initial.1.val = bootstrap.initialProcessIndex ∧
      initial.2.val = bootstrap.initialProcessIndex ∧ created.memory = initialized ∧
      InitialSlots bootstrap.initialProcesses created ∧
      Started (created.setCurrentThread (some initial.2)) := by
  have hmax : userRuntimeMaxInitialProcesses = 2 := rfl
  have hslots : maxProcesses = 4 := rfl
  obtain ⟨created, after, hrun, hrefs, hmemory, hinitial⟩ := createInitialProcesses_slots
    bootstrap.initialProcesses (initialSlots_reset initialized) (by
      rw [List.length_nil]
      omega)
  rw [List.nil_append] at hinitial
  have hentry := congrArg (fun refs => refs[bootstrap.initialProcessIndex]?) hrefs
  rw [List.getElem?_map, List.getElem?_map, List.getElem?_range' hindex, List.length_nil] at hentry
  obtain ⟨initial, hinitialEntry, hvalues⟩ := Option.map_eq_some_iff.mp hentry
  obtain ⟨hprocess, hthread⟩ := Prod.mk.inj hvalues
  have hlive : (after.threads.items initial.2).isSome = true := by
    rw [hinitial.threads.taken]
    omega
  refine ⟨initial, after, ?_, by omega, by omega, hmemory, hinitial,
    after, initial.2, hinitial.created, hlive, rfl⟩
  simp only [runInitialUserRuntime, hplatform, hrun, hinitialEntry]
  rw [if_neg (by omega), if_neg (by omega)]

end Slots

section Platforms

/-- The first of two computations of which the second one succeeds. -/
theorem bind_ok {α β : Type} {first : Except String α} {rest : α → Except String β} {result : β}
    (h : (first >>= rest) = .ok result) : ∃ a, first = .ok a ∧ rest a = .ok result := by
  cases first with
  | error text => cases h
  | ok a => exact ⟨a, rfl, h⟩

/-- A computation that a check accepts has succeeded. -/
theorem ok_of_any {α : Type} {result : Except String α} {check : α → Bool}
    (h : result.toOption.any check = true) : ∃ a, result = .ok a ∧ check a = true := by
  cases result with
  | error text => cases h
  | ok a => exact ⟨a, rfl, h⟩

/-- One or two processes with address spaces of a kind, of which one starts. -/
structure InitialUserRuntimeBootstrap.Maps (bootstrap : InitialUserRuntimeBootstrap)
    (space : AddressSpace → Prop) : Prop where
  count : bootstrap.initialProcesses.length ≤ userRuntimeMaxInitialProcesses
  index : bootstrap.initialProcessIndex < bootstrap.initialProcesses.length
  spaces : ∀ configuration ∈ bootstrap.initialProcesses, space configuration.addressSpace

variable {space : AddressSpace → Prop}

theorem maps_one {client : InitialProcessConfiguration} (hclient : space client.addressSpace) :
    InitialUserRuntimeBootstrap.Maps ⟨[client], 0⟩ space :=
  ⟨Nat.le_succ 1, Nat.zero_lt_one, fun configuration hmem => by
    obtain rfl := List.mem_singleton.mp hmem
    exact hclient⟩

theorem maps_two {service client : InitialProcessConfiguration}
    (hservice : space service.addressSpace) (hclient : space client.addressSpace) :
    InitialUserRuntimeBootstrap.Maps ⟨[service, client], 0⟩ space :=
  ⟨Nat.le_refl 2, Nat.zero_lt_two, fun configuration hmem => by
    rw [List.mem_cons, List.mem_singleton] at hmem
    obtain rfl | rfl := hmem
    · exact hservice
    · exact hclient⟩

/-- A runtime that the kernel has started is one that runs start from, and its processes have the
address spaces that the platform has filled in. -/
theorem runInitialUserRuntime_maps
    {initializePlatform : ByteMemory → Except String (InitialUserRuntimeBootstrap × ByteMemory)}
    (hplatform : ∀ memory bootstrap initialized,
      initializePlatform memory = .ok (bootstrap, initialized) → bootstrap.Maps space)
    {memory : ByteMemory} {initial : ProcessRef × ThreadRef} {runtime : UserRuntime}
    (h : runInitialUserRuntime initializePlatform memory = .ok (initial, runtime)) :
    Started runtime ∧ ∀ ref process, runtime.processes.items ref = some process →
      space process.addressSpaceInfo := by
  cases hrun : initializePlatform memory with
  | error text =>
    rw [runInitialUserRuntime, hrun] at h
    cases h
  | ok filled =>
    obtain ⟨hcount, hindex, hspaces⟩ := hplatform memory filled.1 filled.2 hrun
    obtain ⟨_, created, hstart, _, _, _, hslots, hstarted⟩ :=
      runInitialUserRuntime_started hrun hindex hcount
    obtain ⟨rfl, rfl⟩ := Prod.mk.inj (Except.ok.inj (h.symm.trans hstart))
    refine ⟨hstarted, fun ref process hitem => ?_⟩
    rw [setCurrentThread_processes] at hitem
    have hslot := hslots.processes ref
    rw [hitem] at hslot
    obtain ⟨configuration, hconfiguration, hheld⟩ := Option.map_eq_some_iff.mp hslot.symm
    obtain ⟨-, hspace⟩ := Prod.mk.inj hheld
    rw [← hspace]
    exact hspaces configuration (List.mem_of_getElem? hconfiguration)

end Platforms

end Ringos.Arch
