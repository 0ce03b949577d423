import Ringos.Arch.TrapReturn

/-!
# Outstanding syscalls

A thread that is off the CPU waits for its last syscall to return, and a server
may run callbacks while an earlier syscall of its own is waiting. So what a
thread has still to return from is a stack of syscalls and callbacks. The stack
is kept beside the runtime, for every path into the kernel, and compared with
what the runtime saves and loads.
-/

namespace Ringos.Arch

open Ringos.Core Ringos.Kernel Ringos.Scheduler UserRuntime

/-- The resume record returns a status to where the thread trapped. -/
structure ReturnsWith (arch : Arch) (status : Int32) (thread : Thread) : Prop where
  kind : thread.resumeState.kind = .syscall
  instructionPointer :
    thread.resumeState.instructionPointer = thread.userContext.instructionPointer
  stackPointer : thread.resumeState.stackPointer = thread.userContext.stackPointer
  flags : thread.resumeState.flags = thread.userContext.flags
  value : match arch with
    | .x64 => thread.resumeState.statusCode = status
    | .arm64 => thread.resumeState.argument0 = signExtendStatus status

theorem prepareSyscallResume_returnsWith (arch : Arch) (status : Int32) (thread : Thread) :
    ReturnsWith arch status (thread.prepareSyscallResume arch status) := by
  refine ⟨rfl, rfl, rfl, rfl, ?_⟩
  cases arch with
  | x64 => rfl
  | arm64 => rfl

/-- The context and the registers are those that a trap has captured. -/
structure CapturedBy (context : UserSyscallContext)
    (registers : Thread → PreservedRegisters) (simdQwords : Thread → PreservedSimdQwords)
    (userContext : ThreadContext) (savedRegisters : PreservedRegisters)
    (savedSimdQwords : PreservedSimdQwords) : Prop where
  context : userContext = makeThreadContextFromSyscall context
  registers : ∃ previous, savedRegisters = registers previous ∧
    savedSimdQwords = simdQwords previous

/-- A way into the kernel: what a trap brings along and saves, and the frame that a thread is
resumed with. -/
structure TrapPath where
  arch : Arch
  Trap : Type
  Frame : Type
  context : Trap → UserSyscallContext
  registers : Trap → Thread → PreservedRegisters
  simdQwords : Trap → Thread → PreservedSimdQwords
  /-- The frame loaded from a thread. -/
  load : Thread → Frame
  /-- The frame that a trap is to return to, if it came with one. -/
  returning : Trap → Int32 → Option Frame
  /-- A thread that holds what the trap captured is resumed with the trap's own frame. -/
  load_returning : ∀ {trap : Trap} {status : Int32} {frame : Frame} {thread : Thread},
    returning trap status = some frame →
    CapturedBy (context trap) (registers trap) (simdQwords trap) thread.userContext
      thread.archPreservedRegisters thread.archPreservedSimdQwords →
    ReturnsWith arch status thread → load thread = frame

/-- An entry of the stack of a thread: a syscall that has not returned, with its status once that
is known, or a callback that has not completed. -/
inductive Outstanding (Trap : Type) where
  | syscall (trap : Trap) (status : Option Int32)
  | callback (channel : ChannelRef)

/-- The outstanding syscalls and callbacks of every thread, the latest first. -/
abbrev Stacks (Trap : Type) := ThreadRef → List (Outstanding Trap)

/-- The status of the syscall on top of a stack becomes known. -/
def answered {Trap : Type} (status : Int32) :
    List (Outstanding Trap) → List (Outstanding Trap)
  | .syscall trap none :: rest => .syscall trap (some status) :: rest
  | stack => stack

/-- The syscall on top of a stack returns. -/
def returned {Trap : Type} : List (Outstanding Trap) → List (Outstanding Trap)
  | .syscall _ _ :: rest => rest
  | stack => stack

/-- The channel on which a step begins a call of a server. -/
def begunOn (before after : UserRuntime) (server : ThreadRef) : Option ChannelRef :=
  firstIndex fun c => (before.pending c).isNone &&
    (after.pending c).any fun call => call.serverThread == server

/-- What a step does to the stack of a thread that did not take it. -/
def passed {Trap : Type} (before after : UserRuntime) (status : Int32) (t : ThreadRef)
    (stack : List (Outstanding Trap)) : List (Outstanding Trap) :=
  if (before.thread t).state = .blocked ∧ (after.thread t).state ≠ .blocked then
    answered status stack
  else
    match begunOn before after t with
    | some c => .callback c :: stack
    | none => stack

/-- A thread resumed to return from a syscall has returned from the syscall on top of its stack. -/
def settled {Trap : Type} (after : UserRuntime) (outstanding : Stacks Trap) : Stacks Trap := fun t =>
  if after.currentThread = some t ∧ (after.thread t).resumeState.kind = .syscall then
    returned (outstanding t)
  else outstanding t

namespace TrapPath

variable (P : TrapPath)

/-- What a trap saves in the thread that takes it. -/
def saveTo (trap : P.Trap) (thread : Thread) : Thread :=
  thread.setArchPreserved (P.registers trap thread) (P.simdQwords trap thread)

/-- The dispatch of a trap of the current thread. -/
def dispatch (trap : P.Trap) (active : ThreadRef) (runtime : UserRuntime) : Int32 × UserRuntime :=
  (runtime.modifyThread active (P.saveTo trap)).dispatchSyscall P.arch (P.context trap)

/-- The end of a trap: a thread that keeps the CPU gets its status. -/
def resume (active : ThreadRef) (result : Int32 × UserRuntime) : UserRuntime :=
  if result.2.hasRunnableThread ∧ result.2.currentThread = some active then
    result.2.modifyThread active (Thread.prepareSyscallResume P.arch result.1)
  else result.2

/-- The status that a syscall leaves to the threads it wakes. -/
def delivered (trap : P.Trap) : Int32 :=
  if Syscall.ofNumber (P.context trap).syscallNumber = some .rpcComplete then
    statusOfArgument (P.context trap).argument0
  else Status.peerClosed

/-- The stacks behind the dispatch of a trap. A completion that finds its call ends the callback;
every other syscall is outstanding until it returns. -/
def stacked (trap : P.Trap) (active : ThreadRef) (before : UserRuntime)
    (result : Int32 × UserRuntime) (outstanding : Stacks P.Trap) : Stacks P.Trap := fun t =>
  if t = active then
    if Syscall.ofNumber (P.context trap).syscallNumber = some .rpcComplete ∧
        (before.findPendingChannelByServerThread active).isSome then
      (outstanding t).tail
    else .syscall trap (if (result.2.thread t).state = .blocked then none else some result.1) ::
      outstanding t
  else passed before result.2 (P.delivered trap) t (outstanding t)

/-- What happens to a machine: a trap of the thread on the CPU, the fault of an emulated one, or a
write to user memory. -/
inductive Event where
  | trap (trap : P.Trap)
  | fault (exitStatus : UInt64) (peerFailureStatus : Int32)
  | userStores (memory : ByteMemory)

/-- The runtime after an event. -/
def next (runtime : UserRuntime) : P.Event → UserRuntime
  | .trap trap =>
    match runtime.currentThread with
    | none => runtime
    | some active => P.resume active (P.dispatch trap active runtime)
  | .fault exitStatus peerFailureStatus =>
    (runtime.terminateCurrentThread P.arch exitStatus peerFailureStatus).2
  | .userStores memory => { runtime with memory := memory }

/-- The stacks once an event is over, before the resumed thread has returned. -/
def left (runtime : UserRuntime) (event : P.Event) (outstanding : Stacks P.Trap) : Stacks P.Trap :=
  match event with
  | .trap trap =>
    match runtime.currentThread with
    | none => outstanding
    | some active =>
      P.stacked trap active runtime (P.dispatch trap active runtime) outstanding
  | .fault _ peerFailureStatus => fun t =>
    passed runtime (P.next runtime event) peerFailureStatus t (outstanding t)
  | .userStores _ => outstanding

/-- The runs of a machine, with the stacks of its threads. Events happen while a thread runs, and
only arm64 has emulated threads. -/
def system : TransitionSystem (UserRuntime × Stacks P.Trap) P.Event where
  init s := Started s.1 ∧ s.2 = fun _ => []
  enabled s event := s.1.hasRunnableThread = true ∧
    match event with
    | .fault _ _ => P.arch = .arm64
    | _ => True
  next s event := (P.next s.1 event, settled (P.next s.1 event) (P.left s.1 event s.2))

end TrapPath

section Invariant

variable {P : TrapPath}

/-- The thread is in its own code or in that of a callback, with no syscall to return from. -/
def AtCode {Trap : Type} (stack : List (Outstanding Trap)) : Prop :=
  ∀ trap status rest, stack ≠ .syscall trap status :: rest

/-- Every syscall was made by code. -/
def Nested {Trap : Type} : List (Outstanding Trap) → Prop
  | [] => True
  | .syscall _ _ :: rest => AtCode rest ∧ Nested rest
  | .callback _ :: rest => Nested rest

/-- The thread holds what the trap captured. -/
def TrapPath.Captured (P : TrapPath) (trap : P.Trap) (thread : Thread) : Prop :=
  CapturedBy (P.context trap) (P.registers trap) (P.simdQwords trap) thread.userContext
    thread.archPreservedRegisters thread.archPreservedSimdQwords

/-- The thread has never run, or is about to return from the syscall on top of its stack. -/
def TrapPath.Waiting (P : TrapPath) (thread : Thread) (stack : List (Outstanding P.Trap)) : Prop :=
  stack = [] ∨ ∃ trap status rest, stack = .syscall trap (some status) :: rest ∧
    P.Captured trap thread ∧ ReturnsWith P.arch status thread

/-- The call has saved what the server was waiting for when the call began. -/
def TrapPath.Saved (P : TrapPath) (call : PendingCall) (stack : List (Outstanding P.Trap)) :
    Prop :=
  stack = [] ∨ ∃ trap status rest, stack = .syscall trap (some status) :: rest ∧
    CapturedBy (P.context trap) (P.registers trap) (P.simdQwords trap) call.savedServerContext
      call.savedServerRegisters call.savedServerSimdQwords

/-- The callback of a call is on the stack, on top of what the call has saved. -/
def TrapPath.Suspends (P : TrapPath) (c : ChannelRef) (call : PendingCall)
    (stack : List (Outstanding P.Trap)) : Prop :=
  ∃ above rest, stack = above ++ .callback c :: rest ∧ .callback c ∉ above ∧ P.Saved call rest

/-- The stacks agree with what the runtime has saved. -/
structure TrapPath.Kept (P : TrapPath) (runtime : UserRuntime) (outstanding : Stacks P.Trap) :
    Prop where
  ready : ∀ t, (runtime.thread t).state = .ready → P.Waiting (runtime.thread t) (outstanding t)
  client : ∀ c call, runtime.pending c = some call →
    ∃ trap rest, outstanding call.clientThread = .syscall trap none :: rest ∧
      P.Captured trap (runtime.thread call.clientThread)
  suspended : ∀ c call, runtime.pending c = some call →
    (runtime.thread call.serverThread).state ≠ .exited →
      P.Suspends c call (outstanding call.serverThread)
  nested : ∀ t, Nested (outstanding t)
  other : ∀ c call, runtime.pending c = some call → call.clientThread ≠ call.serverThread

/-- The thread on the CPU is about to run its callback or to return from its syscall. -/
def TrapPath.Loads (P : TrapPath) (runtime : UserRuntime) (outstanding : Stacks P.Trap) : Prop :=
  ∀ t, runtime.currentThread = some t →
    ((runtime.thread t).resumeState.kind = .rpc ∧ AtCode (outstanding t)) ∨
      P.Waiting (runtime.thread t) (outstanding t)

theorem atCode_nil {Trap : Type} : AtCode ([] : List (Outstanding Trap)) :=
  fun _ _ _ h => by cases h

theorem atCode_callback {Trap : Type} (c : ChannelRef) (rest : List (Outstanding Trap)) :
    AtCode (.callback c :: rest) :=
  fun _ _ _ h => by cases h

theorem TrapPath.Saved.suspends {c : ChannelRef} {call : PendingCall}
    {stack : List (Outstanding P.Trap)} (h : P.Saved call stack) :
    P.Suspends c call (.callback c :: stack) :=
  ⟨[], stack, rfl, List.not_mem_nil, h⟩

/-- What is put on top of a callback leaves it suspended. -/
theorem TrapPath.Suspends.push {c : ChannelRef} {call : PendingCall}
    {stack : List (Outstanding P.Trap)} (h : P.Suspends c call stack)
    {top : Outstanding P.Trap} (htop : top ≠ .callback c) : P.Suspends c call (top :: stack) := by
  obtain ⟨above, rest, rfl, habove, hsaved⟩ := h
  refine ⟨top :: above, rest, rfl, fun hmem => ?_, hsaved⟩
  rcases List.mem_cons.mp hmem with heq | hmem
  · exact htop heq.symm
  · exact habove hmem

/-- So does taking off what is on top of it. -/
theorem TrapPath.Suspends.pop {c : ChannelRef} {call : PendingCall}
    {stack : List (Outstanding P.Trap)} {top : Outstanding P.Trap}
    (h : P.Suspends c call (top :: stack)) (htop : top ≠ .callback c) :
    P.Suspends c call stack := by
  obtain ⟨above, rest, hstack, habove, hsaved⟩ := h
  cases above with
  | nil =>
    rw [List.nil_append, List.cons.injEq] at hstack
    exact absurd hstack.1 htop
  | cons _ above =>
    rw [List.cons_append, List.cons.injEq] at hstack
    exact ⟨above, rest, hstack.2, fun hmem => habove (List.mem_cons_of_mem _ hmem), hsaved⟩

/-- A callback on top of the stack is on top of what its call has saved. -/
theorem TrapPath.Suspends.saved {c : ChannelRef} {call : PendingCall}
    {rest : List (Outstanding P.Trap)} (h : P.Suspends c call (.callback c :: rest)) :
    P.Saved call rest := by
  obtain ⟨above, below, hstack, habove, hsaved⟩ := h
  cases above with
  | nil =>
    rw [List.nil_append, List.cons.injEq] at hstack
    exact hstack.2 ▸ hsaved
  | cons top above =>
    rw [List.cons_append, List.cons.injEq] at hstack
    exact absurd (hstack.1 ▸ List.mem_cons_self) habove

/-- A thread that waits may be written to as long as its record stays. -/
theorem TrapPath.Waiting.setState {thread : Thread} {stack : List (Outstanding P.Trap)}
    (h : P.Waiting thread stack) (state : UserThreadState) :
    P.Waiting (thread.setState state) stack := by
  rcases h with hnil | ⟨trap, status, rest, hstack, hcaptured, hreturns⟩
  · exact .inl hnil
  · exact .inr ⟨trap, status, rest, hstack, hcaptured, hreturns.kind,
      hreturns.instructionPointer, hreturns.stackPointer, hreturns.flags, hreturns.value⟩

/-- A thread given a status waits to return with it. -/
theorem TrapPath.Captured.waiting {trap : P.Trap} {thread : Thread}
    (h : P.Captured trap thread) (status : Int32) (rest : List (Outstanding P.Trap)) :
    P.Waiting (thread.prepareSyscallResume P.arch status) (.syscall trap (some status) :: rest) :=
  .inr ⟨trap, status, rest, rfl, h, prepareSyscallResume_returnsWith P.arch status thread⟩

/-- What a call saves of a waiting server. -/
theorem TrapPath.Waiting.save {server : Thread} {stack : List (Outstanding P.Trap)}
    (h : P.Waiting server stack) (clientThread serverThread : ThreadRef) :
    P.Saved (PendingCall.save clientThread serverThread server) stack := by
  rcases h with hnil | ⟨trap, status, rest, hstack, hcaptured, _⟩
  · exact .inl hnil
  · exact .inr ⟨trap, status, rest, hstack, hcaptured⟩

/-- A thread is loaded with the frame of its own syscall and that syscall's status. -/
theorem TrapPath.Loads.returns {runtime : UserRuntime} {outstanding : Stacks P.Trap}
    (h : P.Loads runtime outstanding) {t : ThreadRef} (hcurrent : runtime.currentThread = some t)
    (hkind : (runtime.thread t).resumeState.kind = .syscall) {trap : P.Trap}
    {known : Option Int32} {rest : List (Outstanding P.Trap)}
    (hstack : outstanding t = .syscall trap known :: rest) :
    ∃ status, known = some status ∧ ∀ frame, P.returning trap status = some frame →
      P.load (runtime.thread t) = frame := by
  rcases h t hcurrent with ⟨hrpc, _⟩ | hnil | ⟨_, status, _, hsome, hcaptured, hreturns⟩
  · rw [hkind] at hrpc
    cases hrpc
  · rw [hnil] at hstack
    cases hstack
  · rw [hstack, List.cons.injEq, Outstanding.syscall.injEq] at hsome
    obtain ⟨⟨rfl, rfl⟩, rfl⟩ := hsome
    exact ⟨status, rfl, fun frame hframe => P.load_returning hframe hcaptured hreturns⟩

/-- Only the thread on the CPU returns, and only from a syscall whose status is known. -/
theorem TrapPath.Loads.settled_cases {runtime : UserRuntime} {outstanding : Stacks P.Trap}
    (h : P.Loads runtime outstanding) (t : ThreadRef) :
    (settled runtime outstanding t = outstanding t ∧
      (runtime.currentThread = some t → AtCode (outstanding t))) ∨
    runtime.currentThread = some t ∧ ∃ trap status,
      outstanding t = .syscall trap (some status) :: settled runtime outstanding t := by
  by_cases hcurrent : runtime.currentThread = some t
  · rcases h t hcurrent with ⟨hrpc, hat⟩ | hnil | ⟨trap, status, rest, hstack, _, hreturns⟩
    · have hkind : (runtime.thread t).resumeState.kind ≠ .syscall := by
        rw [hrpc]
        exact UserThreadResumeKind.noConfusion
      exact .inl ⟨if_neg fun hs => hkind hs.2, fun _ => hat⟩
    · refine .inl ⟨?_, fun _ => hnil ▸ atCode_nil⟩
      unfold settled
      rw [hnil]
      split <;> rfl
    · refine .inr ⟨hcurrent, trap, status, ?_⟩
      unfold settled
      rw [if_pos ⟨hcurrent, hreturns.kind⟩, hstack]
      rfl
  · exact .inl ⟨if_neg fun hs => hcurrent hs.1, fun hs => absurd hs hcurrent⟩

/-- Once the resumed thread has returned, it is in its code and the stacks still agree. -/
theorem TrapPath.Kept.settle {runtime : UserRuntime} {outstanding : Stacks P.Trap}
    (h : P.Kept runtime outstanding) (hloads : P.Loads runtime outstanding)
    (hrunning : ∀ t, runtime.currentThread = some t → (runtime.thread t).state = .running) :
    P.Kept runtime (settled runtime outstanding) ∧
      ∀ t, runtime.currentThread = some t → AtCode (settled runtime outstanding t) := by
  refine ⟨⟨fun t ht => ?_, fun c call hcall => ?_, fun c call hcall halive => ?_, fun t => ?_,
    h.other⟩, fun t ht => ?_⟩
  · rcases hloads.settled_cases t with ⟨hsame, _⟩ | ⟨hcurrent, _⟩
    · rw [hsame]
      exact h.ready t ht
    · rw [hrunning t hcurrent] at ht
      cases ht
  · obtain ⟨trap, rest, hstack, hcaptured⟩ := h.client c call hcall
    rcases hloads.settled_cases call.clientThread with ⟨hsame, _⟩ | ⟨_, _, _, htop⟩
    · exact ⟨trap, rest, hsame.trans hstack, hcaptured⟩
    · rw [hstack, List.cons.injEq, Outstanding.syscall.injEq] at htop
      cases htop.1.2
  · have hsuspends := h.suspended c call hcall halive
    rcases hloads.settled_cases call.serverThread with ⟨hsame, _⟩ | ⟨_, _, _, htop⟩
    · rw [hsame]
      exact hsuspends
    · rw [htop] at hsuspends
      exact hsuspends.pop (by simp)
  · have hnested := h.nested t
    rcases hloads.settled_cases t with ⟨hsame, _⟩ | ⟨_, _, _, htop⟩
    · rw [hsame]
      exact hnested
    · rw [htop] at hnested
      exact hnested.2
  · rcases hloads.settled_cases t with ⟨hsame, hat⟩ | ⟨_, _, _, htop⟩
    · rw [hsame]
      exact hat ht
    · have hnested := h.nested t
      rw [htop] at hnested
      exact hnested.1

end Invariant

end Ringos.Arch
