import Ringos.Arch.X64TrapCode
import Ringos.Arch.Arm64TrapCode

/-!
# The syscall stubs of the SDK

A C function of the SDK traps with its arguments in the registers that the
kernel reads them from, and returns the status that its own trap is resumed
with. The trampoline behind a callback hands what the callback has returned to
the kernel, so that is what the call of the client returns.
-/

namespace Ringos.Arch

open Ringos.Core Ringos.Kernel UserRuntime

/-- The number of a syscall and its arguments, in the order of the C functions. -/
def syscallWords (context : UserSyscallContext) : List UInt64 :=
  [context.syscallNumber, context.argument0, context.argument1, context.argument2,
    context.argument3, context.argument4, context.argument5]

namespace X64Code

/-- `popq target`. -/
def popq (target : X64Register) : X64Code := pop .rsp target
/-- `ret`. -/
def ret : X64Code := pop .rsp .rip
/-- `movslq source, target`. -/
def movslq (target source : X64Register) : X64Code :=
  [.compute target source fun value => signExtendStatus (statusOfArgument value)]

end X64Code

/-- The registers that the kernel reads a syscall from. -/
def x64SyscallRegisters : List X64Register := [.rax, .rdi, .rsi, .rdx, .r10, .r8, .r9]

/-- A syscall stub: the registers that it pushes, and what it moves in front of `syscall`. What it
moves goes to the registers of the syscall, and RDI and RSI stay as they are unless pushed. -/
structure X64SyscallStub where
  saved : List X64Register
  moves : X64Code
  saved_arguments : ∀ register ∈ saved, register ∈ [X64Register.rdi, .rsi] := by decide
  saved_length : saved.length ≤ 2 := by decide
  moves_writes : ∀ transfer ∈ moves, ∀ register ∈ transfer.writes,
    register ∈ x64SyscallRegisters := by decide
  moves_kept : ∀ register ∈ [X64Register.rdi, .rsi], register ∉ saved →
    ∀ transfer ∈ moves, register ∉ transfer.writes := by decide
  moves_memory : ∀ transfer ∈ moves, ¬ transfer.isStore := by decide

namespace X64SyscallStub

/-- The stub in front of its `syscall`. -/
def entry (stub : X64SyscallStub) : X64Code := stub.saved.flatMap X64Code.pushq ++ stub.moves

/-- The stub behind its `syscall`. -/
def exit (stub : X64SyscallStub) : X64Code :=
  stub.saved.reverse.flatMap X64Code.popq ++ X64Code.ret

end X64SyscallStub

open X64Code

/-- `ringos_syscall0`. -/
def x64RingosSyscall0 : X64SyscallStub where
  saved := []
  moves := mov .rax .rdi

/-- `ringos_syscall1`. -/
def x64RingosSyscall1 : X64SyscallStub where
  saved := [.rdi]
  moves := mov .rax .rdi ++ mov .rdi .rsi

/-- `ringos_syscall2`. -/
def x64RingosSyscall2 : X64SyscallStub where
  saved := [.rdi, .rsi]
  moves := mov .rax .rdi ++ mov .rdi .rsi ++ mov .rsi .rdx

/-- `ringos_syscall3`. -/
def x64RingosSyscall3 : X64SyscallStub where
  saved := [.rdi, .rsi]
  moves := mov .rax .rdi ++ mov .rdi .rsi ++ mov .rsi .rdx ++ mov .rdx .rcx

/-- `ringos_syscall4`. -/
def x64RingosSyscall4 : X64SyscallStub where
  saved := [.rdi, .rsi]
  moves := mov .rax .rdi ++ mov .rdi .rsi ++ mov .rsi .rdx ++ mov .rdx .rcx ++ mov .r10 .r8

/-- `ringos_syscall5`. -/
def x64RingosSyscall5 : X64SyscallStub where
  saved := [.rdi, .rsi]
  moves := mov .rax .rdi ++ mov .rdi .rsi ++ mov .rsi .rdx ++ mov .rdx .rcx ++ mov .r10 .r8 ++
    mov .r8 .r9

/-- `ringos_syscall6`. The last argument lies on the stack, behind the return address. -/
def x64RingosSyscall6 : X64SyscallStub where
  saved := [.rdi, .rsi]
  moves := mov .rax .rdi ++ mov .rdi .rsi ++ mov .rsi .rdx ++ mov .rdx .rcx ++ mov .r10 .r8 ++
    mov .r8 .r9 ++ load .r9 24

/-- The stubs by the number of their arguments. -/
def x64SyscallStubs : List X64SyscallStub :=
  [x64RingosSyscall0, x64RingosSyscall1, x64RingosSyscall2, x64RingosSyscall3, x64RingosSyscall4,
    x64RingosSyscall5, x64RingosSyscall6]

/-- `ringos_rpc_complete_trampoline`. -/
def x64RpcCompleteTrampolineCode : X64Code := movslq .rdi .rax ++ movImmediate .rax 8

section X64Stubs

/-- The arguments of a C function of x64, as its caller has laid them out. -/
def x64CallArguments (cpu : Cpu X64Register) : List UInt64 :=
  [cpu.registers .rdi, cpu.registers .rsi, cpu.registers .rdx, cpu.registers .rcx,
    cpu.registers .r8, cpu.registers .r9, wordAt cpu.memory (cpu.registers .rsp + 8)]

/-- The frame of the syscall of a stub. -/
def X64SyscallStub.trap (stub : X64SyscallStub) (cpu : Cpu X64Register) : X64SyscallFrame :=
  (userState (cpu.run stub.entry).registers).trap

variable {cpu : Cpu X64Register} {stub : X64SyscallStub}

/-- What a stub leaves on the stack and in the registers. -/
theorem X64SyscallStub.entry_run (stub : X64SyscallStub) (cpu : Cpu X64Register) :
    Saving cpu ([.rsp] ++ x64SyscallRegisters) .rsp
        (stub.saved.reverse.map cpu.registers ++ [wordAt cpu.memory (cpu.registers .rsp)])
        (cpu.registers .rsp - UInt64.ofNat (8 * stub.saved.length)) (cpu.run stub.entry) ∧
      ∀ register ∈ [X64Register.rdi, .rsi], register ∉ stub.saved →
        (cpu.run stub.entry).registers register = cpu.registers register := by
  have hargument : ∀ register ∈ stub.saved, register ≠ .rsp := fun register hregister => by
    have hmem := stub.saved_arguments register hregister
    rintro rfl
    exact absurd hmem (by decide)
  have hsize : stub.saved.length * 8 + 8 < 2 ^ 64 := by
    have hbound := stub.saved_length
    omega
  have hpushed := (saving_top cpu [.rsp] .rsp).pushes List.mem_cons_self stub.saved
    (fun register hregister => List.not_mem_cons_of_ne_of_not_mem (hargument register hregister)
      List.not_mem_nil)
    (by rw [List.length_singleton]; omega)
  rw [X64SyscallStub.entry, Cpu.run_append]
  change Saving cpu [.rsp] .rsp _ _ (cpu.run (stub.saved.flatMap pushq)) at hpushed
  have hmoves := stub.moves_writes
  refine ⟨(hpushed.weaken (List.subset_append_left _ _)).clobber stub.moves
    (fun transfer hmem register hwritten => ⟨List.mem_append_right _
      (hmoves transfer hmem register hwritten), ?_⟩) stub.moves_memory,
    fun register hregister hunsaved => ?_⟩
  · rintro rfl
    exact absurd (hmoves transfer hmem _ hwritten) (by decide)
  · rw [Cpu.run_register _ (stub.moves_kept register hregister hunsaved)]
    refine hpushed.registers register fun hstack => ?_
    obtain rfl := List.mem_singleton.mp hstack
    exact absurd hregister (by decide)

/-- The last argument is found behind what the stub has pushed. -/
theorem x64RingosSyscall6_words (cpu : Cpu X64Register) :
    syscallWords (x64RingosSyscall6.trap cpu).context = x64CallArguments cpu := by
  have hfive : (syscallWords (x64RingosSyscall5.trap cpu).context).take 6 =
      (x64CallArguments cpu).take 6 := rfl
  have hentry : x64RingosSyscall6.entry = x64RingosSyscall5.entry ++ load .r9 24 := rfl
  have hsaving := (x64RingosSyscall5.entry_run cpu).1
  have hword : wordAt (cpu.run x64RingosSyscall5.entry).memory
      ((cpu.run x64RingosSyscall5.entry).registers .rsp + 24) =
        wordAt cpu.memory (cpu.registers .rsp + 8) := by
    have hbehind : cpu.registers .rsp - UInt64.ofNat (8 * 2) + UInt64.ofNat 24 =
        cpu.registers .rsp + 8 := by
      rw [show UInt64.ofNat (8 * 2) = 16 from rfl, show UInt64.ofNat 24 = 24 from rfl]
      grind
    rw [hsaving.pointer]
    change wordAt _ (cpu.registers .rsp - UInt64.ofNat (8 * 2) + UInt64.ofNat 24) = _
    exact (wordAt_congr fun target hin => hsaving.stored.outside target
      (not_inRange_behind (show 24 + 8 < 2 ^ 64 by decide) hin)).trans (congrArg _ hbehind)
  rw [X64SyscallStub.trap, hentry, Cpu.run_append]
  rw [X64SyscallStub.trap] at hfive
  generalize cpu.run x64RingosSyscall5.entry = entered at hfive hword ⊢
  change (syscallWords (userState entered.registers).trap.context).take 6 ++
    [wordAt entered.memory (entered.registers .rsp + 24)] = (x64CallArguments cpu).take 6 ++
      [wordAt cpu.memory (cpu.registers .rsp + 8)]
  rw [hfive, hword]

/-- The kernel reads the number and the arguments that the C function was called with. -/
theorem x64SyscallStubs_words (cpu : Cpu X64Register) {count : Nat} {stub : X64SyscallStub}
    (hstub : x64SyscallStubs[count]? = some stub) :
    (syscallWords (stub.trap cpu).context).take (count + 1) =
      (x64CallArguments cpu).take (count + 1) := by
  match count, hstub with
  | 0, hstub | 1, hstub | 2, hstub | 3, hstub | 4, hstub | 5, hstub =>
    obtain rfl := Option.some.inj hstub
    rfl
  | 6, hstub =>
    obtain rfl := Option.some.inj hstub
    rw [x64RingosSyscall6_words]

/-- The registers that a C function keeps for its caller, with the two that the stubs keep as
well. -/
def x64StubKept : List X64Register :=
  [.rdi, .rsi, .rbx, .rbp, .r12, .r13, .r14, .r15] ++ List.ofFn preservedXmm

theorem x64StubKept_apart : ∀ register ∈ x64StubKept, register ≠ .rip ∧ register ≠ .rsp ∧
    (register ∉ [X64Register.rdi, .rsi] → register ∉ [X64Register.rsp] ++ x64SyscallRegisters) := by
  decide

/-- A trap that returns a status leaves those registers alone. -/
theorem returning_kept {before after : X64Register → UInt64} {status : Int32}
    (h : frameOf after = (userState before).trap.returning status) :
    ∀ register ∈ x64StubKept, after register = before register := by
  intro register hregister
  rcases List.mem_append.mp hregister with hgeneral | hxmm
  · simp only [List.mem_cons, List.not_mem_nil, or_false] at hgeneral
    rcases hgeneral with rfl | rfl | rfl | rfl | rfl | rfl | rfl | rfl
    · exact congrArg X64SyscallFrame.rdi h
    · exact congrArg X64SyscallFrame.rsi h
    · exact congrArg X64SyscallFrame.rbx h
    · exact congrArg X64SyscallFrame.rbp h
    · exact congrArg X64SyscallFrame.r12 h
    · exact congrArg X64SyscallFrame.r13 h
    · exact congrArg X64SyscallFrame.r14 h
    · exact congrArg X64SyscallFrame.r15 h
  · obtain ⟨index, rfl⟩ := List.mem_ofFn.mp hxmm
    exact congrFun (congrArg X64SyscallFrame.preservedXmmQwords h) index

/-- What the caller of a stub finds behind its call. -/
structure X64StubReturned (cpu returned : Cpu X64Register) (status : Int32) : Prop where
  value : returned.registers .rax = signExtendStatus status
  address : returned.registers .rip = wordAt cpu.memory (cpu.registers .rsp)
  stack : returned.registers .rsp = cpu.registers .rsp + 8
  kept : ∀ register ∈ x64StubKept, returned.registers register = cpu.registers register

/-- The syscall of a stub is resumed with a frame, and the words of the stub on the stack are still
there. -/
structure X64SyscallStub.Resumed (stub : X64SyscallStub) (cpu resumed : Cpu X64Register)
    (frame : X64SyscallFrame) : Prop where
  user : userState resumed.registers = .resumed frame
  stack : ∀ target, InRange (cpu.registers .rsp - UInt64.ofNat (8 * stub.saved.length))
    (8 * stub.saved.length + 8) target →
      resumed.memory target = (cpu.run stub.entry).memory target

/-- A stub whose syscall is resumed with a status returns it. -/
theorem X64SyscallStub.returns (stub : X64SyscallStub) {cpu resumed : Cpu X64Register}
    {status : Int32} (hresumed : stub.Resumed cpu resumed ((stub.trap cpu).returning status)) :
    X64StubReturned cpu (resumed.run stub.exit) status := by
  obtain ⟨huser, hkept⟩ := hresumed
  obtain ⟨hsaving, hunsaved⟩ := stub.entry_run cpu
  have hframe : frameOf resumed.registers = (stub.trap cpu).returning status :=
    congrArg X64UserState.registers huser
  have hpointer : resumed.registers .rsp =
      cpu.registers .rsp - UInt64.ofNat (8 * stub.saved.length) :=
    (congrArg X64SyscallFrame.userRsp hframe).trans hsaving.pointer
  have hnotSaved : ∀ register, register ∉ [X64Register.rdi, .rsi] → register ∉ stub.saved :=
    fun register hregister hmem => hregister (stub.saved_arguments register hmem)
  have hnotPopped : ∀ register, register ∉ stub.saved → register ≠ .rip →
      register ∉ stub.saved.reverse ++ [X64Register.rip] := fun register hsaved hrip hmem => by
    rcases List.mem_append.mp hmem with hmem | hmem
    · exact hsaved (List.mem_reverse.mp hmem)
    · exact hrip (List.mem_singleton.mp hmem)
  have hbound := stub.saved_length
  -- The stub pops what it has pushed, and then its return address.
  have hexit : stub.exit = (stub.saved.reverse ++ [X64Register.rip]).flatMap (pop .rsp) := by
    rw [List.flatMap_append]
    rfl
  have hvalues : (stub.saved.reverse ++ [X64Register.rip]).map (Function.update cpu.registers .rip
      (wordAt cpu.memory (cpu.registers .rsp))) =
        stub.saved.reverse.map cpu.registers ++ [wordAt cpu.memory (cpu.registers .rsp)] := by
    rw [List.map_append, List.map_singleton, Function.update_self]
    refine congrArg (· ++ _) (List.map_congr_left fun register hregister => ?_)
    refine Function.update_of_ne ?_ _ _
    rintro rfl
    exact hnotSaved _ (by decide) (List.mem_reverse.mp hregister)
  have hwords : WordsAt resumed.memory (resumed.registers .rsp)
      ((stub.saved.reverse ++ [X64Register.rip]).map (Function.update cpu.registers .rip
        (wordAt cpu.memory (cpu.registers .rsp)))) := by
    rw [hvalues, hpointer]
    refine hsaving.stored.held.congr ?_ fun target hin => hkept target ?_
    · simp only [List.length_append, List.length_map, List.length_reverse, List.length_singleton]
      omega
    · simpa only [List.length_append, List.length_map, List.length_reverse, List.length_singleton,
        Nat.mul_add] using hin
  obtain ⟨hpopped, hothers, hstack, -⟩ := run_pops
    (hnotPopped .rsp (hnotSaved _ (by decide)) (by decide)) hwords
  rw [hexit]
  refine ⟨?_, ?_, ?_, fun register hregister => ?_⟩
  · rw [hothers .rax (hnotPopped .rax (hnotSaved _ (by decide)) (by decide)) (by decide)]
    exact congrArg X64SyscallFrame.rax hframe
  · rw [hpopped .rip (List.mem_append_right _ (List.mem_singleton_self _)), Function.update_self]
  · rw [hstack, hpointer, List.length_append, List.length_reverse, List.length_singleton,
      Nat.mul_add, UInt64.ofNat_add, ← UInt64.add_assoc, UInt64.sub_add_cancel]
    rfl
  · obtain ⟨hrip, hrsp, hunmoved⟩ := x64StubKept_apart register hregister
    by_cases hsaved : register ∈ stub.saved
    · rw [hpopped register (List.mem_append_left _ (List.mem_reverse.mpr hsaved)),
        Function.update_of_ne hrip]
    · rw [hothers register (hnotPopped register hsaved hrip) hrsp,
        returning_kept hframe register hregister]
      by_cases hargument : register ∈ [X64Register.rdi, .rsi]
      · exact hunsaved register hargument hsaved
      · exact hsaving.registers register (hunmoved hargument)

end X64Stubs

section Arm64Stubs

open Arm64Code (mov ret)

end Arm64Stubs

section Completions

variable {P : TrapPath} {s : UserRuntime × Stacks P.Trap}

/-- A completion gives the CPU to the client of the call, which is loaded with the frame of its own
syscall and the status of the completion. -/
theorem TrapPath.Agrees.completes (h : P.Agrees s) (hrunnable : s.1.hasRunnableThread = true)
    {server : ThreadRef} (hcurrent : s.1.currentThread = some server) {trap : P.Trap}
    (hsyscall : Syscall.ofNumber (P.context trap).syscallNumber = some .rpcComplete)
    {channel : ChannelRef} {call : PendingCall}
    (hfind : s.1.findPendingChannelByServerThread server = some channel)
    (hcall : s.1.pending channel = some call) :
    ∃ clientTrap rest, s.2 call.clientThread = .syscall clientTrap none :: rest ∧
      call.clientThread ≠ server ∧
      (P.dispatch trap server s.1).2.currentThread = some call.clientThread ∧
      ((P.dispatch trap server s.1).2.thread call.clientThread).state = .running ∧
      ∀ frame, P.returning clientTrap (statusOfArgument (P.context trap).argument0) = some frame →
        P.load ((P.dispatch trap server s.1).2.thread call.clientThread) = frame := by
  have hkept := h.kept hrunnable
  obtain ⟨clientTrap, rest, hstack, hcaptured⟩ := hkept.client channel call hcall
  obtain ⟨found, hfound, hserver⟩ := findPendingChannel_some hfind
  obtain rfl : call = found := Option.some.inj (hcall.symm.trans hfound)
  have hother : call.clientThread ≠ server := hserver ▸ hkept.other channel call hcall
  have hsaved : (runtimeSystem P.arch).Reachable WhileRunnable
      (s.1.modifyThread server (P.saveTo trap)) :=
    saveTo_reachable h.reachable (fun _ => hrunnable) hcurrent rfl
  have hsavedCurrent : (s.1.modifyThread server (P.saveTo trap)).currentThread = some server :=
    hcurrent
  obtain ⟨hclient, hthread⟩ := (complete_answers P.arch (reachable_wellFormed hsaved)
    (reachable_tidy hsaved) hsavedCurrent hsyscall hfind hcall).delivers hother
  have hsame : (s.1.modifyThread server (P.saveTo trap)).thread call.clientThread =
      s.1.thread call.clientThread := thread_modifyThread_of_ne hother _
  refine ⟨clientTrap, rest, hstack, hother, hclient, ?_, fun frame hframe => ?_⟩
  · exact (congrArg Thread.state hthread).trans rfl
  · have hloaded := (hcaptured.waiting (statusOfArgument (P.context trap).argument0)
      rest).setState .running
    rcases hloaded with hnil | ⟨_, _, _, htop, hcaptured', hreturns⟩
    · cases hnil
    · rw [List.cons.injEq, Outstanding.syscall.injEq, Option.some.injEq] at htop
      obtain ⟨⟨rfl, rfl⟩, rfl⟩ := htop
      change P.load ((s.1.modifyThread server (P.saveTo trap)).dispatchSyscall P.arch
        (P.context trap) |>.2.thread call.clientThread) = frame
      have hfinal : ((s.1.modifyThread server (P.saveTo trap)).dispatchSyscall P.arch
          (P.context trap)).2.thread call.clientThread =
            ((s.1.thread call.clientThread).prepareSyscallResume P.arch
              (statusOfArgument (P.context trap).argument0)).setState .running :=
        hthread.trans (by rw [← hsame]; rfl)
      rw [hfinal]
      exact P.load_returning hframe hcaptured' hreturns

end Completions

section Samples

/-- A trap handler resumes a thread, for evaluation. -/
def resumesThread {Frame : Type} (result : Except String (Option Frame × UserRuntime))
    (t : ThreadRef) : Bool :=
  match result with
  | .ok (some _, after) =>
    after.currentThread = some t && (after.thread t).resumeState.kind = .syscall
  | _ => false

theorem resumesThread_sound {Frame : Type} {result : Except String (Option Frame × UserRuntime)}
    {t : ThreadRef} (h : resumesThread result t = true) :
    ∃ loaded after, result = .ok (some loaded, after) ∧ after.currentThread = some t ∧
      (after.thread t).resumeState.kind = .syscall := by
  unfold resumesThread at h
  split at h
  · simp only [Bool.and_eq_true, decide_eq_true_eq] at h
    exact ⟨_, _, rfl, h⟩
  · cases h

end Samples

section X64Runs

variable {s : UserRuntime × Stacks X64SyscallFrame} {active t : ThreadRef}

/-- A signed value that was extended is read back. -/
theorem statusOfArgument_signExtendStatus (status : Int32) :
    statusOfArgument (signExtendStatus status) = status := by
  unfold statusOfArgument signExtendStatus
  apply Int32.toBitVec_inj.mp
  ext i hi
  have hwide : i < 64 := by omega
  simp [BitVec.getElem_signExtend, hi, hwide]

/-- The frame with which the trampoline behind a callback traps. -/
def x64CompletionTrap (callback : Cpu X64Register) : X64SyscallFrame :=
  (userState (callback.run x64RpcCompleteTrampolineCode).registers).trap

theorem x64CompletionTrap_context (callback : Cpu X64Register) :
    Syscall.ofNumber (x64CompletionTrap callback).context.syscallNumber = some .rpcComplete ∧
      statusOfArgument (x64CompletionTrap callback).context.argument0 =
        statusOfArgument (callback.registers .rax) :=
  ⟨rfl, statusOfArgument_signExtendStatus _⟩

/-- In every run: the kernel reads what a C function was called with, and a thread that returns from
its syscall finds the status of that very syscall, its own stack pointer and its own registers. -/
theorem x64SyscallStubs_return (hreach : x64Path.system.Reachable x64Path.AnswersOwn s)
    (hrunnable : s.1.hasRunnableThread = true) {frame : X64SyscallFrame}
    (hguard : x64Path.AnswersOwn s (.trap frame)) {loaded : X64SyscallFrame} {after : UserRuntime}
    (hok : x64HandleSyscall frame s.1 = .ok (some loaded, after))
    (hcurrent : after.currentThread = some t)
    (hkind : (after.thread t).resumeState.kind = .syscall) {count : Nat} {stub : X64SyscallStub}
    (hstub : x64SyscallStubs[count]? = some stub) {cpu : Cpu X64Register} {known : Option Int32}
    {rest : List (Outstanding X64SyscallFrame)}
    (hstack : x64Path.left s.1 (.trap frame) s.2 t = .syscall (stub.trap cpu) known :: rest) :
    (syscallWords (stub.trap cpu).context).take (count + 1) =
        (x64CallArguments cpu).take (count + 1) ∧
      ∃ status, known = some status ∧ ∀ resumed, stub.Resumed cpu resumed loaded →
        X64StubReturned cpu (resumed.run stub.exit) status := by
  obtain ⟨rfl, hleft, hloaded⟩ := x64HandleSyscall_next hok
  obtain ⟨status, hknown, hframe⟩ := (TrapPath.reachable_agrees hreach).resumesOwn hrunnable hguard
    hleft t hcurrent hkind _ known rest hstack
  refine ⟨x64SyscallStubs_words cpu hstub, status, hknown, fun resumed hresumed => ?_⟩
  have hreturning : loaded = (stub.trap cpu).returning status :=
    (hloaded t hcurrent).trans (hframe _ rfl)
  exact stub.returns (hreturning ▸ hresumed)

/-- In every run: what a callback leaves in EAX when it returns to the trampoline is what the C
function of the client returns, whichever calls were made meanwhile. -/
theorem x64Callback_answers (hreach : x64Path.system.Reachable x64Path.AnswersOwn s)
    (hrunnable : s.1.hasRunnableThread = true) (hcurrent : s.1.currentThread = some active)
    {channel : ChannelRef} {call : PendingCall}
    (hfind : s.1.findPendingChannelByServerThread active = some channel)
    (hcall : s.1.pending channel = some call) (callback : Cpu X64Register) :
    ∃ trap rest loaded after, s.2 call.clientThread = .syscall trap none :: rest ∧
      x64HandleSyscall (x64CompletionTrap callback) s.1 = .ok (some loaded, after) ∧
      after.currentThread = some call.clientThread ∧
      ∀ (stub : X64SyscallStub) cpu resumed, trap = stub.trap cpu →
        stub.Resumed cpu resumed loaded →
          X64StubReturned cpu (resumed.run stub.exit)
            (statusOfArgument (callback.registers .rax)) := by
  obtain ⟨hsyscall, hstatus⟩ := x64CompletionTrap_context callback
  obtain ⟨trap, rest, hstack, hother, hclient, hrunning, hloads⟩ :=
    @TrapPath.Agrees.completes x64Path s (TrapPath.reachable_agrees hreach) hrunnable _ hcurrent
      (x64CompletionTrap callback) hsyscall _ _ hfind hcall
  have hloaded := hloads _ rfl
  have hhandled : x64HandleSyscall (x64CompletionTrap callback) s.1 =
      .ok (x64Resume active (x64Path.dispatch (x64CompletionTrap callback) active s.1).1
        (x64Path.dispatch (x64CompletionTrap callback) active s.1).2) := by
    simp only [x64HandleSyscall, hcurrent]
    rfl
  generalize x64Path.dispatch (x64CompletionTrap callback) active s.1 = dispatched
    at hclient hrunning hloaded hhandled
  have hleft : dispatched.2.hasRunnableThread = true := by
    simp [hasRunnableThread, hclient, hrunning]
  have hresume : x64Resume active dispatched.1 dispatched.2 =
      (some (loadUserThreadFrame (dispatched.2.thread call.clientThread)), dispatched.2) := by
    simp only [x64Resume, hleft, Bool.not_true, Bool.false_eq_true, if_false, hclient,
      if_neg hother, if_true]
  refine ⟨trap, rest, _, dispatched.2, hstack, hhandled.trans (congrArg _ hresume), hclient,
    fun stub cpu resumed htrap hresumed => ?_⟩
  subst htrap
  have hframe : loadUserThreadFrame (dispatched.2.thread call.clientThread) =
      (stub.trap cpu).returning (statusOfArgument (callback.registers .rax)) := by
    rw [← hstatus]
    exact hloaded
  exact stub.returns (hframe ▸ hresumed)

/-- A frame is known by its words. -/
theorem X64SyscallFrame.words_injective : Function.Injective X64SyscallFrame.words := by
  intro frame other h
  simp only [X64SyscallFrame.words, List.cons_append, List.nil_append, List.cons.injEq,
    List.ofFn_inj] at h
  cases frame
  cases other
  simp_all

/-- A CPU that calls `ringos_syscall3`. -/
def sampleCall (number argument0 argument1 argument2 stackPointer : UInt64) : Cpu X64Register where
  registers
    | .rdi => number
    | .rsi => argument0
    | .rdx => argument1
    | .rcx => argument2
    | .rsp => stackPointer
    | .rip => 0x1010
    | _ => 0
  memory := fun _ => 0

/-- The frame on top of a stack, if that is a syscall. -/
def topWords : List (Outstanding X64SyscallFrame) → Option (List UInt64)
  | .syscall frame _ :: _ => some frame.words
  | _ => none

theorem topWords_sound {stack : List (Outstanding X64SyscallFrame)} {frame : X64SyscallFrame}
    (h : topWords stack = some frame.words) : ∃ known rest, stack = .syscall frame known :: rest := by
  unfold topWords at h
  split at h
  · exact ⟨_, _, by rw [X64SyscallFrame.words_injective (Option.some.inj h)]⟩
  · cases h

/-- A server registers, and a client calls it, both through `ringos_syscall3`. -/
def stubCalls : List x64Path.Event :=
  trapEvents [x64RingosSyscall3.trap (sampleCall 3 0x1100 0x1200 0x1210 0x1800),
    trapFrame 4 0x1100 0x1300 0 0x1c00,
    x64RingosSyscall3.trap (sampleCall 5 4 0x1400 1 0x1c00)]

/-- The callback of that call returns 7. -/
theorem x64Callback_answers_stubCalls :
    ∃ s call loaded after, x64Path.system.Reachable x64Path.AnswersOwn s ∧
      s.1.pending 0 = some call ∧
      x64HandleSyscall (x64CompletionTrap { sampleCall 0 0 0 0 0 with
        registers := fun | .rax => 7 | _ => 0 }) s.1 = .ok (some loaded, after) ∧
      after.currentThread = some call.clientThread ∧
      ∀ resumed, x64RingosSyscall3.Resumed (sampleCall 5 4 0x1400 1 0x1c00) resumed loaded →
        X64StubReturned (sampleCall 5 4 0x1400 1 0x1c00) (resumed.run x64RingosSyscall3.exit) 7 := by
  have hlive : (bootRuntime 2).LiveThread 0 := rfl
  have hstart : x64Path.system.init (bootStarted 2, fun _ => []) := ⟨bootStarted_started hlive, rfl⟩
  obtain ⟨s, hreach, hrunnable, hcurrent, hfind, hclient, htop⟩ := TransitionSystem.exists_reachable
    (P := fun s => s.1.hasRunnableThread = true ∧ s.1.currentThread = some 0 ∧
      s.1.findPendingChannelByServerThread 0 = some 0 ∧
      (s.1.pending 0).map PendingCall.clientThread = some 1 ∧
      topWords (s.2 1) = some (x64RingosSyscall3.trap (sampleCall 5 4 0x1400 1 0x1c00)).words)
    stubCalls (fun _ _ => answersOwn_sound) hstart (by decide +kernel)
  obtain ⟨call, hcall, hthread⟩ := Option.map_eq_some_iff.mp hclient
  obtain ⟨trap, rest, loaded, after, hstack, hhandled, hcpu, hreturns⟩ :=
    x64Callback_answers hreach hrunnable hcurrent hfind hcall
      { sampleCall 0 0 0 0 0 with registers := fun | .rax => 7 | _ => 0 }
  rw [hthread] at hstack
  obtain ⟨_, _, htrap⟩ := topWords_sound htop
  rw [htrap, List.cons.injEq, Outstanding.syscall.injEq] at hstack
  exact ⟨s, call, loaded, after, hreach, hcall, hhandled, hcpu,
    fun resumed hresumed => hreturns _ _ _ hstack.1.1.symm hresumed⟩

/-- Once the client has exited, the registration of the server returns from its stub. -/
theorem x64SyscallStubs_return_stubCalls :
    ∃ s loaded after, x64Path.system.Reachable x64Path.AnswersOwn s ∧
      x64HandleSyscall clientExit s.1 = .ok (some loaded, after) ∧
      ∃ status, ∀ resumed,
        x64RingosSyscall3.Resumed (sampleCall 3 0x1100 0x1200 0x1210 0x1800) resumed loaded →
          X64StubReturned (sampleCall 3 0x1100 0x1200 0x1210 0x1800)
            (resumed.run x64RingosSyscall3.exit) status := by
  have hlive : (bootRuntime 2).LiveThread 0 := rfl
  have hstart : x64Path.system.init (bootStarted 2, fun _ => []) := ⟨bootStarted_started hlive, rfl⟩
  obtain ⟨s, hreach, hguard, hresumes, htop⟩ := TransitionSystem.exists_reachable
    (P := fun s => answersOwn s (.trap clientExit) = true ∧
      resumesThread (x64HandleSyscall clientExit s.1) 0 = true ∧
      topWords (x64Path.left s.1 (.trap clientExit) s.2 0) =
        some (x64RingosSyscall3.trap (sampleCall 3 0x1100 0x1200 0x1210 0x1800)).words)
    (stubCalls ++ trapEvents [trapFrame 8 0 0 0 0x1800]) (fun _ _ => answersOwn_sound) hstart
    (by decide +kernel)
  obtain ⟨henabled, hanswers⟩ := answersOwn_sound hguard
  obtain ⟨loaded, after, hok, hcurrent, hkind⟩ := resumesThread_sound hresumes
  obtain ⟨known, rest, hstack⟩ := topWords_sound htop
  obtain ⟨-, status, -, hreturns⟩ := @x64SyscallStubs_return s 0 hreach henabled.1 clientExit
    hanswers loaded after hok hcurrent hkind 3 x64RingosSyscall3 rfl _ _ _ hstack
  exact ⟨s, loaded, after, hreach, hok, status, hreturns⟩

end X64Runs

section Arm64Runs

variable {s : UserRuntime × Stacks arm64Path.Trap} {active t : ThreadRef}

end Arm64Runs

end Ringos.Arch
