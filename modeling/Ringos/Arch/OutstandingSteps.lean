import Ringos.Arch.Outstanding
import Ringos.Arch.SelfCalls
import Ringos.Calls.Switching
import Ringos.Calls.Exits

/-!
# Outstanding syscalls along a run

Each way in which a syscall leaves the CPU keeps the stacks of outstanding
syscalls in agreement with the runtime, as long as a completion ends the
callback that its server is running and no thread calls itself. So every thread
is resumed with the frame and the status of its own syscall.
-/

namespace Ringos.Arch

open Ringos.Core Ringos.Kernel Ringos.Scheduler UserRuntime

section Effects

variable {P : TrapPath} {before after : UserRuntime} {active : ThreadRef}
  {outstanding : Stacks P.Trap}

/-- A running thread, in its code, is about to be dispatched or to fault. -/
structure TrapPath.Taking (P : TrapPath) (before : UserRuntime) (active : ThreadRef)
    (outstanding : Stacks P.Trap) : Prop where
  kept : P.Kept before outstanding
  wellFormed : WellFormed before
  blocked : ClientsBlocked before.picture
  current : before.currentThread = some active
  running : (before.thread active).state = .running
  atCode : AtCode (outstanding active)

namespace TrapPath.Taking

/-- The clients of pending calls are blocked. -/
theorem client_blocked (h : P.Taking before active outstanding) {c : ChannelRef}
    {call : PendingCall} (hcall : before.pending c = some call) :
    (before.thread call.clientThread).state = .blocked :=
  h.blocked.clientBlocked c _ (picture_pending_of hcall) (h.kept.other c call hcall)

theorem client_ne (h : P.Taking before active outstanding) {c : ChannelRef} {call : PendingCall}
    (hcall : before.pending c = some call) : call.clientThread ≠ active := by
  intro heq
  have hblocked := h.client_blocked hcall
  rw [heq, h.running] at hblocked
  cases hblocked

/-- A client waits for one call only. -/
theorem client_unique (h : P.Taking before active outstanding) {c c' : ChannelRef}
    {call call' : PendingCall} (hcall : before.pending c = some call)
    (hcall' : before.pending c' = some call') (hsame : call.clientThread = call'.clientThread) :
    c = c' :=
  h.blocked.oneCall c c' _ _ (picture_pending_of hcall) (picture_pending_of hcall')
    (h.kept.other c call hcall) (h.kept.other c' call' hcall') hsame

end TrapPath.Taking

/-- A thread that neither wakes nor is called keeps its stack. -/
theorem passed_same {Trap : Type} {status : Int32} {t : ThreadRef}
    (stack : List (Outstanding Trap))
    (hblocked : (before.thread t).state = .blocked → (after.thread t).state = .blocked)
    (hbegun : begunOn before after t = none) : passed before after status t stack = stack := by
  unfold passed
  rw [if_neg fun h => h.2 (hblocked h.1), hbegun]

/-- No call begins when every call that is pending was. -/
theorem begunOn_none
    (h : ∀ c call, after.pending c = some call → before.pending c = some call) (t : ThreadRef) :
    begunOn before after t = none := by
  refine firstIndex_eq_none.mpr fun c => ?_
  cases hafter : after.pending c with
  | none => simp
  | some call => simp [h c call hafter]

/-- The one call that begins is on its server's stack. -/
theorem begunOn_update {ref : ChannelRef} {call : PendingCall} (hidle : before.pending ref = none)
    (h : after.pending = Function.update before.pending ref (some call)) (t : ThreadRef) :
    begunOn before after t = if call.serverThread = t then some ref else none := by
  have hother : ∀ c, c ≠ ref → ((before.pending c).isNone &&
      (after.pending c).any fun call => call.serverThread == t) = false := by
    intro c hc
    rw [h, Function.update_of_ne hc]
    cases before.pending c <;> simp
  have hself : ((before.pending ref).isNone &&
      (after.pending ref).any fun call => call.serverThread == t) = (call.serverThread == t) := by
    rw [h, Function.update_self, hidle]
    simp
  unfold begunOn
  split
  · rename_i heq
    refine firstIndex_eq_some (by rw [hself, heq, beq_self_eq_true]) fun c hc => ?_
    by_contra hlt
    rw [hother c fun he => hlt (he ▸ le_refl c)] at hc
    cases hc
  · rename_i hne
    refine firstIndex_eq_none.mpr fun c => ?_
    by_cases hc : c = ref
    · rw [hc, hself, beq_false_of_ne hne]
    · exact hother c hc

/-- A trap that leaves the CPU is not resumed. -/
theorem resume_of_left {result : Int32 × UserRuntime}
    (h : result.2.currentThread ≠ some active) : P.resume active result = result.2 := by
  unfold TrapPath.resume
  rw [if_neg fun hs => h hs.2]

/-- The condition on a completion: it ends the callback that the server is running, and the record
that is rebuilt for the syscall below it carries the status of that syscall. -/
structure CompletesOwn (P : TrapPath) (before : UserRuntime) (active : ThreadRef)
    (outstanding : Stacks P.Trap) (ref : ChannelRef) (call : PendingCall) : Prop where
  own : ∃ rest, outstanding active = .callback ref :: rest
  carries : ∀ trap status rest,
    outstanding active = .callback ref :: .syscall trap (some status) :: rest →
      match P.arch with
      | .x64 => (before.thread active).pendingSyscallStatus = status
      | .arm64 => call.savedServerContext.argument0 = signExtendStatus status

namespace TrapPath.Taking

variable {trap : P.Trap} {status : Int32}

/-- A syscall that keeps the CPU returns at once. -/
theorem stays (h : P.Taking before active outstanding)
    (hcaptured : P.Captured trap (before.thread active))
    (hcomplete : Syscall.ofNumber (P.context trap).syscallNumber = some .rpcComplete →
      before.findPendingChannelByServerThread active = none)
    (hcurrent : after.currentThread = some active)
    (hthreads : ∀ t, after.thread t = before.thread t)
    (hpending : ∀ c call, after.pending c = some call → before.pending c = some call) :
    P.Kept (P.resume active (status, after))
        (P.stacked trap active before (status, after) outstanding) ∧
      P.Loads (P.resume active (status, after))
        (P.stacked trap active before (status, after) outstanding) := by
  have hrunnable : after.hasRunnableThread = true := by
    simp [hasRunnableThread, hcurrent, hthreads, h.running]
  have hlive : after.LiveThread active :=
    liveThread_of_state (by rw [hthreads, h.running]; exact UserThreadState.noConfusion)
  have hresume : P.resume active (status, after) =
      after.modifyThread active (Thread.prepareSyscallResume P.arch status) :=
    if_pos ⟨hrunnable, hcurrent⟩
  have hself : (P.resume active (status, after)).thread active =
      (before.thread active).prepareSyscallResume P.arch status := by
    rw [hresume, thread_modifyThread_self hlive, hthreads]
  have hrest : ∀ t, t ≠ active → (P.resume active (status, after)).thread t = before.thread t := by
    intro t ht
    rw [hresume, thread_modifyThread_of_ne ht, hthreads]
  have hstate : ∀ t, ((P.resume active (status, after)).thread t).state =
      (before.thread t).state := by
    intro t
    by_cases ht : t = active
    · rw [ht, hself]
      rfl
    · rw [hrest t ht]
  have hpendings : ∀ c call, (P.resume active (status, after)).pending c = some call →
      before.pending c = some call := by
    intro c call hc
    rw [hresume] at hc
    exact hpending c call hc
  have hstackSelf : P.stacked trap active before (status, after) outstanding active =
      .syscall trap (some status) :: outstanding active := by
    have hfirst : ¬ (Syscall.ofNumber (P.context trap).syscallNumber = some .rpcComplete ∧
        (before.findPendingChannelByServerThread active).isSome) := by
      rintro ⟨hsyscall, hsome⟩
      rw [hcomplete hsyscall] at hsome
      cases hsome
    have hnot : (after.thread active).state ≠ .blocked := by
      rw [hthreads, h.running]
      exact UserThreadState.noConfusion
    simp only [TrapPath.stacked, if_true, if_neg hfirst, if_neg hnot]
  have hstack : ∀ t, t ≠ active →
      P.stacked trap active before (status, after) outstanding t = outstanding t := by
    intro t ht
    simp only [TrapPath.stacked, if_neg ht]
    exact passed_same _ (fun hb => (hthreads t).symm ▸ hb) (begunOn_none hpending t)
  refine ⟨⟨fun t ht => ?_, fun c call hcall => ?_, fun c call hcall halive => ?_, fun t => ?_,
    fun c call hcall => h.kept.other c call (hpendings c call hcall)⟩, fun t ht => ?_⟩
  · have hne : t ≠ active := by
      rintro rfl
      rw [hstate, h.running] at ht
      cases ht
    rw [hrest t hne, hstack t hne]
    exact h.kept.ready t (hstate t ▸ ht)
  · have hne := h.client_ne (hpendings c call hcall)
    rw [hrest _ hne, hstack _ hne]
    exact h.kept.client c call (hpendings c call hcall)
  · rw [hstate] at halive
    have hsuspends := h.kept.suspended c call (hpendings c call hcall) halive
    by_cases ht : call.serverThread = active
    · rw [ht] at hsuspends ⊢
      rw [hstackSelf]
      exact hsuspends.push (by simp)
    · rw [hstack _ ht]
      exact hsuspends
  · by_cases ht : t = active
    · rw [ht, hstackSelf]
      exact ⟨h.atCode, h.kept.nested active⟩
    · rw [hstack t ht]
      exact h.kept.nested t
  · rw [hresume] at ht
    obtain rfl : active = t := Option.some.inj (hcurrent.symm.trans ht)
    rw [hself, hstackSelf]
    exact .inr (hcaptured.waiting status _)

/-- The stack of the thread that made a syscall other than a completion. -/
theorem stacked_self (hcomplete : ¬ (Syscall.ofNumber (P.context trap).syscallNumber =
      some .rpcComplete ∧ (before.findPendingChannelByServerThread active).isSome)) :
    P.stacked trap active before (status, after) outstanding active =
      .syscall trap (if (after.thread active).state = .blocked then none else some status) ::
        outstanding active := by
  simp only [TrapPath.stacked, if_true, if_neg hcomplete]

/-- A yielding thread waits with its status, and the next one is resumed. -/
theorem yields (h : P.Taking before active outstanding)
    (hcaptured : P.Captured trap (before.thread active)) {chosen : ThreadRef}
    (hsyscall : Syscall.ofNumber (P.context trap).syscallNumber = some .rpcRegister)
    (hready : (before.thread chosen).state = .ready) (hother : chosen ≠ active)
    (hcurrent : after.currentThread = some chosen)
    (hself : after.thread active =
      ((before.thread active).prepareSyscallResume P.arch status).setState .ready)
    (hchosen : after.thread chosen = (before.thread chosen).setState .running)
    (hthreads : ∀ t, t ≠ active → t ≠ chosen → after.thread t = before.thread t)
    (hpending : after.pending = before.pending) :
    P.Kept (P.resume active (status, after))
        (P.stacked trap active before (status, after) outstanding) ∧
      P.Loads (P.resume active (status, after))
        (P.stacked trap active before (status, after) outstanding) := by
  have hleft : P.resume active (status, after) = after := by
    apply resume_of_left
    rw [hcurrent]
    exact fun heq => hother (Option.some.inj heq)
  have hstackSelf : P.stacked trap active before (status, after) outstanding active =
      .syscall trap (some status) :: outstanding active := by
    rw [stacked_self (by simp [hsyscall]), hself, if_neg (by simp [Thread.setState])]
  have hstack : ∀ t, t ≠ active →
      P.stacked trap active before (status, after) outstanding t = outstanding t := by
    intro t ht
    simp only [TrapPath.stacked, if_neg ht]
    refine passed_same _ (fun hb => ?_) (begunOn_none (fun c call hc => hpending ▸ hc) t)
    have hne : t ≠ chosen := by
      rintro rfl
      rw [hready] at hb
      cases hb
    rw [hthreads t ht hne]
    exact hb
  rw [hleft]
  refine ⟨⟨fun t ht => ?_, fun c call hcall => ?_, fun c call hcall halive => ?_, fun t => ?_,
    fun c call hcall => h.kept.other c call (hpending ▸ hcall)⟩, fun t ht => ?_⟩
  · by_cases hta : t = active
    · rw [hta, hstackSelf, hself]
      exact (hcaptured.waiting status _).setState .ready
    · have hne : t ≠ chosen := by
        rintro rfl
        rw [hchosen] at ht
        cases ht
      rw [hthreads t hta hne] at ht ⊢
      rw [hstack t hta]
      exact h.kept.ready t ht
  · rw [hpending] at hcall
    have hta := h.client_ne hcall
    have hne : call.clientThread ≠ chosen := by
      intro heq
      have hblocked := h.client_blocked hcall
      rw [heq, hready] at hblocked
      cases hblocked
    rw [hthreads _ hta hne, hstack _ hta]
    exact h.kept.client c call hcall
  · rw [hpending] at hcall
    have hbefore : (before.thread call.serverThread).state ≠ .exited := by
      intro hexited
      by_cases hta : call.serverThread = active
      · rw [hta, h.running] at hexited
        cases hexited
      · by_cases hne : call.serverThread = chosen
        · rw [hne, hready] at hexited
          cases hexited
        · rw [hthreads _ hta hne] at halive
          exact halive hexited
    have hsuspends := h.kept.suspended c call hcall hbefore
    by_cases hta : call.serverThread = active
    · rw [hta] at hsuspends ⊢
      rw [hstackSelf]
      exact hsuspends.push (by simp)
    · rw [hstack _ hta]
      exact hsuspends
  · by_cases hta : t = active
    · rw [hta, hstackSelf]
      exact ⟨h.atCode, h.kept.nested active⟩
    · rw [hstack t hta]
      exact h.kept.nested t
  · obtain rfl : chosen = t := Option.some.inj (hcurrent.symm.trans ht)
    rw [hchosen, hstack _ hother]
    exact .inr ((h.kept.ready _ hready).setState .running)

/-- A called server is resumed at its callback, and the caller waits for the call. -/
theorem calls (h : P.Taking before active outstanding)
    (hcaptured : P.Captured trap (before.thread active)) {ref : ChannelRef} {server : ThreadRef}
    (hsyscall : Syscall.ofNumber (P.context trap).syscallNumber = some .rpcCall)
    (hready : (before.thread server).state = .ready) (hother : server ≠ active)
    (hidle : before.pending ref = none) (hcurrent : after.currentThread = some server)
    (hself : after.thread active = (before.thread active).setState .blocked)
    (hkind : (after.thread server).resumeState.kind = .rpc)
    (hrunning : (after.thread server).state = .running)
    (hthreads : ∀ t, t ≠ active → t ≠ server → after.thread t = before.thread t)
    (hpending : after.pending = Function.update before.pending ref
      (some (PendingCall.save active server (before.thread server)))) :
    P.Kept (P.resume active (status, after))
        (P.stacked trap active before (status, after) outstanding) ∧
      P.Loads (P.resume active (status, after))
        (P.stacked trap active before (status, after) outstanding) := by
  have hleft : P.resume active (status, after) = after := by
    apply resume_of_left
    rw [hcurrent]
    exact fun heq => hother (Option.some.inj heq)
  have hblockedSelf : (after.thread active).state = .blocked := by
    rw [hself]
    rfl
  have hstackSelf : P.stacked trap active before (status, after) outstanding active =
      .syscall trap none :: outstanding active := by
    rw [stacked_self (by simp [hsyscall]), if_pos hblockedSelf]
  have hstackServer : P.stacked trap active before (status, after) outstanding server =
      .callback ref :: outstanding server := by
    have hnotBlocked : (before.thread server).state ≠ .blocked := by
      rw [hready]
      exact UserThreadState.noConfusion
    have hbegun : begunOn before after server = some ref :=
      (begunOn_update hidle hpending server).trans (if_pos rfl)
    simp only [TrapPath.stacked, if_neg hother, passed]
    rw [if_neg fun hs => hnotBlocked hs.1, hbegun]
  have hstack : ∀ t, t ≠ active → t ≠ server →
      P.stacked trap active before (status, after) outstanding t = outstanding t := by
    intro t ht hts
    simp only [TrapPath.stacked, if_neg ht]
    have hbegun : begunOn before after t = none :=
      (begunOn_update hidle hpending t).trans (if_neg fun heq => hts heq.symm)
    exact passed_same _ (fun hb => (hthreads t ht hts).symm ▸ hb) hbegun
  rw [hleft]
  refine ⟨⟨fun t ht => ?_, fun c call hcall => ?_, fun c call hcall halive => ?_, fun t => ?_,
    fun c call hcall => ?_⟩, fun t ht => ?_⟩
  · have hta : t ≠ active := by
      rintro rfl
      rw [hblockedSelf] at ht
      cases ht
    have hts : t ≠ server := by
      rintro rfl
      rw [hrunning] at ht
      cases ht
    rw [hthreads t hta hts] at ht ⊢
    rw [hstack t hta hts]
    exact h.kept.ready t ht
  · rw [hpending] at hcall
    by_cases hc : c = ref
    · rw [hc, Function.update_self] at hcall
      obtain rfl := Option.some.inj hcall
      refine ⟨trap, outstanding active, hstackSelf, ?_⟩
      change P.Captured trap (after.thread active)
      rw [hself]
      exact hcaptured
    · rw [Function.update_of_ne hc] at hcall
      have hta := h.client_ne hcall
      have hts : call.clientThread ≠ server := by
        intro heq
        have hblocked := h.client_blocked hcall
        rw [heq, hready] at hblocked
        cases hblocked
      rw [hthreads _ hta hts, hstack _ hta hts]
      exact h.kept.client c call hcall
  · rw [hpending] at hcall
    by_cases hc : c = ref
    · rw [hc, Function.update_self] at hcall
      obtain rfl := Option.some.inj hcall
      rw [hc]
      change P.Suspends ref _ (P.stacked trap active before (status, after) outstanding server)
      rw [hstackServer]
      exact ((h.kept.ready server hready).save active server).suspends
    · rw [Function.update_of_ne hc] at hcall
      by_cases hta : call.serverThread = active
      · have hsuspends := h.kept.suspended c call hcall (by
          rw [hta, h.running]
          exact UserThreadState.noConfusion)
        rw [hta] at hsuspends ⊢
        rw [hstackSelf]
        exact hsuspends.push (by simp)
      · by_cases hts : call.serverThread = server
        · have hsuspends := h.kept.suspended c call hcall (by
            rw [hts, hready]
            exact UserThreadState.noConfusion)
          rw [hts] at hsuspends ⊢
          rw [hstackServer]
          exact hsuspends.push (by simpa using Ne.symm hc)
        · rw [hthreads _ hta hts] at halive
          rw [hstack _ hta hts]
          exact h.kept.suspended c call hcall halive
  · by_cases hta : t = active
    · rw [hta, hstackSelf]
      exact ⟨h.atCode, h.kept.nested active⟩
    · by_cases hts : t = server
      · rw [hts, hstackServer]
        exact h.kept.nested server
      · rw [hstack t hta hts]
        exact h.kept.nested t
  · rw [hpending] at hcall
    by_cases hc : c = ref
    · rw [hc, Function.update_self] at hcall
      obtain rfl := Option.some.inj hcall
      exact Ne.symm hother
    · rw [Function.update_of_ne hc] at hcall
      exact h.kept.other c call hcall
  · obtain rfl : server = t := Option.some.inj (hcurrent.symm.trans ht)
    rw [hstackServer]
    exact .inl ⟨hkind, atCode_callback ref _⟩

/-- A woken client's syscall has the status that woke it. -/
theorem passed_woken (h : P.Taking before active outstanding) {c : ChannelRef}
    {call : PendingCall} (hcall : before.pending c = some call)
    (hafter : (after.thread call.clientThread).state ≠ .blocked) (status : Int32) :
    ∃ trap rest, outstanding call.clientThread = .syscall trap none :: rest ∧
      P.Captured trap (before.thread call.clientThread) ∧
      passed before after status call.clientThread (outstanding call.clientThread) =
        .syscall trap (some status) :: rest := by
  obtain ⟨trap, rest, hstack, hcaptured⟩ := h.kept.client c call hcall
  refine ⟨trap, rest, hstack, hcaptured, ?_⟩
  unfold passed
  rw [if_pos ⟨h.client_blocked hcall, hafter⟩, hstack]
  rfl

/-- A completion gives the server back what the call had suspended and resumes the client with
the status. -/
theorem completes (h : P.Taking before active outstanding) {ref : ChannelRef} {call : PendingCall}
    (hsyscall : Syscall.ofNumber (P.context trap).syscallNumber = some .rpcComplete)
    (hfirst : before.findPendingChannelByServerThread active = some ref)
    (hfound : before.pending ref = some call) (hserver : call.serverThread = active)
    (hown : CompletesOwn P before active outstanding ref call)
    (hcurrent : after.currentThread = some call.clientThread)
    (hself : after.thread active = call.restore (before.thread active))
    (hclient : after.thread call.clientThread =
      ((before.thread call.clientThread).prepareSyscallResume P.arch
        (statusOfArgument (P.context trap).argument0)).setState .running)
    (hthreads : ∀ t, t ≠ active → t ≠ call.clientThread → after.thread t = before.thread t)
    (hpending : after.pending = Function.update before.pending ref none) :
    P.Kept (P.resume active (status, after))
        (P.stacked trap active before (status, after) outstanding) ∧
      P.Loads (P.resume active (status, after))
        (P.stacked trap active before (status, after) outstanding) := by
  have hother := h.client_ne hfound
  have hsubset : ∀ c other, after.pending c = some other → before.pending c = some other :=
    fun c other hc => pending_of_update_none (hpending ▸ hc)
  have hne : ∀ c other, after.pending c = some other → c ≠ ref := by
    rintro c other hc rfl
    rw [hpending, Function.update_self] at hc
    cases hc
  have hleft : P.resume active (status, after) = after := by
    apply resume_of_left
    rw [hcurrent]
    exact fun heq => hother (Option.some.inj heq)
  obtain ⟨rest, hrest⟩ := hown.own
  have hstackSelf : P.stacked trap active before (status, after) outstanding active = rest := by
    simp only [TrapPath.stacked, if_true, hsyscall, hfirst, Option.isSome_some, and_self, hrest,
      List.tail_cons]
  have hrunning : (after.thread call.clientThread).state = .running := by
    rw [hclient]
    rfl
  obtain ⟨clientTrap, below, hbefore, hcaptured, hpassed⟩ := h.passed_woken hfound
    (by rw [hrunning]; exact UserThreadState.noConfusion) (P.delivered trap)
  have hdelivered : P.delivered trap = statusOfArgument (P.context trap).argument0 := if_pos hsyscall
  have hstackClient : P.stacked trap active before (status, after) outstanding call.clientThread =
      .syscall clientTrap (some (statusOfArgument (P.context trap).argument0)) :: below := by
    simp only [TrapPath.stacked, if_neg hother]
    rw [hpassed, hdelivered]
  have hstack : ∀ t, t ≠ active → t ≠ call.clientThread →
      P.stacked trap active before (status, after) outstanding t = outstanding t := by
    intro t ht htc
    simp only [TrapPath.stacked, if_neg ht]
    exact passed_same _ (fun hb => (hthreads t ht htc).symm ▸ hb) (begunOn_none hsubset t)
  have hsaved : P.Saved call rest := by
    have hsuspends := h.kept.suspended ref call hfound (by
      rw [hserver, h.running]
      exact UserThreadState.noConfusion)
    rw [hserver, hrest] at hsuspends
    exact hsuspends.saved
  rw [hleft]
  refine ⟨⟨fun t ht => ?_, fun c other hcall => ?_, fun c other hcall halive => ?_, fun t => ?_,
    fun c other hcall => h.kept.other c other (hsubset c other hcall)⟩, fun t ht => ?_⟩
  · by_cases hta : t = active
    · -- The record of the server is rebuilt from the saved context and the pending status.
      rw [hta, hstackSelf, hself]
      rcases hsaved with hnil | ⟨savedTrap, known, deeper, hdeeper, hcapturedBy⟩
      · exact .inl hnil
      · refine .inr ⟨savedTrap, known, deeper, hdeeper, hcapturedBy, rfl, rfl, rfl, rfl, ?_⟩
        have hcarries := hown.carries savedTrap known deeper (hdeeper ▸ hrest)
        cases harch : P.arch with
        | x64 =>
          rw [harch] at hcarries
          exact hcarries
        | arm64 =>
          rw [harch] at hcarries
          exact hcarries
    · have htc : t ≠ call.clientThread := by
        rintro rfl
        rw [hrunning] at ht
        cases ht
      rw [hthreads t hta htc] at ht ⊢
      rw [hstack t hta htc]
      exact h.kept.ready t ht
  · have hwas := hsubset c other hcall
    have hta := h.client_ne hwas
    have htc : other.clientThread ≠ call.clientThread :=
      fun heq => hne c other hcall (h.client_unique hwas hfound heq)
    rw [hthreads _ hta htc, hstack _ hta htc]
    exact h.kept.client c other hwas
  · have hwas := hsubset c other hcall
    by_cases hta : other.serverThread = active
    · have hsuspends := h.kept.suspended c other hwas (by
        rw [hta, h.running]
        exact UserThreadState.noConfusion)
      rw [hta, hrest] at hsuspends
      rw [hta, hstackSelf]
      exact hsuspends.pop (by simpa using (hne c other hcall).symm)
    · by_cases htc : other.serverThread = call.clientThread
      · have hsuspends := h.kept.suspended c other hwas (by
          rw [htc, h.client_blocked hfound]
          exact UserThreadState.noConfusion)
        rw [htc, hbefore] at hsuspends
        rw [htc, hstackClient]
        exact (hsuspends.pop (by simp)).push (by simp)
      · rw [hthreads _ hta htc] at halive
        rw [hstack _ hta htc]
        exact h.kept.suspended c other hwas halive
  · by_cases hta : t = active
    · have hnested := h.kept.nested active
      rw [hrest] at hnested
      rw [hta, hstackSelf]
      exact hnested
    · by_cases htc : t = call.clientThread
      · have hnested := h.kept.nested call.clientThread
        rw [hbefore] at hnested
        rw [htc, hstackClient]
        exact hnested
      · rw [hstack t hta htc]
        exact h.kept.nested t
  · obtain rfl : call.clientThread = t := Option.some.inj (hcurrent.symm.trans ht)
    rw [hstackClient, hclient]
    exact .inr ((TrapPath.Captured.waiting hcaptured _ _).setState .running)

/-- The exit of a thread wakes its client with the failure status and resumes a ready thread. -/
theorem exits (h : P.Taking before active outstanding) {woken : Option ThreadRef}
    (heffect : ExitEffect P.arch status before active after woken)
    {leaving : Stacks P.Trap}
    (hstack : ∀ t, t ≠ active → leaving t = passed before after status t (outstanding t))
    (hnested : Nested (leaving active)) : P.Kept after leaving ∧ P.Loads after leaving := by
  have hreadied : ∀ t, woken ≠ some t → readied P.arch status woken before t = before.thread t :=
    fun t ht => if_neg ht
  -- A thread that is not woken keeps its stack and its record.
  have hkept : ∀ t, t ≠ active → woken ≠ some t → leaving t = outstanding t ∧
      after.thread t = (before.thread t).setState
        (if after.currentThread = some t then .running else (before.thread t).state) := by
    intro t hta hw
    have hthread := heffect.threads t hta
    rw [hreadied t hw] at hthread
    refine ⟨?_, hthread⟩
    rw [hstack t hta]
    refine passed_same _ (fun hb => ?_) (begunOn_none heffect.pending t)
    have hnot : after.currentThread ≠ some t := by
      intro hc
      have hready := (heffect.current t hc).2
      rw [hreadied t hw, hb] at hready
      cases hready
    rw [hthread, if_neg hnot]
    exact hb
  -- The woken client returns from its call with the failure status.
  have hwoken : ∀ t, woken = some t → t ≠ active ∧ P.Waiting (after.thread t) (leaving t) ∧
      ∃ trap rest, outstanding t = .syscall trap none :: rest ∧
        leaving t = .syscall trap (some status) :: rest := by
    intro t hw
    obtain ⟨hta, c, call, hcall, rfl, _⟩ := heffect.client t hw
    have hthread := heffect.threads call.clientThread hta
    have hwake : readied P.arch status woken before call.clientThread =
        ((before.thread call.clientThread).setState .ready).prepareSyscallResume P.arch status :=
      if_pos hw
    rw [hwake] at hthread
    have hafter : (after.thread call.clientThread).state ≠ .blocked := by
      rw [hthread]
      split
      · exact UserThreadState.noConfusion
      · exact UserThreadState.noConfusion
    obtain ⟨trap, rest, hbefore, hcaptured, hpassed⟩ := h.passed_woken hcall hafter status
    refine ⟨hta, ?_, trap, rest, hbefore, ?_⟩
    · have hready : P.Captured trap ((before.thread call.clientThread).setState .ready) := hcaptured
      rw [hthread, hstack _ hta, hpassed]
      exact (hready.waiting status rest).setState _
    · rw [hstack _ hta, hpassed]
  have hclient : ∀ c call, after.pending c = some call →
      call.clientThread ≠ active ∧ woken ≠ some call.clientThread ∧
        after.currentThread ≠ some call.clientThread := by
    intro c call hcall
    have hwas := heffect.pending c call hcall
    have hnot : woken ≠ some call.clientThread := by
      intro hw
      obtain ⟨_, c', call', hcall', hsame, hgone⟩ := heffect.client _ hw
      obtain rfl := h.client_unique hwas hcall' hsame.symm
      rw [hgone] at hcall
      cases hcall
    refine ⟨h.client_ne hwas, hnot, fun hc => ?_⟩
    have hready := (heffect.current _ hc).2
    rw [hreadied _ hnot, h.client_blocked hwas] at hready
    cases hready
  refine ⟨⟨fun t ht => ?_, fun c call hcall => ?_, fun c call hcall halive => ?_, fun t => ?_,
    fun c call hcall => h.kept.other c call (heffect.pending c call hcall)⟩, fun t ht => ?_⟩
  · have hta : t ≠ active := by
      rintro rfl
      rw [heffect.exited] at ht
      cases ht
    by_cases hw : woken = some t
    · exact (hwoken t hw).2.1
    · obtain ⟨hsame, hthread⟩ := hkept t hta hw
      rw [hthread] at ht ⊢
      rw [hsame]
      refine (h.kept.ready t ?_).setState _
      by_cases hc : after.currentThread = some t
      · rw [if_pos hc] at ht
        cases ht
      · rw [if_neg hc] at ht
        exact ht
  · obtain ⟨hta, hw, hc⟩ := hclient c call hcall
    obtain ⟨hsame, hthread⟩ := hkept _ hta hw
    obtain ⟨trap, rest, hbefore, hcaptured⟩ :=
      h.kept.client c call (heffect.pending c call hcall)
    refine ⟨trap, rest, hsame.trans hbefore, ?_⟩
    rw [hthread]
    exact hcaptured
  · have hta : call.serverThread ≠ active := by
      intro heq
      rw [heq] at halive
      exact halive heffect.exited
    have hwas := heffect.pending c call hcall
    by_cases hw : woken = some call.serverThread
    · obtain ⟨_, _, trap, rest, hbefore, hleft⟩ := hwoken _ hw
      have hsuspends := h.kept.suspended c call hwas (by
        obtain ⟨_, c', call', hcall', hsame, _⟩ := heffect.client _ hw
        rw [← hsame, h.client_blocked hcall']
        exact UserThreadState.noConfusion)
      rw [hbefore] at hsuspends
      rw [hleft]
      exact (hsuspends.pop (by simp)).push (by simp)
    · obtain ⟨hsame, hthread⟩ := hkept _ hta hw
      rw [hsame]
      refine h.kept.suspended c call hwas fun hexited => halive ?_
      have hnot : after.currentThread ≠ some call.serverThread := by
        intro hc
        have hready := (heffect.current _ hc).2
        rw [hreadied _ hw, hexited] at hready
        cases hready
      rw [hthread, if_neg hnot]
      exact hexited
  · by_cases hta : t = active
    · rw [hta]
      exact hnested
    · by_cases hw : woken = some t
      · obtain ⟨_, _, trap, rest, hbefore, hleft⟩ := hwoken t hw
        have hbelow := h.kept.nested t
        rw [hbefore] at hbelow
        rw [hleft]
        exact hbelow
      · rw [(hkept t hta hw).1]
        exact h.kept.nested t
  · obtain ⟨hta, hready⟩ := heffect.current t ht
    by_cases hw : woken = some t
    · exact .inr (hwoken t hw).2.1
    · obtain ⟨hsame, hthread⟩ := hkept t hta hw
      rw [hreadied t hw] at hready
      rw [hthread, hsame]
      exact .inr ((h.kept.ready t hready).setState _)

end TrapPath.Taking

end Effects

end Ringos.Arch
