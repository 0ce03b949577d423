import Ringos.Scheduler.Abstract

/-!
# The scheduler invariants

`Tidy` survives every step. `Consistent` also ties blocked threads to pending
calls and survives attached steps. `Sound` adds that the thread on the CPU is
running, that waiting is acyclic and that the CPU idles only when every thread
has exited; it survives the steps that are strict as well.
-/

namespace Ringos.Scheduler

open Ringos.Core Ringos.Kernel State

variable {T C : Type} [DecidableEq T] [DecidableEq C]

/-- Only the current thread runs, and pending calls saved states that can be restored. -/
structure Tidy (s : State T C) : Prop where
  runningIsCurrent : ∀ t, s.state t = .running → s.current = some t
  currentActive : ∀ t, s.current = some t → s.state t = .running ∨ s.state t = .blocked
  savedSelf : ∀ c call, s.pending c = some call → call.client = call.server →
    call.saved = .running
  savedOther : ∀ c call, s.pending c = some call → call.client ≠ call.server →
    call.saved = .ready ∨ call.saved = .blocked

/-- Blocked threads are exactly the clients of calls pending on other, live threads. -/
structure Consistent (s : State T C) : Prop extends Tidy s where
  clientBlocked : ∀ c call, s.pending c = some call → call.client ≠ call.server →
    s.state call.client = .blocked
  serverAlive : ∀ c call, s.pending c = some call → call.client ≠ call.server →
    s.state call.server ≠ .exited ∧ s.state call.server ≠ .empty
  /-- A call to a blocked server leaves that server blocked on the CPU. -/
  savedBlocked : ∀ c call, s.pending c = some call → call.saved = .blocked →
    s.current = some call.server ∧ s.state call.server = .blocked
  oneCall : ∀ c c' call call', s.pending c = some call → s.pending c' = some call' →
    call.client ≠ call.server → call'.client ≠ call'.server → call.client = call'.client → c = c'
  blockedWaits : ∀ t, s.state t = .blocked →
    ∃ c call, s.pending c = some call ∧ call.client = t ∧ call.server ≠ t

/-- The invariant of runs that call no blocked server. -/
structure Sound (s : State T C) : Prop extends Consistent s where
  currentRunning : ∀ t, s.current = some t → s.state t = .running
  acyclic : Acyclic s.Waits
  idleExited : s.current = none → ∀ t, s.state t = .exited ∨ s.state t = .empty

/-- The states of a thread that is neither exited, absent nor running. -/
theorem ready_or_blocked {x : UserThreadState} (hr : x ≠ .running) (hx : x ≠ .exited)
    (he : x ≠ .empty) : x = .ready ∨ x = .blocked := by
  cases x <;> simp_all

namespace Tidy

variable {s : State T C}

omit [DecidableEq T] [DecidableEq C] in
/-- Another thread than the current one does not run. -/
theorem not_running (h : Tidy s) {active t : T} (hc : s.current = some active) (hne : t ≠ active) :
    s.state t ≠ .running := by
  intro ht
  exact hne (Option.some.inj ((h.runningIsCurrent t ht).symm.trans hc))

omit [DecidableEq C] in
/-- Yielding keeps the picture tidy. -/
theorem yieldTo (h : Tidy s) {active next : T} (hc : s.current = some active)
    (hr : s.state active = .running) (hn : s.state next = .ready) :
    Tidy (s.yieldTo active next) := by
  have hne : next ≠ active := by
    rintro rfl
    simp [hn] at hr
  obtain ⟨hrun, hcur, hself, hother⟩ := h
  constructor
  all_goals
    simp only [State.yieldTo, State.dispatch, Function.update_apply, promoted]
    grind

/-- A call keeps the picture tidy. -/
theorem call (h : Tidy s) {c : C} {active server : T} (hc : s.current = some active)
    (hne : server ≠ active) (hx : s.state server ≠ .exited) (he : s.state server ≠ .empty) :
    Tidy (s.call c active server) := by
  have hstate := ready_or_blocked (h.not_running hc hne) hx he
  obtain ⟨hrun, hcur, hself, hother⟩ := h
  constructor
  all_goals
    simp only [State.call, State.dispatch, Function.update_apply, promoted]
    grind

omit [DecidableEq T] in
/-- A call to oneself keeps the picture tidy. -/
theorem callSelf (h : Tidy s) {c : C} {active : T} (hr : s.state active = .running) :
    Tidy (s.callSelf c active) := by
  obtain ⟨hrun, hcur, hself, hother⟩ := h
  constructor
  all_goals
    simp only [State.callSelf, Function.update_apply]
    grind

/-- Answering another thread keeps the picture tidy. -/
theorem complete (h : Tidy s) {c : C} {active client : T} {saved : UserThreadState}
    (hc : s.current = some active) (hp : s.pending c = some ⟨client, active, saved⟩)
    (hne : client ≠ active) : Tidy (s.complete c active client saved) := by
  have hsaved := h.savedOther c _ hp hne
  obtain ⟨hrun, hcur, hself, hother⟩ := h
  constructor
  all_goals
    simp only [State.complete, State.dispatch, Function.update_apply, promoted]
    grind

omit [DecidableEq T] in
/-- Ending a call without changing a state keeps the picture tidy. -/
theorem completeSelf (h : Tidy s) (c : C) : Tidy (s.completeSelf c) := by
  obtain ⟨hrun, hcur, hself, hother⟩ := h
  constructor
  all_goals
    simp only [State.completeSelf, Function.update_apply]
    grind

/-- After an exit nothing runs and the saved states are as before. -/
theorem retire {cancelled : State T C} (h : Tidy s) {active : T} (hc : s.current = some active)
    (hcancel : s.Cancels active cancelled) :
    (∀ t, (cancelled.retire active).state t ≠ .running) ∧
    (∀ c call, (cancelled.retire active).pending c = some call → call.client = call.server →
      call.saved = .running) ∧
    ∀ c call, (cancelled.retire active).pending c = some call → call.client ≠ call.server →
      call.saved = .ready ∨ call.saved = .blocked := by
  obtain ⟨hrun, hcur, hself, hother⟩ := h
  cases hcancel with
  | nothing hnone =>
    simp only [State.retire, Function.update_apply]
    grind
  | one c client saved hp =>
    simp only [State.retire, State.cancel, Function.update_apply, ite_apply]
    grind

/-- An exit keeps the picture tidy, whatever it leaves behind. -/
theorem exit {cancelled final : State T C} (h : Tidy s) {active : T}
    (hc : s.current = some active) (hcancel : s.Cancels active cancelled)
    (hnext : (cancelled.retire active).Schedules final) : Tidy final := by
  obtain ⟨hrun, hself, hother⟩ := h.retire hc hcancel
  cases hnext with
  | next next hn =>
    constructor
    all_goals
      simp only [State.dispatch, Function.update_apply, promoted]
      grind
  | idle _ =>
    exact ⟨fun t ht => absurd ht (hrun t), fun t ht => (by cases ht), hself, hother⟩

end Tidy

/-- Every step keeps the picture tidy. -/
theorem Step.tidy {mode : Mode} {s s' : State T C} (hstep : Step mode s s') (h : Tidy s) :
    Tidy s' := by
  cases hstep with
  | quiet => exact h
  | yields active next hc hr hn => exact h.yieldTo hc hr hn
  | calls c active server hc hr hp hne hx he _ => exact h.call hc hne hx he
  | callsSelf c active hc hr hp => exact h.callSelf hr
  | completes c active client saved hc hr hp hne => exact h.complete hc hp hne
  | completesSelf c active saved hc hr hp => exact h.completeSelf c
  | exits active cancelled final hc hcancel _ hnext => exact h.exit hc hcancel hnext
  | drops c _ => exact h.completeSelf c

namespace Consistent

variable {s : State T C}

omit [DecidableEq T] [DecidableEq C] in
/-- While a thread runs, no pending call interrupted a blocked server. -/
theorem saved_ready (h : Consistent s) {c : C} {active client server : T}
    {saved : UserThreadState} (hc : s.current = some active) (hr : s.state active = .running)
    (hp : s.pending c = some ⟨client, server, saved⟩) (hne : client ≠ server) : saved = .ready := by
  refine (h.savedOther c _ hp hne).resolve_right fun hb => ?_
  obtain ⟨hcur, hblocked⟩ := h.savedBlocked c _ hp hb
  obtain rfl : active = server := Option.some.inj (hc.symm.trans hcur)
  simp [hr] at hblocked

omit [DecidableEq C] in
/-- Yielding keeps the invariant. -/
theorem yieldTo (h : Consistent s) {active next : T} (hc : s.current = some active)
    (hr : s.state active = .running) (hn : s.state next = .ready) :
    Consistent (s.yieldTo active next) := by
  have htidy := h.toTidy.yieldTo hc hr hn
  obtain ⟨⟨hrun, hcur, hself, hother⟩, hclient, hserver, hblocked, hone, hwaits⟩ := h
  refine ⟨htidy, ?_, ?_, ?_, ?_, ?_⟩
  all_goals
    simp only [State.yieldTo, State.dispatch, Function.update_apply, promoted]
    grind

/-- A call keeps the invariant, also when its server is blocked. -/
theorem call (h : Consistent s) {c : C} {active server : T} (hc : s.current = some active)
    (hr : s.state active = .running) (hp : s.pending c = none) (hne : server ≠ active)
    (hx : s.state server ≠ .exited) (he : s.state server ≠ .empty) :
    Consistent (s.call c active server) := by
  have htidy := h.toTidy.call (c := c) hc hne hx he
  have hstate := ready_or_blocked (h.not_running hc hne) hx he
  have hready : ∀ c client server saved, s.pending c = some ⟨client, server, saved⟩ →
      client ≠ server → saved = .ready := fun _ _ _ _ => h.saved_ready hc hr
  obtain ⟨⟨hrun, hcur, hself, hother⟩, hclient, hserver, hblocked, hone, hwaits⟩ := h
  refine ⟨htidy, ?_, ?_, ?_, ?_, fun t ht => ?_⟩
  case refine_5 =>
    simp only [State.call, State.dispatch, Function.update_apply, promoted] at ht ⊢
    -- The caller waits on the new call; every other blocked thread keeps its channel.
    by_cases ha : t = active
    · exact ⟨c, ⟨active, server, s.state server⟩, by simp, ha.symm, ha ▸ hne⟩
    · have hb : s.state t = .blocked := by grind
      obtain ⟨c', call, hp', hcl, hsv⟩ := hwaits t hb
      exact ⟨c', call, by grind, hcl, hsv⟩
  all_goals
    simp only [State.call, State.dispatch, Function.update_apply, promoted]
    grind

omit [DecidableEq T] in
/-- A call to oneself keeps the invariant. -/
theorem callSelf (h : Consistent s) {c : C} {active : T} (hr : s.state active = .running)
    (hp : s.pending c = none) : Consistent (s.callSelf c active) := by
  have htidy := h.toTidy.callSelf (c := c) hr
  obtain ⟨⟨hrun, hcur, hself, hother⟩, hclient, hserver, hblocked, hone, hwaits⟩ := h
  refine ⟨htidy, ?_, ?_, ?_, ?_, ?_⟩
  all_goals
    simp only [State.callSelf, Function.update_apply]
    grind

/-- Answering another thread keeps the invariant. -/
theorem complete (h : Consistent s) {c : C} {active client : T} {saved : UserThreadState}
    (hc : s.current = some active) (hr : s.state active = .running)
    (hp : s.pending c = some ⟨client, active, saved⟩) (hne : client ≠ active) :
    Consistent (s.complete c active client saved) := by
  have htidy := h.toTidy.complete hc hp hne
  have hsaved := h.saved_ready hc hr hp hne
  have hready : ∀ c client server saved, s.pending c = some ⟨client, server, saved⟩ →
      client ≠ server → saved = .ready := fun _ _ _ _ => h.saved_ready hc hr
  obtain ⟨⟨hrun, hcur, hself, hother⟩, hclient, hserver, hblocked, hone, hwaits⟩ := h
  refine ⟨htidy, ?_, ?_, ?_, ?_, ?_⟩
  all_goals
    simp only [State.complete, State.dispatch, Function.update_apply, promoted]
    grind

omit [DecidableEq T] in
/-- Answering one's own call keeps the invariant. -/
theorem completeSelf (h : Consistent s) {c : C} {active : T} {saved : UserThreadState}
    (hp : s.pending c = some ⟨active, active, saved⟩) : Consistent (s.completeSelf c) := by
  have htidy := h.toTidy.completeSelf c
  obtain ⟨⟨hrun, hcur, hself, hother⟩, hclient, hserver, hblocked, hone, hwaits⟩ := h
  refine ⟨htidy, ?_, ?_, ?_, ?_, ?_⟩
  all_goals
    simp only [State.completeSelf, Function.update_apply]
    grind

end Consistent

/-- The picture between an exit and the choice of the next thread: nothing runs. -/
structure Settled (s : State T C) : Prop where
  noneRunning : ∀ t, s.state t ≠ .running
  clientBlocked : ∀ c call, s.pending c = some call → call.client ≠ call.server →
    s.state call.client = .blocked
  serverAlive : ∀ c call, s.pending c = some call → call.client ≠ call.server →
    s.state call.server ≠ .exited ∧ s.state call.server ≠ .empty
  savedSelf : ∀ c call, s.pending c = some call → call.client = call.server →
    call.saved = .running
  savedOther : ∀ c call, s.pending c = some call → call.client ≠ call.server →
    call.saved = .ready
  oneCall : ∀ c c' call call', s.pending c = some call → s.pending c' = some call' →
    call.client ≠ call.server → call'.client ≠ call'.server → call.client = call'.client → c = c'
  blockedWaits : ∀ t, s.state t = .blocked →
    ∃ c call, s.pending c = some call ∧ call.client = t ∧ call.server ≠ t

/-- An exit that leaves no other thread's call pending on the exiting thread settles. -/
theorem Consistent.settle {s cancelled : State T C} (h : Consistent s) {active : T}
    (hc : s.current = some active) (hr : s.state active = .running)
    (hcancel : s.Cancels active cancelled) (hkeep : ∀ client, ¬ cancelled.Waits client active) :
    Settled (cancelled.retire active) := by
  have hready : ∀ c client server saved, s.pending c = some ⟨client, server, saved⟩ →
      client ≠ server → saved = .ready := fun _ _ _ _ => h.saved_ready hc hr
  have hkept : ∀ c call, cancelled.pending c = some call → call.client ≠ call.server →
      call.server ≠ active := by
    rintro c ⟨client, server, saved⟩ hp hne rfl
    exact hkeep client ⟨c, saved, hp, hne⟩
  obtain ⟨hnone, _, _⟩ := h.toTidy.retire hc hcancel
  obtain ⟨⟨hrun, hcur, hself, hother⟩, hclient, hserver, hblocked, hone, hwaits⟩ := h
  refine ⟨hnone, ?_, ?_, ?_, ?_, ?_, ?_⟩
  all_goals
    cases hcancel with
    | nothing hnone =>
      simp only [State.retire, Function.update_apply]
      grind
    | one c client saved hp =>
      simp only [State.cancel, Function.update_apply] at hkept
      simp only [State.retire, State.cancel, Function.update_apply, ite_apply]
      grind

omit [DecidableEq C] in
/-- Giving the CPU to a ready thread restores the invariant. -/
theorem Settled.dispatch {s : State T C} (h : Settled s) {next : T}
    (hn : s.state next = .ready) : Consistent (s.dispatch next) := by
  obtain ⟨hrun, hclient, hserver, hself, hother, hone, hwaits⟩ := h
  refine ⟨⟨?_, ?_, ?_, ?_⟩, ?_, ?_, ?_, ?_, ?_⟩
  all_goals
    simp only [State.dispatch, Function.update_apply, promoted]
    grind

omit [DecidableEq T] [DecidableEq C] in
/-- Leaving the CPU idle restores the invariant. -/
theorem Settled.idle {s : State T C} (h : Settled s) : Consistent s.idle := by
  obtain ⟨hrun, hclient, hserver, hself, hother, hone, hwaits⟩ := h
  refine ⟨⟨?_, ?_, ?_, ?_⟩, ?_, ?_, ?_, ?_, ?_⟩
  all_goals
    simp only [State.idle]
    grind

/-- Every attached step keeps the consistency of threads and calls. -/
theorem Step.consistent {mode : Mode} {s s' : State T C} (hstep : Step mode s s')
    (hmode : mode.attached = true) (h : Consistent s) : Consistent s' := by
  cases hstep with
  | quiet => exact h
  | yields active next hc hr hn => exact h.yieldTo hc hr hn
  | calls c active server hc hr hp hne hx he _ => exact h.call hc hr hp hne hx he
  | callsSelf c active hc hr hp => exact h.callSelf hr hp
  | completes c active client saved hc hr hp hne => exact h.complete hc hr hp hne
  | completesSelf c active saved hc hr hp => exact h.completeSelf hp
  | exits active cancelled final hc hcancel hattached hnext =>
    obtain ⟨hr, hkeep⟩ := hattached hmode
    have hsettled := h.settle hc hr hcancel hkeep
    cases hnext with
    | next next hn => exact hsettled.dispatch hn
    | idle _ => exact hsettled.idle
  | drops c hfree =>
    rw [hmode] at hfree
    cases hfree

omit [DecidableEq T] [DecidableEq C] in
/-- A server that is neither running, exited, absent nor blocked is ready. -/
theorem Consistent.server_ready {s : State T C} (h : Consistent s) {active server : T}
    (hc : s.current = some active) (hne : server ≠ active) (hx : s.state server ≠ .exited)
    (he : s.state server ≠ .empty) (hb : s.state server ≠ .blocked) :
    s.state server = .ready := by
  exact (ready_or_blocked (h.not_running hc hne) hx he).resolve_right hb

omit [DecidableEq C] in
/-- Giving the CPU to a ready thread makes it run. -/
theorem State.dispatch_running {s : State T C} {next : T} (hn : s.state next = .ready) (t : T)
    (ht : (s.dispatch next).current = some t) : (s.dispatch next).state t = .running := by
  have he : next = t := Option.some.inj ht
  subst he
  simp only [State.dispatch, Function.update_self, hn, promoted]

/-- The mode of a run that keeps every condition. -/
def Mode.full : Mode := ⟨true, true⟩

/-- Strict steps leave a running thread on the CPU. -/
theorem Step.currentRunning {s s' : State T C} (hstep : Step .full s s') (h : Sound s) (t : T)
    (ht : s'.current = some t) : s'.state t = .running := by
  cases hstep with
  | quiet => exact h.currentRunning t ht
  | yields active next hc hr hn =>
    have hne : next ≠ active := by
      rintro rfl
      simp [hn] at hr
    refine State.dispatch_running ?_ t ht
    simp only [Function.update_of_ne hne, hn]
  | calls c active server hc hr hp hne hx he hb =>
    refine State.dispatch_running ?_ t ht
    simp only [Function.update_of_ne hne, h.server_ready hc hne hx he (hb rfl)]
  | callsSelf c active hc hr hp => exact h.currentRunning t ht
  | completes c active client saved hc hr hp hne =>
    refine State.dispatch_running ?_ t ht
    simp only [Function.update_self]
  | completesSelf c active saved hc hr hp => exact h.currentRunning t ht
  | exits active cancelled final hc hcancel hattached hnext =>
    cases hnext with
    | next next hn => exact State.dispatch_running hn t ht
    | idle _ => simp only [State.idle, reduceCtorEq] at ht
  | drops c hfree => cases hfree

omit [DecidableEq T] in
/-- Clearing a channel adds no wait. -/
theorem State.Waits.of_cleared {s s' : State T C} {c : C}
    (hp : s'.pending = Function.update s.pending c none) {a b : T} (h : s'.Waits a b) :
    s.Waits a b := by
  obtain ⟨c', saved, hc', hne⟩ := h
  rw [hp, Function.update_apply] at hc'
  split at hc'
  · cases hc'
  · exact ⟨c', saved, hc', hne⟩

/-- The exit of a thread adds no wait. -/
theorem State.Cancels.waits {s cancelled : State T C} {active : T}
    (h : s.Cancels active cancelled) {a b : T} (hw : cancelled.Waits a b) : s.Waits a b := by
  cases h with
  | nothing _ => exact hw
  | one c client saved _ => exact hw.of_cleared rfl

/-- Strict steps keep waiting acyclic: a new call goes to a thread that waits for nobody. -/
theorem Step.acyclic {s s' : State T C} (hstep : Step .full s s') (h : Sound s) :
    Acyclic s'.Waits := by
  cases hstep with
  | quiet => exact h.acyclic
  | yields active next hc hr hn => exact h.acyclic
  | calls c active server hc hr hp hne hx he hb =>
    have hready := h.server_ready hc hne hx he (hb rfl)
    refine h.acyclic.addSink (?_ : ∀ b, ¬ s.Waits server b) hne.symm ?_
    · rintro b ⟨c', saved, hc', hcl⟩
      have := h.clientBlocked c' _ hc' hcl
      simp [hready] at this
    · rintro a b ⟨c', saved, hc', hcl⟩
      simp only [State.call, State.dispatch, Function.update_apply] at hc'
      split at hc'
      · simp only [Option.some.injEq, Call.mk.injEq] at hc'
        exact .inr ⟨hc'.1.symm, hc'.2.1.symm⟩
      · exact .inl ⟨c', saved, hc', hcl⟩
  | callsSelf c active hc hr hp =>
    refine h.acyclic.mono ?_
    rintro a b ⟨c', saved, hc', hcl⟩
    simp only [State.callSelf, Function.update_apply] at hc'
    split at hc'
    · simp only [Option.some.injEq, Call.mk.injEq] at hc'
      exact absurd (hc'.1.symm.trans hc'.2.1) hcl
    · exact ⟨c', saved, hc', hcl⟩
  | completes c active client saved hc hr hp hne =>
    exact h.acyclic.mono fun a b hw => hw.of_cleared (c := c) rfl
  | completesSelf c active saved hc hr hp =>
    exact h.acyclic.mono fun a b hw => hw.of_cleared (c := c) rfl
  | exits active cancelled final hc hcancel hattached hnext =>
    refine h.acyclic.mono fun a b hw => hcancel.waits (a := a) (b := b) ?_
    cases hnext with
    | next next hn => exact hw
    | idle _ => exact hw
  | drops c hfree => cases hfree

omit [DecidableEq T] [DecidableEq C] in
/-- With waiting acyclic, a picture in which nothing is ready or running has no blocked thread:
a blocked thread's server would be blocked in turn. -/
theorem Settled.all_exited {s : State T C} (h : Settled s) (hacyclic : Acyclic s.Waits)
    (hready : ∀ t, s.state t ≠ .ready) (t : T) : s.state t = .exited ∨ s.state t = .empty := by
  have hnotBlocked : s.state t ≠ .blocked := by
    intro hb
    have hstep : ∀ a, s.state a = .blocked →
        ∃ b, s.Waits a b ∧ (s.state b = .blocked ∨ False) := by
      intro a ha
      obtain ⟨c, ⟨client, server, saved⟩, hp, rfl, hne⟩ := h.blockedWaits a ha
      have halive := h.serverAlive c _ hp hne.symm
      have hserver := ready_or_blocked (h.noneRunning server) halive.1 halive.2
      exact ⟨server, ⟨c, saved, hp, hne.symm⟩, .inl (hserver.resolve_left (hready server))⟩
    obtain ⟨_, hfalse⟩ := hacyclic.escapes (Q := fun _ => False) hstep hb
    exact hfalse
  have hrun := h.noneRunning t
  have hr := hready t
  cases hs : s.state t <;> simp_all

/-- Strict steps leave the CPU idle only when every thread has exited. -/
theorem Step.idleExited {s s' : State T C} (hstep : Step .full s s') (h : Sound s)
    (hidle : s'.current = none) (t : T) : s'.state t = .exited ∨ s'.state t = .empty := by
  cases hstep with
  | quiet => exact h.idleExited hidle t
  | yields active next hc hr hn => cases hidle
  | calls c active server hc hr hp hne hx he hb => cases hidle
  | callsSelf c active hc hr hp => exact h.idleExited hidle t
  | completes c active client saved hc hr hp hne => cases hidle
  | completesSelf c active saved hc hr hp => exact h.idleExited hidle t
  | exits active cancelled final hc hcancel hattached hnext =>
    obtain ⟨hr, hkeep⟩ := hattached rfl
    have hsettled := h.toConsistent.settle hc hr hcancel hkeep
    cases hnext with
    | next next hn => cases hidle
    | idle hnone =>
      exact hsettled.all_exited (h.acyclic.mono fun a b hw => hcancel.waits hw) hnone t
  | drops c hfree => cases hfree

/-- Strict steps keep the whole invariant. -/
theorem Step.sound {s s' : State T C} (hstep : Step .full s s') (h : Sound s) : Sound s' where
  toConsistent := hstep.consistent rfl h.toConsistent
  currentRunning := hstep.currentRunning h
  acyclic := hstep.acyclic h
  idleExited := hstep.idleExited h

end Ringos.Scheduler
