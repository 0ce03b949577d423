import Ringos.Scheduler.Invariant

/-!
# Exit is final

A thread's state is also written through the client of a pending call and
through the state a call has saved. While steps are taken by running threads
only, the client of every pending call is blocked and the saved state is that
of a ready server, so neither write reaches a thread that has exited.
-/

namespace Ringos.Scheduler

open Ringos.Core Ringos.Kernel State

variable {T C : Type} [DecidableEq T] [DecidableEq C]

/-- A running thread that a step leaves on the CPU goes on running. -/
theorem Step.running_of_current {mode : Mode} {s s' : State T C} (hstep : Step mode s s') {t : T}
    (hcurrent : s.current = some t) (hrunning : s.state t = .running)
    (hstays : s'.current = some t) : s'.state t = .running := by
  cases hstep with
  | quiet => exact hrunning
  | yields active next hc hr hn =>
    obtain rfl : next = t := Option.some.inj hstays
    exact absurd (hrunning.symm.trans hn) (by decide)
  | calls c active server hc hr hp hne hx he hb =>
    obtain rfl : server = t := Option.some.inj hstays
    exact absurd (Option.some.inj (hcurrent.symm.trans hc)) hne
  | callsSelf c active hc hr hp => exact hrunning
  | completes c active client saved hc hr hp hne =>
    obtain rfl : client = t := Option.some.inj hstays
    exact absurd (Option.some.inj (hcurrent.symm.trans hc)) hne
  | completesSelf c active saved hc hr hp => exact hrunning
  | exits active cancelled final hc hcancel hattached hnext =>
    obtain rfl : active = t := Option.some.inj (hc.symm.trans hcurrent)
    cases hnext with
    | next next hn =>
      obtain rfl : next = active := Option.some.inj hstays
      simp [State.retire] at hn
    | idle _ => cases hstays
  | drops c hfree => exact hrunning

/-- The client of every call pending on another thread is blocked, on that call alone. -/
structure ClientsBlocked (s : State T C) : Prop extends Tidy s where
  clientBlocked : ∀ c call, s.pending c = some call → call.client ≠ call.server →
    s.state call.client = .blocked
  savedBlocked : ∀ c call, s.pending c = some call → call.saved = .blocked →
    s.current = some call.server ∧ s.state call.server = .blocked
  oneCall : ∀ c c' call call', s.pending c = some call → s.pending c' = some call' →
    call.client ≠ call.server → call'.client ≠ call'.server → call.client = call'.client → c = c'

namespace ClientsBlocked

variable {s : State T C}

omit [DecidableEq T] [DecidableEq C] in
/-- While a thread runs, no pending call interrupted a blocked server. -/
theorem saved_ready (h : ClientsBlocked s) {c : C} {active client server : T}
    {saved : UserThreadState} (hc : s.current = some active) (hr : s.state active = .running)
    (hp : s.pending c = some ⟨client, server, saved⟩) (hne : client ≠ server) : saved = .ready := by
  refine (h.savedOther c _ hp hne).resolve_right fun hb => ?_
  obtain ⟨hcur, hblocked⟩ := h.savedBlocked c _ hp hb
  obtain rfl : active = server := Option.some.inj (hc.symm.trans hcur)
  simp [hr] at hblocked

/-- After the exit of a running thread the clients of the remaining calls are blocked. -/
theorem retire (h : ClientsBlocked s) {cancelled : State T C} {active : T}
    (hc : s.current = some active) (hr : s.state active = .running)
    (hcancel : s.Cancels active cancelled) :
    (∀ c call, (cancelled.retire active).pending c = some call → call.client ≠ call.server →
      (cancelled.retire active).state call.client = .blocked) ∧
    (∀ c call, (cancelled.retire active).pending c = some call → call.saved ≠ .blocked) ∧
    ∀ c c' call call', (cancelled.retire active).pending c = some call →
      (cancelled.retire active).pending c' = some call' → call.client ≠ call.server →
      call'.client ≠ call'.server → call.client = call'.client → c = c' := by
  obtain ⟨⟨hrun, hcur, hself, hother⟩, hclient, hblocked, hone⟩ := h
  refine ⟨?_, ?_, ?_⟩
  all_goals
    cases hcancel with
    | nothing hnone =>
      simp only [State.retire, Function.update_apply]
      grind
    | one c client saved hp =>
      simp only [State.retire, State.cancel, Function.update_apply, ite_apply]
      grind

/-- The exit of a running thread keeps the clients of pending calls blocked. -/
theorem exit (h : ClientsBlocked s) {cancelled final : State T C} {active : T}
    (hc : s.current = some active) (hr : s.state active = .running)
    (hcancel : s.Cancels active cancelled)
    (hnext : (cancelled.retire active).Schedules final) : ClientsBlocked final := by
  have htidy := h.toTidy.exit hc hcancel hnext
  obtain ⟨hclient, hsaved, hone⟩ := h.retire hc hr hcancel
  refine ⟨htidy, ?_, ?_, ?_⟩
  all_goals
    cases hnext with
    | next next hn =>
      simp only [State.dispatch, Function.update_apply, promoted]
      grind
    | idle _ =>
      simp only [State.idle]
      grind

end ClientsBlocked

/-- The steps of a running thread keep the clients of pending calls blocked. -/
theorem Step.clientsBlocked {mode : Mode} {s s' : State T C} (hstep : Step mode s s')
    (hrunning : ∀ active, s.current = some active → s.state active = .running)
    (h : ClientsBlocked s) : ClientsBlocked s' := by
  have htidy := hstep.tidy h.toTidy
  have hready : ∀ c client server saved active, s.current = some active →
      s.pending c = some ⟨client, server, saved⟩ → client ≠ server → saved = .ready :=
    fun _ _ _ _ active hc => h.saved_ready hc (hrunning active hc)
  cases hstep with
  | quiet => exact h
  | exits active cancelled final hc hcancel _ hnext =>
    exact h.exit hc (hrunning active hc) hcancel hnext
  | yields active next hc hr hn =>
    obtain ⟨⟨hrun, hcur, hself, hother⟩, hclient, hblocked, hone⟩ := h
    refine ⟨htidy, ?_, ?_, ?_⟩
    all_goals
      simp only [State.yieldTo, State.dispatch, Function.update_apply, promoted]
      grind
  | calls c active server hc hr hp hne hx he _ =>
    have hstate := ready_or_blocked (h.not_running hc hne) hx he
    obtain ⟨⟨hrun, hcur, hself, hother⟩, hclient, hblocked, hone⟩ := h
    refine ⟨htidy, ?_, ?_, ?_⟩
    all_goals
      simp only [State.call, State.dispatch, Function.update_apply, promoted]
      grind
  | callsSelf c active hc hr hp =>
    obtain ⟨⟨hrun, hcur, hself, hother⟩, hclient, hblocked, hone⟩ := h
    refine ⟨htidy, ?_, ?_, ?_⟩
    all_goals
      simp only [State.callSelf, Function.update_apply]
      grind
  | completes c active client saved hc hr hp hne =>
    have hsaved := h.saved_ready hc hr hp hne
    obtain ⟨⟨hrun, hcur, hself, hother⟩, hclient, hblocked, hone⟩ := h
    refine ⟨htidy, ?_, ?_, ?_⟩
    all_goals
      simp only [State.complete, State.dispatch, Function.update_apply, promoted]
      grind
  | completesSelf c active saved hc hr hp =>
    obtain ⟨⟨hrun, hcur, hself, hother⟩, hclient, hblocked, hone⟩ := h
    refine ⟨htidy, ?_, ?_, ?_⟩
    all_goals
      simp only [State.completeSelf, Function.update_apply]
      grind
  | drops c _ =>
    obtain ⟨⟨hrun, hcur, hself, hother⟩, hclient, hblocked, hone⟩ := h
    refine ⟨htidy, ?_, ?_, ?_⟩
    all_goals
      simp only [State.completeSelf, Function.update_apply]
      grind

/-- Only the current thread can exit in a step. -/
theorem Step.exited_cases {mode : Mode} {s s' : State T C} (hstep : Step mode s s')
    (h : Tidy s) {t : T} (ht : s'.state t = .exited) :
    s.state t = .exited ∨ s.current = some t := by
  have hsaved : ∀ c client server saved, s.pending c = some ⟨client, server, saved⟩ →
      saved ≠ .exited := by
    intro c client server saved hp hx
    subst hx
    by_cases hself : client = server
    · exact absurd (h.savedSelf c _ hp hself) (by simp)
    · exact absurd (h.savedOther c _ hp hself) (by simp)
  cases hstep with
  | quiet => exact .inl ht
  | yields active next hc hr hn =>
    simp only [State.yieldTo, State.dispatch, Function.update_apply, promoted] at ht
    grind
  | calls c active server hc hr hp hne hx he _ =>
    simp only [State.call, State.dispatch, Function.update_apply, promoted] at ht
    grind
  | callsSelf c active hc hr hp => exact .inl ht
  | completes c active client saved hc hr hp hne =>
    simp only [State.complete, State.dispatch, Function.update_apply, promoted] at ht
    grind
  | completesSelf c active saved hc hr hp => exact .inl ht
  | exits active cancelled final hc hcancel _ hnext =>
    have hretired : (cancelled.retire active).state t = .exited := by
      cases hnext with
      | next next hn =>
        simp only [State.dispatch, Function.update_apply, promoted] at ht
        grind
      | idle _ => exact ht
    cases hcancel with
    | nothing hnone =>
      simp only [State.retire, Function.update_apply] at hretired
      grind
    | one c client saved hp =>
      simp only [State.retire, State.cancel, Function.update_apply, ite_apply] at hretired
      grind
  | drops c _ => exact .inl ht

/-- A step of a running thread leaves an exited thread exited. -/
theorem Step.exited_stays {mode : Mode} {s s' : State T C} (hstep : Step mode s s')
    (h : ClientsBlocked s) {t : T} (ht : s.state t = .exited) : s'.state t = .exited := by
  cases hstep with
  | quiet => exact ht
  | yields active next hc hr hn =>
    simp only [State.yieldTo, State.dispatch, Function.update_apply, promoted]
    grind
  | calls c active server hc hr hp hne hx he _ =>
    simp only [State.call, State.dispatch, Function.update_apply, promoted]
    grind
  | callsSelf c active hc hr hp => exact ht
  | completes c active client saved hc hr hp hne =>
    have hclient := h.clientBlocked c _ hp hne
    simp only [State.complete, State.dispatch, Function.update_apply, promoted]
    grind
  | completesSelf c active saved hc hr hp => exact ht
  | exits active cancelled final hc hcancel _ hnext =>
    have hretired : (cancelled.retire active).state t = .exited := by
      cases hcancel with
      | nothing hnone =>
        simp only [State.retire, Function.update_apply]
        grind
      | one c client saved hp =>
        have hclient := h.clientBlocked c _ hp
        simp only [State.retire, State.cancel, Function.update_apply, ite_apply]
        grind
    cases hnext with
    | next next hn =>
      simp only [State.dispatch, Function.update_apply, promoted]
      grind
    | idle _ => exact hretired
  | drops c _ => exact ht

end Ringos.Scheduler
