import Mathlib.Logic.Relation

/-!
# Labelled transition systems and guarded runs

A guard restricts the steps a run may take; a state is reachable under a guard
when some run whose every step meets it ends there. Invariants are proved by
one induction over such runs, and a history variable is added as a product that
does not constrain the underlying system.
-/

namespace Ringos.Core

/-- A deterministic labelled system with a set of initial states and an enabling predicate. -/
structure TransitionSystem (σ α : Type) where
  /-- The initial states. -/
  init : σ → Prop
  /-- The actions a state offers. -/
  enabled : σ → α → Prop
  /-- The effect of an action. -/
  next : σ → α → σ

namespace TransitionSystem

variable {σ α γ : Type}

/-- The states at the end of runs whose every step meets the guard. -/
inductive Reachable (T : TransitionSystem σ α) (guard : σ → α → Prop) : σ → Prop
  | init {s : σ} : T.init s → Reachable T guard s
  | step {s : σ} {a : α} :
      Reachable T guard s → T.enabled s a → guard s a → Reachable T guard (T.next s a)

/-- The guard of a run on which nothing is assumed. -/
def anyStep (_ : σ) (_ : α) : Prop := True

instance (s : σ) (a : α) : Decidable (anyStep s a) := isTrue trivial

/-- A predicate that holds initially and survives every guarded step holds along every run. -/
theorem Reachable.invariant {T : TransitionSystem σ α} {guard : σ → α → Prop} {P : σ → Prop}
    (hinit : ∀ s, T.init s → P s)
    (hstep : ∀ s a, T.Reachable guard s → P s → T.enabled s a → guard s a → P (T.next s a))
    {s : σ} (h : T.Reachable guard s) : P s := by
  induction h with
  | init hs => exact hinit _ hs
  | step hs he hg ih => exact hstep _ _ hs ih he hg

/-- One guarded step. -/
def GuardedStep (T : TransitionSystem σ α) (guard : σ → α → Prop) (s s' : σ) : Prop :=
  ∃ a, T.enabled s a ∧ guard s a ∧ s' = T.next s a

/-- The states that guarded runs from a state lead to. -/
def Later (T : TransitionSystem σ α) (guard : σ → α → Prop) : σ → σ → Prop :=
  Relation.ReflTransGen (T.GuardedStep guard)

/-- What comes later in a guarded run is reachable. -/
theorem Reachable.later {T : TransitionSystem σ α} {guard : σ → α → Prop} {s s' : σ}
    (h : T.Reachable guard s) (hlater : T.Later guard s s') : T.Reachable guard s' := by
  induction hlater with
  | refl => exact h
  | tail _ hstep ih =>
    obtain ⟨a, he, hg, rfl⟩ := hstep
    exact ih.step he hg

/-- A predicate that survives every guarded step holds in every later state. -/
theorem Later.stable {T : TransitionSystem σ α} {guard : σ → α → Prop} {P : σ → Prop}
    (hstep : ∀ s a, T.Reachable guard s → P s → T.enabled s a → guard s a → P (T.next s a))
    {s s' : σ} (hlater : T.Later guard s s') (h : T.Reachable guard s) (hs : P s) : P s' := by
  induction hlater with
  | refl => exact hs
  | tail hbefore hlast ih =>
    obtain ⟨a, he, hg, rfl⟩ := hlast
    exact hstep _ a (h.later hbefore) ih he hg

/-- Add a history variable that every step updates and no step reads. -/
def withHistory (T : TransitionSystem σ α) (start : σ → γ) (record : σ → α → γ → γ) :
    TransitionSystem (σ × γ) α where
  init s := T.init s.1 ∧ s.2 = start s.1
  enabled s := T.enabled s.1
  next s a := (T.next s.1 a, record s.1 a s.2)

/-- Forgetting the history of a recorded run leaves a run of the underlying system. -/
theorem Reachable.forget {T : TransitionSystem σ α} {start : σ → γ} {record : σ → α → γ → γ}
    {guard : σ × γ → α → Prop} {s : σ × γ}
    (h : (T.withHistory start record).Reachable guard s) : T.Reachable anyStep s.1 := by
  induction h with
  | init hs => exact .init hs.1
  | step _ he _ ih => exact .step ih he trivial

/-- Every run can be recorded. -/
theorem Reachable.record {T : TransitionSystem σ α} (start : σ → γ) (record : σ → α → γ → γ)
    {guard : σ → α → Prop} {s : σ} (h : T.Reachable guard s) :
    ∃ history, (T.withHistory start record).Reachable (fun s a => guard s.1 a) (s, history) := by
  induction h with
  | @init s hs => exact ⟨start s, .init ⟨hs, rfl⟩⟩
  | @step s a _ he hg ih =>
    obtain ⟨history, hreach⟩ := ih
    exact ⟨record s a history, hreach.step he hg⟩

/-- The states a list of actions passes through, checked step by step. -/
def runs (T : TransitionSystem σ α) (ok : σ → α → Bool) : σ → List α → Option σ
  | s, [] => some s
  | s, a :: rest => if ok s a then T.runs ok (T.next s a) rest else none

/-- A list of actions that passes its checks leads to a later state. -/
theorem runs_later {T : TransitionSystem σ α} {guard : σ → α → Prop} {ok : σ → α → Bool}
    (hok : ∀ s a, ok s a = true → T.enabled s a ∧ guard s a) {actions : List α} {s s' : σ}
    (hrun : T.runs ok s actions = some s') : T.Later guard s s' := by
  induction actions generalizing s with
  | nil => exact Option.some.inj hrun ▸ .refl
  | cons a rest ih =>
    simp only [runs] at hrun
    split at hrun
    · rename_i hc
      obtain ⟨he, hg⟩ := hok s a hc
      exact .head ⟨a, he, hg, rfl⟩ (ih hrun)
    · cases hrun

/-- A list of actions that passes its checks is a guarded run. -/
theorem runs_reachable {T : TransitionSystem σ α} {guard : σ → α → Prop} {ok : σ → α → Bool}
    (hok : ∀ s a, ok s a = true → T.enabled s a ∧ guard s a) {actions : List α} {s s' : σ}
    (hs : T.Reachable guard s) (hrun : T.runs ok s actions = some s') :
    T.Reachable guard s' :=
  hs.later (runs_later hok hrun)

/-- A checked run from an initial state reaches a state with the tested property. -/
theorem exists_reachable {T : TransitionSystem σ α} {guard : σ → α → Prop} {ok : σ → α → Bool}
    (actions : List α) (hok : ∀ s a, ok s a = true → T.enabled s a ∧ guard s a) {s : σ}
    {P : σ → Prop} [DecidablePred P] (hs : T.init s)
    (h : (T.runs ok s actions).any (fun s => decide (P s)) = true) :
    ∃ s', T.Reachable guard s' ∧ P s' := by
  obtain ⟨s', hrun, hP⟩ := (Option.any_eq_true _ _).mp h
  exact ⟨s', runs_reachable hok (.init hs) hrun, of_decide_eq_true hP⟩

end TransitionSystem

end Ringos.Core
