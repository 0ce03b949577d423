import Mathlib.Logic.Function.Basic

/-!
# Computations that may give up

An attempt runs over a state and either returns a value or gives up; what it
has done to the state stands either way. Its triples have two postconditions,
one for each way to end. The rules follow the shape of a program: a sequence, a
branch, an update, giving up, and a repair run only after giving up. An
invariant that a program keeps holds however it ends, and a relation between
states that it respects is kept by two runs of it, which return the same; the
rules for both are instances, so that a program that is built from such parts is
one by instance search. Two different programs agree where they return related
values or both give up.
-/

namespace Ringos.Core

/-- A computation over a state that may give up. -/
def Attempt (σ α : Type) := σ → Option α × σ

namespace Attempt

variable {σ α β : Type}

instance : Monad (Attempt σ) where
  pure a := fun s => (some a, s)
  bind x f := fun s =>
    match x s with
    | (some a, t) => f a t
    | (none, t) => (none, t)

instance : LawfulMonad (Attempt σ) := by
  refine LawfulMonad.mk' _ (fun x => ?_) (fun _ _ => rfl) (fun x f g => ?_)
  · funext s
    change (x >>= pure) s = x s
    simp only [Bind.bind]
    rcases x s with ⟨_ | a, t⟩ <;> rfl
  · funext s
    simp only [Bind.bind]
    rcases x s with ⟨_ | a, t⟩ <;> rfl

/-- Give up. -/
def fail : Attempt σ α := fun s => (none, s)

/-- Read the state through a projection. -/
def read (f : σ → α) : Attempt σ α := fun s => (some (f s), s)

/-- Update the state. -/
def update (f : σ → σ) : Attempt σ Unit := fun s => (some (), f s)

/-- Update the state where a computation has given up; it stays given up. -/
def onFailure (f : σ → σ) (x : Attempt σ α) : Attempt σ α := fun s =>
  match x s with
  | (some a, t) => (some a, t)
  | (none, t) => (none, f t)

/-- A sequence goes on from what its first part returns. -/
theorem bind_of_some {x : Attempt σ α} {f : α → Attempt σ β} {s t : σ} {a : α}
    (h : x s = (some a, t)) : (x >>= f) s = f a t := by
  simp only [Bind.bind, h]

/-- A sequence goes on from an updated state. -/
theorem update_bind (f : σ → σ) (g : Unit → Attempt σ β) (s : σ) :
    (Attempt.update f >>= g) s = g () (f s) := rfl

/-- A sequence goes on with what it reads. -/
theorem read_bind (f : σ → α) (g : α → Attempt σ β) (s : σ) :
    (Attempt.read f >>= g) s = g (f s) s := rfl

/-- A sequence ends where its first part gives up. -/
theorem bind_of_none {x : Attempt σ α} {f : α → Attempt σ β} {s t : σ}
    (h : x s = (none, t)) : (x >>= f) s = (none, t) := by
  simp only [Bind.bind, h]

/-- From a state of `P` the computation returns within `Q` or gives up within `E`. -/
def Triple (P : σ → Prop) (x : Attempt σ α) (Q : α → σ → Prop) (E : σ → Prop) : Prop :=
  ∀ s, P s →
    (∀ a t, x s = (some a, t) → Q a t) ∧ (∀ t, x s = (none, t) → E t)

namespace Triple

variable {P P' : σ → Prop} {Q Q' : α → σ → Prop} {R : β → σ → Prop} {E E' : σ → Prop}
  {x : Attempt σ α} {f : α → Attempt σ β}

/-- Returning a value changes nothing. -/
theorem pure {a : α} (h : ∀ s, P s → Q a s) : Triple P (Pure.pure a : Attempt σ α) Q E := by
  intro s hs
  constructor
  · intro b t heq
    obtain ⟨rfl, rfl⟩ : a = b ∧ s = t := by
      simpa only [Pure.pure, Prod.mk.injEq, Option.some.injEq] using heq
    exact h s hs
  · intro t heq
    cases heq

/-- Both ways a sequence can give up are covered. -/
theorem bind (hx : Triple P x Q E) (hf : ∀ a, Triple (Q a) (f a) R E) :
    Triple P (x >>= f) R E := by
  intro s hs
  obtain ⟨hret, hfail⟩ := hx s hs
  simp only [Bind.bind]
  rcases hrun : x s with ⟨_ | a, t⟩
  · constructor
    · intro b u heq
      cases heq
    · intro u heq
      cases heq
      exact hfail t hrun
  · exact hf a t (hret a t hrun)

/-- Strengthen the precondition and weaken both postconditions. -/
theorem conseq (hx : Triple P x Q E) (hP : ∀ s, P' s → P s) (hQ : ∀ a s, Q a s → Q' a s)
    (hE : ∀ s, E s → E' s) : Triple P' x Q' E' := by
  intro s hs
  obtain ⟨hret, hfail⟩ := hx s (hP s hs)
  exact ⟨fun a t heq => hQ a t (hret a t heq), fun t heq => hE t (hfail t heq)⟩

/-- Giving up changes nothing. -/
theorem fail (h : ∀ s, P s → E s) : Triple P (Attempt.fail : Attempt σ α) Q E := by
  intro s hs
  constructor
  · intro a t heq
    cases heq
  · intro t heq
    cases heq
    exact h s hs

/-- Reading the state returns a value of the present state. -/
theorem read {f : σ → α} (h : ∀ s, P s → Q (f s) s) : Triple P (Attempt.read f) Q E := by
  intro s hs
  constructor
  · intro a t heq
    cases heq
    exact h s hs
  · intro t heq
    cases heq

/-- An update never gives up. -/
theorem update {f : σ → σ} {Q : Unit → σ → Prop} (h : ∀ s, P s → Q () (f s)) :
    Triple P (Attempt.update f) Q E := by
  intro s hs
  constructor
  · intro a t heq
    cases heq
    exact h s hs
  · intro t heq
    cases heq

/-- A repair sees only the states in which the computation has given up. -/
theorem onFailure {g : σ → σ} (hx : Triple P x Q E) (hg : ∀ s, E s → E' (g s)) :
    Triple P (Attempt.onFailure g x) Q E' := by
  intro s hs
  obtain ⟨hret, hfail⟩ := hx s hs
  unfold Attempt.onFailure
  rcases hrun : x s with ⟨_ | a, t⟩
  · constructor
    · intro b u heq
      cases heq
    · intro u heq
      cases heq
      exact hg t (hfail t hrun)
  · constructor
    · intro b u heq
      cases heq
      exact hret a t hrun
    · intro u heq
      cases heq

/-- A branch may use its test. -/
theorem ite {c : Prop} [Decidable c] {y : Attempt σ α} (hx : c → Triple P x Q E)
    (hy : ¬ c → Triple P y Q E) : Triple P (if c then x else y) Q E := by
  split
  · rename_i hc
    exact hx hc
  · rename_i hc
    exact hy hc

end Triple

/-- The computation keeps an invariant, whether it returns or gives up. -/
class Keeps (I : σ → Prop) (x : Attempt σ α) : Prop where
  kept : ∀ {s}, I s → I (x s).2

namespace Keeps

variable {I : σ → Prop}

instance pure (a : α) : Keeps I (Pure.pure a : Attempt σ α) where
  kept h := h

instance fail : Keeps I (Attempt.fail : Attempt σ α) where
  kept h := h

instance read (f : σ → α) : Keeps I (Attempt.read f) where
  kept h := h

instance bind (x : Attempt σ α) (f : α → Attempt σ β) [hx : Keeps I x] [hf : ∀ a, Keeps I (f a)] :
    Keeps I (x >>= f) where
  kept {s} h := by
    have hfirst := hx.kept h
    simp only [Bind.bind]
    rcases hrun : x s with ⟨_ | a, t⟩
    · rw [hrun] at hfirst
      exact hfirst
    · rw [hrun] at hfirst
      exact (hf a).kept hfirst

instance ite (c : Prop) [Decidable c] (x y : Attempt σ α) [hx : Keeps I x] [hy : Keeps I y] :
    Keeps I (if c then x else y) := by
  split
  · exact hx
  · exact hy

/-- An update that keeps the invariant. -/
theorem update {f : σ → σ} (h : ∀ s, I s → I (f s)) : Keeps I (Attempt.update f) where
  kept {s} hs := h s hs

end Keeps

/-- Wherever the computation gives up, it leaves a state of `E`. -/
class GivesUp (E : σ → Prop) (x : Attempt σ α) : Prop where
  left : ∀ {s t}, x s = (none, t) → E t

namespace GivesUp

variable {E : σ → Prop}

instance pure (a : α) : GivesUp E (Pure.pure a : Attempt σ α) where
  left h := by cases h

instance read (f : σ → α) : GivesUp E (Attempt.read f) where
  left h := by cases h

instance update (f : σ → σ) : GivesUp E (Attempt.update f) where
  left h := by cases h

instance bind (x : Attempt σ α) (f : α → Attempt σ β) [hx : GivesUp E x]
    [hf : ∀ a, GivesUp E (f a)] : GivesUp E (x >>= f) where
  left {s t} h := by
    rcases hrun : x s with ⟨_ | a, u⟩
    · rw [bind_of_none hrun] at h
      cases h
      exact hx.left hrun
    · rw [bind_of_some hrun] at h
      exact (hf a).left h

instance ite (c : Prop) [Decidable c] (x y : Attempt σ α) [hx : GivesUp E x]
    [hy : GivesUp E y] : GivesUp E (if c then x else y) := by
  split
  · exact hx
  · exact hy

end GivesUp

/-- From related states the computation returns the same, or gives up in both, and leaves
related states. -/
class Respects (R : σ → σ → Prop) (x : Attempt σ α) : Prop where
  related : ∀ {s t}, R s t → (x s).1 = (x t).1 ∧ R (x s).2 (x t).2

namespace Respects

variable {R : σ → σ → Prop}

instance pure (a : α) : Respects R (Pure.pure a : Attempt σ α) where
  related h := ⟨rfl, h⟩

instance fail : Respects R (Attempt.fail : Attempt σ α) where
  related h := ⟨rfl, h⟩

instance bind (x : Attempt σ α) (f : α → Attempt σ β) [hx : Respects R x]
    [hf : ∀ a, Respects R (f a)] : Respects R (x >>= f) where
  related {s t} h := by
    obtain ⟨hvalue, hstate⟩ := hx.related h
    simp only [Bind.bind]
    rcases hs : x s with ⟨_ | a, s'⟩ <;> rcases ht : x t with ⟨_ | b, t'⟩
    · rw [hs, ht] at hstate
      exact ⟨rfl, hstate⟩
    · simp [hs, ht] at hvalue
    · simp [hs, ht] at hvalue
    · rw [hs, ht] at hstate hvalue
      obtain rfl : a = b := Option.some.inj hvalue
      exact (hf a).related hstate

instance ite (c : Prop) [Decidable c] (x y : Attempt σ α) [hx : Respects R x]
    [hy : Respects R y] : Respects R (if c then x else y) := by
  split
  · exact hx
  · exact hy

/-- A projection that related states agree on. -/
theorem read {f : σ → α} (h : ∀ s t, R s t → f s = f t) : Respects R (Attempt.read f) where
  related hst := ⟨congrArg some (h _ _ hst), hst⟩

/-- An update that keeps states related. -/
theorem update {f : σ → σ} (h : ∀ s t, R s t → R (f s) (f t)) : Respects R (Attempt.update f) where
  related hst := ⟨rfl, h _ _ hst⟩

/-- A repair that keeps states related. -/
theorem onFailure {f : σ → σ} (x : Attempt σ α) [hx : Respects R x]
    (h : ∀ s t, R s t → R (f s) (f t)) : Respects R (Attempt.onFailure f x) where
  related {s t} hst := by
    obtain ⟨hvalue, hstate⟩ := hx.related hst
    unfold Attempt.onFailure
    rcases hs : x s with ⟨_ | a, s'⟩ <;> rcases ht : x t with ⟨_ | b, t'⟩
    · rw [hs, ht] at hstate
      exact ⟨rfl, h _ _ hstate⟩
    · simp [hs, ht] at hvalue
    · simp [hs, ht] at hvalue
    · rw [hs, ht] at hstate hvalue
      exact ⟨hvalue, hstate⟩

end Respects

/-- From related states both computations return, values that `V` relates, or both give up, and
they leave related states. -/
def Agree {τ : Type} (R : σ → τ → Prop) (V : α → β → Prop) (x : Attempt σ α)
    (y : Attempt τ β) : Prop :=
  ∀ s t, R s t → Option.Rel V (x s).1 (y t).1 ∧ R (x s).2 (y t).2

namespace Agree

variable {τ α' β' : Type} {R : σ → τ → Prop} {V : α → β → Prop} {W : α' → β' → Prop}
  {x : Attempt σ α} {y : Attempt τ β}

theorem pure {a : α} {b : β} (h : V a b) :
    Agree R V (Pure.pure a : Attempt σ α) (Pure.pure b : Attempt τ β) :=
  fun _ _ hst => ⟨.some h, hst⟩

/-- Sequences agree where what follows agrees on related values. -/
theorem bind {f : α → Attempt σ α'} {g : β → Attempt τ β'} (hx : Agree R V x y)
    (hf : ∀ a b, V a b → Agree R W (f a) (g b)) : Agree R W (x >>= f) (y >>= g) := by
  intro s t hst
  obtain ⟨hvalue, hstate⟩ := hx s t hst
  simp only [Bind.bind]
  rcases hs : x s with ⟨_ | a, s'⟩ <;> rcases ht : y t with ⟨_ | b, t'⟩ <;>
    rw [hs, ht] at hvalue hstate
  · exact ⟨.none, hstate⟩
  · cases hvalue
  · cases hvalue
  · cases hvalue with
    | some h => exact hf a b h s' t' hstate

/-- A program agrees with itself along a relation that it respects. -/
theorem ofRespects {R : σ → σ → Prop} (x : Attempt σ α) [hx : Respects R x] : Agree R Eq x x := by
  intro s t hst
  obtain ⟨hvalue, hstate⟩ := hx.related hst
  refine ⟨?_, hstate⟩
  rw [hvalue]
  cases (x t).1 with
  | none => exact .none
  | some a => exact .some rfl

/-- A repair of the second program that stays related. -/
theorem onFailure {f : τ → τ} (hx : Agree R V x y) (hf : ∀ s t, R s t → R s (f t)) :
    Agree R V x (Attempt.onFailure f y) := by
  intro s t hst
  obtain ⟨hvalue, hstate⟩ := hx s t hst
  unfold Attempt.onFailure
  rcases hy : y t with ⟨_ | b, t'⟩ <;> rw [hy] at hvalue hstate
  · exact ⟨hvalue, hf _ _ hstate⟩
  · exact ⟨hvalue, hstate⟩

/-- The first program may do something more that never gives up. -/
theorem silent {x : Attempt σ α'} {f : α' → Attempt σ α}
    (hx : ∀ s t, R s t → ∃ a s', x s = (some a, s') ∧ R s' t) (hf : ∀ a, Agree R V (f a) y) :
    Agree R V (x >>= f) y := by
  intro s t hst
  obtain ⟨a, s', hrun, hrelated⟩ := hx s t hst
  rw [bind_of_some hrun]
  exact hf a s' t hrelated

end Agree

end Attempt

end Ringos.Core
