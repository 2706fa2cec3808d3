/-!
# Attempts

An attempt works on a state and may fail.  A failure undoes nothing: the state is what the steps before it left, and
comes back with the error (`Attempt.on`).  So that a failed attempt has changed nothing (`Attempt.FailsCleanly`) is a
property of the attempt, which it has if it checks before it writes.
-/
namespace ChatProfiles

/-- A result of `α`, or an error, and in either case a new state. -/
abbrev Attempt (σ ε α : Type) := ExceptT ε (StateM σ) α

namespace Attempt

variable {σ ε α β : Type}

/-- What comes of an attempt in a state, and the state that it leaves. -/
def on (m : Attempt σ ε α) (s : σ) : Except ε α × σ := (m.run.run s).run

@[simp] theorem on_pure (a : α) (s : σ) : on (pure a : Attempt σ ε α) s = (.ok a, s) := rfl

@[simp] theorem on_throw (e : ε) (s : σ) : on (throw e : Attempt σ ε α) s = (.error e, s) := rfl

@[simp] theorem on_get (s : σ) : on (get : Attempt σ ε σ) s = (.ok s, s) := rfl

@[simp] theorem on_set (s' s : σ) : on (set s' : Attempt σ ε PUnit) s = (.ok ⟨⟩, s') := rfl

@[simp] theorem on_modify (f : σ → σ) (s : σ) : on (modify f : Attempt σ ε PUnit) s = (.ok ⟨⟩, f s) := rfl

@[simp] theorem on_modifyGet (f : σ → α × σ) (s : σ) :
    on (modifyGet f : Attempt σ ε α) s = (.ok (f s).1, (f s).2) := rfl

@[simp] theorem on_lift (c : Except ε α) (s : σ) : on (liftM c : Attempt σ ε α) s = (c, s) := by cases c <;> rfl

/-- What comes after a failure is not attempted. -/
@[simp] theorem on_bind (m : Attempt σ ε α) (f : α → Attempt σ ε β) (s : σ) :
    on (m >>= f) s = match m.on s with
      | (.ok a, s') => (f a).on s'
      | (.error e, s') => (.error e, s') := by
  unfold on
  rw [ExceptT.run_bind, StateT.run_bind]
  rcases m.run.run s with ⟨_ | _, s'⟩ <;> rfl

@[simp] theorem on_adapt {ε' : Type} (f : ε → ε') (m : Attempt σ ε α) (s : σ) :
    on (ExceptT.adapt f m) s = ((m.on s).1.mapError f, (m.on s).2) := rfl

/-- If the attempt fails it leaves the state as it is. -/
def FailsCleanly (m : Attempt σ ε α) : Prop := ∀ s e, (m.on s).1 = .error e → (m.on s).2 = s

theorem failsCleanly_of_cases {m : Attempt σ ε α}
    (h : ∀ s, (∃ a s', m.on s = (.ok a, s')) ∨ ∃ e, m.on s = (.error e, s)) : m.FailsCleanly := by
  intro s e herror
  obtain ⟨a, s', hon⟩ | ⟨e', hon⟩ := h s
  · rw [hon] at herror; cases herror
  · rw [hon]

end Attempt

end ChatProfiles
