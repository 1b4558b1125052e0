/-
Computations that may raise an exception and keep their state when they
do, as statements of a Python function body: what was assigned before the
exception was raised is still assigned where it is caught.

`Py.bind_ok` and `Py.bind_error` take one step of a sequence, given what
its first statement does; the proofs go through a body with them and never
unfold the monad. `zoom` runs a computation on a part of the state.
-/

/-- An exception: the name of its class and `str(exc)`. -/
structure Exc where
  type : String
  message : String
  deriving DecidableEq, Repr

def Py (σ α : Type) : Type := σ → Except Exc α × σ

namespace Py

variable {σ τ α β : Type}

instance : Monad (Py σ) where
  pure a := fun s => (.ok a, s)
  bind m f := fun s =>
    match m s with
    | (.ok a, s) => f a s
    | (.error exc, s) => (.error exc, s)

def raise (exc : Exc) : Py σ α := fun s => (.error exc, s)

def get : Py σ σ := fun s => (.ok s, s)

def modify (f : σ → σ) : Py σ Unit := fun s => (.ok (), f s)

/-- What does not depend on the state, and may raise. -/
def ofExcept (r : Except Exc α) : Py σ α := fun s => (r, s)

/-- `try: m except Exception as exc: handler`. -/
def tryExcept (m : Py σ α) (handler : Exc → Py σ α) : Py σ α := fun s =>
  match m s with
  | (.ok a, s) => (.ok a, s)
  | (.error exc, s) => handler exc s

/-- A computation that reports the exception it raises. -/
def attempt (m : Py σ α) : Py σ (Except Exc α) := fun s =>
  (.ok (m s).1, (m s).2)

/-- Run a computation on a part of the state. -/
def zoom (part : σ → τ) (put : τ → σ → σ) (m : Py τ α) : Py σ α := fun s =>
  ((m (part s)).1, put (m (part s)).2 s)

-- ============================================================= the rules

variable {m : Py σ α} {f : α → Py σ β} {s s' : σ} {a : α} {exc : Exc}

@[simp] theorem pure_apply (a : α) (s : σ) :
    (pure a : Py σ α) s = (.ok a, s) := rfl

@[simp] theorem modify_apply (g : σ → σ) (s : σ) :
    modify g s = (.ok (), g s) := rfl

@[simp] theorem get_apply (s : σ) : (get : Py σ σ) s = (.ok s, s) := rfl

@[simp] theorem ofExcept_apply (r : Except Exc α) (s : σ) :
    (ofExcept r : Py σ α) s = (r, s) := rfl

/-- A statement that goes through hands its value on. -/
theorem bind_ok (h : m s = (.ok a, s')) : (m >>= f) s = f a s' := by
  show (match m s with
    | (.ok a, s) => f a s
    | (.error exc, s) => (.error exc, s)) = f a s'
  rw [h]

/-- A statement that raises leaves out what follows it. -/
theorem bind_error (h : m s = (.error exc, s')) :
    (m >>= f) s = (.error exc, s') := by
  show (match m s with
    | (.ok a, s) => f a s
    | (.error exc, s) => (.error exc, s)) = (.error exc, s')
  rw [h]

/-- A sequence went through its first statement, or ended in it. -/
theorem bind_cases {r : Except Exc β} (h : (m >>= f) s = (r, s')) :
    (∃ a s₁, m s = (.ok a, s₁) ∧ f a s₁ = (r, s')) ∨
      ∃ exc, m s = (.error exc, s') ∧ r = .error exc := by
  match hm : m s with
  | (.ok a, s₁) =>
      rw [bind_ok hm] at h
      exact Or.inl ⟨a, s₁, rfl, h⟩
  | (.error exc, s₁) =>
      rw [bind_error hm] at h
      injection h with hr hs
      rw [← hs]
      exact Or.inr ⟨exc, rfl, hr.symm⟩

/-- An attempt does not raise: it returns what happened. -/
theorem attempt_eq {r : Except Exc α} (h : m s = (r, s')) :
    attempt m s = (.ok r, s') := by
  rw [attempt, h]

/-- Whatever an attempt returned, the statement itself came to. -/
theorem attempt_cases {r : Except Exc (Except Exc α)}
    (h : attempt m s = (r, s')) : ∃ a, m s = (a, s') ∧ r = .ok a := by
  injection h with hr hs
  rw [← hs]
  exact ⟨(m s).1, rfl, hr.symm⟩

/-- A statement on a part changes that part alone. -/
theorem zoom_cases {part : σ → τ} {put : τ → σ → σ} {m : Py τ α}
    {r : Except Exc α} (h : zoom part put m s = (r, s')) :
    ∃ t, m (part s) = (r, t) ∧ s' = put t s := by
  injection h with hr hs
  rw [← hr, ← hs]
  exact ⟨(m (part s)).2, rfl, rfl⟩

theorem zoom_eq {part : σ → τ} {put : τ → σ → σ} {m : Py τ α} {t : τ}
    {r : Except Exc α} (h : m (part s) = (r, t)) :
    zoom part put m s = (r, put t s) := by
  rw [zoom, h]

/-- A try block that goes through skips its handler. -/
theorem tryExcept_ok {handler : Exc → Py σ α} (h : m s = (.ok a, s')) :
    tryExcept m handler s = (.ok a, s') := by
  rw [tryExcept, h]

theorem tryExcept_error {handler : Exc → Py σ α}
    (h : m s = (.error exc, s')) :
    tryExcept m handler s = handler exc s' := by
  rw [tryExcept, h]

/-- A try block went through, or its handler ran. -/
theorem tryExcept_cases {handler : Exc → Py σ α} {r : Except Exc α}
    (h : tryExcept m handler s = (r, s')) :
    (∃ a, m s = (.ok a, s') ∧ r = .ok a) ∨
      ∃ exc s₁, m s = (.error exc, s₁) ∧ handler exc s₁ = (r, s') := by
  match hm : m s with
  | (.ok a, s₁) =>
      rw [tryExcept_ok hm] at h
      injection h with hr hs
      rw [← hs]
      exact Or.inl ⟨a, rfl, hr.symm⟩
  | (.error exc, s₁) =>
      rw [tryExcept_error hm] at h
      exact Or.inr ⟨exc, s₁, rfl, h⟩

/-- A try block whose first statement succeeds. -/
theorem tryExcept_bind_ok {handler : Exc → Py σ β} (h : m s = (.ok a, s')) :
    tryExcept (m >>= f) handler s = tryExcept (f a) handler s' := by
  rw [tryExcept, tryExcept, bind_ok h]

/-- A try block whose first statement raises. -/
theorem tryExcept_bind_error {handler : Exc → Py σ β}
    (h : m s = (.error exc, s')) :
    tryExcept (m >>= f) handler s = handler exc s' :=
  tryExcept_error (bind_error h)

-- ================================================================ frames

/-- A computation that leaves a part of the state as it is, however it
ends. -/
def Keeps (part : σ → τ) (m : Py σ α) : Prop := ∀ s, part (m s).2 = part s

namespace Keeps

variable {part : σ → τ}

/-- The rule for a statement whose outcomes are known case by case. -/
theorem of_final (h : ∀ {s r s'}, m s = (r, s') → part s' = part s) :
    Keeps part m :=
  fun _ => h rfl

theorem final (h : Keeps part m) {r : Except Exc α} (hm : m s = (r, s')) :
    part s' = part s := by
  have hkept := h s
  rwa [hm] at hkept

theorem bind (h : Keeps part m) (hf : ∀ a, Keeps part (f a)) :
    Keeps part (m >>= f) := by
  intro s
  have hfirst := h s
  rcases hm : m s with ⟨r, s'⟩
  rw [hm] at hfirst
  cases r with
  | ok a =>
      rw [bind_ok hm]
      exact (hf a s').trans hfirst
  | error exc =>
      rw [bind_error hm]
      exact hfirst

theorem pure (a : α) : Keeps part (Pure.pure a : Py σ α) := fun _ => rfl

theorem get : Keeps part (Py.get : Py σ σ) := fun _ => rfl

theorem ofExcept (r : Except Exc α) : Keeps part (Py.ofExcept r : Py σ α) :=
  fun _ => rfl

end Keeps

end Py
