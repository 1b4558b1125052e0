/-
Two runs of one computation, of which the second is given less of
something that is used up on the way.

A `Ration` says how the two are compared: which states agree, when the
supply is spent, and what has been put out so far. A computation obeys it
if it takes nothing back of what it has put out, puts out nothing once the
supply is spent, and from states that agree either goes the same way, or
ends with the supply spent, having put out the front of what the other run
puts out (`Obeys`). It may catch the exception that tells it so, and go on.

What a body is made of obeys it, then so does the body: one lemma,
`Obeys.seq`, gives the rules for a sequence, a try block and an attempt.
`Stops` is for the statements a body cannot get past: without supply they
raise.
-/
import AgentAnvil.Lib.Py
import Mathlib.Data.List.Infix

namespace Py

structure Ration (σ β : Type) where
  /-- the same, but for how much is left -/
  agree : σ → σ → Prop
  spent : σ → Prop
  log : σ → List β

variable {σ τ α β γ : Type}

namespace Ration

variable (R : Ration σ γ)

/-- The second run is still with the first. -/
def InStep (out out' : Except Exc α × σ) : Prop :=
  out'.1 = out.1 ∧ R.agree out.2 out'.2

/-- The second run has no more to go on. -/
def CutShort (out out' : Except Exc α × σ) : Prop :=
  R.spent out'.2 ∧ R.log out'.2 <+: R.log out.2

structure Obeys (m : Py σ α) : Prop where
  grows : ∀ s, R.log s <+: R.log (m s).2
  silent : ∀ s, R.spent s → R.spent (m s).2 ∧ R.log (m s).2 = R.log s
  follows : ∀ s s', R.agree s s' →
    R.InStep (m s) (m s') ∨ R.CutShort (m s) (m s')

/-- What raises without supply. -/
structure Stops (m : Py σ α) : Prop where
  raises : ∀ s, R.spent s → ∃ exc, (m s).1 = .error exc
  follows : ∀ s s', R.agree s s' →
    R.InStep (m s) (m s') ∨ ∃ exc, (m s').1 = .error exc

-- ============================================================== sequences

variable {R} {m : Py σ α} {f : α → Py σ β}

/-- What uses nothing and puts out nothing. -/
theorem Obeys.apart (hlog : ∀ s, R.log (m s).2 = R.log s)
    (hspent : ∀ s, R.spent s → R.spent (m s).2)
    (hagree : ∀ s s', R.agree s s' → R.InStep (m s) (m s')) :
    R.Obeys m where
  grows := fun s => by rw [hlog]
  silent := fun s hs => ⟨hspent s hs, hlog s⟩
  follows := fun s s' h => .inl (hagree s s' h)

/-- A result at hand asks for nothing. -/
theorem Obeys.ofExcept (r : Except Exc α) : R.Obeys (Py.ofExcept r) :=
  .apart (fun _ => rfl) (fun _ hs => hs) (fun _ _ h => ⟨rfl, h⟩)

theorem Obeys.pure (a : α) : R.Obeys (pure a : Py σ α) := .ofExcept (.ok a)

/-- First the one, and then what its result decides. -/
theorem Obeys.seq {k : Except Exc α → Py σ β} {body : Py σ β}
    (hm : R.Obeys m) (hk : ∀ r, R.Obeys (k r))
    (hbody : ∀ s, body s = k (m s).1 (m s).2) : R.Obeys body where
  grows := by
    intro s
    rw [hbody]
    exact (hm.grows s).trans ((hk _).grows _)
  silent := by
    intro s hs
    obtain ⟨hspent, hlog⟩ := hm.silent s hs
    obtain ⟨hspent', hlog'⟩ := (hk (m s).1).silent _ hspent
    rw [hbody]
    exact ⟨hspent', hlog'.trans hlog⟩
  follows := by
    intro s s' h
    rw [hbody, hbody]
    rcases hm.follows s s' h with ⟨hsame, hagree⟩ | ⟨hspent, hlog⟩
    · rw [hsame]
      exact (hk _).follows _ _ hagree
    · -- without supply, whatever is decided adds nothing
      obtain ⟨hspent', hlog'⟩ := (hk (m s').1).silent _ hspent
      refine .inr ⟨hspent', ?_⟩
      rw [hlog']
      exact hlog.trans ((hk _).grows _)

/-- One after the other: if the first used the ration up, the second puts out
nothing more. -/
theorem Obeys.bind (hm : R.Obeys m) (hf : ∀ a, R.Obeys (f a)) :
    R.Obeys (m >>= f) := by
  refine hm.seq (k := fun r => Except.casesOn r (fun exc => raise exc) f)
    ?_ ?_
  · intro r
    cases r with
    | error exc => exact .ofExcept (.error exc)
    | ok a => exact hf a
  · intro s
    rcases h : m s with ⟨r, s'⟩
    cases r with
    | error exc => exact bind_error h
    | ok a => exact bind_ok h

/-- A handler that obeys keeps the try block obeying: what the handler is
given is the same in both runs. -/
theorem Obeys.tryExcept {handler : Exc → Py σ α} (hm : R.Obeys m)
    (hh : ∀ exc, R.Obeys (handler exc)) :
    R.Obeys (Py.tryExcept m handler) := by
  refine hm.seq (k := fun r => Except.casesOn r handler fun a => .ofExcept
    (.ok a)) ?_ ?_
  · intro r
    cases r with
    | error exc => exact hh exc
    | ok a => exact .ofExcept (.ok a)
  · intro s
    rcases h : m s with ⟨r, s'⟩
    cases r with
    | error exc => exact tryExcept_error h
    | ok a => exact tryExcept_ok h

theorem Obeys.attempt (hm : R.Obeys m) : R.Obeys (Py.attempt m) :=
  hm.seq (k := fun r => .ofExcept (.ok r)) (fun r => .ofExcept (.ok r))
    (fun _ => rfl)

/-- A body that reads the variables, but none that tells what is left. -/
theorem Obeys.reads {f : σ → Py σ β} (hf : ∀ a, R.Obeys (f a))
    (hsame : ∀ s s', R.agree s s' → f s' = f s) :
    R.Obeys (Py.get >>= f) where
  grows := fun s => (hf s).grows s
  silent := fun s => (hf s).silent s
  follows := by
    intro s s' h
    show R.InStep (f s s) (f s' s') ∨ R.CutShort (f s s) (f s' s')
    rw [hsame s s' h]
    exact (hf s).follows s s' h

-- ================================================================ raising

/-- After a statement that obeys, a statement that stops stops the whole. -/
theorem Stops.bind (hm : R.Obeys m) (hf : ∀ a, R.Stops (f a)) :
    R.Stops (m >>= f) where
  raises := by
    intro s hs
    have hspent := (hm.silent s hs).1
    rcases h : m s with ⟨r, s₁⟩
    rw [h] at hspent
    cases r with
    | error exc => exact ⟨exc, by rw [bind_error h]⟩
    | ok a =>
        rw [bind_ok h]
        exact (hf a).raises s₁ hspent
  follows := by
    intro s s' hagree
    have hfollows := hm.follows s s' hagree
    rcases h : m s with ⟨r, s₁⟩
    rcases h' : m s' with ⟨r', s₁'⟩
    rw [h, h'] at hfollows
    rcases hfollows with ⟨hsame, hagree₁⟩ | ⟨hspent, -⟩
    · cases hsame
      cases r with
      | error exc =>
          rw [bind_error h']
          exact .inr ⟨exc, rfl⟩
      | ok a =>
          rw [bind_ok h, bind_ok h']
          exact (hf a).follows s₁ s₁' hagree₁
    · cases r' with
      | error exc => exact .inr ⟨exc, by rw [bind_error h']⟩
      | ok a =>
          rw [bind_ok h']
          exact .inr ((hf a).raises s₁' hspent)

/-- What cannot be got past, and then a result. -/
theorem Stops.returning (hm : R.Stops m) (b : α → β) :
    R.Stops (do
      let a ← m
      return b a) where
  raises := by
    intro s hs
    obtain ⟨exc, hexc⟩ := hm.raises s hs
    exact ⟨exc, by rw [bind_error (Prod.ext hexc rfl)]⟩
  follows := by
    intro s s' hagree
    have hfollows := hm.follows s s' hagree
    rcases h : m s with ⟨r, s₁⟩
    rcases h' : m s' with ⟨r', s₁'⟩
    rw [h, h'] at hfollows
    rcases hfollows with ⟨hsame, hagree₁⟩ | ⟨exc, hexc⟩
    · cases hsame
      cases r with
      | error exc =>
          rw [bind_error h']
          exact .inr ⟨exc, rfl⟩
      | ok a =>
          rw [bind_ok h, bind_ok h']
          exact .inl ⟨rfl, hagree₁⟩
    · cases hexc
      rw [bind_error h']
      exact .inr ⟨exc, rfl⟩

/-- A statement may depend on what it reads, if that is the same in both runs.
-/
theorem Stops.reads {f : σ → Py σ β} (hf : ∀ a, R.Stops (f a))
    (hsame : ∀ s s', R.agree s s' → f s' = f s) :
    R.Stops (Py.get >>= f) where
  raises := fun s => (hf s).raises s
  follows := by
    intro s s' h
    show R.InStep (f s s) (f s' s') ∨ ∃ exc, (f s' s').1 = .error exc
    rw [hsame s s' h]
    exact (hf s).follows s s' h

-- ========================================================= part of a state

/-- The same of a state that has the supply in a part of it. -/
def lift (R : Ration τ γ) (part : σ → τ) (put : τ → σ → σ) :
    Ration σ γ where
  agree s s' := ∃ t', R.agree (part s) t' ∧ s' = put t' s
  spent s := R.spent (part s)
  log s := R.log (part s)

section

variable {R : Ration τ γ} {part : σ → τ} {put : τ → σ → σ} {m : Py τ α}

/-- A statement on a part obeys the ration of the whole. -/
theorem Obeys.zoom (hpart : ∀ t s, part (put t s) = t)
    (hput : ∀ t t' s, put t' (put t s) = put t' s) (hm : R.Obeys m) :
    (R.lift part put).Obeys (Py.zoom part put m) where
  grows := by
    intro s
    show R.log (part s) <+: R.log (part (put (m (part s)).2 s))
    rw [hpart]
    exact hm.grows (part s)
  silent := by
    intro s hs
    show R.spent (part (put (m (part s)).2 s))
      ∧ R.log (part (put (m (part s)).2 s)) = R.log (part s)
    rw [hpart]
    exact hm.silent (part s) hs
  follows := by
    intro s s' h
    obtain ⟨t', ht, rfl⟩ := h
    unfold Py.zoom InStep CutShort lift
    simp only [hpart, hput]
    rcases hm.follows (part s) t' ht with ⟨hsame, hagree⟩ | hcut
    · exact .inl ⟨hsame, (m t').2, hagree, rfl⟩
    · exact .inr hcut

theorem Stops.zoom (hpart : ∀ t s, part (put t s) = t)
    (hput : ∀ t t' s, put t' (put t s) = put t' s) (hm : R.Stops m) :
    (R.lift part put).Stops (Py.zoom part put m) where
  raises := fun s hs => hm.raises (part s) hs
  follows := by
    intro s s' h
    obtain ⟨t', ht, rfl⟩ := h
    unfold Py.zoom InStep lift
    simp only [hpart, hput]
    rcases hm.follows (part s) t' ht with ⟨hsame, hagree⟩ | hraised
    · exact .inl ⟨hsame, (m t').2, hagree, rfl⟩
    · exact .inr hraised

end

end Ration

end Py
