import Mathlib.Tactic.Common

/-!
Computations that have a state also where they fail, and resources that are acquired one
after the other: at the first failure those acquired before are in hand and can be released.
-/

abbrev Attempt (σ ε α : Type) := ExceptT ε (StateM σ) α

namespace Attempt
variable {σ τ ε α β ι ρ : Type}

def exec (p : Attempt σ ε α) (s : σ) : Except ε α × σ := StateT.run (ExceptT.run p) s

theorem exec_bind (p : Attempt σ ε α) (f : α → Attempt σ ε β) (s : σ) :
    (p >>= f).exec s = match p.exec s with
      | (.ok a, s') => (f a).exec s'
      | (.error e, s') => (.error e, s') := by
  change (match (p.exec s).1 with
    | .ok a => (f a).run
    | .error e => pure (.error e) : StateM σ (Except ε β)).run (p.exec s).2 = _
  rcases p.exec s with ⟨e | a, s'⟩ <;> rfl

theorem exec_tryCatch (p : Attempt σ ε α) (f : ε → Attempt σ ε α) (s : σ) :
    (tryCatch p f).exec s = match p.exec s with
      | (.ok a, s') => (.ok a, s')
      | (.error e, s') => (f e).exec s' := by
  change (match (p.exec s).1 with
    | .ok a => pure (.ok a)
    | .error e => f e : StateM σ (Except ε α)).run (p.exec s).2 = _
  rcases p.exec s with ⟨e | a, s'⟩ <;> rfl

/-- The outcome as a value. -/
def attempt (p : Attempt σ ε α) : Attempt σ ε (Except ε α) :=
  tryCatch (p >>= fun a => pure (.ok a)) fun e => pure (.error e)

theorem exec_attempt (p : Attempt σ ε α) (s : σ) :
    p.attempt.exec s = (.ok (p.exec s).1, (p.exec s).2) := by
  rw [attempt, exec_tryCatch, exec_bind]
  rcases p.exec s with ⟨e | a, s'⟩ <;> rfl

/-- `p` again after a failure of the given kind, at most `n` more times. -/
def retry (again : ε → Bool) (p : Attempt σ ε α) : Nat → Attempt σ ε α
  | 0 => p
  | n + 1 => tryCatch p fun e => if again e then retry again p n else throw e

/-- A computation on a part of the state. -/
def zoom (get : τ → σ) (set : σ → τ → τ) (p : Attempt σ ε α) : Attempt τ ε α :=
  ExceptT.mk fun s => ((p.exec (get s)).1, set (p.exec (get s)).2 s)

section Acquiring

/-- The resources for the requests in order, up to the first failure. -/
def acquire (get : ι → Attempt σ ε ρ) : List ι → Attempt σ ε (List ρ × Except ε Unit)
  | [] => pure ([], .ok ())
  | i :: is => do
      match ← (get i).attempt with
      | .error e => return ([], .error e)
      | .ok r =>
          let (rs, out) ← acquire get is
          return (r :: rs, out)

/-- Every request is met, one after the other. -/
inductive Acquired (get : ι → Attempt σ ε ρ) : List ι → σ → List ρ → σ → Prop
  | nil (s : σ) : Acquired get [] s [] s
  | cons {i : ι} {is : List ι} {r : ρ} {rs : List ρ} {s s' s'' : σ}
      (h : (get i).exec s = (.ok r, s')) (hs : Acquired get is s' rs s'') :
      Acquired get (i :: is) s (r :: rs) s''

variable {get : ι → Attempt σ ε ρ} {i : ι} {is js : List ι} {rs : List ρ} {s s' s'' : σ} {e : ε}

theorem exec_acquire_cons (h : (get i).exec s = (.ok r, s')) :
    (acquire get (i :: is)).exec s = match (acquire get is).exec s' with
      | (.ok (rs, out), s'') => (.ok (r :: rs, out), s'')
      | (.error e, s'') => (.error e, s'') := by
  rw [acquire, exec_bind, exec_attempt, h]
  dsimp only
  rw [exec_bind]
  rcases (acquire get is).exec s' with ⟨e | ⟨rs, out⟩, s''⟩ <;> rfl

theorem exec_acquire_of_acquired (h : Acquired get is s rs s') :
    (acquire get is).exec s = (.ok (rs, .ok ()), s') := by
  induction h with
  | nil s => rfl
  | cons h _ ih => rw [exec_acquire_cons h, ih]

/-- The first request that fails ends the rest. -/
theorem exec_acquire_of_failed (h : Acquired get is s rs s')
    (hi : (get i).exec s' = (.error e, s'')) (js : List ι) :
    (acquire get (is ++ i :: js)).exec s = (.ok (rs, .error e), s'') := by
  induction h with
  | nil s =>
      rw [List.nil_append, acquire, exec_bind, exec_attempt, hi]
      rfl
  | cons h _ ih => rw [List.cons_append, exec_acquire_cons h, ih hi]

end Acquiring

end Attempt
