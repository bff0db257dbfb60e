import Mathlib.Tactic.Common

/-!
Programs that work on a shared store by reading it and by committing
transactions, over any type of commands `κ`, of stores `σ` and of failures `ε`.
A transaction is all or nothing, and its failure is handed to the program. The
program text is separate from its execution: alone, with the stores it passes
through, or one step at a time next to another program.
-/

inductive Prog (κ σ ε α : Type) where
  | pure (a : α)
  | throw (e : ε)
  | read (k : σ → Prog κ σ ε α)
  | commit (cs : List κ) (k : Except ε Unit → Prog κ σ ε α)

namespace Prog
variable {κ σ ε α β : Type}

def bind : Prog κ σ ε α → (α → Prog κ σ ε β) → Prog κ σ ε β
  | .pure a, f => f a
  | .throw e, _ => .throw e
  | .read k, f => .read fun s => (k s).bind f
  | .commit cs k, f => .commit cs fun r => (k r).bind f

instance : Monad (Prog κ σ ε) where
  pure := .pure
  bind := .bind

def tryCatch : Prog κ σ ε α → (ε → Prog κ σ ε α) → Prog κ σ ε α
  | .pure a, _ => .pure a
  | .throw e, h => h e
  | .read k, h => .read fun s => (k s).tryCatch h
  | .commit cs k, h => .commit cs fun r => (k r).tryCatch h

instance : MonadExceptOf ε (Prog κ σ ε) where
  throw := .throw
  tryCatch := .tryCatch

/-- The current store. -/
def get : Prog κ σ ε σ := .read .pure

/-- The outcome of `p` as a value, whether it returned or failed. -/
def attempt (p : Prog κ σ ε α) : Prog κ σ ε (Except ε α) :=
  .tryCatch (.bind p fun a => .pure (.ok a)) fun e => .pure (.error e)

/-- A commit whose failure is raised. -/
def transaction (cs : List κ) : Prog κ σ ε Unit := .commit cs fun
  | .ok _ => .pure ()
  | .error e => .throw e

/-- A commit whose failure is dropped. -/
def execute (cs : List κ) : Prog κ σ ε Unit := .commit cs fun _ => .pure ()

def ofExcept : Except ε α → Prog κ σ ε α
  | .ok a => .pure a
  | .error e => .throw e

/-- `p` again after a failure of the given kind, at most `n` more times. -/
def retry (again : ε → Bool) (p : Prog κ σ ε α) : Nat → Prog κ σ ε α
  | 0 => p
  | n + 1 => .tryCatch p fun e => if again e then retry again p n else .throw e

def each (f : α → Prog κ σ ε Unit) : List α → Prog κ σ ε Unit
  | [] => .pure ()
  | a :: l => .bind (f a) fun _ => each f l

def mapEach (f : α → Prog κ σ ε β) : List α → Prog κ σ ε (List β)
  | [] => .pure []
  | a :: l => .bind (f a) fun b => .bind (mapEach f l) fun bs => .pure (b :: bs)

section Running
variable (step : κ → σ → Except ε σ)

def transact (cs : List κ) (s : σ) : Except ε σ := cs.foldlM (fun s c => step c s) s

def run : Prog κ σ ε α → σ → Except ε α × σ
  | .pure a, s => (.ok a, s)
  | .throw e, s => (.error e, s)
  | .read k, s => (k s).run s
  | .commit cs k, s =>
      match transact step cs s with
      | .ok s' => (k (.ok ())).run s'
      | .error e => (k (.error e)).run s

@[simp] theorem transact_nil (s : σ) : transact step [] s = .ok s := rfl

@[simp] theorem transact_cons (c : κ) (cs : List κ) (s : σ) :
    transact step (c :: cs) s = (step c s).bind (transact step cs) := rfl

theorem transact_append (cs ds : List κ) (s : σ) :
    transact step (cs ++ ds) s = (transact step cs s).bind (transact step ds) := by
  rw [transact, List.foldlM_append]; rfl

@[simp] theorem run_pure (a : α) (s : σ) :
    (Pure.pure a : Prog κ σ ε α).run step s = (.ok a, s) := rfl

@[simp] theorem run_get (s : σ) : (get : Prog κ σ ε σ).run step s = (.ok s, s) := rfl

theorem run_bind (p : Prog κ σ ε α) (f : α → Prog κ σ ε β) (s : σ) :
    (p >>= f).run step s =
      match p.run step s with
      | (.ok a, s') => (f a).run step s'
      | (.error e, s') => (.error e, s') := by
  change (p.bind f).run step s = _
  induction p generalizing s with
  | pure a => rfl
  | throw e => rfl
  | read k ih => exact ih s s
  | commit cs k ih =>
      simp only [Prog.bind, run]
      cases transact step cs s with
      | ok s' => exact ih _ s'
      | error e => exact ih _ s

/-- Both parts of a sequence that returns have returned. -/
theorem run_bind_ok {step : κ → σ → Except ε σ} {p : Prog κ σ ε α} {f : α → Prog κ σ ε β}
    {b : β} {s u : σ} (h : (p >>= f).run step s = (.ok b, u)) :
    ∃ a t, p.run step s = (.ok a, t) ∧ (f a).run step t = (.ok b, u) := by
  rw [run_bind] at h
  rcases hp : p.run step s with ⟨e | a, t⟩
  · rw [hp] at h
    cases h
  · rw [hp] at h
    exact ⟨a, t, rfl, h⟩

theorem run_map (p : Prog κ σ ε α) (f : α → β) (s : σ) :
    (f <$> p).run step s = ((p.run step s).1.map f, (p.run step s).2) := by
  have h := run_bind step p (fun a => pure (f a)) s
  refine h.trans ?_
  rcases p.run step s with ⟨_ | a, s'⟩ <;> rfl

theorem run_tryCatch (p : Prog κ σ ε α) (h : ε → Prog κ σ ε α) (s : σ) :
    (p.tryCatch h).run step s =
      match p.run step s with
      | (.ok a, s') => (.ok a, s')
      | (.error e, s') => (h e).run step s' := by
  induction p generalizing s with
  | pure a => rfl
  | throw e => rfl
  | read k ih => exact ih s s
  | commit cs k ih =>
      simp only [tryCatch, run]
      cases transact step cs s with
      | ok s' => exact ih _ s'
      | error e => exact ih _ s

@[simp] theorem run_attempt (p : Prog κ σ ε α) (s : σ) :
    p.attempt.run step s = (.ok (p.run step s).1, (p.run step s).2) := by
  have hb := run_bind step p (fun a => .pure (Except.ok a : Except ε α)) s
  rw [attempt, run_tryCatch, show p.bind _ = p >>= _ from rfl, hb]
  rcases p.run step s with ⟨_ | a, s'⟩ <;> rfl

@[simp] theorem run_ofExcept (r : Except ε α) (s : σ) :
    (ofExcept r : Prog κ σ ε α).run step s = (r, s) := by
  cases r <;> rfl

/-- A program that changes nothing when it fails ends the same way when tried again. -/
theorem run_retry {again : ε → Bool} {p : Prog κ σ ε α} {s : σ}
    (h : ∀ e, (p.run step s).1 = .error e → (p.run step s).2 = s) (n : Nat) :
    (retry again p n).run step s = p.run step s := by
  induction n with
  | zero => rfl
  | succ n ih =>
      rw [retry, run_tryCatch]
      rcases hrun : p.run step s with ⟨e | a, s'⟩
      · have hs : s' = s := by simpa [hrun] using h e
        subst hs
        simp only
        split
        · rw [ih, hrun]
        · rfl
      · rfl

/-- The store after a program for each element, if the first one does not fail. -/
theorem run_mapEach_cons (f : α → Prog κ σ ε β) (a : α) (l : List α) (s : σ) :
    ((mapEach f (a :: l)).run step s).2 =
      match (f a).run step s with
      | (.ok _, s') => ((mapEach f l).run step s').2
      | (.error _, s') => s' := by
  change ((f a >>= fun b => mapEach f l >>= fun bs => pure (b :: bs)).run step s).2 = _
  rw [run_bind]
  rcases (f a).run step s with ⟨e | b, s'⟩
  · rfl
  · dsimp only
    rw [run_bind]
    rcases (mapEach f l).run step s' with ⟨e | bs, s''⟩ <;> rfl

theorem run_mapEach_ok {f : α → Prog κ σ ε β} {a : α} {l : List α} {b : β} {bs : List β}
    {s t u : σ} (h : (f a).run step s = (.ok b, t))
    (h' : (mapEach f l).run step t = (.ok bs, u)) :
    (mapEach f (a :: l)).run step s = (.ok (b :: bs), u) := by
  change (f a >>= fun b => mapEach f l >>= fun bs => pure (b :: bs)).run step s = _
  rw [run_bind, h]
  dsimp only
  rw [run_bind, h']
  rfl

/-- The results of a program for each element come from its runs, one for each. -/
theorem forall₂_of_run_mapEach {step : κ → σ → Except ε σ} {f : α → Prog κ σ ε β} {l : List α}
    {bs : List β} {s u : σ} (h : (mapEach f l).run step s = (.ok bs, u)) :
    List.Forall₂ (fun a b => ∃ t t', (f a).run step t = (.ok b, t')) l bs := by
  induction l generalizing bs s with
  | nil =>
      cases h
      exact .nil
  | cons a l ih =>
      change (f a >>= fun b => mapEach f l >>= fun bs => pure (b :: bs)).run step s = _ at h
      obtain ⟨b, t, hb, h⟩ := run_bind_ok h
      obtain ⟨rest, t', hrest, h⟩ := run_bind_ok h
      cases h
      exact .cons ⟨s, t, hb⟩ (ih hrest)

/-- A loop that ends has run the round of every element; what one round leaves and all others
that end keep holds at the end. -/
theorem run_mapEach_reaches {step : κ → σ → Except ε σ} {I J : σ → Prop} {f : α → Prog κ σ ε β}
    {l : List α} {a : α} {s s' : σ} {bs : List β}
    (hI : ∀ b ∈ l, ∀ t c t', I t → (f b).run step t = (.ok c, t') → I t')
    (hJ : ∀ b ∈ l, b ≠ a → ∀ t c t', J t → (f b).run step t = (.ok c, t') → J t')
    (ha : J s ∨ a ∈ l) (hround : ∀ t c t', I t → (f a).run step t = (.ok c, t') → J t')
    (hs : I s) (hrun : (mapEach f l).run step s = (.ok bs, s')) : J s' := by
  induction l generalizing s bs with
  | nil =>
      cases hrun
      exact ha.resolve_right List.not_mem_nil
  | cons b l ih =>
      change (f b >>= fun c => mapEach f l >>= fun cs => pure (c :: cs)).run step s = _ at hrun
      obtain ⟨c, t, hb, hrun⟩ := run_bind_ok hrun
      obtain ⟨cs, t', hrest, hrun⟩ := run_bind_ok hrun
      cases hrun
      rw [List.forall_mem_cons] at hI hJ
      refine ih hI.2 hJ.2 ?_ (hI.1 s c t hs hb) hrest
      by_cases hba : b = a
      · subst hba
        exact .inl (hround s c t hs hb)
      · refine ha.imp (fun hj => ?_) fun ha => (List.mem_cons.mp ha).resolve_left (Ne.symm hba)
        exact hJ.1 hba s c t hj hb

theorem run_each_ok {f : α → Prog κ σ ε Unit} {a : α} {l : List α} {s s' : σ}
    (h : (f a).run step s = (.ok (), s')) :
    (each f (a :: l)).run step s = (each f l).run step s' := by
  change (f a >>= fun _ => each f l).run step s = _
  rw [run_bind, h]

/-- A loop whose rounds never fail does not fail. -/
theorem run_each_total {step : κ → σ → Except ε σ} {f : α → Prog κ σ ε Unit} {l : List α}
    (h : ∀ a ∈ l, ∀ s, ((f a).run step s).1 = .ok ()) (s : σ) :
    ((each f l).run step s).1 = .ok () := by
  induction l generalizing s with
  | nil => rfl
  | cons a l ih =>
      rw [List.forall_mem_cons] at h
      rw [run_each_ok step (Prod.ext (h.1 s) rfl)]
      exact ih h.2 _

/-- A loop all of whose rounds end and keep an invariant ends and keeps it. -/
theorem run_each_inv {step : κ → σ → Except ε σ} {f : α → Prog κ σ ε Unit} {l : List α}
    {I : σ → Prop}
    (h : ∀ a ∈ l, ∀ s, I s → ∃ s', (f a).run step s = (.ok (), s') ∧ I s') {s : σ} (hs : I s) :
    ∃ s', (each f l).run step s = (.ok (), s') ∧ I s' := by
  induction l generalizing s with
  | nil => exact ⟨s, rfl, hs⟩
  | cons a l ih =>
      rw [List.forall_mem_cons] at h
      obtain ⟨s', hrun, hs'⟩ := h.1 s hs
      rw [run_each_ok step hrun]
      exact ih h.2 hs'

/-- A loop that ends has folded what its rounds do to the index of the invariant. -/
theorem run_each_foldl {step : κ → σ → Except ε σ} {f : α → Prog κ σ ε Unit} {l : List α}
    {γ : Type} {I : γ → σ → Prop} {g : γ → α → γ}
    (hround : ∀ a ∈ l, ∀ c s s', I c s → (f a).run step s = (.ok (), s') → I (g c a) s')
    {c : γ} {s s' : σ} (hs : I c s) (hrun : (each f l).run step s = (.ok (), s')) :
    I (l.foldl g c) s' := by
  induction l generalizing c s with
  | nil =>
      cases hrun
      exact hs
  | cons a l ih =>
      obtain ⟨_, t, ha, hrest⟩ := run_bind_ok (p := f a) (f := fun _ => each f l) hrun
      rw [List.forall_mem_cons] at hround
      exact ih hround.2 (hround.1 c s t hs ha) hrest

theorem run_transaction (cs : List κ) (s : σ) :
    (transaction cs : Prog κ σ ε Unit).run step s =
      match transact step cs s with
      | .ok s' => (.ok (), s')
      | .error e => (.error e, s) := by
  simp only [transaction, run]

theorem run_execute (cs : List κ) (s : σ) :
    (execute cs : Prog κ σ ε Unit).run step s =
      match transact step cs s with
      | .ok s' => (.ok (), s')
      | .error _ => (.ok (), s) := by
  simp only [execute, run]

/-- One command at a time, passing over failures, is one transaction of the others. -/
theorem run_each_skipping (handler : κ → ε → Prog κ σ ε Unit) (live : κ → Bool) (I : σ → Prop)
    {cs : List κ}
    (hlive : ∀ c ∈ cs, live c = true → ∀ s, I s → ∃ s', step c s = .ok s' ∧ I s')
    (hskip : ∀ c ∈ cs, live c = false → ∀ s, I s →
      ∃ e, step c s = .error e ∧ handler c e = .pure ())
    {s : σ} (hs : I s) :
    ∃ s', transact step (cs.filter live) s = .ok s' ∧ I s' ∧
      (each (fun c => (transaction [c]).tryCatch (handler c)) cs).run step s = (.ok (), s') := by
  induction cs generalizing s with
  | nil => exact ⟨s, rfl, hs, rfl⟩
  | cons c cs ih =>
      have hrest := fun {s : σ} => ih (fun d hd => hlive d (List.mem_cons_of_mem _ hd))
        (fun d hd => hskip d (List.mem_cons_of_mem _ hd)) (s := s)
      cases hc : live c with
      | true =>
          obtain ⟨s₁, h₁, hI⟩ := hlive c List.mem_cons_self hc s hs
          obtain ⟨s', ht, hI', hr⟩ := hrest hI
          have hrun : ((transaction [c]).tryCatch (handler c)).run step s = (.ok (), s₁) := by
            rw [run_tryCatch, run_transaction, transact_cons, h₁]
            rfl
          refine ⟨s', ?_, hI', ?_⟩
          · rw [List.filter_cons, if_pos hc, transact_cons, h₁]
            exact ht
          · rw [run_each_ok step (f := fun c => (transaction [c]).tryCatch (handler c)) hrun]
            exact hr
      | false =>
          obtain ⟨e, he, hh⟩ := hskip c List.mem_cons_self hc s hs
          obtain ⟨s', ht, hI', hr⟩ := hrest hs
          have hrun : ((transaction [c]).tryCatch (handler c)).run step s = (.ok (), s) := by
            rw [run_tryCatch, run_transaction, transact_cons, he]
            exact congrArg (run step · s) hh
          refine ⟨s', ?_, hI', ?_⟩
          · rw [List.filter_cons, if_neg (by rw [hc]; exact Bool.false_ne_true)]
            exact ht
          · rw [run_each_ok step (f := fun c => (transaction [c]).tryCatch (handler c)) hrun]
            exact hr

/-- A change of the store that every command commutes with commutes with a transaction. -/
theorem transact_comm {f : σ → σ} {cs : List κ}
    (h : ∀ c ∈ cs, ∀ s, step c (f s) = (step c s).map f) (s : σ) :
    transact step cs (f s) = (transact step cs s).map f := by
  induction cs generalizing s with
  | nil => rfl
  | cons c cs ih =>
      rw [transact_cons, transact_cons, h c List.mem_cons_self]
      cases step c s with
      | error e => rfl
      | ok s₁ => exact ih (fun d hd => h d (List.mem_cons_of_mem _ hd)) s₁

end Running

/-- Every command the program may ever commit is of the given kind. -/
inductive Uses (C : κ → Prop) : Prog κ σ ε α → Prop where
  | pure (a : α) : Uses C (.pure a)
  | throw (e : ε) : Uses C (.throw e)
  | read {k : σ → Prog κ σ ε α} (h : ∀ s, Uses C (k s)) : Uses C (.read k)
  | commit {cs : List κ} {k : Except ε Unit → Prog κ σ ε α} (hc : ∀ c ∈ cs, C c)
      (h : ∀ r, Uses C (k r)) : Uses C (.commit cs k)

namespace Uses
variable {C D : κ → Prop}

theorem mono {p : Prog κ σ ε α} (h : Uses C p) (hCD : ∀ c, C c → D c) : Uses D p := by
  induction h with
  | pure a => exact .pure a
  | throw e => exact .throw e
  | read _ ih => exact .read ih
  | commit hc _ ih => exact .commit (fun c hm => hCD c (hc c hm)) ih

theorem bind {p : Prog κ σ ε α} {f : α → Prog κ σ ε β} (hp : Uses C p)
    (hf : ∀ a, Uses C (f a)) : Uses C (p >>= f) := by
  change Uses C (p.bind f)
  induction hp with
  | pure a => exact hf a
  | throw e => exact .throw e
  | read _ ih => exact .read ih
  | commit hc _ ih => exact .commit hc ih

theorem tryCatch {p : Prog κ σ ε α} {h : ε → Prog κ σ ε α} (hp : Uses C p)
    (hh : ∀ e, Uses C (h e)) : Uses C (p.tryCatch h) := by
  induction hp with
  | pure a => exact .pure a
  | throw e => exact hh e
  | read _ ih => exact .read ih
  | commit hc _ ih => exact .commit hc ih

theorem get : Uses C (Prog.get : Prog κ σ ε σ) := .read fun s => .pure s

theorem attempt {p : Prog κ σ ε α} (hp : Uses C p) : Uses C p.attempt :=
  tryCatch (bind hp fun a => .pure (Except.ok a)) fun e => .pure (Except.error e)

theorem transaction {cs : List κ} (hc : ∀ c ∈ cs, C c) :
    Uses C (Prog.transaction cs : Prog κ σ ε Unit) :=
  .commit hc fun
    | .ok _ => .pure ()
    | .error e => .throw e

theorem execute {cs : List κ} (hc : ∀ c ∈ cs, C c) :
    Uses C (Prog.execute cs : Prog κ σ ε Unit) :=
  .commit hc fun _ => .pure ()

theorem ofExcept (r : Except ε α) : Uses C (Prog.ofExcept r : Prog κ σ ε α) := by
  cases r with
  | ok a => exact .pure a
  | error e => exact .throw e

theorem retry {again : ε → Bool} {p : Prog κ σ ε α} (hp : Uses C p) (n : Nat) :
    Uses C (Prog.retry again p n) := by
  induction n with
  | zero => exact hp
  | succ n ih =>
      refine tryCatch hp fun e => ?_
      split
      · exact ih
      · exact .throw e

theorem each {f : α → Prog κ σ ε Unit} {l : List α} (hf : ∀ a ∈ l, Uses C (f a)) :
    Uses C (Prog.each f l) := by
  induction l with
  | nil => exact .pure ()
  | cons a l ih =>
      exact bind (hf a (List.mem_cons_self ..)) fun _ =>
        ih fun b hb => hf b (List.mem_cons_of_mem _ hb)

theorem mapEach {f : α → Prog κ σ ε β} {l : List α} (hf : ∀ a ∈ l, Uses C (f a)) :
    Uses C (Prog.mapEach f l) := by
  induction l with
  | nil => exact .pure []
  | cons a l ih =>
      exact bind (hf a (List.mem_cons_self ..)) fun b =>
        bind (ih fun c hc => hf c (List.mem_cons_of_mem _ hc)) fun bs => .pure (b :: bs)

section Preservation
variable {step : κ → σ → Except ε σ} {I : σ → Prop}

theorem transact_keeps (hI : ∀ c s s', C c → I s → step c s = .ok s' → I s')
    {cs : List κ} (hc : ∀ c ∈ cs, C c) {s s' : σ} (hs : I s)
    (h : transact step cs s = .ok s') : I s' := by
  induction cs generalizing s with
  | nil => cases h; exact hs
  | cons c cs ih =>
      rw [transact_cons] at h
      cases h₁ : step c s with
      | error e => rw [h₁] at h; cases h
      | ok s₁ =>
          rw [h₁] at h
          have hs₁ : I s₁ := hI c s s₁ (hc c (List.mem_cons_self ..)) hs h₁
          exact ih (fun d hd => hc d (List.mem_cons_of_mem _ hd)) hs₁ h

/-- What every command of the kind keeps, the program keeps. -/
theorem run_keeps {p : Prog κ σ ε α} (hp : Uses C p)
    (hI : ∀ c s s', C c → I s → step c s = .ok s' → I s') {s : σ} (hs : I s) :
    I (p.run step s).2 := by
  induction hp generalizing s with
  | pure a => exact hs
  | throw e => exact hs
  | read _ ih => exact ih s hs
  | commit hc _ ih =>
      simp only [run]
      split
      · next h => exact ih _ (transact_keeps hI hc hs h)
      · exact ih _ hs

end Preservation

/-- A program that commits nothing leaves the store. -/
theorem run_eq_of_none {step : κ → σ → Except ε σ} {p : Prog κ σ ε α}
    (hp : Uses (fun _ => False) p) (s : σ) : (p.run step s).2 = s :=
  run_keeps (I := fun s' => s' = s) hp (fun _ _ _ hf => hf.elim) rfl

end Uses

theorem uses_all (p : Prog κ σ ε α) : Uses (fun _ => True) p := by
  induction p with
  | pure a => exact .pure a
  | throw e => exact .throw e
  | read k ih => exact .read ih
  | commit cs k ih => exact .commit (fun _ _ => trivial) ih

/-- From a store with `I` the program runs to one with `I`, and what it returns
satisfies `R`. -/
def Keeps (step : κ → σ → Except ε σ) (I : σ → Prop) (p : Prog κ σ ε α) (R : α → Prop) : Prop :=
  ∀ s, I s → I (p.run step s).2 ∧ ∀ a, (p.run step s).1 = .ok a → R a

namespace Keeps
variable {step : κ → σ → Except ε σ} {I : σ → Prop} {R : α → Prop} {S : β → Prop}

theorem pure {a : α} (h : R a) : Keeps step I (Pure.pure a) R := by
  intro s hs
  refine ⟨hs, fun b hb => ?_⟩
  cases hb
  exact h

theorem throw (e : ε) : Keeps step I (MonadExcept.throw e) R :=
  fun _ hs => ⟨hs, nofun⟩

theorem read {k : σ → Prog κ σ ε α} (h : ∀ s, I s → Keeps step I (k s) R) :
    Keeps step I (.read k) R :=
  fun s hs => h s hs s hs

theorem get : Keeps step I (Prog.get : Prog κ σ ε σ) I :=
  read fun _ hs => pure hs

theorem ofExcept {r : Except ε α} (h : ∀ a, r = .ok a → R a) : Keeps step I (.ofExcept r) R := by
  cases r with
  | ok a => exact pure (h a rfl)
  | error e => exact throw e

theorem imp {p : Prog κ σ ε α} {T : α → Prop} (h : Keeps step I p R) (ht : ∀ a, R a → T a) :
    Keeps step I p T :=
  fun s hs => ⟨(h s hs).1, fun a ha => ht a ((h s hs).2 a ha)⟩

theorem bind {p : Prog κ σ ε α} {f : α → Prog κ σ ε β} (hp : Keeps step I p R)
    (hf : ∀ a, R a → Keeps step I (f a) S) : Keeps step I (p >>= f) S := by
  intro s hs
  obtain ⟨hs', hr⟩ := hp s hs
  rw [run_bind]
  rcases hrun : p.run step s with ⟨e | a, s'⟩
  · rw [hrun] at hs'
    exact ⟨hs', nofun⟩
  · rw [hrun] at hs' hr
    exact hf a (hr a rfl) s' hs'

theorem tryCatch {p : Prog κ σ ε α} {h : ε → Prog κ σ ε α} (hp : Keeps step I p R)
    (hh : ∀ e, Keeps step I (h e) R) : Keeps step I (p.tryCatch h) R := by
  intro s hs
  obtain ⟨hs', hr⟩ := hp s hs
  rw [run_tryCatch]
  rcases hrun : p.run step s with ⟨e | a, s'⟩
  · rw [hrun] at hs'
    exact hh e s' hs'
  · rw [hrun] at hs' hr
    exact ⟨hs', hr⟩

theorem after {p : Prog κ σ ε α} {s s' : σ} {r : Except ε α} (hp : Keeps step I p R) (hs : I s)
    (hrun : p.run step s = (r, s')) : I s' := by
  have hs' := (hp s hs).1
  rwa [hrun] at hs'

theorem retry {again : ε → Bool} {p : Prog κ σ ε α} (hp : Keeps step I p R) (n : Nat) :
    Keeps step I (Prog.retry again p n) R := by
  induction n with
  | zero => exact hp
  | succ n ih =>
      refine tryCatch hp fun e => ?_
      split
      · exact ih
      · exact throw e

theorem attempt {p : Prog κ σ ε α} (hp : Keeps step I p R) :
    Keeps step I p.attempt fun r => ∀ a, r = .ok a → R a := by
  intro s hs
  obtain ⟨hs', hr⟩ := hp s hs
  rw [run_attempt]
  refine ⟨hs', fun r h a ha => hr a ?_⟩
  cases h
  exact ha

/-- A program that goes on however `p` ended. -/
theorem caught {p : Prog κ σ ε α} {f : Except ε α → Prog κ σ ε β}
    (hp : Keeps step I p fun _ => True) (hf : ∀ r, Keeps step I (f r) S) :
    Keeps step I (p.attempt >>= f) S :=
  bind hp.attempt fun r _ => hf r

/-- Commands that keep `I` one by one keep it in every program. -/
theorem of_uses {C : κ → Prop} {p : Prog κ σ ε α} (hp : Uses C p)
    (hC : ∀ c s s', C c → I s → step c s = .ok s' → I s') : Keeps step I p fun _ => True :=
  fun _ hs => ⟨hp.run_keeps hC hs, fun _ _ => trivial⟩

theorem each {f : α → Prog κ σ ε Unit} {l : List α}
    (hf : ∀ a ∈ l, Keeps step I (f a) fun _ => True) :
    Keeps step I (Prog.each f l) fun _ => True := by
  induction l with
  | nil => exact pure trivial
  | cons a l ih =>
      exact bind (hf a (List.mem_cons_self ..)) fun _ _ =>
        ih fun b hb => hf b (List.mem_cons_of_mem _ hb)

theorem mapEach {f : α → Prog κ σ ε β} {l : List α} (hf : ∀ a ∈ l, Keeps step I (f a) S) :
    Keeps step I (Prog.mapEach f l) fun _ => True := by
  induction l with
  | nil => exact pure trivial
  | cons a l ih =>
      exact bind (hf a (List.mem_cons_self ..)) fun b _ =>
        bind (ih fun c hc => hf c (List.mem_cons_of_mem _ hc)) fun _ _ => pure trivial

/-- A loop that ends has run the round of every element; what one round leaves and all others
keep holds at the end. -/
theorem each_reaches {J : σ → Prop} {f : α → Prog κ σ ε Unit} {l : List α} {a : α} {s s' : σ}
    (hI : ∀ b ∈ l, Keeps step I (f b) fun _ => True)
    (hJ : ∀ b ∈ l, b ≠ a → Keeps step J (f b) fun _ => True) (ha : J s ∨ a ∈ l)
    (hround : ∀ t t', I t → (f a).run step t = (.ok (), t') → J t') (hs : I s)
    (hrun : (Prog.each f l).run step s = (.ok (), s')) : J s' := by
  induction l generalizing s with
  | nil =>
      cases hrun
      exact ha.resolve_right List.not_mem_nil
  | cons b l ih =>
      obtain ⟨_, t, hb, hrest⟩ := run_bind_ok (p := f b) (f := fun _ => Prog.each f l) hrun
      rw [List.forall_mem_cons] at hI hJ
      have ht := (hI.1 s hs).1
      rw [hb] at ht
      refine ih hI.2 hJ.2 ?_ ht hrest
      by_cases hba : b = a
      · subst hba
        exact .inl (hround s t hs hb)
      · refine ha.imp (fun hj => ?_) fun ha => (List.mem_cons.mp ha).resolve_left (Ne.symm hba)
        have hkeep := (hJ.1 hba s hj).1
        rw [hb] at hkeep
        exact hkeep

theorem mapEach_reaches {J : σ → Prop} {f : α → Prog κ σ ε β} {l : List α} {a : α} {s s' : σ}
    {bs : List β} (hI : ∀ b ∈ l, Keeps step I (f b) fun _ => True)
    (hJ : ∀ b ∈ l, b ≠ a → Keeps step J (f b) fun _ => True) (ha : J s ∨ a ∈ l)
    (hround : ∀ t b t', I t → (f a).run step t = (.ok b, t') → J t') (hs : I s)
    (hrun : (Prog.mapEach f l).run step s = (.ok bs, s')) : J s' :=
  run_mapEach_reaches (fun b hb _ _ _ ht h => (hI b hb).after ht h)
    (fun b hb hne _ _ _ ht h => (hJ b hb hne).after ht h) ha hround hs hrun

end Keeps

end Prog
