import OvnOctavia.Library.Prog

/-!
Runs in which commits may fail for reasons outside the program. A failed commit
changes nothing; which commits fail is told by a list of marks, one for each commit.
The rules say how a program ends whichever commits fail, as long as no three fail in
a row, so that what is tried three times goes through.
-/

namespace Prog

variable {κ σ ε α β : Type}

section Running
variable (step : κ → σ → Except ε σ) (fault : ε)

/-- The run in which the commits marked `true` fail with `fault`, and the marks left. -/
def runFlaky : Prog κ σ ε α → List Bool → σ → (Except ε α × σ) × List Bool
  | .pure a, marks, s => ((.ok a, s), marks)
  | .throw e, marks, s => ((.error e, s), marks)
  | .read k, marks, s => (k s).runFlaky marks s
  | .commit cs k, marks, s =>
      if marks.head? = some true then (k (.error fault)).runFlaky marks.tail s
      else match transact step cs s with
        | .ok s' => (k (.ok ())).runFlaky marks.tail s'
        | .error e => (k (.error e)).runFlaky marks.tail s

theorem runFlaky_bind (p : Prog κ σ ε α) (f : α → Prog κ σ ε β) (marks : List Bool) (s : σ) :
    (p >>= f).runFlaky step fault marks s =
      match p.runFlaky step fault marks s with
      | ((.ok a, s'), rest) => (f a).runFlaky step fault rest s'
      | ((.error e, s'), rest) => ((.error e, s'), rest) := by
  change (p.bind f).runFlaky step fault marks s = _
  induction p generalizing s marks with
  | pure a => rfl
  | throw e => rfl
  | read k ih => exact ih s marks s
  | commit cs k ih =>
      simp only [Prog.bind, runFlaky]
      split
      · exact ih _ _ s
      · cases transact step cs s with
        | ok s' => exact ih _ _ s'
        | error e => exact ih _ _ s

theorem runFlaky_tryCatch (p : Prog κ σ ε α) (h : ε → Prog κ σ ε α) (marks : List Bool) (s : σ) :
    (p.tryCatch h).runFlaky step fault marks s =
      match p.runFlaky step fault marks s with
      | ((.ok a, s'), rest) => ((.ok a, s'), rest)
      | ((.error e, s'), rest) => (h e).runFlaky step fault rest s' := by
  induction p generalizing s marks with
  | pure a => rfl
  | throw e => rfl
  | read k ih => exact ih s marks s
  | commit cs k ih =>
      simp only [tryCatch, runFlaky]
      split
      · exact ih _ _ s
      · cases transact step cs s with
        | ok s' => exact ih _ _ s'
        | error e => exact ih _ _ s

theorem runFlaky_ofExcept (r : Except ε α) (marks : List Bool) (s : σ) :
    (ofExcept r : Prog κ σ ε α).runFlaky step fault marks s = ((r, s), marks) := by
  cases r <;> rfl

end Running

/-- No three commits in a row fail. -/
def Spared (marks : List Bool) : Prop := ¬[true, true, true] <:+: marks

instance (marks : List Bool) : Decidable (Spared marks) :=
  inferInstanceAs (Decidable (¬[true, true, true] <:+: marks))

theorem spared_nil : Spared [] := by decide

theorem Spared.tail {marks : List Bool} (h : Spared marks) : Spared marks.tail :=
  fun hin => h (hin.trans (List.tail_suffix marks).isInfix)

/-- Whichever commits fail, `p` ends with `Q`. -/
def Ends (step : κ → σ → Except ε σ) (fault : ε) (p : Prog κ σ ε α)
    (Q : Except ε α → σ → Prop) (s : σ) : Prop :=
  ∀ marks, Spared marks → Spared (p.runFlaky step fault marks s).2 ∧
    Q (p.runFlaky step fault marks s).1.1 (p.runFlaky step fault marks s).1.2

/-- The program commits once, with the given end when the commit is let through. -/
def CommitsOnce (step : κ → σ → Except ε σ) (fault : ε) (p : Prog κ σ ε α) (s : σ)
    (r : Except ε α) (s' : σ) : Prop :=
  ∀ marks, p.runFlaky step fault marks s =
    if marks.head? = some true then ((.error fault, s), marks.tail) else ((r, s'), marks.tail)

namespace Ends
variable {step : κ → σ → Except ε σ} {fault : ε} {p : Prog κ σ ε α} {s : σ}
  {Q Q' : Except ε α → σ → Prop}

theorem mono (h : Ends step fault p Q s) (hQ : ∀ r s', Q r s' → Q' r s') :
    Ends step fault p Q' s :=
  fun marks hm => ⟨(h marks hm).1, hQ _ _ (h marks hm).2⟩

theorem pure {a : α} (h : Q (.ok a) s) : Ends step fault (Pure.pure a) Q s :=
  fun _ hm => ⟨hm, h⟩

theorem throw {e : ε} (h : Q (.error e) s) : Ends step fault (MonadExcept.throw e) Q s :=
  fun _ hm => ⟨hm, h⟩

theorem read {k : σ → Prog κ σ ε α} (h : Ends step fault (k s) Q s) :
    Ends step fault (.read k) Q s := h

theorem ofExcept {r : Except ε α} (h : Q r s) : Ends step fault (.ofExcept r) Q s := by
  intro marks hm
  rw [runFlaky_ofExcept]
  exact ⟨hm, h⟩

theorem bind {f : α → Prog κ σ ε β} {R : Except ε β → σ → Prop}
    (h : Ends step fault p (fun r s' =>
      match r with
      | .ok a => Ends step fault (f a) R s'
      | .error e => R (.error e) s') s) : Ends step fault (p >>= f) R s := by
  intro marks hm
  obtain ⟨hrest, hq⟩ := h marks hm
  rw [runFlaky_bind]
  rcases hrun : p.runFlaky step fault marks s with ⟨⟨e | a, s'⟩, rest⟩
  · rw [hrun] at hrest hq
    exact ⟨hrest, hq⟩
  · rw [hrun] at hrest hq
    exact hq rest hrest

theorem get_bind {f : σ → Prog κ σ ε β} {R : Except ε β → σ → Prop}
    (h : Ends step fault (f s) R s) : Ends step fault (Prog.get >>= f) R s :=
  bind (read (pure h))

theorem ofExcept_bind {r : Except ε α} {a : α} (hr : r = .ok a) {f : α → Prog κ σ ε β}
    {R : Except ε β → σ → Prop} (h : Ends step fault (f a) R s) :
    Ends step fault (Prog.ofExcept r >>= f) R s := by
  subst hr
  exact bind (ofExcept h)

theorem tryCatch {h : ε → Prog κ σ ε α}
    (hp : Ends step fault p (fun r s' =>
      match r with
      | .ok a => Q (.ok a) s'
      | .error e => Ends step fault (h e) Q s') s) : Ends step fault (p.tryCatch h) Q s := by
  intro marks hm
  obtain ⟨hrest, hq⟩ := hp marks hm
  rw [runFlaky_tryCatch]
  rcases hrun : p.runFlaky step fault marks s with ⟨⟨e | a, s'⟩, rest⟩
  · rw [hrun] at hrest hq
    exact hq rest hrest
  · rw [hrun] at hrest hq
    exact ⟨hrest, hq⟩

theorem attempt {Q : Except ε (Except ε α) → σ → Prop}
    (h : Ends step fault p (fun r s' => Q (.ok r) s') s) : Ends step fault p.attempt Q s := by
  refine tryCatch ?_
  change Ends step fault (p >>= fun a => Pure.pure (Except.ok a : Except ε α)) _ s
  refine bind (h.mono fun r s' hq => ?_)
  cases r with
  | ok a => exact pure hq
  | error e => exact pure hq

theorem transaction {cs : List κ} {Q : Except ε Unit → σ → Prop} (hfault : Q (.error fault) s)
    (h : match transact step cs s with
      | .ok s' => Q (.ok ()) s'
      | .error e => Q (.error e) s) : Ends step fault (.transaction cs) Q s := by
  intro marks hm
  simp only [Prog.transaction, runFlaky]
  split
  · exact ⟨hm.tail, hfault⟩
  · cases ht : transact step cs s with
    | ok s' =>
        rw [ht] at h
        exact ⟨hm.tail, h⟩
    | error e =>
        rw [ht] at h
        exact ⟨hm.tail, h⟩

/-- What every command of the kind keeps, the program keeps whichever commits fail. -/
theorem of_uses {C : κ → Prop} {I : σ → Prop} (hp : p.Uses C)
    (hI : ∀ c s s', C c → I s → step c s = .ok s' → I s') (hs : I s)
    (hQ : ∀ r s', I s' → Q r s') : Ends step fault p Q s := by
  intro marks hm
  suffices Spared (p.runFlaky step fault marks s).2 ∧ I (p.runFlaky step fault marks s).1.2 from
    ⟨this.1, hQ _ _ this.2⟩
  induction hp generalizing marks s with
  | pure a => exact ⟨hm, hs⟩
  | throw e => exact ⟨hm, hs⟩
  | read _ ih => exact ih s hs marks hm
  | @commit cs k hc _ ih =>
      simp only [runFlaky]
      split
      · exact ih _ hs _ hm.tail
      · cases ht : transact step cs s with
        | ok s' => exact ih _ (Uses.transact_keeps hI hc hs ht) _ hm.tail
        | error e => exact ih _ hs _ hm.tail

/-- Of three tries one is let through. -/
theorem retry {again : ε → Bool} (hagain : again fault = true) {a : α} {s' : σ}
    (hp : CommitsOnce step fault p s (.ok a) s') (hQ : Q (.ok a) s') :
    Ends step fault (Prog.retry again p 2) Q s := by
  intro marks hm
  have htry : ∀ n marks, (Prog.retry again p (n + 1)).runFlaky step fault marks s =
      if marks.head? = some true then (Prog.retry again p n).runFlaky step fault marks.tail s
      else ((.ok a, s'), marks.tail) := by
    intro n marks
    rw [Prog.retry, runFlaky_tryCatch, hp marks]
    by_cases h : marks.head? = some true
    · simp only [h, if_true, hagain]
    · simp only [h, if_false]
  rw [htry, htry, Prog.retry, hp]
  rcases marks with _ | ⟨_ | _, _ | ⟨_ | _, _ | ⟨_ | _, rest⟩⟩⟩
  all_goals first
    | exact ⟨hm.tail, hQ⟩
    | exact ⟨hm.tail.tail, hQ⟩
    | exact ⟨hm.tail.tail.tail, hQ⟩
    | exact absurd ⟨[], rest, rfl⟩ hm

/-- What goes through is not tried again. -/
theorem retry_of_ok {again : ε → Bool} {n : Nat}
    (h : Ends step fault p (fun r s' => r.isOk = true ∧ Q r s') s) :
    Ends step fault (Prog.retry again p n) Q s := by
  cases n with
  | zero => exact h.mono fun _ _ hq => hq.2
  | succ n =>
      refine tryCatch (h.mono fun r s' hq => ?_)
      cases r with
      | ok a => exact hq.2
      | error e => exact absurd hq.1 (by simp [Except.isOk, Except.toBool])

/-- What every round of a loop establishes and keeps, the loop establishes for all. -/
theorem each {f : α → Prog κ σ ε Unit} {I : σ → Prop} {D : α → σ → Prop} {l : List α}
    {s : σ} (hf : ∀ a ∈ l, ∀ s, I s → Ends step fault (f a)
      (fun r s' => r = .ok () ∧ I s' ∧ D a s' ∧ ∀ b, D b s → D b s') s) (hs : I s) :
    Ends step fault (Prog.each f l)
      (fun r s' => r = .ok () ∧ I s' ∧ (∀ a ∈ l, D a s') ∧ ∀ b, D b s → D b s') s := by
  induction l generalizing s with
  | nil => exact pure ⟨rfl, hs, nofun, fun _ h => h⟩
  | cons a l ih =>
      refine bind ((hf a (List.mem_cons_self ..) s hs).mono ?_)
      rintro _ s₁ ⟨rfl, hs₁, ha, hkeep⟩
      refine (ih (fun b hb => hf b (List.mem_cons_of_mem _ hb)) hs₁).mono ?_
      rintro _ s₂ ⟨rfl, hs₂, hl, hkeep'⟩
      refine ⟨rfl, hs₂, fun b hb => ?_, fun b hb => hkeep' b (hkeep b hb)⟩
      rcases List.mem_cons.mp hb with rfl | hb
      · exact hkeep' _ ha
      · exact hl b hb

end Ends

/-- Whichever commits fail, the program keeps `I`. -/
def Maintains (step : κ → σ → Except ε σ) (fault : ε) (I : σ → Prop) (p : Prog κ σ ε α) : Prop :=
  ∀ s, I s → Ends step fault p (fun _ s' => I s') s

namespace Maintains
variable {step : κ → σ → Except ε σ} {fault : ε} {I : σ → Prop} {p : Prog κ σ ε α}

theorem pure (a : α) : Maintains step fault I (Pure.pure a : Prog κ σ ε α) :=
  fun _ hs => Ends.pure hs

theorem throw (e : ε) : Maintains step fault I (MonadExcept.throw e : Prog κ σ ε α) :=
  fun _ hs => Ends.throw hs

theorem read {k : σ → Prog κ σ ε α} (h : ∀ s, I s → Ends step fault (k s) (fun _ s' => I s') s) :
    Maintains step fault I (.read k) :=
  fun s hs => Ends.read (h s hs)

theorem of_uses {C : κ → Prop} (hp : p.Uses C)
    (hI : ∀ c s s', C c → I s → step c s = .ok s' → I s') : Maintains step fault I p :=
  fun _ hs => Ends.of_uses hp hI hs fun _ _ h => h

theorem bind {f : α → Prog κ σ ε β} (hp : Maintains step fault I p)
    (hf : ∀ a, Maintains step fault I (f a)) : Maintains step fault I (p >>= f) := by
  refine fun s hs => Ends.bind ((hp s hs).mono fun r s' hs' => ?_)
  cases r with
  | ok a => exact hf a s' hs'
  | error e => exact hs'

theorem tryCatch {h : ε → Prog κ σ ε α} (hp : Maintains step fault I p)
    (hh : ∀ e, Maintains step fault I (h e)) : Maintains step fault I (p.tryCatch h) := by
  refine fun s hs => Ends.tryCatch ((hp s hs).mono fun r s' hs' => ?_)
  cases r with
  | ok a => exact hs'
  | error e => exact hh e s' hs'

theorem attempt (hp : Maintains step fault I p) : Maintains step fault I p.attempt :=
  fun s hs => Ends.attempt (hp s hs)

end Maintains

end Prog
