import Mathlib.Data.List.Basic

/-!
What a computation in `Except` says when it succeeds: each of its steps did.
-/

namespace Except
variable {ε α β : Type}

theorem ok_bind (a : α) (f : α → Except ε β) : (Except.ok a >>= f) = f a := rfl

theorem bind_eq_ok {r : Except ε α} {f : α → Except ε β} {b : β} :
    (r >>= f) = .ok b ↔ ∃ a, r = .ok a ∧ f a = .ok b := by
  cases r with
  | error e => simp [bind, Except.bind]
  | ok a => simp [bind, Except.bind]

theorem map_eq_ok {r : Except ε α} {f : α → β} {b : β} :
    r.map f = .ok b ↔ ∃ a, r = .ok a ∧ f a = b := by
  cases r with
  | error e => simp [Except.map]
  | ok a => simp [Except.map]

/-- Each result of a list is that of an element. -/
theorem exists_of_mem_mapM {f : α → Except ε β} {l : List α} {l' : List β}
    (h : l.mapM f = .ok l') {b : β} (hb : b ∈ l') : ∃ a ∈ l, f a = .ok b := by
  induction l generalizing l' with
  | nil =>
      cases h
      cases hb
  | cons a l ih =>
      rw [List.mapM_cons] at h
      obtain ⟨c, hc, h⟩ := bind_eq_ok.mp h
      obtain ⟨cs, hcs, h⟩ := bind_eq_ok.mp h
      cases h
      rcases List.mem_cons.mp hb with rfl | hb
      · exact ⟨a, List.mem_cons_self .., hc⟩
      · obtain ⟨x, hx, hf⟩ := ih hcs hb
        exact ⟨x, List.mem_cons_of_mem _ hx, hf⟩

/-- The result of each element is in that of the list. -/
theorem mem_mapM_of_mem {f : α → Except ε β} {l : List α} {l' : List β}
    (h : l.mapM f = .ok l') {a : α} (ha : a ∈ l) {b : β} (hb : f a = .ok b) : b ∈ l' := by
  induction l generalizing l' with
  | nil => cases ha
  | cons c l ih =>
      rw [List.mapM_cons] at h
      obtain ⟨d, hd, h⟩ := bind_eq_ok.mp h
      obtain ⟨ds, hds, h⟩ := bind_eq_ok.mp h
      cases h
      rcases List.mem_cons.mp ha with rfl | ha
      · rw [hb] at hd
        cases hd
        exact List.mem_cons_self ..
      · exact List.mem_cons_of_mem _ (ih hds ha)

/-- A fold whose steps append is an appended map. -/
theorem foldlM_append {f : List β → α → Except ε (List β)} {g : α → List β} {l : List α}
    (h : ∀ a ∈ l, ∀ acc, f acc a = .ok (acc ++ g a)) (acc : List β) :
    l.foldlM f acc = .ok (acc ++ l.flatMap g) := by
  induction l generalizing acc with
  | nil => simp [pure, Except.pure]
  | cons a l ih =>
      rw [List.foldlM_cons, h a List.mem_cons_self, ok_bind,
        ih fun b hb => h b (List.mem_cons_of_mem _ hb), List.flatMap_cons, List.append_assoc]

/-- A map over a list succeeds when it does on every element. -/
theorem mapM_eq_map {f : α → Except ε β} {g : α → β} {l : List α} (h : ∀ a ∈ l, f a = .ok (g a)) :
    l.mapM f = .ok (l.map g) := by
  induction l with
  | nil => rfl
  | cons a l ih =>
      rw [List.mapM_cons, h a List.mem_cons_self, ok_bind,
        ih fun b hb => h b (List.mem_cons_of_mem _ hb)]
      rfl

theorem mapM_ok_iff {f : α → Except ε β} {l : List α} :
    (∃ l', l.mapM f = .ok l') ↔ ∀ a ∈ l, ∃ b, f a = .ok b := by
  induction l with
  | nil => exact ⟨fun _ => nofun, fun _ => ⟨[], rfl⟩⟩
  | cons a l ih =>
      rw [List.forall_mem_cons, ← ih, List.mapM_cons]
      constructor
      · rintro ⟨l', h⟩
        obtain ⟨b, hb, h⟩ := bind_eq_ok.mp h
        obtain ⟨bs, hbs, -⟩ := bind_eq_ok.mp h
        exact ⟨⟨b, hb⟩, ⟨bs, hbs⟩⟩
      · rintro ⟨⟨b, hb⟩, ⟨bs, hbs⟩⟩
        exact ⟨b :: bs, by rw [hb, hbs]; rfl⟩

/-- A fold whose steps succeed succeeds. -/
theorem foldlM_ok {f : β → α → Except ε β} {l : List α} (h : ∀ a ∈ l, ∀ b, ∃ b', f b a = .ok b')
    (b : β) : ∃ b', l.foldlM f b = .ok b' := by
  induction l generalizing b with
  | nil => exact ⟨b, rfl⟩
  | cons a l ih =>
      obtain ⟨b', hb'⟩ := h a (List.mem_cons_self ..) b
      obtain ⟨b'', hb''⟩ := ih (fun c hc => h c (List.mem_cons_of_mem _ hc)) b'
      exact ⟨b'', by rw [List.foldlM_cons, hb']; exact hb''⟩

/-- What a fold gathers step by step. -/
theorem foldlM_iff {f : β → α → Except ε β} {R : β → Prop} {P : α → Prop}
    (hf : ∀ a b b', f b a = .ok b' → (R b' ↔ R b ∨ P a)) {l : List α} {b b' : β}
    (h : l.foldlM f b = .ok b') : R b' ↔ R b ∨ ∃ a ∈ l, P a := by
  induction l generalizing b with
  | nil =>
      cases h
      simp
  | cons a l ih =>
      rw [List.foldlM_cons] at h
      obtain ⟨c, hc, h⟩ := bind_eq_ok.mp h
      rw [ih h, hf a b c hc, List.exists_mem_cons_iff, or_assoc]

end Except
