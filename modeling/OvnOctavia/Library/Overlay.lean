import OvnOctavia.Library.Dict
import OvnOctavia.Library.Fallible

/-!
Dictionaries laid over one another. A step that writes the bindings of a relation
over a dictionary is described by the relation alone; a run of such steps writes the
union of their relations, as long as they agree where they write the same key.
-/

namespace Dict
variable {α β : Type} [DecidableEq α] {R S : α → β → Prop} {d d' d'' : Dict α β}

/-- The second dictionary is the bindings of the relation over the first. -/
def Overlays (R : α → β → Prop) (d d' : Dict α β) : Prop :=
  ∀ k v, d'.get? k = some v ↔ R k v ∨ (¬∃ w, R k w) ∧ d.get? k = some v

theorem overlays_refl (d : Dict α β) : Overlays (fun _ _ => False) d d := by
  intro k v
  simp

theorem overlays_set (d : Dict α β) (k : α) (v : β) :
    Overlays (fun j w => j = k ∧ w = v) d (d.set k v) := by
  intro j w
  rw [get?_set]
  by_cases hj : j = k
  · simp [hj, eq_comm]
  · simp [hj]

theorem Overlays.congr (h : Overlays R d d') (hRS : ∀ k v, R k v ↔ S k v) : Overlays S d d' := by
  intro k v
  simp only [← hRS]
  exact h k v

/-- Where the relations agree, the later bindings are only more bindings. -/
theorem Overlays.trans (h : Overlays R d d') (h' : Overlays S d' d'')
    (hagree : ∀ k v w, R k v → S k w → v = w) :
    Overlays (fun k v => R k v ∨ S k v) d d'' := by
  intro k v
  rw [h' k v, h k v]
  constructor
  · rintro (hS | ⟨hnS, hR | ⟨hnR, hd⟩⟩)
    · exact .inl (.inr hS)
    · exact .inl (.inl hR)
    · refine .inr ⟨?_, hd⟩
      rintro ⟨w, hw | hw⟩
      · exact hnR ⟨w, hw⟩
      · exact hnS ⟨w, hw⟩
  · rintro ((hR | hS) | ⟨hn, hd⟩)
    · by_cases hS : ∃ w, S k w
      · obtain ⟨w, hw⟩ := hS
        exact .inl (hagree k v w hR hw ▸ hw)
      · exact .inr ⟨hS, .inl hR⟩
    · exact .inl hS
    · exact .inr ⟨fun ⟨w, hw⟩ => hn ⟨w, .inr hw⟩, .inr ⟨fun ⟨w, hw⟩ => hn ⟨w, .inl hw⟩, hd⟩⟩

/-- A run of steps lays the bindings of all of them over the first dictionary. -/
theorem overlays_foldlM {ε γ : Type} {f : Dict α β → γ → Except ε (Dict α β)}
    {R : γ → α → β → Prop} {l : List γ}
    (hf : ∀ c ∈ l, ∀ d d', f d c = .ok d' → Overlays (R c) d d')
    (hagree : ∀ c ∈ l, ∀ c' ∈ l, ∀ k v w, R c k v → R c' k w → v = w)
    (h : l.foldlM f d = .ok d') : Overlays (fun k v => ∃ c ∈ l, R c k v) d d' := by
  induction l generalizing d with
  | nil =>
      cases h
      exact (overlays_refl d').congr fun k v => by simp
  | cons c l ih =>
      rw [List.foldlM_cons] at h
      obtain ⟨d₁, h₁, h₂⟩ := Except.bind_eq_ok.mp h
      have hfirst := hf c (List.mem_cons_self ..) d d₁ h₁
      have hrest := ih (fun a ha => hf a (List.mem_cons_of_mem _ ha))
        (fun a ha b hb => hagree a (List.mem_cons_of_mem _ ha) b (List.mem_cons_of_mem _ hb)) h₂
      refine (hfirst.trans hrest ?_).congr fun k v => by simp
      rintro k v w hv ⟨a, ha, hw⟩
      exact hagree c (List.mem_cons_self ..) a (List.mem_cons_of_mem _ ha) k v w hv hw

/-- The bindings laid over the empty dictionary. -/
theorem Overlays.of_empty (h : Overlays R (∅ : Dict α β) d') (k : α) (v : β) :
    d'.get? k = some v ↔ R k v := by
  rw [h k v]
  simp

end Dict
