import OvnOctavia.Library.Dict

/-!
One slot that stands for what several owners hold. It is in step with them when it is
empty as long as nobody holds anything, and otherwise shows the reading of something
that is held. Each change of an owner says what has to happen to the slot.
-/

namespace Shared
variable {κ α β : Type} [DecidableEq κ] {owners : Dict κ (Option α)} {f : α → β} {slot : Option β}
  {k : κ} {a : α}

/-- Something is held by an owner other than `k`. -/
def HeldBeside (owners : Dict κ (Option α)) (k : κ) (a : α) : Prop :=
  ∃ j, j ≠ k ∧ owners.get? j = some (some a)

/-- The slot shows the reading `f` of what is held. -/
structure InStep (owners : Dict κ (Option α)) (f : α → β) (slot : Option β) : Prop where
  empty_iff : slot = none ↔ ∀ j a, owners.get? j ≠ some (some a)
  shows : ∀ b, slot = some b → ∃ j a, owners.get? j = some (some a) ∧ f a = b

/-- A filled slot is in step when an owner holds its reading. -/
theorem inStep_some_iff {b : β} :
    InStep owners f (some b) ↔ ∃ j a, owners.get? j = some (some a) ∧ f a = b := by
  constructor
  · exact fun h => h.shows b rfl
  · intro h
    refine ⟨⟨nofun, fun hnone => ?_⟩, fun c hc => ?_⟩
    · obtain ⟨j, a, hj, -⟩ := h
      exact absurd hj (hnone j a)
    · cases hc
      exact h

/-- An empty slot is in step when nobody holds anything. -/
theorem inStep_none_iff : InStep owners f none ↔ ∀ j a, owners.get? j ≠ some (some a) :=
  ⟨fun h => h.empty_iff.mp rfl, fun h => ⟨⟨fun _ => h, fun _ => rfl⟩, nofun⟩⟩

/-- What is held and written is shown. -/
theorem inStep_write : InStep (owners.set k (some a)) f (some (f a)) :=
  inStep_some_iff.mpr ⟨k, a, Dict.get?_set_self .., rfl⟩

theorem get?_set_some_iff {j : κ} {o : Option α} : (owners.set k o).get? j = some (some a) ↔
    j = k ∧ o = some a ∨ j ≠ k ∧ owners.get? j = some (some a) := by
  by_cases hj : j = k
  · subst hj
    simp [Dict.get?_set_self]
  · simp [hj, Dict.get?_set_of_ne _ _ hj]

/-- An owner that holds nothing now leaves the slot right when another one holds what
it shows. -/
theorem inStep_release_iff (h : InStep owners f slot) :
    InStep (owners.set k none) f slot ↔
      ∀ b, slot = some b → ∃ a, HeldBeside owners k a ∧ f a = b := by
  cases slot with
  | none =>
      refine iff_of_true (inStep_none_iff.mpr fun j a hj => ?_) nofun
      rcases get?_set_some_iff.mp hj with ⟨-, hnone⟩ | ⟨-, hj⟩
      · cases hnone
      · exact inStep_none_iff.mp h j a hj
  | some b =>
      rw [inStep_some_iff]
      constructor
      · rintro ⟨j, a, hj, rfl⟩ c hc
        cases hc
        rcases get?_set_some_iff.mp hj with ⟨-, hnone⟩ | hbeside
        · cases hnone
        · exact ⟨a, ⟨j, hbeside⟩, rfl⟩
      · intro hb
        obtain ⟨a, ⟨j, hbeside⟩, hf⟩ := hb b rfl
        exact ⟨j, a, get?_set_some_iff.mpr (.inr hbeside), hf⟩

/-- A new owner that holds something unwritten needs the slot filled by another one. -/
theorem inStep_unwritten_iff (hnew : owners.get? k = none) (h : InStep owners f slot) :
    InStep (owners.set k (some a)) f slot ↔ ∃ b, slot = some b := by
  cases slot with
  | none =>
      refine iff_of_false (fun hs => ?_) nofun
      exact inStep_none_iff.mp hs k a (Dict.get?_set_self ..)
  | some b =>
      refine iff_of_true ?_ ⟨b, rfl⟩
      obtain ⟨j, c, hj, hf⟩ := inStep_some_iff.mp h
      have hne : j ≠ k := by
        intro he
        rw [he, hnew] at hj
        cases hj
      exact inStep_some_iff.mpr ⟨j, c, get?_set_some_iff.mpr (.inr ⟨hne, hj⟩), hf⟩

/-- A new owner that holds nothing changes nothing. -/
theorem inStep_idle (hnew : owners.get? k = none) (h : InStep owners f slot) :
    InStep (owners.set k none) f slot := by
  refine (inStep_release_iff h).mpr fun b hb => ?_
  obtain ⟨j, a, hj, hf⟩ := h.shows b hb
  refine ⟨a, ⟨j, fun he => ?_, hj⟩, hf⟩
  rw [he, hnew] at hj
  cases hj

/-- Emptying the slot with an owner that goes is right when no other one holds anything. -/
theorem inStep_clear_iff : InStep (owners.erase k) f none ↔ ∀ a, ¬HeldBeside owners k a := by
  rw [inStep_none_iff]
  constructor
  · rintro h a ⟨j, hne, hj⟩
    refine h j a ?_
    rw [Dict.get?_erase_of_ne _ hne, hj]
  · intro h j a hj
    by_cases hne : j = k
    · rw [hne, Dict.get?_erase_self] at hj
      cases hj
    · rw [Dict.get?_erase_of_ne _ hne] at hj
      exact h a ⟨j, hne, hj⟩

end Shared
