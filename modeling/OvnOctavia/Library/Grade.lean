import Mathlib.Order.Nat
import Mathlib.Order.Lattice
import Mathlib.Data.List.Basic

/-!
Grades of a tree whose leaves are sound or faulty. A group of leaves is in error when
it has leaves and all are faulty, and degraded when some are; an inner node is as bad as
the worst of its children that are in service. A child out of service has no grade.
-/

inductive Grade where
  | online
  | degraded
  | error
  deriving DecidableEq

namespace Grade
variable {α : Type}

def rank : Grade → Nat
  | online => 0
  | degraded => 1
  | error => 2

theorem rank_injective : Function.Injective rank := by
  intro a b h
  cases a <;> cases b <;> first | rfl | cases h

instance : LinearOrder Grade := LinearOrder.lift' rank rank_injective

theorem le_error (g : Grade) : g ≤ error := by
  cases g <;> decide

theorem online_le (g : Grade) : online ≤ g := by
  cases g <;> decide

theorem error_le {g : Grade} (h : error ≤ g) : g = error := le_antisymm (le_error g) h

theorem degraded_le {g : Grade} (h : degraded ≤ g) : g = degraded ∨ g = error := by
  cases g with
  | online => exact absurd h (by decide)
  | degraded => exact .inl rfl
  | error => exact .inr rfl

/-- The grade of a group of leaves. -/
def ofLeaves (faulty : α → Bool) (l : List α) : Grade :=
  if l ≠ [] ∧ l.all faulty then error
  else if l.any faulty then degraded
  else online

theorem ofLeaves_eq_error_iff {faulty : α → Bool} {l : List α} :
    ofLeaves faulty l = error ↔ l ≠ [] ∧ ∀ a ∈ l, faulty a = true := by
  rw [ofLeaves, ← List.all_eq_true]
  split_ifs with h h'
  · exact ⟨fun _ => h, fun _ => rfl⟩
  · exact ⟨nofun, fun h' => absurd h' h⟩
  · exact ⟨nofun, fun h' => absurd h' h⟩

theorem ofLeaves_eq_degraded_iff {faulty : α → Bool} {l : List α} :
    ofLeaves faulty l = degraded ↔ (∃ a ∈ l, faulty a = true) ∧ ∃ a ∈ l, faulty a = false := by
  rw [ofLeaves, ← List.any_eq_true]
  split_ifs with h h'
  · simp only [false_iff]
    rintro ⟨-, a, ha, hf⟩
    rw [List.all_eq_true.mp h.2 a ha] at hf
    cases hf
  · simp only [h', true_and, true_iff]
    by_contra hnone
    push Not at hnone
    obtain ⟨a, ha, -⟩ := List.any_eq_true.mp h'
    exact h ⟨List.ne_nil_of_mem ha, List.all_eq_true.mpr fun b hb => by simpa using hnone b hb⟩
  · simp [h']

/-- More faulty leaves make no better group. -/
theorem ofLeaves_mono {faulty faulty' : α → Bool} {l : List α}
    (h : ∀ a ∈ l, faulty a = true → faulty' a = true) : ofLeaves faulty l ≤ ofLeaves faulty' l := by
  cases hg : ofLeaves faulty l with
  | online => exact online_le _
  | error =>
      obtain ⟨hne, hall⟩ := ofLeaves_eq_error_iff.mp hg
      rw [ofLeaves_eq_error_iff.mpr ⟨hne, fun a ha => h a ha (hall a ha)⟩]
  | degraded =>
      obtain ⟨⟨a, ha, hf⟩, -⟩ := ofLeaves_eq_degraded_iff.mp hg
      have hany : l.any faulty' = true := List.any_eq_true.mpr ⟨a, ha, h a ha hf⟩
      rw [ofLeaves, if_pos hany]
      split
      · exact le_error _
      · exact le_rfl

/-- The grade of a node in service, from those of its children. -/
def worst (l : List (Option Grade)) : Grade :=
  if some error ∈ l then error
  else if some degraded ∈ l then degraded
  else online

theorem worst_eq_error_iff {l : List (Option Grade)} : worst l = error ↔ some error ∈ l := by
  rw [worst]
  split_ifs with h h' <;> simp [h]

theorem worst_eq_degraded_iff {l : List (Option Grade)} :
    worst l = degraded ↔ some error ∉ l ∧ some degraded ∈ l := by
  rw [worst]
  split_ifs with h h' <;> simp [*]

/-- Neither is in service, or both are and the second is no better. -/
def NoBetter : Option Grade → Option Grade → Prop
  | none, none => True
  | some g, some g' => g ≤ g'
  | _, _ => False

theorem NoBetter.error {g : Option Grade} (h : NoBetter (some .error) g) : g = some .error := by
  cases g with
  | none => exact h.elim
  | some g => rw [error_le h]

theorem NoBetter.degraded {g : Option Grade} (h : NoBetter (some .degraded) g) :
    g = some .degraded ∨ g = some .error := by
  cases g with
  | none => exact h.elim
  | some g => exact (degraded_le h).imp (congrArg some) (congrArg some)

theorem worst_mono {l l' : List (Option Grade)} (h : ∀ g ∈ l, ∃ g' ∈ l', NoBetter g g') :
    worst l ≤ worst l' := by
  cases hg : worst l with
  | online => exact online_le _
  | error =>
      obtain ⟨g, hm, hle⟩ := h _ (worst_eq_error_iff.mp hg)
      rw [worst_eq_error_iff.mpr (hle.error ▸ hm)]
  | degraded =>
      obtain ⟨g, hm, hle⟩ := h _ (worst_eq_degraded_iff.mp hg).2
      rw [worst]
      split_ifs with herr hdeg
      · exact le_error _
      · exact le_rfl
      · obtain rfl | rfl := hle.degraded
        · exact absurd hm hdeg
        · exact absurd hm herr

/-- A node that may be out of service. -/
def node (inService : Bool) (g : Grade) : Option Grade := if inService then some g else none

theorem node_noBetter {inService : Bool} {g g' : Grade} (h : g ≤ g') :
    NoBetter (node inService g) (node inService g') := by
  cases inService with
  | false => exact trivial
  | true => exact h

theorem node_eq_some_iff {inService : Bool} {g g' : Grade} :
    node inService g = some g' ↔ inService = true ∧ g = g' := by
  cases inService <;> simp [node]

end Grade
