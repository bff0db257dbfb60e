import OvnOctavia.Library.Dict

/-!
A dictionary under a sequence of writes: what it holds under a key is what the last write of
the key left there, and what it held before if there is none.
-/

namespace Dict
variable {α β : Type} [DecidableEq α]

/-- A binding that is written, or one that is taken out. -/
structure Write (α β : Type) where
  key : α
  value : Option β

def write (d : Dict α β) (w : Write α β) : Dict α β :=
  match w.value with
  | some v => d.set w.key v
  | none => d.erase w.key

def replay (d : Dict α β) (ws : List (Write α β)) : Dict α β := ws.foldl write d

variable {d : Dict α β} {w : Write α β} {ws : List (Write α β)} {k : α}

theorem get?_write (d : Dict α β) (w : Write α β) (k : α) :
    (d.write w).get? k = if k = w.key then w.value else d.get? k := by
  obtain ⟨key, value⟩ := w
  cases value with
  | none => rw [write, get?_erase]
  | some v => rw [write, get?_set]

/-- The last write of a key decides what the dictionary holds. -/
theorem get?_replay (d : Dict α β) (ws : List (Write α β)) (k : α) :
    (d.replay ws).get? k = match (ws.filter (·.key = k)).getLast? with
      | some w => w.value
      | none => d.get? k := by
  induction ws generalizing d with
  | nil => rfl
  | cons w ws ih =>
      rw [replay, List.foldl_cons, ← replay, ih, get?_write]
      by_cases hk : w.key = k
      · rw [if_pos hk.symm, List.filter_cons_of_pos (by simp [hk])]
        cases hlast : (ws.filter (·.key = k)).getLast? with
        | none =>
            rw [List.getLast?_eq_none_iff] at hlast
            rw [hlast]
            rfl
        | some w' => rw [List.getLast?_cons, hlast, Option.getD_some]
      · rw [if_neg fun h => hk h.symm, List.filter_cons_of_neg (by simp [hk])]

/-- A binding that is written and taken out again leaves what the others were. -/
theorem erase_set_same (d : Dict α β) (k : α) (v : β) : (d.set k v).erase k = d.erase k := by
  apply ext_items
  have hfilter : ∀ l : List (α × β), (setItems k v l).filter (fun b => b.1 ≠ k) =
      l.filter fun b => b.1 ≠ k := by
    intro l
    induction l with
    | nil => simp [setItems]
    | cons b bs ih =>
        rw [setItems]
        by_cases hb : b.1 = k
        · simp [hb]
        · rw [if_neg hb, List.filter_cons, List.filter_cons, ih]
  exact hfilter d.items

end Dict
