import Mathlib.Data.List.Infix
import Mathlib.Data.List.Nodup
import Mathlib.Tactic.Common

/-!
Text as the list of its characters, with the string methods of a scripting
language: `in`, `startswith`, `split`, `join`, `rsplit(_, 1)`, `replace` and the
decimal form of a number. Splitting at one character is `List.splitOn`.
-/

abbrev Str := List Char

instance : LawfulBEq Str := inferInstance

namespace Str

/-- `sub in s`. -/
def contains (sub s : Str) : Bool := decide (sub <:+: s)

def startsWith (p s : Str) : Bool := p.isPrefixOf s

/-- `sep.join(l)` for a separator of one character. -/
def join (sep : Char) (l : List Str) : Str := [sep].intercalate l

/-- `s.rsplit(sep, 1)` where it gives two parts. -/
def rsplit (sep : Char) : Str → Option (Str × Str)
  | [] => none
  | c :: s =>
      match rsplit sep s with
      | some (a, b) => some (c :: a, b)
      | none => if c = sep then some ([], s) else none

/-- `s.replace(old, new)` for a nonempty `old`; the counter runs over the rest of
an occurrence that has just been replaced. -/
def replaceFrom (old new : Str) : Nat → Str → Str
  | _, [] => []
  | n + 1, _ :: s => replaceFrom old new n s
  | 0, c :: s =>
      if old.isPrefixOf (c :: s) then new ++ replaceFrom old new (old.length - 1) s
      else c :: replaceFrom old new 0 s

def replace (old new s : Str) : Str := replaceFrom old new 0 s

/-- What precedes the first `sep` of a text, all of it without one. -/
def before (sep : Str) : Str → Str
  | [] => []
  | c :: s => if sep.isPrefixOf (c :: s) then [] else c :: before sep s

/-- What follows the first `sep` of a text. -/
def after (sep : Str) : Str → Option Str
  | [] => none
  | c :: s => if sep.isPrefixOf (c :: s) then some ((c :: s).drop sep.length) else after sep s

/-- `re.sub('suffix$', '', s)`. -/
def removeSuffix (suffix s : Str) : Str :=
  if suffix.isSuffixOf s then s.take (s.length - suffix.length) else s

/-- `str(n)`. -/
def ofNat (n : Nat) : Str := Nat.toDigits 10 n

theorem contains_iff {sub s : Str} : contains sub s = true ↔ sub <:+: s := by
  simp [contains]

theorem contains_eq_false_iff {sub s : Str} : contains sub s = false ↔ ¬ sub <:+: s := by
  simp [contains]

theorem contains_append (sub s : Str) : contains sub (sub ++ s) = true :=
  contains_iff.mpr (List.prefix_append sub s).isInfix

/-- A character of the searched text that the other one lacks refutes `in`. -/
theorem contains_eq_false_of_notMem {sub s : Str} {c : Char} (hc : c ∈ sub) (hs : c ∉ s) :
    contains sub s = false :=
  contains_eq_false_iff.mpr fun h => hs (h.subset hc)

/-- A text without `c` that occurs around a `c` occurs on one side of it. -/
theorem infix_append_cons {u a b : Str} {c : Char} (hc : c ∉ u) (h : u <:+: a ++ c :: b) :
    u <:+: a ∨ u <:+: b := by
  obtain ⟨s, t, h⟩ := h
  rw [List.append_assoc, List.append_eq_append_iff] at h
  obtain ⟨x, rfl, hx⟩ | ⟨x, rfl, hx⟩ := h
  · rw [List.append_eq_append_iff] at hx
    obtain ⟨y, rfl, -⟩ | ⟨y, rfl, hy⟩ := hx
    · exact .inl ⟨s, y, by simp⟩
    · cases y with
      | nil => exact .inl ⟨s, [], by simp⟩
      | cons d y =>
          cases hy
          exact absurd (by simp) hc
  · cases x with
    | nil =>
        cases u with
        | nil => exact .inr List.nil_infix
        | cons d u =>
            cases hx
            exact absurd (List.mem_cons_self ..) hc
    | cons d x =>
        cases hx
        exact .inr ⟨x, t, by simp⟩

theorem isSuffix_of_after {sep s t : Str} (h : after sep s = some t) : t <:+ s := by
  induction s with
  | nil => cases h
  | cons c s ih =>
      rw [after] at h
      split at h
      · cases h
        exact List.drop_suffix _ _
      · exact (ih h).trans (List.suffix_cons c s)

/-- A text is cut at the first separator of one character. -/
theorem before_append_after {c : Char} {s t : Str} (h : after [c] s = some t) :
    c ∉ before [c] s ∧ before [c] s ++ c :: t = s := by
  induction s with
  | nil => cases h
  | cons d s ih =>
      rw [after] at h
      rw [before]
      by_cases hd : c = d
      · subst hd
        simp only [List.isPrefixOf, BEq.rfl, Bool.and_true, if_true, Option.some.injEq] at h ⊢
        exact ⟨List.not_mem_nil, by rw [← h]; rfl⟩
      · have hp : List.isPrefixOf [c] (d :: s) = false := by simp [List.isPrefixOf, hd]
        rw [hp, if_neg Bool.false_ne_true] at h ⊢
        obtain ⟨hnot, hcut⟩ := ih h
        exact ⟨by simp [hd, hnot], by rw [List.cons_append, hcut]⟩

theorem after_append_cons {c : Char} {a : Str} (h : c ∉ a) (b : Str) :
    after [c] (a ++ c :: b) = some b := by
  induction a with
  | nil => simp [after, List.isPrefixOf]
  | cons d a ih =>
      rw [List.mem_cons, not_or] at h
      rw [List.cons_append, after, ih h.2]
      simp [List.isPrefixOf, h.1]

theorem before_append_cons {c : Char} {a : Str} (h : c ∉ a) (b : Str) :
    before [c] (a ++ c :: b) = a := by
  have hcut := (before_append_after (after_append_cons h b)).2
  exact List.append_cancel_right hcut

theorem startsWith_iff {p s : Str} : startsWith p s = true ↔ p <+: s := by
  simp [startsWith]

theorem startsWith_append (p s : Str) : startsWith p (p ++ s) = true :=
  startsWith_iff.mpr ⟨s, rfl⟩

@[simp] theorem join_nil (sep : Char) : join sep [] = [] := rfl

@[simp] theorem join_singleton (sep : Char) (s : Str) : join sep [s] = s := by
  simp [join, List.intercalate]

theorem join_cons_cons (sep : Char) (s t : Str) (l : List Str) :
    join sep (s :: t :: l) = s ++ sep :: join sep (t :: l) := by
  simp [join, List.intercalate]

theorem join_append_singleton (sep : Char) (l : List Str) (s : Str) (h : l ≠ []) :
    join sep (l ++ [s]) = join sep l ++ sep :: s := by
  induction l with
  | nil => exact absurd rfl h
  | cons a l ih =>
      cases l with
      | nil => simp [join_cons_cons]
      | cons b l =>
          have := ih (List.cons_ne_nil _ _)
          rw [List.cons_append, List.cons_append, join_cons_cons, ← List.cons_append, this,
            join_cons_cons]
          simp

theorem infix_join_of_mem {sep : Char} {l : List Str} {s t : Str} (ht : t ∈ l) (hs : s <:+: t) :
    s <:+: join sep l := by
  induction l with
  | nil => cases ht
  | cons a l ih =>
      cases l with
      | nil =>
          rw [join_singleton, ← List.mem_singleton.mp ht]
          exact hs
      | cons b l =>
          rw [join_cons_cons]
          rcases List.mem_cons.mp ht with rfl | ht
          · exact hs.trans (List.prefix_append _ _).isInfix
          · exact (ih ht).trans (((List.suffix_cons _ _).trans (List.suffix_append _ _)).isInfix)

/-- A text without the separator occurs in a joined text when it occurs in a part. -/
theorem infix_join_iff {sep : Char} {l : List Str} {s : Str} (hs : sep ∉ s) (hne : s ≠ []) :
    s <:+: join sep l ↔ ∃ t ∈ l, s <:+: t := by
  refine ⟨fun h => ?_, fun ⟨t, ht, h⟩ => infix_join_of_mem ht h⟩
  induction l with
  | nil => exact absurd (List.infix_nil.mp h) hne
  | cons a l ih =>
      cases l with
      | nil =>
          rw [join_singleton] at h
          exact ⟨a, List.mem_singleton_self a, h⟩
      | cons b l =>
          rw [join_cons_cons] at h
          rcases infix_append_cons hs h with h | h
          · exact ⟨a, List.mem_cons_self, h⟩
          · obtain ⟨t, ht, h⟩ := ih h
            exact ⟨t, List.mem_cons_of_mem _ ht, h⟩

theorem splitOn_join {sep : Char} {l : List Str} (h : ∀ s ∈ l, sep ∉ s) (hl : l ≠ []) :
    (join sep l).splitOn sep = l :=
  List.splitOn_intercalate sep h hl

/-- The parts a text is split into do not contain the separator. -/
theorem notMem_of_mem_splitOn {sep : Char} {s part : Str} (h : part ∈ s.splitOn sep) :
    sep ∉ part := by
  induction s generalizing part with
  | nil =>
      rw [List.splitOn_nil, List.mem_singleton] at h
      simp [h]
  | cons c s ih =>
      rw [List.splitOn_cons_eq_if_modifyHead] at h
      split at h
      · rcases List.mem_cons.mp h with rfl | h
        · exact List.not_mem_nil
        · exact ih h
      · next hc =>
          obtain ⟨head, rest, hs⟩ := List.exists_cons_of_ne_nil (List.splitOn_ne_nil sep s)
          rw [hs] at ih h
          rcases List.mem_cons.mp h with rfl | h
          · have hne : sep ≠ c := fun he => hc (by simp [he])
            simp [hne, ih (List.mem_cons_self ..)]
          · exact ih (List.mem_cons_of_mem _ h)

theorem join_splitOn (sep : Char) (s : Str) : join sep (s.splitOn sep) = s :=
  List.intercalate_splitOn sep

/-- The first part of a text is what precedes a separator only if that is the first one. -/
theorem headD_splitOn_append_cons {sep : Char} {s p : Str} :
    ((s ++ sep :: p).splitOn sep).headD [] = s ↔ sep ∉ s := by
  constructor
  · intro h hs
    obtain ⟨part, rest, hsplit⟩ := List.exists_cons_of_ne_nil
      (List.splitOn_ne_nil sep (s ++ sep :: p))
    rw [hsplit, List.headD_cons] at h
    subst h
    exact notMem_of_mem_splitOn (hsplit ▸ List.mem_cons_self ..) hs
  · intro hs
    rw [List.splitOn_append_cons_self_of_not_mem hs]
    rfl

theorem join_eq_nil_iff {sep : Char} {l : List Str} (h : ∀ s ∈ l, s ≠ []) :
    join sep l = [] ↔ l = [] := by
  cases l with
  | nil => simp
  | cons s l =>
      have hs := h s (List.mem_cons_self ..)
      cases l with
      | nil => simp [hs]
      | cons t l => simp [join_cons_cons]

theorem rsplit_eq_none {sep : Char} {s : Str} (h : sep ∉ s) : rsplit sep s = none := by
  induction s with
  | nil => rfl
  | cons c s ih =>
      rw [List.mem_cons, not_or] at h
      simp [rsplit, ih h.2, Ne.symm h.1]

/-- The cut is made at the last separator. -/
theorem rsplit_append {sep : Char} (a b : Str) (h : sep ∉ b) :
    rsplit sep (a ++ sep :: b) = some (a, b) := by
  induction a with
  | nil => simp [rsplit, rsplit_eq_none h]
  | cons c a ih => simp [rsplit, ih]

theorem replaceFrom_skip (old new a s : Str) :
    replaceFrom old new a.length (a ++ s) = replaceFrom old new 0 s := by
  induction a with
  | nil => rfl
  | cons c a ih => simpa [replaceFrom] using ih

theorem replace_of_not_infix {old new s : Str} (h : ¬ old <:+: s) : replace old new s = s := by
  induction s with
  | nil => rfl
  | cons c s ih =>
      have hp : old.isPrefixOf (c :: s) = false := by
        rw [Bool.eq_false_iff]
        intro hp
        exact h (List.isPrefixOf_iff_prefix.mp hp).isInfix
      have hs : ¬ old <:+: s := fun hi => h (hi.trans (List.suffix_cons c s).isInfix)
      simp only [replace, replaceFrom, hp, Bool.false_eq_true, if_false]
      rw [show replaceFrom old new 0 s = s from ih hs]

theorem replace_cons_append (c : Char) (old new s : Str) :
    replace (c :: old) new (c :: old ++ s) = new ++ replace (c :: old) new s := by
  have hp : (c :: old).isPrefixOf (c :: (old ++ s)) = true :=
    List.isPrefixOf_iff_prefix.mpr ⟨s, rfl⟩
  rw [replace, List.cons_append, replaceFrom, if_pos hp]
  simp [replaceFrom_skip, replace]

/-- No occurrence starts inside a piece that lacks the first character of `old`. -/
theorem replace_append_of_notMem {c : Char} {old new a : Str} (s : Str) (h : c ∉ a) :
    replace (c :: old) new (a ++ s) = a ++ replace (c :: old) new s := by
  induction a with
  | nil => rfl
  | cons d a ih =>
      rw [List.mem_cons, not_or] at h
      have hp : (c :: old).isPrefixOf (d :: (a ++ s)) = false := by
        simp [List.isPrefixOf, h.1]
      rw [List.cons_append, replace, replaceFrom, if_neg (by simp [hp])]
      exact congrArg (d :: ·) (ih h.2)

theorem replace_cons_of_not_prefix {c : Char} {old new s : Str} (h : ¬ old <+: c :: s) :
    replace old new (c :: s) = c :: replace old new s := by
  have hp : old.isPrefixOf (c :: s) = false := by
    rw [Bool.eq_false_iff]
    exact fun hp => h (List.isPrefixOf_iff_prefix.mp hp)
  rw [replace, replaceFrom, if_neg (by simp [hp])]
  rfl

theorem isDigit_of_mem_ofNat {n : Nat} {c : Char} (h : c ∈ ofNat n) : c.isDigit = true :=
  Nat.isDigit_of_mem_toDigits (by decide) (by decide) h

theorem notMem_ofNat {c : Char} (hc : c.isDigit = false) (n : Nat) : c ∉ ofNat n :=
  fun h => by rw [isDigit_of_mem_ofNat h] at hc; cases hc

theorem ofNat_inj {n m : Nat} (h : ofNat n = ofNat m) : n = m := by
  rw [← Nat.ofDigitChars_ten_toDigits (n := n), ← Nat.ofDigitChars_ten_toDigits (n := m)]
  exact congrArg (Nat.ofDigitChars 10 · 0) h

theorem ofNat_ne_nil (n : Nat) : ofNat n ≠ [] := by
  rw [ofNat, Nat.toDigits_eq_if (by decide)]
  split <;> simp

end Str
