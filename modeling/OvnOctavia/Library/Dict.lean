import Mathlib.Algebra.Ring.Nat
import Mathlib.Data.List.Nodup
import Mathlib.Data.List.Basic

/-!
Dictionaries in the sense of a scripting language: finitely many bindings, one
for a key, visited in the order in which their keys were first inserted.
Overwriting a key keeps its place, a new key goes last.
-/

structure Dict (α β : Type) where
  items : List (α × β)
  nodup : (items.map Prod.fst).Nodup
  deriving DecidableEq

namespace Dict
variable {α β : Type}

theorem ext_items {d e : Dict α β} (h : d.items = e.items) : d = e := by
  cases d; cases e; cases h; rfl

def empty : Dict α β := ⟨[], List.nodup_nil⟩

instance : EmptyCollection (Dict α β) := ⟨empty⟩
instance : Inhabited (Dict α β) := ⟨empty⟩

def keys (d : Dict α β) : List α := d.items.map Prod.fst

variable [DecidableEq α]

def get? (d : Dict α β) (k : α) : Option β := d.items.lookup k

/-- `k in d`. -/
def contains (d : Dict α β) (k : α) : Bool := (d.get? k).isSome

def setItems (k : α) (v : β) : List (α × β) → List (α × β)
  | [] => [(k, v)]
  | b :: bs => if b.1 = k then (k, v) :: bs else b :: setItems k v bs

theorem map_fst_setItems (k : α) (v : β) (l : List (α × β)) :
    (setItems k v l).map Prod.fst =
      if k ∈ l.map Prod.fst then l.map Prod.fst else l.map Prod.fst ++ [k] := by
  induction l with
  | nil => simp [setItems]
  | cons b bs ih =>
      simp only [setItems]
      by_cases h : b.1 = k
      · simp [h]
      · simp only [if_neg h, List.map_cons, ih, List.mem_cons, Ne.symm h, false_or]
        split <;> simp

def set (d : Dict α β) (k : α) (v : β) : Dict α β where
  items := setItems k v d.items
  nodup := by
    rw [map_fst_setItems]
    split
    · exact d.nodup
    · next h => simpa using d.nodup.concat h

def erase (d : Dict α β) (k : α) : Dict α β where
  items := d.items.filter (fun b => b.1 ≠ k)
  nodup := d.nodup.sublist (List.filter_sublist.map _)

/-- `d.update(e)`: every binding of `e` is written into `d`, in order. -/
def update (d e : Dict α β) : Dict α β :=
  e.items.foldl (fun acc b => acc.set b.1 b.2) d

/-- `d == e`: the same bindings, in whatever order. -/
def same [DecidableEq β] (d e : Dict α β) : Bool :=
  d.items.all (fun b => e.get? b.1 = some b.2) && e.items.all fun b => d.get? b.1 = some b.2

def ofList (l : List (α × β)) : Dict α β :=
  l.foldl (fun acc b => acc.set b.1 b.2) empty

omit [DecidableEq α] in
theorem mem_keys_iff (d : Dict α β) (k : α) : k ∈ d.keys ↔ ∃ v, (k, v) ∈ d.items := by
  simp [keys]

private theorem lookup_eq_some_of_mem {l : List (α × β)} (hn : (l.map Prod.fst).Nodup)
    {k : α} {v : β} (h : (k, v) ∈ l) : l.lookup k = some v := by
  induction l with
  | nil => cases h
  | cons b bs ih =>
      obtain ⟨j, w⟩ := b
      rw [List.map_cons, List.nodup_cons] at hn
      by_cases hk : k = j
      · subst hk
        rcases List.mem_cons.mp h with h | h
        · cases h; simp
        · exact absurd (List.mem_map_of_mem (f := Prod.fst) h) hn.1
      · have hb : (k == j) = false := by simpa using hk
        rcases List.mem_cons.mp h with h | h
        · cases h; exact absurd rfl hk
        · simp only [List.lookup_cons, hb]; exact ih hn.2 h

private theorem mem_of_lookup_eq_some {l : List (α × β)} {k : α} {v : β}
    (h : l.lookup k = some v) : (k, v) ∈ l := by
  induction l with
  | nil => cases h
  | cons b bs ih =>
      obtain ⟨j, w⟩ := b
      by_cases hk : k = j
      · subst hk; simp at h; simp [h]
      · have hb : (k == j) = false := by simpa using hk
        simp only [List.lookup_cons, hb] at h
        exact List.mem_cons_of_mem _ (ih h)

theorem get?_eq_some_iff (d : Dict α β) (k : α) (v : β) :
    d.get? k = some v ↔ (k, v) ∈ d.items :=
  ⟨mem_of_lookup_eq_some, lookup_eq_some_of_mem d.nodup⟩

/-- The lookup is that of any lawful equality test. -/
theorem get?_eq_lookup [inst : BEq α] [LawfulBEq α] (d : Dict α β) (k : α) :
    d.get? k = @List.lookup α β inst k d.items := by
  rw [get?]
  congr 1
  exact lawful_beq_subsingleton _ _

theorem same_iff [DecidableEq β] {d e : Dict α β} :
    d.same e = true ↔ ∀ k, d.get? k = e.get? k := by
  simp only [same, Bool.and_eq_true, List.all_eq_true, decide_eq_true_eq, Prod.forall,
    ← get?_eq_some_iff]
  constructor
  · rintro ⟨hd, he⟩ k
    cases hk : d.get? k with
    | some v => exact (hd k v hk).symm
    | none =>
        cases hk' : e.get? k with
        | none => rfl
        | some v =>
            rw [he k v hk'] at hk
            cases hk
  · exact fun h => ⟨fun k v hk => h k ▸ hk, fun k v hk => (h k).trans hk⟩

theorem contains_iff (d : Dict α β) (k : α) : d.contains k = true ↔ k ∈ d.keys := by
  simp only [contains, Option.isSome_iff_exists, get?_eq_some_iff, mem_keys_iff]

theorem get?_eq_none_iff (d : Dict α β) (k : α) : d.get? k = none ↔ k ∉ d.keys := by
  rw [← contains_iff, contains]
  cases d.get? k <;> simp

theorem mem_keys_of_get? {d : Dict α β} {k : α} {v : β} (h : d.get? k = some v) : k ∈ d.keys := by
  rw [← contains_iff, contains, h]
  rfl

theorem contains_eq_false_iff (d : Dict α β) (k : α) : d.contains k = false ↔ k ∉ d.keys := by
  rw [← contains_iff]; simp

omit [DecidableEq α] in
@[simp] theorem items_empty : (∅ : Dict α β).items = [] := rfl
omit [DecidableEq α] in
@[simp] theorem keys_empty : (∅ : Dict α β).keys = [] := rfl
@[simp] theorem get?_empty (k : α) : (∅ : Dict α β).get? k = none := rfl
@[simp] theorem contains_empty (k : α) : (∅ : Dict α β).contains k = false := rfl

theorem keys_set (d : Dict α β) (k : α) (v : β) :
    (d.set k v).keys = if k ∈ d.keys then d.keys else d.keys ++ [k] :=
  map_fst_setItems k v d.items

theorem mem_keys_set (d : Dict α β) (k j : α) (v : β) :
    j ∈ (d.set k v).keys ↔ j = k ∨ j ∈ d.keys := by
  rw [keys_set]
  split
  · next h => constructor
              · exact Or.inr
              · rintro (rfl | h') <;> assumption
  · simp [or_comm]

theorem items_set_of_notMem {d : Dict α β} {k : α} (v : β) (h : k ∉ d.keys) :
    (d.set k v).items = d.items ++ [(k, v)] := by
  obtain ⟨l, hl⟩ := d
  simp only [set, keys] at h ⊢
  clear hl
  induction l with
  | nil => rfl
  | cons b bs ih =>
      rw [List.map_cons, List.mem_cons, not_or] at h
      simp [setItems, Ne.symm h.1, ih h.2]

theorem items_set_of_mem {d : Dict α β} {k : α} (v : β) (h : k ∈ d.keys) :
    (d.set k v).items = d.items.map (fun b => if b.1 = k then (k, v) else b) := by
  obtain ⟨l, hl⟩ := d
  simp only [set, keys] at h ⊢
  induction l with
  | nil => cases h
  | cons b bs ih =>
      rw [List.map_cons, List.nodup_cons] at hl
      by_cases hb : b.1 = k
      · subst hb
        have hrest : bs.map (fun c => if c.1 = b.1 then (b.1, v) else c) = bs.map id :=
          List.map_congr_left fun c hc => if_neg fun (e : c.1 = b.1) =>
            hl.1 (e ▸ List.mem_map_of_mem hc)
        simp [setItems, hrest]
      · have h' : k ∈ bs.map Prod.fst := by
          simpa [List.mem_cons, Ne.symm hb] using h
        simp [setItems, hb, ih hl.2 h']

theorem mem_items_set (d : Dict α β) (k : α) (v : β) (b : α × β) :
    b ∈ (d.set k v).items ↔ b = (k, v) ∨ (b ∈ d.items ∧ b.1 ≠ k) := by
  by_cases h : k ∈ d.keys
  · rw [items_set_of_mem v h, List.mem_map]
    constructor
    · rintro ⟨c, hc, rfl⟩
      by_cases hk : c.1 = k
      · simp [hk]
      · simp [hk, hc]
    · rintro (rfl | ⟨hb, hk⟩)
      · obtain ⟨w, hw⟩ := (mem_keys_iff d k).mp h
        exact ⟨(k, w), hw, by simp⟩
      · exact ⟨b, hb, if_neg hk⟩
  · rw [items_set_of_notMem v h, List.mem_append, List.mem_singleton]
    constructor
    · rintro (hb | rfl)
      · exact Or.inr ⟨hb, fun e => h (e ▸ List.mem_map_of_mem hb)⟩
      · exact Or.inl rfl
    · rintro (rfl | ⟨hb, _⟩)
      · exact Or.inr rfl
      · exact Or.inl hb

theorem mem_items_erase (d : Dict α β) (k : α) (b : α × β) :
    b ∈ (d.erase k).items ↔ b ∈ d.items ∧ b.1 ≠ k := by
  simp [erase]

theorem keys_erase (d : Dict α β) (k : α) : (d.erase k).keys = d.keys.filter (· ≠ k) := by
  simp only [keys, erase, List.filter_map]
  rfl

theorem mem_keys_erase (d : Dict α β) (k j : α) : j ∈ (d.erase k).keys ↔ j ∈ d.keys ∧ j ≠ k := by
  simp [keys_erase]

@[simp] theorem get?_set_self (d : Dict α β) (k : α) (v : β) : (d.set k v).get? k = some v := by
  rw [get?_eq_some_iff, mem_items_set]; exact Or.inl rfl

theorem get?_set_of_ne (d : Dict α β) {k j : α} (v : β) (h : j ≠ k) :
    (d.set k v).get? j = d.get? j := by
  apply Option.ext
  intro w
  rw [get?_eq_some_iff, get?_eq_some_iff, mem_items_set]
  simp [h]

theorem get?_set (d : Dict α β) (k j : α) (v : β) :
    (d.set k v).get? j = if j = k then some v else d.get? j := by
  split
  · next h => rw [h, get?_set_self]
  · next h => exact get?_set_of_ne d v h

@[simp] theorem get?_erase_self (d : Dict α β) (k : α) : (d.erase k).get? k = none := by
  rw [get?_eq_none_iff, mem_keys_erase]; simp

theorem get?_erase_of_ne (d : Dict α β) {k j : α} (h : j ≠ k) :
    (d.erase k).get? j = d.get? j := by
  apply Option.ext
  intro w
  rw [get?_eq_some_iff, get?_eq_some_iff, mem_items_erase]
  simp [h]

theorem get?_erase (d : Dict α β) (k j : α) :
    (d.erase k).get? j = if j = k then none else d.get? j := by
  split
  · next h => rw [h, get?_erase_self]
  · next h => exact get?_erase_of_ne d h

theorem set_of_get? {d : Dict α β} {k : α} {v : β} (h : d.get? k = some v) : d.set k v = d := by
  apply ext_items
  have hm := (get?_eq_some_iff d k v).mp h
  rw [items_set_of_mem v ((mem_keys_iff d k).mpr ⟨v, hm⟩)]
  conv_rhs => rw [← List.map_id d.items]
  apply List.map_congr_left
  intro b hb
  split
  · next e =>
      have : d.get? b.1 = some b.2 := (get?_eq_some_iff d _ _).mpr hb
      rw [e, h] at this
      cases this
      exact Prod.ext e.symm rfl
  · rfl

theorem erase_of_notMem {d : Dict α β} {k : α} (h : k ∉ d.keys) : d.erase k = d := by
  apply ext_items
  apply List.filter_eq_self.mpr
  intro b hb
  have hne : b.1 ≠ k := fun e => h (e ▸ List.mem_map_of_mem hb)
  simpa using hne

theorem erase_set_self {d : Dict α β} {k : α} (v : β) (h : k ∉ d.keys) :
    (d.set k v).erase k = d := by
  have hself : d.items.filter (fun b => b.1 ≠ k) = d.items := congrArg items (erase_of_notMem h)
  apply ext_items
  change (d.set k v).items.filter (fun b => b.1 ≠ k) = d.items
  rw [items_set_of_notMem v h, List.filter_append, hself]
  simp

theorem set_set_self (d : Dict α β) (k : α) (v w : β) : (d.set k v).set k w = d.set k w := by
  apply ext_items
  have key : ∀ l : List (α × β), setItems k w (setItems k v l) = setItems k w l := by
    intro l
    induction l with
    | nil => simp [setItems]
    | cons b bs ih =>
        by_cases hb : b.1 = k
        · simp [setItems, hb]
        · simp [setItems, hb, ih]
  exact key d.items

/-- Moving a binding to a new key can be done in either order. -/
theorem erase_set_of_ne (d : Dict α β) {k j : α} (v : β) (h : k ≠ j) :
    (d.set k v).erase j = (d.erase j).set k v := by
  apply ext_items
  have key : ∀ l : List (α × β), (setItems k v l).filter (fun b => b.1 ≠ j) =
      setItems k v (l.filter (fun b => b.1 ≠ j)) := by
    intro l
    induction l with
    | nil => simp [setItems, h]
    | cons b bs ih =>
        by_cases hb : b.1 = k
        · have hbj : b.1 ≠ j := hb ▸ h
          simp [setItems, hb, h]
        · by_cases hbj : b.1 = j
          · have hjk : j ≠ k := Ne.symm h
            simpa [setItems, hjk, hbj] using ih
          · simpa [setItems, hb, hbj] using ih
  exact key d.items

/-- Same keys in the same places and same values make the same dictionary. -/
theorem ext_get? {d e : Dict α β} (hk : d.keys = e.keys) (hg : ∀ k, d.get? k = e.get? k) :
    d = e := by
  apply ext_items
  have hl : d.items.length = e.items.length := by
    simpa [keys] using congrArg List.length hk
  apply List.ext_getElem hl
  intro i h₁ h₂
  have hfst : d.items[i].1 = e.items[i].1 := by
    have := congrArg (fun l : List α => l[i]?) hk
    simpa [keys, h₁, h₂] using this
  have hd : d.get? d.items[i].1 = some d.items[i].2 :=
    (get?_eq_some_iff d _ _).mpr (List.getElem_mem h₁)
  have he : e.get? e.items[i].1 = some e.items[i].2 :=
    (get?_eq_some_iff e _ _).mpr (List.getElem_mem h₂)
  rw [hg, hfst, he] at hd
  exact Prod.ext hfst (Option.some.inj hd).symm

private theorem keys_foldl_set (l : List (α × β)) (d : Dict α β) (hn : (l.map Prod.fst).Nodup) :
    (l.foldl (fun acc b => acc.set b.1 b.2) d).keys =
      d.keys ++ (l.map Prod.fst).filter (fun k => k ∉ d.keys) := by
  induction l generalizing d with
  | nil => simp
  | cons b bs ih =>
      rw [List.map_cons, List.nodup_cons] at hn
      rw [List.foldl_cons, ih _ hn.2, keys_set]
      by_cases hb : b.1 ∈ d.keys
      · simp [hb]
      · have hrest : (bs.map Prod.fst).filter (fun k => k ∉ d.keys ++ [b.1]) =
            (bs.map Prod.fst).filter (fun k => k ∉ d.keys) := by
          apply List.filter_congr
          intro k hk
          have : k ≠ b.1 := fun e => hn.1 (e ▸ hk)
          simp [this]
        rw [if_neg hb, hrest]
        simp [hb]

private theorem get?_foldl_set (l : List (α × β)) (d : Dict α β) (hn : (l.map Prod.fst).Nodup)
    (k : α) : (l.foldl (fun acc b => acc.set b.1 b.2) d).get? k = (l.lookup k).or (d.get? k) := by
  induction l generalizing d with
  | nil => simp
  | cons b bs ih =>
      obtain ⟨j, w⟩ := b
      rw [List.map_cons, List.nodup_cons] at hn
      rw [List.foldl_cons, ih _ hn.2, get?_set]
      by_cases hk : k = j
      · subst hk
        have hnone : bs.lookup k = none := by
          rw [List.lookup_eq_none_iff]
          intro c hc
          have hm : c.1 ∈ bs.map Prod.fst := List.mem_map_of_mem hc
          have : k ≠ c.1 := fun e => hn.1 (e ▸ hm)
          simpa using this
        simp [hnone]
      · have hb : (k == j) = false := by simpa using hk
        simp [List.lookup_cons, hb, hk]

theorem keys_update (d e : Dict α β) :
    (d.update e).keys = d.keys ++ e.keys.filter (fun k => k ∉ d.keys) :=
  keys_foldl_set e.items d e.nodup

theorem get?_update (d e : Dict α β) (k : α) : (d.update e).get? k = (e.get? k).or (d.get? k) :=
  get?_foldl_set e.items d e.nodup k

/-- Writing bindings that are there changes nothing. -/
theorem update_of_get? {d e : Dict α β} (h : ∀ k v, e.get? k = some v → d.get? k = some v) :
    d.update e = d := by
  have hfold : ∀ l : List (α × β), (∀ b ∈ l, d.get? b.1 = some b.2) →
      l.foldl (fun acc b => acc.set b.1 b.2) d = d := by
    intro l hl
    induction l with
    | nil => rfl
    | cons b l ih =>
        rw [List.foldl_cons, set_of_get? (hl b List.mem_cons_self)]
        exact ih fun c hc => hl c (List.mem_cons_of_mem _ hc)
  exact hfold e.items fun b hb => h b.1 b.2 ((get?_eq_some_iff _ _ _).mpr hb)

/-- Written over a dictionary, bindings are all there is if they cover its keys. -/
theorem update_same_iff [DecidableEq β] {d e : Dict α β} :
    (d.update e).same e = true ↔ ∀ k ∈ d.keys, k ∈ e.keys := by
  rw [same_iff]
  constructor
  · intro h k hk
    by_contra hne
    have hget := h k
    rw [get?_update, (get?_eq_none_iff _ _).mpr hne, Option.none_or, get?_eq_none_iff] at hget
    exact hget hk
  · intro h k
    rw [get?_update]
    cases hk : e.get? k with
    | some v => rfl
    | none =>
        rw [get?_eq_none_iff] at hk
        rw [Option.none_or, get?_eq_none_iff]
        exact fun hd => hk (h k hd)

/-- Writing back a dictionary whose keys extend the present ones, in their
order, leaves exactly that dictionary. -/
theorem update_of_keys_prefix {d e : Dict α β} (h : d.keys <+: e.keys) : d.update e = e := by
  obtain ⟨rest, hr⟩ := h
  have hn : e.keys.Nodup := e.nodup
  apply ext_get?
  · rw [keys_update, ← hr, List.filter_append]
    have h₁ : d.keys.filter (fun k => k ∉ d.keys) = [] := by
      rw [List.filter_eq_nil_iff]; simp
    have h₂ : rest.filter (fun k => k ∉ d.keys) = rest := by
      rw [List.filter_eq_self]
      intro k hk
      rw [← hr, List.nodup_append] at hn
      simpa using fun hd => hn.2.2 k hd k hk rfl
    rw [h₁, h₂, List.nil_append]
  · intro k
    rw [get?_update]
    cases hk : e.get? k with
    | some v => rfl
    | none =>
        have : k ∉ d.keys := by
          have := (get?_eq_none_iff e k).mp hk
          rw [← hr, List.mem_append, not_or] at this
          exact this.1
        rw [(get?_eq_none_iff d k).mpr this]; rfl

@[simp] theorem update_self (d : Dict α β) : d.update d = d :=
  update_of_keys_prefix (List.prefix_refl _)

@[simp] theorem empty_update (d : Dict α β) : (∅ : Dict α β).update d = d :=
  update_of_keys_prefix List.nil_prefix

@[simp] theorem update_empty (d : Dict α β) : d.update ∅ = d := rfl

@[simp] theorem ofList_items (d : Dict α β) : ofList d.items = d := empty_update d

def single (k : α) (v : β) : Dict α β := empty.set k v

@[simp] theorem update_single (d : Dict α β) (k : α) (v : β) : d.update (single k v) = d.set k v :=
  rfl

section Selected
variable {γ : Type} {d : Dict α β} {k : α} {f : α × β → Option γ}

/-- A key that a selection passes over can be written and erased freely. -/
theorem filterMap_items_set (v : β) (h : ∀ w, f (k, w) = none) :
    (d.set k v).items.filterMap f = d.items.filterMap f := by
  simp only [set]
  generalize d.items = l
  induction l with
  | nil => simp [setItems, h v]
  | cons b bs ih =>
      rw [setItems]
      by_cases hb : b.1 = k
      · have hnone : f b = none := by
          have := h b.2
          rwa [← hb] at this
        rw [if_pos hb, List.filterMap_cons_none (h v), List.filterMap_cons_none hnone]
      · rw [if_neg hb, List.filterMap_cons, List.filterMap_cons, ih]

theorem filterMap_items_erase (h : ∀ w, f (k, w) = none) :
    (d.erase k).items.filterMap f = d.items.filterMap f := by
  simp only [erase, List.filterMap_filter]
  refine List.filterMap_congr fun b _ => ?_
  by_cases hb : b.1 = k
  · have hnone := h b.2
    rw [← hb] at hnone
    rw [hnone]
    simp [hb]
  · simp [hb]

end Selected

section Sums
variable {d : Dict α β} {k : α} (f : α × β → Nat)

/-- What the bindings add up to after one was overwritten. -/
theorem sum_set_of_get? {w : β} (v : β) (h : d.get? k = some w) :
    ((d.set k v).items.map f).sum + f (k, w) = (d.items.map f).sum + f (k, v) := by
  obtain ⟨l, hl⟩ := d
  have hm := (get?_eq_some_iff _ _ _).mp h
  simp only [set] at hm ⊢
  clear h
  induction l with
  | nil => cases hm
  | cons b bs ih =>
      rw [List.map_cons, List.nodup_cons] at hl
      rw [setItems]
      by_cases hb : b.1 = k
      · have he : b = (k, w) := by
          rcases List.mem_cons.mp hm with rfl | hm
          · rfl
          · exact absurd (hb ▸ List.mem_map_of_mem (f := Prod.fst) hm) hl.1
        subst he
        simp only [if_true, List.map_cons, List.sum_cons]
        omega
      · have hm' : (k, w) ∈ bs := by
          rcases List.mem_cons.mp hm with rfl | hm
          · exact absurd rfl hb
          · exact hm
        have := ih hl.2 hm'
        simp only [if_neg hb, List.map_cons, List.sum_cons]
        omega

theorem sum_set_of_notMem (v : β) (h : k ∉ d.keys) :
    ((d.set k v).items.map f).sum = (d.items.map f).sum + f (k, v) := by
  rw [items_set_of_notMem v h, List.map_append, List.sum_append, List.map_singleton,
    List.sum_singleton]

/-- A key whose bindings count nothing can be written and erased freely. -/
theorem sum_set_of_zero (v : β) (h : ∀ w, f (k, w) = 0) :
    ((d.set k v).items.map f).sum = (d.items.map f).sum := by
  cases hk : d.get? k with
  | none => rw [sum_set_of_notMem f v ((get?_eq_none_iff d k).mp hk), h v, Nat.add_zero]
  | some w =>
      have := sum_set_of_get? f v hk
      rwa [h v, h w] at this

theorem sum_erase_of_zero (h : ∀ w, f (k, w) = 0) :
    ((d.erase k).items.map f).sum = (d.items.map f).sum := by
  simp only [erase]
  generalize d.items = l
  induction l with
  | nil => rfl
  | cons b bs ih =>
      by_cases hb : b.1 = k
      · have hzero : f b = 0 := by
          have := h b.2
          rwa [← hb] at this
        rw [List.filter_cons_of_neg (by simp [hb]), ih, List.map_cons, List.sum_cons, hzero,
          Nat.zero_add]
      · rw [List.filter_cons_of_pos (by simp [hb]), List.map_cons, List.map_cons, List.sum_cons,
          List.sum_cons, ih]

end Sums

end Dict
