import OvnOctavia.Library.Text
import OvnOctavia.Library.Dict

/-!
The JSON texts of flat values: an object of texts or of counts, and an array of
texts, in the layout of the standard encoder (`", "` between items, `": "`
after a key). The reader accepts what the writer writes; for these values
reading back is the identity.
-/

namespace Json

section Sequences
variable {γ : Type}

def showTail (close : Char) (item : γ → Str) : List γ → Str
  | [] => [close]
  | x :: xs => ',' :: ' ' :: (item x ++ showTail close item xs)

def showSeq (opening close : Char) (item : γ → Str) : List γ → Str
  | [] => [opening, close]
  | x :: xs => opening :: (item x ++ showTail close item xs)

def readTail (close : Char) (read : Str → Option (γ × Str)) : Nat → Str → Option (List γ)
  | 0, _ => none
  | n + 1, s =>
      if s = [close] then some [] else
        match s with
        | ',' :: ' ' :: r => (read r).bind fun (x, r) => (readTail close read n r).map (x :: ·)
        | _ => none

def readSeq (opening close : Char) (read : Str → Option (γ × Str)) (s : Str) :
    Option (List γ) :=
  if s = [opening, close] then some [] else
    match s with
    | c :: r =>
        if c = opening then
          (read r).bind fun (x, r) => (readTail close read (r.length + 1) r).map (x :: ·)
        else none
    | [] => none

/-- What follows an item: the end of the sequence or the next item. -/
def Follows (close : Char) (r : Str) : Prop := ∃ c t, r = c :: t ∧ (c = close ∨ c = ',')

theorem follows_showTail (close : Char) (item : γ → Str) (xs : List γ) :
    Follows close (showTail close item xs) := by
  cases xs with
  | nil => exact ⟨close, [], rfl, Or.inl rfl⟩
  | cons x xs => exact ⟨',', _, rfl, Or.inr rfl⟩

theorem length_lt_showTail (close : Char) (item : γ → Str) (xs : List γ) :
    xs.length < (showTail close item xs).length := by
  induction xs with
  | nil => simp [showTail]
  | cons x xs ih => simp only [showTail, List.length_cons, List.length_append]; omega

variable {close : Char} {item : γ → Str} {read : Str → Option (γ × Str)}

theorem readTail_showTail
    (hread : ∀ x r, Follows close r → read (item x ++ r) = some (x, r))
    (xs : List γ) (n : Nat) (hn : xs.length < n) :
    readTail close read n (showTail close item xs) = some xs := by
  induction xs generalizing n with
  | nil =>
      cases n with
      | zero => exact absurd hn (Nat.not_lt_zero _)
      | succ n => simp [readTail, showTail]
  | cons x xs ih =>
      cases n with
      | zero => exact absurd hn (Nat.not_lt_zero _)
      | succ n =>
          have hx := hread x _ (follows_showTail close item xs)
          have hxs := ih n (by simpa using hn)
          simp [readTail, showTail, hx, hxs]

theorem readSeq_showSeq {opening : Char}
    (hread : ∀ x r, Follows close r → read (item x ++ r) = some (x, r))
    (hitem : ∀ x r, item x ++ r ≠ [close]) (xs : List γ) :
    readSeq opening close read (showSeq opening close item xs) = some xs := by
  cases xs with
  | nil => simp [readSeq, showSeq]
  | cons x xs =>
      have hx := hread x _ (follows_showTail close item xs)
      have hxs := readTail_showTail hread xs _
        (Nat.lt_succ_of_lt (length_lt_showTail close item xs))
      simp [readSeq, showSeq, hitem, hx, hxs]

end Sequences

def escape : Str → Str
  | [] => []
  | c :: s => if c = '"' ∨ c = '\\' then '\\' :: c :: escape s else c :: escape s

def quote (s : Str) : Str := '"' :: (escape s ++ ['"'])

def readChars : Str → Option (Str × Str)
  | [] => none
  | '"' :: s => some ([], s)
  | ['\\'] => none
  | '\\' :: c :: s => (readChars s).map fun (t, r) => (c :: t, r)
  | c :: s => (readChars s).map fun (t, r) => (c :: t, r)

def readQuoted : Str → Option (Str × Str)
  | '"' :: s => readChars s
  | _ => none

theorem readChars_escape (s r : Str) : readChars (escape s ++ '"' :: r) = some (s, r) := by
  induction s with
  | nil => simp [escape, readChars]
  | cons c s ih =>
      by_cases hc : c = '"' ∨ c = '\\'
      · simp [escape, hc, readChars, ih]
      · obtain ⟨h₁, h₂⟩ := not_or.mp hc
        have hr : readChars (c :: (escape s ++ '"' :: r)) =
            (readChars (escape s ++ '"' :: r)).map fun (t, r) => (c :: t, r) := by
          rw [readChars] <;> simp_all
        simp [escape, hr, h₁, h₂, ih]

theorem readQuoted_quote (s r : Str) : readQuoted (quote s ++ r) = some (s, r) := by
  simp [quote, readQuoted, readChars_escape]

/-- One binding of an object, its value written and read by the given pair. -/
def showBinding {β : Type} (val : β → Str) (b : Str × β) : Str :=
  quote b.1 ++ ':' :: ' ' :: val b.2

def readBinding {β : Type} (val : Str → Option (β × Str)) (s : Str) :
    Option ((Str × β) × Str) :=
  match readQuoted s with
  | some (k, ':' :: ' ' :: r) => (val r).map fun (v, r) => ((k, v), r)
  | _ => none

theorem readBinding_showBinding {β : Type} {val : β → Str} {read : Str → Option (β × Str)}
    (b : Str × β) (r : Str) (h : read (val b.2 ++ r) = some (b.2, r)) :
    readBinding read (showBinding val b ++ r) = some (b, r) := by
  simp only [readBinding, showBinding, List.append_assoc, readQuoted_quote, List.cons_append, h,
    Option.map_some]

def showCount (n : Nat) : Str := Str.ofNat n

def readCount (s : Str) : Option (Nat × Str) :=
  match s.takeWhile Char.isDigit with
  | [] => none
  | ds => some (Nat.ofDigitChars 10 ds 0, s.dropWhile Char.isDigit)

theorem readCount_showCount (n : Nat) (r : Str) (h : Follows '}' r) :
    readCount (showCount n ++ r) = some (n, r) := by
  obtain ⟨c, t, rfl, hc⟩ := h
  have hd : c.isDigit = false := by rcases hc with rfl | rfl <;> decide
  have hall : ∀ x ∈ Str.ofNat n, x.isDigit = true := fun x hx => Str.isDigit_of_mem_ofNat hx
  have htake : (Str.ofNat n ++ c :: t).takeWhile Char.isDigit = Str.ofNat n := by
    rw [List.takeWhile_append_of_pos hall]; simp [hd]
  have hdrop : (Str.ofNat n ++ c :: t).dropWhile Char.isDigit = c :: t := by
    rw [List.dropWhile_append_of_pos hall]; simp [hd]
  have hval : Nat.ofDigitChars 10 (Str.ofNat n) 0 = n := by
    simp [Str.ofNat]
  rw [readCount, showCount, htake, hdrop]
  cases hs : Str.ofNat n with
  | nil => exact absurd hs (Str.ofNat_ne_nil n)
  | cons d ds => simp [← hs, hval]

/-- `dumps` and `loads` of an object whose values are texts. -/
def dumpsTexts (d : Dict Str Str) : Str := showSeq '{' '}' (showBinding quote) d.items

def loadsTexts (s : Str) : Option (Dict Str Str) :=
  (readSeq '{' '}' (readBinding readQuoted) s).map Dict.ofList

@[simp] theorem loadsTexts_dumpsTexts (d : Dict Str Str) :
    loadsTexts (dumpsTexts d) = some d := by
  have h : readSeq '{' '}' (readBinding readQuoted) (dumpsTexts d) = some d.items := readSeq_showSeq
    (fun b r _ => readBinding_showBinding b r (readQuoted_quote b.2 r))
    (fun b r => by simp [showBinding, quote]) d.items
  rw [loadsTexts, h, Option.map_some, Dict.ofList_items]

/-- `dumps` and `loads` of an object whose values are counts. -/
def dumpsCounts (d : Dict Str Nat) : Str := showSeq '{' '}' (showBinding showCount) d.items

def loadsCounts (s : Str) : Option (Dict Str Nat) :=
  (readSeq '{' '}' (readBinding readCount) s).map Dict.ofList

@[simp] theorem loadsCounts_dumpsCounts (d : Dict Str Nat) :
    loadsCounts (dumpsCounts d) = some d := by
  have h : readSeq '{' '}' (readBinding readCount) (dumpsCounts d) = some d.items := readSeq_showSeq
    (fun b r hr => readBinding_showBinding b r (readCount_showCount b.2 r hr))
    (fun b r => by simp [showBinding, quote]) d.items
  rw [loadsCounts, h, Option.map_some, Dict.ofList_items]

/-- `dumps` and `loads` of an array of texts. -/
def dumpsList (l : List Str) : Str := showSeq '[' ']' quote l

def loadsList (s : Str) : Option (List Str) := readSeq '[' ']' readQuoted s

@[simp] theorem loadsList_dumpsList (l : List Str) : loadsList (dumpsList l) = some l :=
  readSeq_showSeq (fun s r _ => readQuoted_quote s r) (fun s r => by simp [quote]) l

theorem escape_of_notMem {s : Str} (hq : '"' ∉ s) (hb : '\\' ∉ s) : escape s = s := by
  induction s with
  | nil => rfl
  | cons c s ih =>
      simp only [List.mem_cons, not_or] at hq hb
      rw [escape, if_neg (not_or.mpr ⟨fun h => hq.1 h.symm, fun h => hb.1 h.symm⟩), ih hq.2 hb.2]

/-- A text without the marks of the layout occurs in an array inside of an item. -/
theorem infix_dumpsList {u : Str} {l : List Str} (hu : u ≠ [])
    (hm : ∀ c ∈ ['[', ']', ',', ' ', '"'], c ∉ u) (h : u <:+: dumpsList l) :
    ∃ s ∈ l, u <:+: escape s := by
  have hnil : ¬ u <:+: [] := fun hn => hu (List.infix_nil.mp hn)
  have hskip : ∀ {c : Char} {b : Str}, c ∈ ['[', ']', ',', ' ', '"'] → u <:+: c :: b → u <:+: b :=
    fun {c b} hc h => (Str.infix_append_cons (a := []) (hm c hc) h).resolve_left hnil
  have hquote : ∀ {s r : Str}, u <:+: quote s ++ r → u <:+: escape s ∨ u <:+: r := by
    intro s r h
    have h : u <:+: '"' :: (escape s ++ '"' :: r) := by simpa [quote] using h
    exact Str.infix_append_cons (hm '"' (by simp)) (hskip (by simp) h)
  have htail : ∀ l : List Str, u <:+: showTail ']' quote l → ∃ s ∈ l, u <:+: escape s := by
    intro l h
    induction l with
    | nil => exact absurd (hskip (by simp) h) hnil
    | cons s l ih =>
        rcases hquote (hskip (by simp) (hskip (by simp) h)) with h | h
        · exact ⟨s, List.mem_cons_self .., h⟩
        · obtain ⟨t, ht, h⟩ := ih h
          exact ⟨t, List.mem_cons_of_mem _ ht, h⟩
  cases l with
  | nil => exact absurd (hskip (by simp) (hskip (by simp) h)) hnil
  | cons s l =>
      rcases hquote (hskip (by simp) h) with h | h
      · exact ⟨s, List.mem_cons_self .., h⟩
      · obtain ⟨t, ht, h⟩ := htail l h
        exact ⟨t, List.mem_cons_of_mem _ ht, h⟩

theorem item_infix_showSeq {γ : Type} {x : γ} {xs : List γ} (opening close : Char) (item : γ → Str)
    (h : x ∈ xs) : item x <:+: showSeq opening close item xs := by
  have htail : ∀ {xs : List γ}, x ∈ xs → item x <:+: showTail close item xs := by
    intro xs h
    induction xs with
    | nil => cases h
    | cons y xs ih =>
        rcases List.mem_cons.mp h with rfl | h
        · exact ⟨[',', ' '], showTail close item xs, by simp [showTail]⟩
        · have hsub : showTail close item xs <:+: showTail close item (y :: xs) :=
            ⟨',' :: ' ' :: item y, [], by simp [showTail]⟩
          exact (ih h).trans hsub
  cases xs with
  | nil => cases h
  | cons y xs =>
      rcases List.mem_cons.mp h with rfl | h
      · exact ⟨[opening], showTail close item xs, by simp [showSeq]⟩
      · have hsub : showTail close item xs <:+: showSeq opening close item (y :: xs) :=
          ⟨opening :: item y, [], by simp [showSeq]⟩
        exact (htail h).trans hsub

/-- The keys of an object occur in its text. -/
theorem key_infix_dumpsCounts {k : Str} {d : Dict Str Nat} (h : k ∈ d.keys) :
    escape k <:+: dumpsCounts d := by
  obtain ⟨b, hb, rfl⟩ := List.mem_map.mp h
  have hitem : escape b.1 <:+: showBinding showCount b :=
    ⟨['"'], '"' :: ':' :: ' ' :: showCount b.2, by simp [showBinding, quote]⟩
  exact hitem.trans (item_infix_showSeq '{' '}' _ hb)

end Json
