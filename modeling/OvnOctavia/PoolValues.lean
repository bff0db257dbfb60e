import OvnOctavia.Member
import OvnOctavia.Services

/-!
Pool values as lists of members: how a value is read back, extended and cut, and
the backends it stands for. The texts of well-formed members contain none of the
separators in the wrong place.
-/

namespace OvnOctavia

/-- A member as an item of a pool value. -/
def MemberData.text (d : MemberData) : Str := memberText d.id d.ip d.port d.subnet

def poolValue (ds : List MemberData) : Str := Str.join ',' (ds.map MemberData.text)

/-- A member as Octavia describes it: an id, an address, a port and a subnet. -/
structure MemberData.WellFormed (env : Env) (d : MemberData) : Prop where
  id : IsUuid d.id
  address : (env.ipVersion d.ip).isSome
  ip_chars : '_' ∉ d.ip ∧ ',' ∉ d.ip
  port_chars : ∀ c ∈ d.port, c.isDigit
  subnet_chars : '_' ∉ d.subnet ∧ ',' ∉ d.subnet

/-- A member whose parts have none of the separators of an item. -/
structure MemberData.Plain (d : MemberData) : Prop where
  id_chars : '_' ∉ d.id ∧ ',' ∉ d.id
  ip_chars : '_' ∉ d.ip ∧ ',' ∉ d.ip
  port_chars : ∀ c ∈ d.port, c.isDigit
  subnet_chars : '_' ∉ d.subnet ∧ ',' ∉ d.subnet

section Texts
variable {env : Env} {d d' : MemberData} {ds : List MemberData}

namespace MemberData.Plain

theorem notMem_port (hd : d.Plain) {c : Char} (hc : c.isDigit = false) : c ∉ d.port := by
  intro hm
  rw [hd.port_chars c hm] at hc
  cases hc

theorem extract (hd : d.Plain) : extractMember d.text = .ok d :=
  extractMember_memberText hd.id_chars.1 hd.ip_chars.1 (hd.notMem_port rfl)
    (hd.notMem_port rfl) hd.subnet_chars.1

theorem comma (hd : d.Plain) : ',' ∉ d.text :=
  comma_notMem_memberText hd.id_chars.2 hd.ip_chars.2 (hd.notMem_port rfl) hd.subnet_chars.2

theorem splitOn_text (hd : d.Plain) :
    d.text.splitOn '_' = ["member".toList, d.id, d.ip ++ ':' :: d.port, d.subnet] :=
  splitOn_memberText hd.id_chars.1 hd.ip_chars.1 (hd.notMem_port rfl) hd.subnet_chars.1

end MemberData.Plain

namespace MemberData.WellFormed

theorem plain (hd : d.WellFormed env) : d.Plain where
  id_chars := ⟨hd.id.notMem (by decide), hd.id.notMem (by decide)⟩
  ip_chars := hd.ip_chars
  port_chars := hd.port_chars
  subnet_chars := hd.subnet_chars

theorem notMem_port (hd : d.WellFormed env) {c : Char} (hc : c.isDigit = false) : c ∉ d.port :=
  hd.plain.notMem_port hc

theorem extract (hd : d.WellFormed env) : extractMember d.text = .ok d := hd.plain.extract

theorem comma (hd : d.WellFormed env) : ',' ∉ d.text := hd.plain.comma

theorem memberIdOf_text (hd : d.WellFormed env) : memberIdOf d.text = .ok d.id :=
  memberIdOf_memberText (hd.id.notMem (by decide))

end MemberData.WellFormed

theorem MemberData.text_ne_nil (d : MemberData) : d.text ≠ [] :=
  memberText_ne_nil d.id d.ip d.port d.subnet

theorem MemberData.text_inj (hd : d.WellFormed env) (hd' : d'.WellFormed env)
    (h : d.text = d'.text) : d = d' := by
  have := hd.extract
  rw [h, hd'.extract] at this
  exact (Except.ok.inj this).symm

@[simp] theorem poolValue_nil : poolValue [] = [] := rfl

theorem poolValue_eq_nil_iff : poolValue ds = [] ↔ ds = [] := by
  rw [poolValue, Str.join_eq_nil_iff, List.map_eq_nil_iff]
  intro s hs
  obtain ⟨d, -, rfl⟩ := List.mem_map.mp hs
  exact d.text_ne_nil

theorem splitOn_poolValue_of_plain (hp : ∀ d ∈ ds, d.Plain) (hne : ds ≠ []) :
    (poolValue ds).splitOn ',' = ds.map MemberData.text := by
  refine Str.splitOn_join (fun s hs => ?_) fun h => hne (List.map_eq_nil_iff.mp h)
  obtain ⟨d, hd, rfl⟩ := List.mem_map.mp hs
  exact (hp d hd).comma

theorem splitOn_poolValue (hw : ∀ d ∈ ds, d.WellFormed env) (hne : ds ≠ []) :
    (poolValue ds).splitOn ',' = ds.map MemberData.text :=
  splitOn_poolValue_of_plain (fun d hd => (hw d hd).plain) hne

theorem poolItems_poolValue (hw : ∀ d ∈ ds, d.WellFormed env) :
    poolItems (poolValue ds) = ds.map MemberData.text := by
  by_cases hne : ds = []
  · rw [hne]; rfl
  · rw [poolItems, if_neg (fun h => hne (poolValue_eq_nil_iff.mp h)), splitOn_poolValue hw hne]

private theorem mapM_extractMember (hp : ∀ d ∈ ds, d.Plain) :
    (ds.map MemberData.text).mapM extractMember = .ok ds := by
  induction ds with
  | nil => rfl
  | cons d ds ih =>
      rw [List.map_cons, List.mapM_cons, (hp d (List.mem_cons_self ..)).extract,
        ih fun d hd => hp d (List.mem_cons_of_mem _ hd)]
      rfl

/-- A pool value is read back as the members it was written from. -/
theorem extractMemberInfo_of_plain (hp : ∀ d ∈ ds, d.Plain) :
    extractMemberInfo (poolValue ds) = .ok ds := by
  by_cases hne : ds = []
  · rw [hne]; rfl
  · rw [extractMemberInfo, if_neg (fun h => hne (poolValue_eq_nil_iff.mp h)),
      splitOn_poolValue_of_plain hp hne, mapM_extractMember hp]

theorem extractMemberInfo_poolValue (hw : ∀ d ∈ ds, d.WellFormed env) :
    extractMemberInfo (poolValue ds) = .ok ds :=
  extractMemberInfo_of_plain fun d hd => (hw d hd).plain

theorem MemberData.Plain.extractInfo (hd : d.Plain) : extractMemberInfo d.text = .ok [d] := by
  have hone : poolValue [d] = d.text := by simp [poolValue, Str.join]
  rw [← hone]
  exact extractMemberInfo_of_plain fun a ha => (List.mem_singleton.mp ha).symm ▸ hd

theorem MemberData.WellFormed.extractInfo (hd : d.WellFormed env) :
    extractMemberInfo d.text = .ok [d] := hd.plain.extractInfo

/-- A pool value lists one sequence of members. -/
theorem poolValue_inj {ds' : List MemberData} (hw : ∀ d ∈ ds, d.WellFormed env)
    (hw' : ∀ d ∈ ds', d.WellFormed env) (h : poolValue ds = poolValue ds') : ds = ds' := by
  have := extractMemberInfo_poolValue hw
  rw [h, extractMemberInfo_poolValue hw'] at this
  exact (Except.ok.inj this).symm

theorem poolValue_append (hw : ∀ d ∈ ds, d.WellFormed env) (d : MemberData) :
    Str.join ',' (poolItems (poolValue ds) ++ [d.text]) = poolValue (ds ++ [d]) := by
  rw [poolItems_poolValue hw, poolValue, List.map_append, List.map_singleton]

private theorem map_text_erase (hw : ∀ d ∈ ds, d.WellFormed env) (hd : d.WellFormed env) :
    (ds.map MemberData.text).erase d.text = (ds.erase d).map MemberData.text := by
  induction ds with
  | nil => rfl
  | cons a ds ih =>
      have ha := hw a (List.mem_cons_self ..)
      by_cases h : a = d
      · rw [h, List.map_cons, List.erase_cons_head, List.erase_cons_head]
      · have ht : a.text ≠ d.text := fun he => h (MemberData.text_inj ha hd he)
        rw [List.map_cons, List.erase_cons_tail (by simpa using ht),
          List.erase_cons_tail (by simpa using h), List.map_cons,
          ih fun d hd => hw d (List.mem_cons_of_mem _ hd)]

/-- Whether a member is in a pool value, and the value without it. -/
theorem mem_splitOn_poolValue (hw : ∀ d ∈ ds, d.WellFormed env) (hd : d.WellFormed env) :
    d.text ∈ (poolValue ds).splitOn ',' ↔ d ∈ ds := by
  by_cases hne : ds = []
  · rw [hne, poolValue_nil]
    simpa using d.text_ne_nil
  · rw [splitOn_poolValue hw hne, List.mem_map]
    constructor
    · rintro ⟨a, ha, he⟩
      exact MemberData.text_inj (hw a ha) hd he ▸ ha
    · exact fun hm => ⟨d, hm, rfl⟩

theorem poolValue_erase (hw : ∀ d ∈ ds, d.WellFormed env) (hd : d.WellFormed env) (hm : d ∈ ds) :
    Str.join ',' (((poolValue ds).splitOn ',').erase d.text) = poolValue (ds.erase d) := by
  rw [splitOn_poolValue hw (List.ne_nil_of_mem hm), map_text_erase hw hd, poolValue]

end Texts

section Backends
variable (env : Env)

/-- The text of a member as a backend. -/
def backendText (d : MemberData) : Str :=
  if env.ipVersion d.ip = some .v6 then addressPort (bracket d.ip) d.port
  else addressPort d.ip d.port

variable {env} {ds : List MemberData}

private theorem foldlM_addActive (hw : ∀ d ∈ ds, (env.ipVersion d.ip).isSome) (acc : Backends) :
    ds.foldlM (addActive env) acc = .ok
      ⟨acc.v4 ++ (ds.filter (env.ipVersion ·.ip ≠ some .v6)).map (backendText env),
        acc.v6 ++ (ds.filter (env.ipVersion ·.ip = some .v6)).map (backendText env)⟩ := by
  induction ds generalizing acc with
  | nil => simp [pure, Except.pure]
  | cons d ds ih =>
      obtain ⟨v, hv⟩ := Option.isSome_iff_exists.mp (hw d (List.mem_cons_self ..))
      have hrest := fun acc => ih (fun d hd => hw d (List.mem_cons_of_mem _ hd)) acc
      rw [List.foldlM_cons, addActive, Env.version, hv]
      cases v with
      | v4 =>
          refine (hrest _).trans ?_
          simp [hv, backendText]
      | v6 =>
          refine (hrest _).trans ?_
          simp [hv, backendText]

/-- The backends of members with addresses, by version. -/
theorem activeBackends_eq (hw : ∀ d ∈ ds, (env.ipVersion d.ip).isSome) :
    activeBackends env ds = .ok
      ⟨(ds.filter (env.ipVersion ·.ip ≠ some .v6)).map (backendText env),
        (ds.filter (env.ipVersion ·.ip = some .v6)).map (backendText env)⟩ := by
  simpa [activeBackends, Backends.none] using foldlM_addActive hw .none

theorem backendsOff_poolValue (hw : ∀ d ∈ ds, d.WellFormed env) (off : Str → Bool) :
    backendsOff env off (poolValue ds) = activeBackends env (ds.filter fun d => !off d.id) := by
  rw [backendsOff, extractMemberInfo_poolValue hw]
  rfl

theorem backendsOff_ok (hw : ∀ d ∈ ds, d.WellFormed env) (off : Str → Bool) :
    ∃ b, backendsOff env off (poolValue ds) = .ok b := by
  rw [backendsOff_poolValue hw]
  exact ⟨_, activeBackends_eq fun d hd => (hw d (List.mem_of_mem_filter hd)).address⟩

/-- The statuses of the members listed are all that counts. -/
theorem backendsOff_congr (hw : ∀ d ∈ ds, d.WellFormed env) {off off' : Str → Bool}
    (h : ∀ d ∈ ds, off d.id = off' d.id) :
    backendsOff env off (poolValue ds) = backendsOff env off' (poolValue ds) := by
  rw [backendsOff_poolValue hw, backendsOff_poolValue hw]
  congr 1
  exact List.filter_congr fun d hd => by rw [h d hd]

/-- A further member that is offline adds no backend. -/
theorem backendsOff_append {d : MemberData} (hw : ∀ a ∈ ds, a.WellFormed env)
    (hd : d.WellFormed env) {off : Str → Bool} (hoff : off d.id = true) :
    backendsOff env off (poolValue (ds ++ [d])) = backendsOff env off (poolValue ds) := by
  have hw' : ∀ a ∈ ds ++ [d], a.WellFormed env := by
    intro a ha
    rcases List.mem_append.mp ha with ha | ha
    · exact hw a ha
    · rw [List.mem_singleton.mp ha]
      exact hd
  rw [backendsOff_poolValue hw', backendsOff_poolValue hw, List.filter_append]
  simp [hoff]

theorem comma_notMem_backendText {d : MemberData} (hd : d.WellFormed env) :
    ',' ∉ backendText env d := by
  have hport := hd.notMem_port (c := ',') rfl
  have hip := hd.ip_chars.2
  unfold backendText
  split
  · simp [addressPort, bracket, hport, hip]
  · simp [addressPort, hport, hip]

end Backends

end OvnOctavia
