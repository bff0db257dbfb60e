import OvnOctavia.Library.Grade
import OvnOctavia.HealthEvents

/-!
The statuses reported for a row as the grades of its tree of members, pools and
listeners: what each level says, and that a failing member improves none.
-/

namespace OvnOctavia

section Grades
variable (env : Env)

/-- The text of a grade; an object out of service is offline. -/
def gradeText : Option Grade → Str
  | none => OFFLINE
  | some .online => ONLINE
  | some .degraded => DEGRADED
  | some .error => ERROR

theorem gradeText_eq_error_iff {g : Option Grade} : gradeText g = ERROR ↔ g = some .error := by
  refine ⟨fun h => ?_, fun h => h ▸ rfl⟩
  match g with
  | none => exact absurd h (by decide : OFFLINE ≠ ERROR)
  | some .online => exact absurd h (by decide : ONLINE ≠ ERROR)
  | some .degraded => exact absurd h (by decide : DEGRADED ≠ ERROR)
  | some .error => rfl

theorem gradeText_eq_degraded_iff {g : Option Grade} :
    gradeText g = DEGRADED ↔ g = some .degraded := by
  refine ⟨fun h => ?_, fun h => h ▸ rfl⟩
  match g with
  | none => exact absurd h (by decide : OFFLINE ≠ DEGRADED)
  | some .online => exact absurd h (by decide : ONLINE ≠ DEGRADED)
  | some .degraded => rfl
  | some .error => exact absurd h (by decide : ERROR ≠ DEGRADED)

def poolUp (id : Str) : Bool := (env.getPool id).any (·.adminStateUp)
def listenerUp (id : Str) : Bool := (env.getListener id).any (·.adminStateUp)
def lbUp (name : Str) : Bool := (env.getLoadbalancer name).any (·.adminStateUp)

/-- The grade of a pool with its members. -/
def poolGrade (statuses : Dict Str Str) (id : Str) (members : List Str) : Option Grade :=
  Grade.node (poolUp env id) (Grade.ofLeaves (fun m => statuses.get? m = some ERROR) members)

/-- The grade a listener sees of a pool; one that is not on the row passes for online. -/
def namedGrade (statuses : Dict Str Str) (pools : Dict Str (List Str)) (id : Str) : Option Grade :=
  match pools.get? id with
  | some members => poolGrade env statuses id members
  | none => some .online

def listenerGrade (statuses : Dict Str Str) (pools : Dict Str (List Str)) (id : Str)
    (named : List Str) : Option Grade :=
  Grade.node (listenerUp env id) (Grade.worst (named.map (namedGrade env statuses pools)))

def lbGrade (statuses : Dict Str Str) (pools listeners : Dict Str (List Str)) (name : Str) :
    Option Grade :=
  Grade.node (lbUp env name) (Grade.worst (listeners.items.map fun l =>
    listenerGrade env statuses pools l.1 l.2))

end Grades

section Refinement
variable {env : Env} {statuses : Dict Str Str}

theorem poolStatus_eq {p : ProviderPool} {id : Str} {members : List Str}
    (h : env.getPool id = some p) (hne : statuses.items ≠ []) :
    poolStatus env statuses (id, members) =
      .ok (id, gradeText (poolGrade env statuses id members)) := by
  have hleaf : ∀ m, decide ((statuses.get? m).getD ONLINE = ERROR) =
      decide (statuses.get? m = some ERROR) := by
    intro m
    cases statuses.get? m with
    | none => rfl
    | some s => simp
  have hup : poolUp env id = p.adminStateUp := by rw [poolUp, h]; rfl
  simp only [poolStatus, h, poolGrade, hup, Grade.ofLeaves]
  congr 2
  cases p.adminStateUp with
  | false => rfl
  | true =>
      have hany : statuses.items.isEmpty = false := by simpa using hne
      simp only [hany, Bool.not_true, Bool.or_self, Bool.false_eq_true, if_false, List.all_map,
        List.any_map, Function.comp_def, hleaf, Grade.node, if_true]
      by_cases hm : members = []
      · rw [hm]; rfl
      · have hempty : members.isEmpty = false := by simpa using hm
        simp only [hm, hempty, List.isEmpty_map, ne_eq, not_false_eq_true, true_and,
          Bool.not_false, Bool.true_and]
        split_ifs <;> rfl

/-- The worst of the texts of grades is the text of the worst. -/
theorem worst_texts {l : List (Option Grade)} :
    (if (l.map gradeText).any (· = ERROR) then ERROR
      else if (l.map gradeText).any (· = DEGRADED) then DEGRADED else ONLINE) =
      gradeText (some (Grade.worst l)) := by
  have herror : (l.map gradeText).any (· = ERROR) = true ↔ some .error ∈ l := by
    simp [gradeText_eq_error_iff]
  have hdegraded : (l.map gradeText).any (· = DEGRADED) = true ↔ some .degraded ∈ l := by
    simp [gradeText_eq_degraded_iff]
  rw [Grade.worst]
  simp only [herror, hdegraded]
  split_ifs <;> rfl

/-- The statuses of the pools as a listener looks them up. -/
theorem lookup_poolTexts (l : List (Str × List Str)) (id : Str) :
    (l.map fun p => (p.1, gradeText (poolGrade env statuses p.1 p.2))).lookup id =
      (l.lookup id).map fun members => gradeText (poolGrade env statuses id members) := by
  induction l with
  | nil => rfl
  | cons p l ih =>
      rw [List.map_cons, List.lookup_cons, List.lookup_cons, ih]
      by_cases h : id = p.1
      · simp [h]
      · simp [beq_false_of_ne h]

theorem listenerStatus_eq {l : ProviderListener} {id : Str} {named : List Str}
    {pools : Dict Str (List Str)} (h : env.getListener id = some l) :
    listenerStatus env (pools.items.map fun p =>
        (p.1, gradeText (poolGrade env statuses p.1 p.2))) (id, named) =
      .ok (id, gradeText (listenerGrade env statuses pools id named)) := by
  have hseen : ∀ p, ((pools.items.map fun p =>
      (p.1, gradeText (poolGrade env statuses p.1 p.2))).lookup p).getD ONLINE =
        gradeText (namedGrade env statuses pools p) := by
    intro p
    rw [lookup_poolTexts, namedGrade]
    rw [Dict.get?_eq_lookup]
    cases pools.items.lookup p <;> rfl
  have hup : listenerUp env id = l.adminStateUp := by rw [listenerUp, h]; rfl
  have hmap : named.map (fun p => gradeText (namedGrade env statuses pools p)) =
      (named.map (namedGrade env statuses pools)).map gradeText := by
    rw [List.map_map]
    rfl
  simp only [listenerStatus, h, hseen, hmap, worst_texts, listenerGrade, hup]
  cases l.adminStateUp <;> rfl

theorem lbStatus_eq {lb : ProviderLoadBalancer} {name : Str} {l : List (Option Grade)}
    (h : env.getLoadbalancer name = some lb) :
    lbStatus env name (l.map gradeText) =
      .ok (gradeText (Grade.node (lbUp env name) (Grade.worst l))) := by
  have hup : lbUp env name = lb.adminStateUp := by rw [lbUp, h]; rfl
  simp only [lbStatus, h, worst_texts, hup]
  cases lb.adminStateUp <;> rfl

/-- The status reported for a row is that of the grades of its tree. -/
theorem operatingStatuses_eq {row : LoadBalancer} {pools listeners : Dict Str (List Str)}
    (hstatuses : loadMemberStatuses row.externalIds = .ok statuses)
    (hlisteners : listenerPools row.externalIds = .ok listeners)
    (hpools : poolMembers row.externalIds = .ok pools) (hne : statuses.items ≠ [])
    (hpool : ∀ p ∈ pools.items, (env.getPool p.1).isSome)
    (hlistener : ∀ l ∈ listeners.items, (env.getListener l.1).isSome)
    (hlb : (env.getLoadbalancer row.name).isSome) :
    getCurrentOperatingStatuses env row = .ok
      { loadbalancers := some [activeEntry (row.name,
          gradeText (lbGrade env statuses pools listeners row.name))]
        listeners := some (listeners.items.map fun l => activeEntry (l.1,
          gradeText (listenerGrade env statuses pools l.1 l.2)))
        pools := some (pools.items.map fun p => activeEntry (p.1,
          gradeText (poolGrade env statuses p.1 p.2)))
        members := some (statuses.items.map activeEntry) } := by
  have hps : pools.items.mapM (poolStatus env statuses) = .ok (pools.items.map fun p =>
      (p.1, gradeText (poolGrade env statuses p.1 p.2))) :=
    Except.mapM_eq_map fun p hp => by
      obtain ⟨x, hx⟩ := Option.isSome_iff_exists.mp (hpool p hp)
      exact poolStatus_eq hx hne
  have hls : listeners.items.mapM (listenerStatus env (pools.items.map fun p =>
      (p.1, gradeText (poolGrade env statuses p.1 p.2)))) = .ok (listeners.items.map fun l =>
        (l.1, gradeText (listenerGrade env statuses pools l.1 l.2))) :=
    Except.mapM_eq_map fun l hl => by
      obtain ⟨x, hx⟩ := Option.isSome_iff_exists.mp (hlistener l hl)
      exact listenerStatus_eq hx
  obtain ⟨lb, hx⟩ := Option.isSome_iff_exists.mp hlb
  have htexts : (listeners.items.map fun l =>
      (l.1, gradeText (listenerGrade env statuses pools l.1 l.2))).map Prod.snd =
        (listeners.items.map fun l => listenerGrade env statuses pools l.1 l.2).map gradeText := by
    rw [List.map_map, List.map_map]
    rfl
  rw [getCurrentOperatingStatuses, hstatuses, Except.ok_bind, hlisteners, Except.ok_bind, hpools,
    Except.ok_bind, hps, Except.ok_bind, hls, Except.ok_bind, htexts, lbStatus_eq hx,
    Except.ok_bind, List.map_map, List.map_map]
  rfl

end Refinement

section Contents
variable {env : Env} {e : Dict Str Str}

/-- What is collected comes from a key and its value. -/
theorem collect_get? {p : Str → Bool} {g : Str → Except Exc (List Str)} {l : List (Str × Str)}
    {acc d : Dict Str (List Str)} (h : l.foldlM (collect p g) acc = .ok d) {x : Str}
    {ms : List Str} (hx : d.get? x = some ms) :
    acc.get? x = some ms ∨
      ∃ b ∈ l, p b.1 = true ∧ idOfKey b.1 = .ok x ∧ g b.2 = .ok ms := by
  induction l generalizing acc with
  | nil =>
      cases h
      exact .inl hx
  | cons b l ih =>
      rw [List.foldlM_cons] at h
      obtain ⟨acc', hstep, h⟩ := Except.bind_eq_ok.mp h
      obtain hacc | ⟨b', hb', hfrom⟩ := ih h
      · rw [collect] at hstep
        split at hstep
        · next hp =>
            obtain ⟨id, hid, hstep⟩ := Except.bind_eq_ok.mp hstep
            obtain ⟨ms', hms, hstep⟩ := Except.bind_eq_ok.mp hstep
            cases hstep
            rw [Dict.get?_set] at hacc
            split at hacc
            · next heq =>
                cases hacc
                exact .inr ⟨b, List.mem_cons_self .., hp, heq ▸ hid, hms⟩
            · exact .inl hacc
        · cases hstep
          exact .inl hacc
      · exact .inr ⟨b', List.mem_cons_of_mem _ hb', hfrom⟩

/-- The pools a listener value names. -/
def namedPools (v : Str) : Except Exc (List Str) :=
  ((v.splitOn ',').filter hasPoolPrefix).mapM idOfKey

/-- The members a pool value names. -/
def namedMembers (v : Str) : Except Exc (List Str) :=
  ((v.splitOn ',').filter (· ≠ [])).mapM memberIdOf

/-- The keys of listeners and pools are all enabled, and a listener value names no pool or
one. -/
structure AllEnabled (e : Dict Str Str) : Prop where
  listener : ∀ id, IsUuid id → getListenerKey id false ∉ e.keys
  pool : ∀ id, IsUuid id → getPoolKey id false ∉ e.keys
  value : ∀ id v, IsUuid id → e.get? (getListenerKey id true) = some v → ∃ port t,
    v = makeListenerKeyValue port t ∧
      (t = [] ∨ ∃ pool up, t = getPoolKey pool up ∧ '_' ∉ pool ∧ ',' ∉ pool)

/-- The listeners read from a row are those of its keys, with the pools of their values. -/
theorem get?_listenerPools (hr : Readable env e) (ha : AllEnabled e)
    {listeners : Dict Str (List Str)} (h : listenerPools e = .ok listeners) (x : Str)
    (named : List Str) : listeners.get? x = some named ↔ IsUuid x ∧
      ∃ v, e.get? (getListenerKey x true) = some v ∧ namedPools v = .ok named := by
  have hfrom : ∀ ms, listeners.get? x = some ms → IsUuid x ∧
      ∃ v, e.get? (getListenerKey x true) = some v ∧ namedPools v = .ok ms := by
    intro ms hx
    obtain hnone | ⟨b, hb, hp, hid, hms⟩ := collect_get? (p := hasListenerPrefix)
      (g := namedPools) h hx
    · cases hnone
    have hk : b.1 ∈ e.keys := List.mem_map_of_mem hb
    obtain hbase | ⟨id, up, hu, hkey⟩ | ⟨id, up, hu, hkey⟩ := hr.key b.1 hk
    · rw [hasListenerPrefix_base hbase] at hp
      cases hp
    · cases up with
      | false => exact absurd (hkey ▸ hk) (ha.listener id hu)
      | true =>
          rw [hkey, idOfKey_listenerKey hu] at hid
          cases hid
          have hid : keyId id true = id := List.append_nil id
          rw [hid, ← hkey]
          exact ⟨hu, b.2, (Dict.get?_eq_some_iff ..).mpr hb, hms⟩
    · rw [hkey, hasListenerPrefix_poolKey hu] at hp
      cases hp
  refine ⟨hfrom named, fun ⟨hu, v, hv, hn⟩ => ?_⟩
  obtain ⟨d, hd, hkeys⟩ := hr.listenerPools_ok
  cases hd.symm.trans h
  have hmem := (hkeys x).mpr ⟨x, true, hu, mem_keys_of_get? hv, (List.append_nil x).symm⟩
  obtain ⟨ms, hms⟩ := (Dict.mem_keys_iff _ _).mp hmem
  have hget := (Dict.get?_eq_some_iff ..).mpr hms
  obtain ⟨-, v', hv', hn'⟩ := hfrom ms hget
  cases hv.symm.trans hv'
  cases hn.symm.trans hn'
  exact hget

/-- The pools read from a row are those of its keys, with the members of their values. -/
theorem get?_poolMembers (hr : Readable env e) (ha : AllEnabled e)
    {pools : Dict Str (List Str)} (h : poolMembers e = .ok pools) (x : Str)
    (ms : List Str) : pools.get? x = some ms ↔ IsUuid x ∧
      ∃ v, e.get? (getPoolKey x true) = some v ∧ namedMembers v = .ok ms := by
  have hfrom : ∀ ms, pools.get? x = some ms → IsUuid x ∧
      ∃ v, e.get? (getPoolKey x true) = some v ∧ namedMembers v = .ok ms := by
    intro ms hx
    obtain hnone | ⟨b, hb, hp, hid, hms⟩ := collect_get?
      (p := fun k => !hasListenerPrefix k && hasPoolPrefix k) (g := namedMembers) h hx
    · cases hnone
    rw [Bool.and_eq_true] at hp
    have hk : b.1 ∈ e.keys := List.mem_map_of_mem hb
    obtain hbase | ⟨id, up, hu, hkey⟩ | ⟨id, up, hu, hkey⟩ := hr.key b.1 hk
    · rw [hasPoolPrefix_base hbase] at hp
      cases hp.2
    · rw [hkey, hasPoolPrefix_listenerKey hu] at hp
      cases hp.2
    · cases up with
      | false => exact absurd (hkey ▸ hk) (ha.pool id hu)
      | true =>
          rw [hkey, idOfKey_poolKey hu] at hid
          cases hid
          simp only [if_true, List.append_nil]
          rw [← hkey]
          exact ⟨hu, b.2, (Dict.get?_eq_some_iff ..).mpr hb, hms⟩
  refine ⟨hfrom ms, ?_⟩
  rintro ⟨hu, v, hv, hn⟩
  obtain ⟨d, hd, hkeys⟩ := hr.poolMembers_ok
  cases hd.symm.trans h
  have hmem := (hkeys x).mpr ⟨x, true, hu, mem_keys_of_get? hv, (List.append_nil x).symm⟩
  obtain ⟨ms', hms⟩ := (Dict.mem_keys_iff _ _).mp hmem
  have hget := (Dict.get?_eq_some_iff ..).mpr hms
  obtain ⟨-, v', hv', hn'⟩ := hfrom ms' hget
  cases hv.symm.trans hv'
  cases hn.symm.trans hn'
  exact hget

theorem keys_listenerPools (hr : Readable env e) (ha : AllEnabled e)
    {listeners : Dict Str (List Str)} (h : listenerPools e = .ok listeners) (x : Str) :
    x ∈ listeners.keys ↔ IsUuid x ∧ getListenerKey x true ∈ e.keys := by
  obtain ⟨d, hd, hkeys⟩ := hr.listenerPools_ok
  cases hd.symm.trans h
  rw [hkeys]
  constructor
  · rintro ⟨id, up, hu, hk, rfl⟩
    cases up with
    | false => exact absurd hk (ha.listener id hu)
    | true =>
        rw [keyId, if_pos rfl, List.append_nil]
        exact ⟨hu, hk⟩
  · rintro ⟨hu, hk⟩
    exact ⟨x, true, hu, hk, (List.append_nil x).symm⟩

theorem keys_poolMembers (hr : Readable env e) (ha : AllEnabled e)
    {pools : Dict Str (List Str)} (h : poolMembers e = .ok pools) (x : Str) :
    x ∈ pools.keys ↔ IsUuid x ∧ getPoolKey x true ∈ e.keys := by
  obtain ⟨d, hd, hkeys⟩ := hr.poolMembers_ok
  cases hd.symm.trans h
  rw [hkeys]
  constructor
  · rintro ⟨id, up, hu, hk, rfl⟩
    cases up with
    | false => exact absurd hk (ha.pool id hu)
    | true =>
        rw [keyId, if_pos rfl, List.append_nil]
        exact ⟨hu, hk⟩
  · rintro ⟨hu, hk⟩
    exact ⟨x, true, hu, hk, (List.append_nil x).symm⟩

theorem namedMembers_poolValue {ds : List MemberData} (hd : ∀ d ∈ ds, d.WellFormed env) :
    namedMembers (poolValue ds) = .ok (ds.map MemberData.id) := by
  rw [namedMembers]
  by_cases hnil : ds = []
  · rw [hnil]; rfl
  · rw [splitOn_poolValue hd hnil]
    have hfilter : (ds.map MemberData.text).filter (· ≠ []) = ds.map MemberData.text :=
      List.filter_eq_self.mpr fun t ht => by
        obtain ⟨d, -, rfl⟩ := List.mem_map.mp ht
        simpa using d.text_ne_nil
    rw [hfilter, List.mapM_map]
    exact Except.mapM_eq_map fun d hm => (hd d hm).memberIdOf_text

theorem namedPools_none (port : Nat) : namedPools (makeListenerKeyValue port []) = .ok [] := by
  have hchars : ∀ c, c.isDigit = false → c ≠ ':' → c ∉ makeListenerKeyValue port [] := by
    intro c hd hne
    rw [makeListenerKeyValue, List.mem_append, List.mem_singleton, not_or]
    exact ⟨Str.notMem_ofNat hd port, hne⟩
  have hpool : hasPoolPrefix (makeListenerKeyValue port []) = false := by
    rw [hasPoolPrefix, Bool.eq_false_iff, ne_eq, Str.contains_iff]
    intro hpart
    have hp : 'p' ∈ lbExtIdsPoolPrefix := by decide
    exact hchars 'p' (by decide) (by decide) (hpart.subset hp)
  rw [namedPools, List.splitOn_eq_singleton (hchars ',' (by decide) (by decide)),
    List.filter_cons_of_neg (by rw [hpool]; exact Bool.false_ne_true)]
  rfl

theorem namedPools_poolKey (port : Nat) {pool : Str} (up : Bool) (hu : '_' ∉ pool)
    (hc : ',' ∉ pool) :
    namedPools (makeListenerKeyValue port (getPoolKey pool up)) = .ok [keyId pool up] := by
  have hkey : ∀ c, c ∉ pool → c ∉ ':' :: disabledResourceSuffix → c ∉ keyId pool up := by
    intro c hp hd
    rw [keyId, List.mem_append, not_or]
    refine ⟨hp, ?_⟩
    cases up with
    | true => exact List.not_mem_nil
    | false => exact hd
  have hv : makeListenerKeyValue port (getPoolKey pool up) =
      (Str.ofNat port ++ ":pool".toList) ++ '_' :: keyId pool up := by
    rw [makeListenerKeyValue, getPoolKey, List.append_assoc, List.append_assoc]
    rfl
  have hhead : ∀ c, c.isDigit = false → c ∉ ":pool".toList →
      c ∉ Str.ofNat port ++ ":pool".toList := by
    intro c hd hs
    rw [List.mem_append, not_or]
    exact ⟨Str.notMem_ofNat hd port, hs⟩
  have hcomma : ',' ∉ makeListenerKeyValue port (getPoolKey pool up) := by
    rw [hv, List.mem_append, List.mem_cons, not_or, not_or]
    exact ⟨hhead ',' (by decide) (by decide), by decide, hkey ',' hc (by decide)⟩
  have hpool : hasPoolPrefix (makeListenerKeyValue port (getPoolKey pool up)) = true := by
    rw [hasPoolPrefix, Str.contains_iff]
    refine ⟨Str.ofNat port ++ [':'], keyId pool up, ?_⟩
    rw [hv]
    simp [lbExtIdsPoolPrefix]
  have hid : idOfKey (makeListenerKeyValue port (getPoolKey pool up)) = .ok (keyId pool up) := by
    rw [idOfKey, memberIdOf, hv,
      List.splitOn_append_cons_self_of_not_mem (hhead '_' (by decide) (by decide)),
      List.splitOn_eq_singleton (hkey '_' hu (by decide))]
  rw [namedPools, List.splitOn_eq_singleton hcomma, List.filter_cons_of_pos hpool, List.filter_nil,
    List.mapM_cons, hid]
  rfl

/-- The pool is on the row, enabled, with the members `ds`. -/
structure PoolAt (env : Env) (e : Dict Str Str) (p : Str) (ds : List MemberData) : Prop where
  id : IsUuid p
  value : e.get? (getPoolKey p true) = some (poolValue ds)
  wellFormed : ∀ d ∈ ds, d.WellFormed env

/-- The listener is on the row, enabled, and sends to the pool. -/
structure SendsTo (e : Dict Str Str) (l p : Str) : Prop where
  id : IsUuid l
  value : ∃ port, e.get? (getListenerKey l true) =
    some (makeListenerKeyValue port (getPoolKey p true))

theorem get?_pools_iff (hr : Readable env e) (ha : AllEnabled e) {pools : Dict Str (List Str)}
    (h : poolMembers e = .ok pools) (p : Str) (ms : List Str) :
    pools.get? p = some ms ↔ ∃ ds, PoolAt env e p ds ∧ ms = ds.map MemberData.id := by
  rw [get?_poolMembers hr ha h]
  constructor
  · rintro ⟨hu, v, hv, hms⟩
    obtain ⟨ds, rfl, hds⟩ := hr.pool p true v hu hv
    rw [namedMembers_poolValue hds, Except.ok.injEq] at hms
    exact ⟨ds, ⟨hu, hv, hds⟩, hms.symm⟩
  · rintro ⟨ds, hp, rfl⟩
    exact ⟨hp.id, _, hp.value, namedMembers_poolValue hp.wellFormed⟩

theorem sendsTo_iff (hr : Readable env e) (ha : AllEnabled e) {listeners : Dict Str (List Str)}
    (h : listenerPools e = .ok listeners) {l p : Str} (hp : IsUuid p) :
    (∃ b ∈ listeners.items, b.1 = l ∧ p ∈ b.2) ↔ SendsTo e l p := by
  have hu : '_' ∉ p := hp.notMem (by decide)
  have hc : ',' ∉ p := hp.notMem (by decide)
  constructor
  · rintro ⟨⟨_, named⟩, hb, rfl, hm⟩
    have hget := (Dict.get?_eq_some_iff ..).mpr hb
    obtain ⟨hl, v, hv, hn⟩ := (get?_listenerPools hr ha h _ _).mp hget
    obtain ⟨port, t, rfl, rfl | ⟨pool, up, rfl, hu', hc'⟩⟩ := ha.value _ v hl hv
    · rw [namedPools_none, Except.ok.injEq] at hn
      subst hn
      cases hm
    · rw [namedPools_poolKey port up hu' hc', Except.ok.injEq] at hn
      subst hn
      cases List.mem_singleton.mp hm
      cases up with
      | true =>
          refine ⟨hl, port, ?_⟩
          rw [keyId, if_pos rfl, List.append_nil]
          exact hv
      | false =>
          have hcolon : ':' ∈ keyId pool false :=
            List.mem_append_right pool (List.mem_cons_self ..)
          exact absurd hcolon (hp.notMem (by decide))
  · rintro ⟨hl, port, hv⟩
    have hn : namedPools (makeListenerKeyValue port (getPoolKey p true)) = .ok [p] := by
      rw [namedPools_poolKey port true hu hc, keyId, if_pos rfl, List.append_nil]
    have hget := (get?_listenerPools hr ha h l [p]).mpr ⟨hl, _, hv, hn⟩
    exact ⟨_, (Dict.get?_eq_some_iff ..).mp hget, rfl, List.mem_singleton_self p⟩

end Contents

section Levels
variable {env : Env} {e statuses : Dict Str Str} {pools listeners : Dict Str (List Str)}
  {name : Str}

theorem namedGrade_eq_error_iff (hr : Readable env e) (ha : AllEnabled e)
    (h : poolMembers e = .ok pools) (p : Str) :
    namedGrade env statuses pools p = some .error ↔ ∃ ds, PoolAt env e p ds ∧
      poolUp env p = true ∧ ds ≠ [] ∧ ∀ d ∈ ds, statuses.get? d.id = some ERROR := by
  have hget := get?_pools_iff hr ha h p
  rw [namedGrade]
  cases hp : pools.get? p with
  | none =>
      constructor
      · rintro ⟨⟩
      · rintro ⟨ds, hat, -⟩
        rw [(hget _).mpr ⟨ds, hat, rfl⟩] at hp
        cases hp
  | some ms =>
      obtain ⟨ds, hat, rfl⟩ := (hget ms).mp hp
      simp only [poolGrade, Grade.node_eq_some_iff, Grade.ofLeaves_eq_error_iff, ne_eq,
        List.map_eq_nil_iff, List.forall_mem_map, decide_eq_true_iff]
      constructor
      · rintro ⟨hup, hne, hall⟩
        exact ⟨ds, hat, hup, hne, hall⟩
      · rintro ⟨ds', hat', hup, hne, hall⟩
        cases poolValue_inj hat.wellFormed hat'.wellFormed
          (Option.some.inj (hat.value.symm.trans hat'.value))
        exact ⟨hup, hne, hall⟩

theorem namedGrade_eq_degraded_iff (hr : Readable env e) (ha : AllEnabled e)
    (h : poolMembers e = .ok pools) (p : Str) :
    namedGrade env statuses pools p = some .degraded ↔ ∃ ds, PoolAt env e p ds ∧
      poolUp env p = true ∧ (∃ d ∈ ds, statuses.get? d.id = some ERROR) ∧
        ∃ d ∈ ds, statuses.get? d.id ≠ some ERROR := by
  have hget := get?_pools_iff hr ha h p
  rw [namedGrade]
  cases hp : pools.get? p with
  | none =>
      constructor
      · rintro ⟨⟩
      · rintro ⟨ds, hat, -⟩
        rw [(hget _).mpr ⟨ds, hat, rfl⟩] at hp
        cases hp
  | some ms =>
      obtain ⟨ds, hat, rfl⟩ := (hget ms).mp hp
      simp only [poolGrade, Grade.node_eq_some_iff, Grade.ofLeaves_eq_degraded_iff,
        List.mem_map, exists_exists_and_eq_and, decide_eq_true_iff, decide_eq_false_iff_not]
      constructor
      · rintro ⟨hup, hsome, hnot⟩
        exact ⟨ds, hat, hup, hsome, hnot⟩
      · rintro ⟨ds', hat', hup, hsome, hnot⟩
        cases poolValue_inj hat.wellFormed hat'.wellFormed
          (Option.some.inj (hat.value.symm.trans hat'.value))
        exact ⟨hup, hsome, hnot⟩

theorem lbGrade_eq_error_iff : lbGrade env statuses pools listeners name = some .error ↔
    lbUp env name = true ∧ ∃ l ∈ listeners.items, listenerUp env l.1 = true ∧
      ∃ p ∈ l.2, namedGrade env statuses pools p = some .error := by
  simp only [lbGrade, listenerGrade, Grade.node_eq_some_iff, Grade.worst_eq_error_iff, List.mem_map]

theorem lbGrade_eq_degraded_iff : lbGrade env statuses pools listeners name = some .degraded ↔
    lbGrade env statuses pools listeners name ≠ some .error ∧ lbUp env name = true ∧
      ∃ l ∈ listeners.items, listenerUp env l.1 = true ∧
        ∃ p ∈ l.2, namedGrade env statuses pools p = some .degraded := by
  constructor
  · intro h
    have hne : lbGrade env statuses pools listeners name ≠ some .error := by
      rw [h]
      exact nofun
    refine ⟨hne, ?_⟩
    simp only [lbGrade, listenerGrade, Grade.node_eq_some_iff, Grade.worst_eq_degraded_iff,
      List.mem_map] at h
    obtain ⟨hup, -, l, hl, hlup, -, p, hp, hg⟩ := h
    exact ⟨hup, l, hl, hlup, p, hp, hg⟩
  · rintro ⟨hne, hup, l, hl, hlup, p, hp, hg⟩
    have hnone : ∀ l ∈ listeners.items, listenerUp env l.1 = true →
        ∀ p ∈ l.2, namedGrade env statuses pools p ≠ some .error :=
      fun l hl hlup p hp he => hne (lbGrade_eq_error_iff.mpr ⟨hup, l, hl, hlup, p, hp, he⟩)
    simp only [lbGrade, listenerGrade, Grade.node_eq_some_iff, Grade.worst_eq_degraded_iff,
      Grade.worst_eq_error_iff, List.mem_map]
    refine ⟨hup, ?_, l, hl, hlup, ?_, p, hp, hg⟩
    · rintro ⟨l', hl', hlup', p', hp', he⟩
      exact hnone l' hl' hlup' p' hp' he
    · rintro ⟨p', hp', he⟩
      exact hnone l hl hlup p' hp' he

end Levels

section RollUp
variable {env : Env} {row : LoadBalancer}

/-- A field of a status reports exactly the given objects, each once. -/
def ReportsOnce (field : Option (List StatusEntry)) (ids : Str → Prop) : Prop :=
  ∃ l, field = some l ∧ (l.map StatusEntry.id).Nodup ∧
    ∀ i, i ∈ l.map StatusEntry.id ↔ ∃ x, i = some x ∧ ids x

/-- The status `s` of a row, with `lb` the one of the load balancer: what it reports, and when
the load balancer is in error or degraded. -/
structure RollsUp (env : Env) (row : LoadBalancer) (s : Status) (lb : Str) : Prop where
  loadbalancers : s.loadbalancers = some [⟨some row.name, some ACTIVE, some lb⟩]
  listeners : ReportsOnce s.listeners fun x =>
    IsUuid x ∧ getListenerKey x true ∈ row.externalIds.keys
  pools : ReportsOnce s.pools fun x => IsUuid x ∧ getPoolKey x true ∈ row.externalIds.keys
  members : ReportsOnce s.members fun x => x ∈ (statusesIn row.externalIds).keys
  error : lb = ERROR ↔ lbUp env row.name = true ∧ ∃ l p ds,
    SendsTo row.externalIds l p ∧ listenerUp env l = true ∧
    PoolAt env row.externalIds p ds ∧ poolUp env p = true ∧
    ds ≠ [] ∧ ∀ d ∈ ds, (statusesIn row.externalIds).get? d.id = some ERROR
  degraded : lb = DEGRADED ↔ lb ≠ ERROR ∧ lbUp env row.name = true ∧ ∃ l p ds,
    SendsTo row.externalIds l p ∧ listenerUp env l = true ∧
    PoolAt env row.externalIds p ds ∧ poolUp env p = true ∧
    (∃ d ∈ ds, (statusesIn row.externalIds).get? d.id = some ERROR) ∧
    ∃ d ∈ ds, (statusesIn row.externalIds).get? d.id ≠ some ERROR

/-- No object of the first field is reported better in the second. -/
def NoBetterIn (field field' : Option (List StatusEntry)) : Prop :=
  ∀ a ∈ field.getD [], ∃ b ∈ field'.getD [], b.id = a.id ∧
    (a.operatingStatus = some ERROR → b.operatingStatus = some ERROR) ∧
    (a.operatingStatus = some DEGRADED →
      b.operatingStatus = some DEGRADED ∨ b.operatingStatus = some ERROR)

/-- No pool, no listener and no load balancer is better in the second status. -/
structure Status.NoBetter (s s' : Status) : Prop where
  loadbalancers : NoBetterIn s.loadbalancers s'.loadbalancers
  listeners : NoBetterIn s.listeners s'.listeners
  pools : NoBetterIn s.pools s'.pools

/-- A row whose status is rolled up over all of its keys. -/
structure Rollable (env : Env) (row : LoadBalancer) : Prop where
  readable : Readable env row.externalIds
  enabled : AllEnabled row.externalIds
  known : KnownToOctavia env row
  recorded : (statusesIn row.externalIds).items ≠ []

/-- The entries made from a dictionary report its keys once. -/
theorem reportsOnce_items {β : Type} {d : Dict Str β} {f : Str × β → Str} {ids : Str → Prop}
    (h : ∀ x, x ∈ d.keys ↔ ids x) :
    ReportsOnce (some (d.items.map fun b => activeEntry (b.1, f b))) ids := by
  have hids : (d.items.map fun b => activeEntry (b.1, f b)).map StatusEntry.id =
      d.keys.map some := by
    rw [Dict.keys, List.map_map, List.map_map]
    rfl
  refine ⟨_, rfl, ?_, fun i => ?_⟩
  · rw [hids]
    exact d.nodup.map fun _ _ h => Option.some.inj h
  · rw [hids, List.mem_map]
    constructor
    · rintro ⟨x, hx, rfl⟩
      exact ⟨x, rfl, (h x).mp hx⟩
    · rintro ⟨x, rfl, hx⟩
      exact ⟨x, (h x).mpr hx, rfl⟩

/-- The trees the status of a row is computed from, and the status itself. -/
theorem Rollable.status (h : Rollable env row) : ∃ listeners pools,
    listenerPools row.externalIds = .ok listeners ∧ poolMembers row.externalIds = .ok pools ∧
    getCurrentOperatingStatuses env row = .ok
      { loadbalancers := some [activeEntry (row.name,
          gradeText (lbGrade env (statusesIn row.externalIds) pools listeners row.name))]
        listeners := some (listeners.items.map fun l => activeEntry (l.1,
          gradeText (listenerGrade env (statusesIn row.externalIds) pools l.1 l.2)))
        pools := some (pools.items.map fun p => activeEntry (p.1,
          gradeText (poolGrade env (statusesIn row.externalIds) p.1 p.2)))
        members := some ((statusesIn row.externalIds).items.map activeEntry) } := by
  obtain ⟨listeners, hlisteners, hlkeys⟩ := h.readable.listenerPools_ok
  obtain ⟨pools, hpools, hpkeys⟩ := h.readable.poolMembers_ok
  refine ⟨listeners, pools, hlisteners, hpools, operatingStatuses_eq h.readable.statuses
    hlisteners hpools h.recorded (fun p hp => ?_) (fun l hl => ?_) h.known.lb⟩
  · obtain ⟨id, up, hu, hk, heq⟩ := (hpkeys p.1).mp (List.mem_map_of_mem hp)
    rw [heq]
    exact h.known.pool id up hu hk
  · obtain ⟨id, up, hu, hk, heq⟩ := (hlkeys l.1).mp (List.mem_map_of_mem hl)
    rw [heq]
    exact h.known.listener id up hu hk

/-- The status of a row, as the tree of its keys has it. -/
theorem Rollable.rollsUp (h : Rollable env row) : ∃ s lb,
    getCurrentOperatingStatuses env row = .ok s ∧ RollsUp env row s lb := by
  obtain ⟨listeners, pools, hlisteners, hpools, hs⟩ := h.status
  have hsends : ∀ {l p}, IsUuid p → ((∃ b ∈ listeners.items, b.1 = l ∧ p ∈ b.2) ↔
      SendsTo row.externalIds l p) := fun hp => sendsTo_iff h.readable h.enabled hlisteners hp
  refine ⟨_, _, hs, rfl, ?_, ?_, ?_, ?_, ?_⟩
  · exact reportsOnce_items (keys_listenerPools h.readable h.enabled hlisteners)
  · exact reportsOnce_items (keys_poolMembers h.readable h.enabled hpools)
  · exact reportsOnce_items fun x => Iff.rfl
  · rw [gradeText_eq_error_iff, lbGrade_eq_error_iff]
    simp only [namedGrade_eq_error_iff h.readable h.enabled hpools]
    refine and_congr_right fun _ => ⟨?_, ?_⟩
    · rintro ⟨l, hl, hlup, p, hp, ds, hat, hup, hne, hall⟩
      exact ⟨l.1, p, ds, (hsends hat.id).mp ⟨l, hl, rfl, hp⟩, hlup, hat, hup, hne, hall⟩
    · rintro ⟨l, p, ds, hsend, hlup, hat, hup, hne, hall⟩
      obtain ⟨b, hb, rfl, hp⟩ := (hsends hat.id).mpr hsend
      exact ⟨b, hb, hlup, p, hp, ds, hat, hup, hne, hall⟩
  · rw [gradeText_eq_degraded_iff, lbGrade_eq_degraded_iff, ne_eq, ne_eq, gradeText_eq_error_iff]
    simp only [namedGrade_eq_degraded_iff h.readable h.enabled hpools]
    refine and_congr_right fun _ => and_congr_right fun _ => ⟨?_, ?_⟩
    · rintro ⟨l, hl, hlup, p, hp, ds, hat, hup, hsome, hnot⟩
      exact ⟨l.1, p, ds, (hsends hat.id).mp ⟨l, hl, rfl, hp⟩, hlup, hat, hup, hsome, hnot⟩
    · rintro ⟨l, p, ds, hsend, hlup, hat, hup, hsome, hnot⟩
      obtain ⟨b, hb, rfl, hp⟩ := (hsends hat.id).mpr hsend
      exact ⟨b, hb, hlup, p, hp, ds, hat, hup, hsome, hnot⟩

/-- The row with other recorded statuses. -/
theorem Rollable.withStatuses (h : Rollable env row) {d : Dict Str Str} (hd : d.items ≠ []) :
    Rollable env { row with externalIds := withStatuses row.externalIds d } where
  readable := h.readable.withStatuses d
  enabled := by
    have hlistener := fun id up => Readable.withStatuses_ne (listenerKey_notMem_base id up)
    have hpool := fun id up => Readable.withStatuses_ne (poolKey_notMem_base id up)
    refine ⟨fun id hu hk => h.enabled.listener id hu ?_, fun id hu hk => h.enabled.pool id hu ?_,
      fun id v hu hv => h.enabled.value id v hu ?_⟩
    · exact (Readable.mem_keys_withStatuses (hlistener id false) _ _).mp hk
    · exact (Readable.mem_keys_withStatuses (hpool id false) _ _).mp hk
    · exact (Readable.get?_withStatuses (hlistener id true) _ _).symm.trans hv
  known := knownToOctavia_withStatuses.mpr h.known
  recorded := by
    rw [Readable.statusesIn_withStatuses]
    exact hd

/-- A text that says no better than another. -/
theorem noBetter_texts {g g' : Option Grade} (h : Grade.NoBetter g g') :
    (some (gradeText g) = some ERROR → some (gradeText g') = some ERROR) ∧
      (some (gradeText g) = some DEGRADED →
        some (gradeText g') = some DEGRADED ∨ some (gradeText g') = some ERROR) := by
  simp only [Option.some.injEq, gradeText_eq_error_iff, gradeText_eq_degraded_iff]
  refine ⟨fun hg => ?_, fun hg => ?_⟩
  · subst hg
    exact h.error
  · subst hg
    exact h.degraded

/-- The entries made from two dictionaries with the same bindings. -/
theorem noBetterIn_items {β : Type} {d d' : Dict Str β} {f f' : Str × β → Option Grade}
    (hget : ∀ x v, d.get? x = some v → d'.get? x = some v)
    (h : ∀ b ∈ d.items, Grade.NoBetter (f b) (f' b)) :
    NoBetterIn (some (d.items.map fun b => activeEntry (b.1, gradeText (f b))))
      (some (d'.items.map fun b => activeEntry (b.1, gradeText (f' b)))) := by
  intro a ha
  obtain ⟨b, hb, rfl⟩ := List.mem_map.mp ha
  have hb' := (Dict.get?_eq_some_iff ..).mp (hget b.1 b.2 ((Dict.get?_eq_some_iff ..).mpr hb))
  exact ⟨_, List.mem_map_of_mem hb', rfl, noBetter_texts (h b hb)⟩

/-- The row once the member is recorded as failed. -/
def LoadBalancer.withFailed (row : LoadBalancer) (m : Str) : LoadBalancer :=
  let statuses := (statusesIn row.externalIds).set m ERROR
  { row with externalIds := OvnOctavia.withStatuses row.externalIds statuses }

theorem Rollable.withFailed (h : Rollable env row) (m : Str) : Rollable env (row.withFailed m) := by
  refine h.withStatuses fun hnil => ?_
  have hget := Dict.get?_set_self (statusesIn row.externalIds) m ERROR
  rw [Dict.get?, hnil] at hget
  cases hget

theorem failed_stays (row : LoadBalancer) (m x : Str)
    (h : (statusesIn row.externalIds).get? x = some ERROR) :
    (statusesIn (row.withFailed m).externalIds).get? x = some ERROR := by
  rw [LoadBalancer.withFailed, Readable.statusesIn_withStatuses, Dict.get?_set]
  split
  · rfl
  · exact h

/-- The trees of the two rows have the same branches. -/
theorem Rollable.sameTrees (h : Rollable env row) (m : Str)
    {listeners pools listeners' pools' : Dict Str (List Str)}
    (hl : listenerPools row.externalIds = .ok listeners)
    (hp : poolMembers row.externalIds = .ok pools)
    (hl' : listenerPools (row.withFailed m).externalIds = .ok listeners')
    (hp' : poolMembers (row.withFailed m).externalIds = .ok pools') :
    (∀ x v, listeners'.get? x = some v ↔ listeners.get? x = some v) ∧
      ∀ x v, pools'.get? x = some v ↔ pools.get? x = some v := by
  have h' := h.withFailed m
  have hlistener := fun id => Readable.withStatuses_ne (listenerKey_notMem_base id true)
  have hpool := fun id => Readable.withStatuses_ne (poolKey_notMem_base id true)
  refine ⟨fun x v => ?_, fun x v => ?_⟩
  · rw [get?_listenerPools h.readable h.enabled hl, get?_listenerPools h'.readable h'.enabled hl',
      LoadBalancer.withFailed, Readable.get?_withStatuses (hlistener x)]
  · rw [get?_poolMembers h.readable h.enabled hp, get?_poolMembers h'.readable h'.enabled hp',
      LoadBalancer.withFailed, Readable.get?_withStatuses (hpool x)]

section Monotone
variable {statuses statuses' : Dict Str Str}
  {pools pools' listeners listeners' : Dict Str (List Str)}
  (hmore : ∀ x, statuses.get? x = some ERROR → statuses'.get? x = some ERROR)
include hmore

theorem poolGrade_noBetter (id : Str) (ms : List Str) :
    Grade.NoBetter (poolGrade env statuses id ms) (poolGrade env statuses' id ms) := by
  refine Grade.node_noBetter (Grade.ofLeaves_mono fun m _ hm => ?_)
  rw [decide_eq_true_iff] at hm ⊢
  exact hmore m hm

variable (hpools : ∀ x v, pools'.get? x = some v ↔ pools.get? x = some v)
include hpools

theorem listenerGrade_noBetter (id : Str) (named : List Str) :
    Grade.NoBetter (listenerGrade env statuses pools id named)
      (listenerGrade env statuses' pools' id named) := by
  refine Grade.node_noBetter (Grade.worst_mono fun g hg => ?_)
  obtain ⟨p, hp, rfl⟩ := List.mem_map.mp hg
  refine ⟨_, List.mem_map_of_mem hp, ?_⟩
  have hsame : pools'.get? p = pools.get? p := Option.ext fun v => hpools p v
  rw [namedGrade, namedGrade, hsame]
  cases pools.get? p with
  | none => exact le_refl Grade.online
  | some ms => exact poolGrade_noBetter hmore p ms

theorem lbGrade_noBetter
    (hlisteners : ∀ x v, listeners'.get? x = some v ↔ listeners.get? x = some v)
    (name : Str) : Grade.NoBetter (lbGrade env statuses pools listeners name)
      (lbGrade env statuses' pools' listeners' name) := by
  refine Grade.node_noBetter (Grade.worst_mono fun g hg => ?_)
  obtain ⟨l, hl, rfl⟩ := List.mem_map.mp hg
  have hl' := (Dict.get?_eq_some_iff ..).mp
    ((hlisteners l.1 l.2).mpr ((Dict.get?_eq_some_iff ..).mpr hl))
  exact ⟨_, List.mem_map_of_mem hl', listenerGrade_noBetter hmore hpools l.1 l.2⟩

end Monotone

/-- Every object of a row is reported once, the load balancer is in error or degraded
exactly when a pool it sends to is, and a member that fails improves nothing. -/
theorem operatingStatuses_rollUp (h : Rollable env row) : ∃ s lb,
    getCurrentOperatingStatuses env row = .ok s ∧ RollsUp env row s lb ∧
    ∀ m x, (statusesIn row.externalIds).get? m = some x → x ≠ ERROR →
      ∃ s', getCurrentOperatingStatuses env (row.withFailed m) = .ok s' ∧ s.NoBetter s' := by
  obtain ⟨listeners, pools, hlisteners, hpools, hs⟩ := h.status
  obtain ⟨s, lb, hs', hroll⟩ := h.rollsUp
  refine ⟨s, lb, hs', hroll, fun m x hm hx => ?_⟩
  cases hs'.symm.trans hs
  obtain ⟨listeners', pools', hlisteners', hpools', hs''⟩ := (h.withFailed m).status
  obtain ⟨hl, hp⟩ := h.sameTrees m hlisteners hpools hlisteners' hpools'
  have hmore := failed_stays row m
  refine ⟨_, hs'', ?_, ?_, ?_⟩
  · intro a ha
    cases List.mem_singleton.mp ha
    exact ⟨_, List.mem_singleton_self _, rfl,
      noBetter_texts (lbGrade_noBetter hmore hp hl row.name)⟩
  · exact noBetterIn_items (fun x v hv => (hl x v).mpr hv) fun b _ =>
      listenerGrade_noBetter hmore hp b.1 b.2
  · exact noBetterIn_items (fun x v hv => (hp x v).mpr hv) fun b _ =>
      poolGrade_noBetter hmore b.1 b.2

end RollUp

section Example

theorem allEnabled_exampleNeighbours : AllEnabled exampleNeighbours.externalIds := by
  have hlast : (exampleNeighbours.externalIds.keys.all fun k => k.getLast? != some 'D') = true := by
    decide +kernel
  have hends : ∀ s : Str,
      s ++ ':' :: disabledResourceSuffix ∉ exampleNeighbours.externalIds.keys := by
    intro s hs
    have h := List.all_eq_true.mp hlast _ hs
    rw [List.getLast?_append] at h
    cases h
  have hvalue : (exampleNeighbours.externalIds.items.all fun b => !hasListenerPrefix b.1 ||
      b.2 = makeListenerKeyValue 80 (getPoolKey (exampleId 'c') true)) = true := by
    decide +kernel
  refine ⟨fun id _ => hends _, fun id _ => hends _, fun id v hu hv => ?_⟩
  have h := List.all_eq_true.mp hvalue _ ((Dict.get?_eq_some_iff ..).mp hv)
  simp only [hasListenerPrefix_listenerKey, Bool.not_true, Bool.false_or, decide_eq_true_iff] at h
  have hid : IsUuid (exampleId 'c') := isUuid_exampleId (by decide)
  exact ⟨80, _, h, .inr ⟨_, true, rfl, hid.notMem (by decide), hid.notMem (by decide)⟩⟩

theorem rollable_exampleNeighbours : Rollable exampleEnv exampleNeighbours where
  readable := eventRows_example.readable _ (List.mem_singleton_self _)
  enabled := allEnabled_exampleNeighbours
  known := by
    have hid : ∀ id up, IsUuid id → ':' ∈ keyId id up → up = false := by
      intro id up hu hc
      cases up with
      | false => rfl
      | true =>
          rw [keyId, if_pos rfl, List.append_nil] at hc
          exact absurd hc (hu.notMem (by decide))
    refine ⟨rfl, fun id up hu hk => ?_, fun id up hu hk => ?_⟩
    · have hcolon : ':' ∉ keyId id up := fun hc =>
        allEnabled_exampleNeighbours.pool id hu (hid id up hu hc ▸ hk)
      simp only [exampleEnv, if_neg hcolon, Option.isSome_some]
    · have hcolon : ':' ∉ keyId id up := fun hc =>
        allEnabled_exampleNeighbours.listener id hu (hid id up hu hc ▸ hk)
      simp only [exampleEnv, if_neg hcolon, Option.isSome_some]
  recorded := by
    rw [exampleNeighbours, Readable.statusesIn_withStatuses]
    decide

theorem operatingStatuses_rollUp_example : ∃ s lb,
    getCurrentOperatingStatuses exampleEnv exampleNeighbours = .ok s ∧
    RollsUp exampleEnv exampleNeighbours s lb ∧
    ∀ m x, (statusesIn exampleNeighbours.externalIds).get? m = some x → x ≠ ERROR →
      ∃ s', getCurrentOperatingStatuses exampleEnv (exampleNeighbours.withFailed m) = .ok s' ∧
        s.NoBetter s' :=
  operatingStatuses_rollUp rollable_exampleNeighbours

end Example

end OvnOctavia
