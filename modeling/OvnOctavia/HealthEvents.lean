import OvnOctavia.Directory
import OvnOctavia.MemberOutcomes
import OvnOctavia.Traffic

/-!
The status of a member after a health event. The lookup goes by the texts of the members
of one pool: the first that contains the address and the port takes the status, whether or
not it is the member of the event, and no other pool is looked at.
-/

namespace OvnOctavia

section Lookup
variable {env : Env} {e : Dict Str Str} {info : HmEventInfo}

/-- The member has the address and the port of the event. -/
def HmEventInfo.hits (info : HmEventInfo) (d : MemberData) : Bool :=
  d.ip = info.ip && d.port = info.port

/-- The text of the member contains the address and the port. -/
def HmEventInfo.mentions (info : HmEventInfo) (d : MemberData) : Bool :=
  Str.contains info.ip d.text && Str.contains info.port d.text

def HmEventInfo.status (info : HmEventInfo) : Str := if info.offline then ERROR else ONLINE

/-- The first member, in the first pool the event is of, whose text contains the address
and the port. -/
def HmEventInfo.lookedUp (info : HmEventInfo) : List (List MemberData) → Option MemberData
  | [] => none
  | ds :: rest => if ds.any info.hits then ds.find? info.mentions else info.lookedUp rest

/-- `d` is an entry of the first pool that has a member with the address and the port, with
`early` before it there. -/
def HmEventInfo.InFirstPool (info : HmEventInfo) (pools : List (List MemberData))
    (early : List MemberData) (d : MemberData) (late : List MemberData) : Prop :=
  ∃ before after, pools = before ++ (early ++ d :: late) :: after ∧
    (∀ ds ∈ before, ∀ x ∈ ds, info.hits x = false) ∧
    ∃ x ∈ early ++ d :: late, info.hits x = true

/-- The members of the pools of a row, in the order of its keys. -/
def poolsIn (e : Dict Str Str) : List (List MemberData) :=
  (e.items.filter fun b => hasPoolPrefix b.1).map fun b => (extractMemberInfo b.2).toOption.getD []

theorem HmEventInfo.mentions_of_hits {d : MemberData} (h : info.hits d = true) :
    info.mentions d = true := by
  rw [hits, Bool.and_eq_true, decide_eq_true_iff, decide_eq_true_iff] at h
  rw [mentions, Bool.and_eq_true, ← h.1, ← h.2, Str.contains_iff, Str.contains_iff,
    MemberData.text, memberText]
  constructor
  · exact ⟨lbExtIdsMemberPrefix ++ d.id ++ ['_'], ':' :: (d.port ++ '_' :: d.subnet), by simp⟩
  · exact ⟨lbExtIdsMemberPrefix ++ d.id ++ '_' :: (d.ip ++ [':']), '_' :: d.subnet, by simp⟩

theorem HmEventInfo.lookedUp_eq_none_iff {pools : List (List MemberData)} :
    info.lookedUp pools = none ↔ ∀ ds ∈ pools, ∀ d ∈ ds, info.hits d = false := by
  induction pools with
  | nil => exact ⟨fun _ _ h => absurd h List.not_mem_nil, fun _ => rfl⟩
  | cons ds rest ih =>
      rw [lookedUp, List.forall_mem_cons]
      split
      · next hany =>
          obtain ⟨d, hd, hhit⟩ := List.any_eq_true.mp hany
          refine ⟨fun hnone => ?_, fun hall => ?_⟩
          · exact absurd (info.mentions_of_hits hhit) (List.find?_eq_none.mp hnone d hd)
          · rw [hall.1 d hd] at hhit
            cases hhit
      · next hany =>
          rw [Bool.not_eq_true, List.any_eq_false] at hany
          rw [ih, and_iff_right]
          exact fun d hd => Bool.eq_false_iff.mpr (hany d hd)

theorem HmEventInfo.lookedUp_eq_some_iff {pools : List (List MemberData)} {d : MemberData} :
    info.lookedUp pools = some d ↔ info.mentions d = true ∧
      ∃ early late, info.InFirstPool pools early d late ∧ ∀ x ∈ early, info.mentions x = false := by
  induction pools with
  | nil =>
      refine ⟨by rintro ⟨⟩, ?_⟩
      rintro ⟨-, early, late, ⟨before, after, h, -⟩, -⟩
      exact absurd h.symm (by simp)
  | cons ds rest ih =>
      rw [lookedUp]
      split
      · next hany =>
          rw [List.any_eq_true] at hany
          rw [List.find?_eq_some_iff_append]
          constructor
          · rintro ⟨hd, early, late, rfl, hearly⟩
            exact ⟨hd, early, late, ⟨[], rest, rfl, List.forall_mem_nil _, hany⟩,
              by simpa using hearly⟩
          · rintro ⟨hd, early, late, ⟨before, after, h, hbefore, -⟩, hearly⟩
            cases before with
            | nil =>
                cases h
                exact ⟨hd, early, late, rfl, by simpa using hearly⟩
            | cons first before =>
                cases h
                obtain ⟨x, hx, hhit⟩ := hany
                rw [hbefore ds List.mem_cons_self x hx] at hhit
                cases hhit
      · next hany =>
          rw [List.any_eq_true] at hany
          rw [ih]
          refine and_congr_right fun hd => ?_
          constructor
          · rintro ⟨early, late, ⟨before, after, rfl, hbefore, hpool⟩, hearly⟩
            refine ⟨early, late, ⟨ds :: before, after, rfl, List.forall_mem_cons.mpr ⟨?_, hbefore⟩,
              hpool⟩, hearly⟩
            exact fun x hx => Bool.eq_false_iff.mpr fun hhit => hany ⟨x, hx, hhit⟩
          · rintro ⟨early, late, ⟨before, after, h, hbefore, hpool⟩, hearly⟩
            cases before with
            | nil =>
                cases h
                exact absurd hpool hany
            | cons first before =>
                cases h
                exact ⟨early, late, ⟨before, after, rfl,
                  fun x hx => hbefore x (List.mem_cons_of_mem _ hx), hpool⟩, hearly⟩

theorem eventMemberIn_poolValue {ds : List MemberData} (hds : ∀ d ∈ ds, d.WellFormed env) :
    eventMemberIn info.ip info.port (poolValue ds) =
      .ok (if ds.any info.hits then (ds.find? info.mentions).map MemberData.id else none) := by
  rw [eventMemberIn, extractMemberInfo_poolValue hds]
  change (if ds.any info.hits = true then _ else _ : Except Exc (Option Str)) = _
  split
  · next hany =>
      obtain ⟨d, hd, hhit⟩ := List.any_eq_true.mp hany
      have hmentions : ((ds.map MemberData.text).filter fun mb =>
          Str.contains info.ip mb && Str.contains info.port mb) =
            (ds.filter info.mentions).map MemberData.text := List.filter_map
      rw [poolItems_poolValue hds, hmentions, ← List.head?_filter]
      cases hf : ds.filter info.mentions with
      | nil =>
          have hm : d ∈ ds.filter info.mentions :=
            List.mem_filter.mpr ⟨hd, info.mentions_of_hits hhit⟩
          rw [hf] at hm
          cases hm
      | cons m ms =>
          have hm : m ∈ ds.filter info.mentions := hf ▸ List.mem_cons_self ..
          simp only [List.map_cons, (hds m (List.mem_of_mem_filter hm)).memberIdOf_text]
          rfl
  · rfl

theorem findEventMember_eq {l : List (Str × Str)}
    (hl : ∀ b ∈ l, hasPoolPrefix b.1 = true → IsPoolValue env b.2) :
    findEventMember info.ip info.port l = .ok ((info.lookedUp
      ((l.filter fun b => hasPoolPrefix b.1).map fun b =>
        (extractMemberInfo b.2).toOption.getD [])).map MemberData.id) := by
  induction l with
  | nil => rfl
  | cons b l ih =>
      obtain ⟨k, v⟩ := b
      have hrest := ih fun b hb => hl b (List.mem_cons_of_mem _ hb)
      rw [findEventMember]
      by_cases hk : hasPoolPrefix k = true
      · obtain ⟨ds, rfl, hds⟩ := hl (k, v) (List.mem_cons_self ..) hk
        simp only [hk, Bool.not_true, Bool.false_eq_true, if_false]
        simp only [List.filter_cons, hk, if_true, List.map_cons]
        rw [eventMemberIn_poolValue hds, extractMemberInfo_poolValue hds]
        change _ = Except.ok ((info.lookedUp (ds :: _)).map MemberData.id)
        rw [HmEventInfo.lookedUp]
        split
        · next hany =>
            obtain ⟨d, hd, hhit⟩ := List.any_eq_true.mp hany
            cases hf : ds.find? info.mentions with
            | none =>
                have := List.find?_eq_none.mp hf d hd
                exact absurd (info.mentions_of_hits hhit) this
            | some m =>
                obtain ⟨c, id, hid⟩ := List.exists_cons_of_ne_nil
                  (hds m (List.mem_of_find?_eq_some hf)).id.ne_nil
                rw [Option.map_some, hid]
                rfl
        · exact hrest
      · rw [Bool.not_eq_true] at hk
        rw [List.filter_cons_of_neg (by simp [hk])]
        simpa [hk] using hrest

theorem Readable.findEventMember (hr : Readable env e) :
    findEventMember info.ip info.port e.items =
      .ok ((info.lookedUp (poolsIn e)).map MemberData.id) :=
  findEventMember_eq fun _ hb hk => hr.isPoolValue hb hk

end Lookup

section OperatingStatuses
variable {env : Env} {row : LoadBalancer}

/-- The id in the key of a pool or of a listener. -/
def keyId (id : Str) (up : Bool) : Str := id ++ if up then [] else ':' :: disabledResourceSuffix

/-- Octavia has the load balancer, the pools and the listeners under the ids that the keys
of the row show. -/
structure KnownToOctavia (env : Env) (row : LoadBalancer) : Prop where
  lb : (env.getLoadbalancer row.name).isSome
  pool : ∀ id up, IsUuid id → getPoolKey id up ∈ row.externalIds.keys →
    (env.getPool (keyId id up)).isSome
  listener : ∀ id up, IsUuid id → getListenerKey id up ∈ row.externalIds.keys →
    (env.getListener (keyId id up)).isSome

theorem idOfKey_listenerKey {id : Str} (h : IsUuid id) (up : Bool) :
    idOfKey (getListenerKey id up) = .ok (keyId id up) := by
  have hid : '_' ∉ keyId id up := by
    have := h.notMem (c := '_') (by decide)
    cases up <;> simp [keyId, this, disabledResourceSuffix]
  have hlistener : '_' ∉ "listener".toList := by decide
  have hkey : getListenerKey id up = "listener".toList ++ '_' :: keyId id up := by
    rw [getListenerKey, List.append_assoc]
    rfl
  have hsplit : (getListenerKey id up).splitOn '_' = ["listener".toList, keyId id up] := by
    rw [hkey, List.splitOn_append_cons_self_of_not_mem hlistener, List.splitOn_eq_singleton hid]
  simp only [idOfKey, memberIdOf, hsplit]

theorem memberIdOf_ok {s : Str} (h : '_' ∈ s) : ∃ id, memberIdOf s = .ok id := by
  rw [memberIdOf]
  rcases hs : s.splitOn '_' with _ | ⟨a, _ | ⟨b, l⟩⟩
  · exact absurd hs (List.splitOn_ne_nil _ _)
  · have hjoin := Str.join_splitOn '_' s
    rw [hs, Str.join_singleton] at hjoin
    exact absurd (hjoin ▸ h) (Str.notMem_of_mem_splitOn (hs ▸ List.mem_singleton_self a))
  · exact ⟨b, rfl⟩

/-- One step of reading the objects named by the keys of a kind. -/
def collect (p : Str → Bool) (g : Str → Except Exc (List Str)) (acc : Dict Str (List Str))
    (b : Str × Str) : Except Exc (Dict Str (List Str)) :=
  if p b.1 then do
    let id ← idOfKey b.1
    let l ← g b.2
    return acc.set id l
  else return acc

theorem foldlM_collect {p : Str → Bool} {g : Str → Except Exc (List Str)} {l : List (Str × Str)}
    (h : ∀ b ∈ l, p b.1 = true → (∃ id, idOfKey b.1 = .ok id) ∧ ∃ ms, g b.2 = .ok ms) :
    ∃ d, l.foldlM (collect p g) ∅ = .ok d ∧
      ∀ x, x ∈ d.keys ↔ ∃ b ∈ l, p b.1 = true ∧ idOfKey b.1 = .ok x := by
  obtain ⟨d, hd⟩ := Except.foldlM_ok (f := collect p g) (fun b hb acc => by
    rw [collect]
    split
    · next hp =>
        obtain ⟨⟨id, hid⟩, ⟨ms, hms⟩⟩ := h b hb hp
        exact ⟨acc.set id ms, by rw [hid, hms]; rfl⟩
    · exact ⟨acc, rfl⟩) ∅
  refine ⟨d, hd, fun x => ?_⟩
  have hstep : ∀ b (acc acc' : Dict Str (List Str)), collect p g acc b = .ok acc' →
      (x ∈ acc'.keys ↔ x ∈ acc.keys ∨ (p b.1 = true ∧ idOfKey b.1 = .ok x)) := by
    intro b acc acc' hc
    rw [collect] at hc
    split at hc
    · next hp =>
        obtain ⟨id, hid, hc⟩ := Except.bind_eq_ok.mp hc
        obtain ⟨ms, -, hc⟩ := Except.bind_eq_ok.mp hc
        cases hc
        rw [Dict.mem_keys_set, hid, Except.ok.injEq]
        simp only [hp, true_and]
        rw [or_comm, eq_comm]
    · next hp =>
        cases hc
        simp [hp]
  rw [Except.foldlM_iff (R := fun d => x ∈ d.keys) hstep hd]
  simp

theorem Readable.listenerPools_ok {e : Dict Str Str} (hr : Readable env e) :
    ∃ d, listenerPools e = .ok d ∧ ∀ x, x ∈ d.keys ↔ ∃ id up, IsUuid id ∧
      getListenerKey id up ∈ e.keys ∧ x = keyId id up := by
  have hkey : ∀ b ∈ e.items, hasListenerPrefix b.1 = true →
      ∃ id up, IsUuid id ∧ b.1 = getListenerKey id up := by
    intro b hb hp
    rcases hr.key b.1 (List.mem_map_of_mem hb) with hbase | h | ⟨id, up, hid, he⟩
    · rw [hasListenerPrefix_base hbase] at hp
      cases hp
    · exact h
    · rw [he, hasListenerPrefix_poolKey hid] at hp
      cases hp
  obtain ⟨d, hd, hkeys⟩ := foldlM_collect (p := hasListenerPrefix)
    (g := fun v => ((v.splitOn ',').filter hasPoolPrefix).mapM idOfKey) (l := e.items)
    (fun b hb hp => by
      obtain ⟨id, up, hid, he⟩ := hkey b hb hp
      refine ⟨⟨_, he ▸ idOfKey_listenerKey hid up⟩, ?_⟩
      refine Except.mapM_ok_iff.mpr fun part hm => memberIdOf_ok ?_
      have hcontains := (List.mem_filter.mp hm).2
      rw [hasPoolPrefix, Str.contains_iff] at hcontains
      exact hcontains.subset (by decide))
  refine ⟨d, hd, fun x => ?_⟩
  rw [hkeys]
  constructor
  · rintro ⟨b, hb, hp, hx⟩
    obtain ⟨id, up, hid, he⟩ := hkey b hb hp
    rw [he, idOfKey_listenerKey hid, Except.ok.injEq] at hx
    exact ⟨id, up, hid, he ▸ List.mem_map_of_mem hb, hx.symm⟩
  · rintro ⟨id, up, hid, hk, rfl⟩
    obtain ⟨v, hv⟩ := (Dict.mem_keys_iff _ _).mp hk
    exact ⟨_, hv, hasListenerPrefix_listenerKey id up, idOfKey_listenerKey hid up⟩

theorem Readable.poolMembers_ok {e : Dict Str Str} (hr : Readable env e) :
    ∃ d, poolMembers e = .ok d ∧ ∀ x, x ∈ d.keys ↔ ∃ id up, IsUuid id ∧
      getPoolKey id up ∈ e.keys ∧ x = keyId id up := by
  have hkey : ∀ b ∈ e.items, (!hasListenerPrefix b.1 && hasPoolPrefix b.1) = true →
      ∃ id up, IsUuid id ∧ b.1 = getPoolKey id up := by
    intro b hb hp
    rw [Bool.and_eq_true] at hp
    rcases hr.key b.1 (List.mem_map_of_mem hb) with hbase | ⟨id, up, hid, he⟩ | h
    · rw [hasPoolPrefix_base hbase] at hp
      cases hp.2
    · rw [he, hasPoolPrefix_listenerKey hid] at hp
      cases hp.2
    · exact h
  obtain ⟨d, hd, hkeys⟩ := foldlM_collect
    (p := fun k => !hasListenerPrefix k && hasPoolPrefix k)
    (g := fun v => ((v.splitOn ',').filter (· ≠ [])).mapM memberIdOf) (l := e.items)
    (fun b hb hp => by
      obtain ⟨id, up, hid, he⟩ := hkey b hb hp
      refine ⟨⟨_, he ▸ idOfKey_poolKey hid up⟩, ?_⟩
      have hget : e.get? (getPoolKey id up) = some b.2 :=
        he ▸ (Dict.get?_eq_some_iff _ _ _).mpr hb
      obtain ⟨ds, hv, hds⟩ := hr.pool id up b.2 hid hget
      refine Except.mapM_ok_iff.mpr fun part hm => ?_
      obtain ⟨hm, hne⟩ := List.mem_filter.mp hm
      rw [hv] at hm
      by_cases hnil : ds = []
      · rw [hnil] at hm
        simp at hm
        simp [hm] at hne
      · rw [splitOn_poolValue hds hnil] at hm
        obtain ⟨m, hmem, rfl⟩ := List.mem_map.mp hm
        exact ⟨m.id, (hds m hmem).memberIdOf_text⟩)
  refine ⟨d, hd, fun x => ?_⟩
  rw [hkeys]
  constructor
  · rintro ⟨b, hb, hp, hx⟩
    obtain ⟨id, up, hid, he⟩ := hkey b hb hp
    rw [he, idOfKey_poolKey hid, Except.ok.injEq] at hx
    exact ⟨id, up, hid, he ▸ List.mem_map_of_mem hb, hx.symm⟩
  · rintro ⟨id, up, hid, hk, rfl⟩
    obtain ⟨v, hv⟩ := (Dict.mem_keys_iff _ _).mp hk
    refine ⟨_, hv, ?_, idOfKey_poolKey hid up⟩
    simp only [hasListenerPrefix_poolKey hid, hasPoolPrefix_poolKey]
    rfl

/-- The statuses of a row can be computed exactly when Octavia knows its objects. -/
theorem operatingStatuses_ok_iff (hr : Readable env row.externalIds) :
    (∃ s, getCurrentOperatingStatuses env row = .ok s) ↔ KnownToOctavia env row := by
  obtain ⟨listeners, hlisteners, hlkeys⟩ := hr.listenerPools_ok
  obtain ⟨pools, hpools, hpkeys⟩ := hr.poolMembers_ok
  have hpool : ∀ p, (∃ s, poolStatus env (statusesIn row.externalIds) p = .ok s) ↔
      (env.getPool p.1).isSome := by
    intro p
    rw [poolStatus]
    cases env.getPool p.1 with
    | none => simp
    | some x => simp
  have hlistener : ∀ statuses l, (∃ s, listenerStatus env statuses l = .ok s) ↔
      (env.getListener l.1).isSome := by
    intro statuses l
    rw [listenerStatus]
    cases env.getListener l.1 with
    | none => simp
    | some x => simp
  have hlb : ∀ statuses, (∃ s, lbStatus env row.name statuses = .ok s) ↔
      (env.getLoadbalancer row.name).isSome := by
    intro statuses
    rw [lbStatus]
    cases env.getLoadbalancer row.name with
    | none => simp
    | some x => simp
  rw [getCurrentOperatingStatuses, hr.statuses, hlisteners, hpools]
  constructor
  · rintro ⟨s, hs⟩
    change (pools.items.mapM (poolStatus env (statusesIn row.externalIds)) >>= _) = _ at hs
    obtain ⟨ps, hps, hs⟩ := Except.bind_eq_ok.mp hs
    obtain ⟨ls, hls, hs⟩ := Except.bind_eq_ok.mp hs
    obtain ⟨lb, hl, -⟩ := Except.bind_eq_ok.mp hs
    have hall := Except.mapM_ok_iff.mp ⟨ps, hps⟩
    have hall' := Except.mapM_ok_iff.mp ⟨ls, hls⟩
    simp only [hpool] at hall
    simp only [hlistener] at hall'
    refine ⟨(hlb _).mp ⟨lb, hl⟩, fun id up hid hk => ?_, fun id up hid hk => ?_⟩
    · obtain ⟨v, hv⟩ := (Dict.mem_keys_iff _ _).mp ((hpkeys _).mpr ⟨id, up, hid, hk, rfl⟩)
      exact hall _ hv
    · obtain ⟨v, hv⟩ := (Dict.mem_keys_iff _ _).mp ((hlkeys _).mpr ⟨id, up, hid, hk, rfl⟩)
      exact hall' _ hv
  · intro h
    obtain ⟨ps, hps⟩ : ∃ ps,
        pools.items.mapM (poolStatus env (statusesIn row.externalIds)) = .ok ps := by
      rw [Except.mapM_ok_iff]
      intro x hx
      obtain ⟨id, up, hid, hk, he⟩ := (hpkeys x.1).mp (List.mem_map_of_mem hx)
      rw [hpool, he]
      exact h.pool id up hid hk
    obtain ⟨ls, hls⟩ : ∃ ls, listeners.items.mapM (listenerStatus env ps) = .ok ls := by
      rw [Except.mapM_ok_iff]
      intro x hx
      obtain ⟨id, up, hid, hk, he⟩ := (hlkeys x.1).mp (List.mem_map_of_mem hx)
      rw [hlistener, he]
      exact h.listener id up hid hk
    obtain ⟨lb, hl⟩ := (hlb (ls.map Prod.snd)).mpr h.lb
    change ∃ s, (pools.items.mapM (poolStatus env (statusesIn row.externalIds)) >>= _) = .ok s
    exact ⟨_, Except.bind_eq_ok.mpr ⟨ps, hps, Except.bind_eq_ok.mpr ⟨ls, hls,
      Except.bind_eq_ok.mpr ⟨lb, hl, rfl⟩⟩⟩⟩

theorem knownToOctavia_withStatuses {d : Dict Str Str} :
    KnownToOctavia env { row with externalIds := withStatuses row.externalIds d } ↔
      KnownToOctavia env row := by
  have hpool := fun id up => Readable.mem_keys_withStatuses
    (Readable.withStatuses_ne (poolKey_notMem_base id up)) row.externalIds d
  have hlistener := fun id up => Readable.mem_keys_withStatuses
    (Readable.withStatuses_ne (listenerKey_notMem_base id up)) row.externalIds d
  constructor
  · intro h
    exact ⟨h.lb, fun id up hid hk => h.pool id up hid ((hpool id up).mpr hk),
      fun id up hid hk => h.listener id up hid ((hlistener id up).mpr hk)⟩
  · intro h
    exact ⟨h.lb, fun id up hid hk => h.pool id up hid ((hpool id up).mp hk),
      fun id up hid hk => h.listener id up hid ((hlistener id up).mp hk)⟩

end OperatingStatuses

section Events
variable {env : Env} {nb : Nb} {info : HmEventInfo} {row : LoadBalancer}

/-- The row with the status the event writes. -/
def HmEventInfo.written (info : HmEventInfo) (row : LoadBalancer) : LoadBalancer :=
  match info.lookedUp (poolsIn row.externalIds) with
  | none => row
  | some d =>
      let statuses := (statusesIn row.externalIds).set d.id info.status
      { row with externalIds := withStatuses row.externalIds statuses }

/-- The rows after this one are handled: no member of it has the address and the port, or
Octavia knows its objects. -/
def HmEventInfo.Passes (env : Env) (info : HmEventInfo) (row : LoadBalancer) : Prop :=
  (∀ ds ∈ poolsIn row.externalIds, ∀ d ∈ ds, info.hits d = false) ∨ KnownToOctavia env row

@[simp] theorem HmEventInfo.uuid_written (info : HmEventInfo) (row : LoadBalancer) :
    (info.written row).uuid = row.uuid := by
  rw [written]
  split <;> rfl

theorem run_hmUpdateEventOn (info : HmEventInfo) (hw : nb.WellFormed)
    (h : nb.lb? row.uuid = some row)
    (hr : Readable env row.externalIds) :
    ∃ r, (hmUpdateEventOn env info row).run Nb.apply nb = (r, nb.putLb (info.written row)) ∧
      ((∃ a, r = .ok a) ↔ info.Passes env row) := by
  rw [hmUpdateEventOn, Prog.run_bind, run_readLb, live_of_lb? h]
  dsimp only
  rw [Prog.run_bind, Prog.run_ofExcept, hr.findEventMember, HmEventInfo.written,
    HmEventInfo.Passes, ← HmEventInfo.lookedUp_eq_none_iff]
  cases hfound : info.lookedUp (poolsIn row.externalIds) with
  | none =>
      rw [Nb.putLb_self hw h]
      exact ⟨.ok none, rfl, fun _ => .inl rfl, fun _ => ⟨none, rfl⟩⟩
  | some d =>
      have hwrite := run_updateExternalIdsMemberStatus hw h hr.statuses d.id (some info.status)
      dsimp only
      generalize hstatuses : (statusesIn row.externalIds).set d.id info.status = statuses
      have hstore : withStatus (statusesIn row.externalIds) d.id (some info.status) = statuses :=
        hstatuses
      have hfound' : (nb.putLb { row with
          externalIds := withStatuses row.externalIds statuses }).lb? row.uuid =
            some { row with externalIds := withStatuses row.externalIds statuses } :=
        Nb.lb?_putLb _ h
      have hok : (∃ s, getCurrentOperatingStatuses env { row with
          externalIds := withStatuses row.externalIds statuses } = .ok s) ↔
            KnownToOctavia env { row with
              externalIds := withStatuses row.externalIds statuses } :=
        operatingStatuses_ok_iff (hr.withStatuses statuses)
      rw [knownToOctavia_withStatuses] at hok
      rw [hstore] at hwrite
      generalize { row with externalIds := withStatuses row.externalIds statuses } = row' at *
      generalize hcurrent : getCurrentOperatingStatuses env row' = current at hok
      refine ⟨current.map some, ?_, ?_⟩
      · change (updateExternalIdsMemberStatus (some row) d.id (some info.status) >>= _).run
          Nb.apply nb = _
        rw [Prog.run_bind, hwrite]
        simp only [currentOperatingStatuses, Prog.run_bind, run_readLb, live_of_lb? hfound',
          Prog.run_ofExcept, hcurrent]
        cases current <;> rfl
      · rw [← hok]
        cases current with
        | error e => simp [Except.map]
        | ok s => simp [Except.map]

/-- The rows of an event are rows of the table, each named once. -/
structure EventRows (env : Env) (nb : Nb) (l : List LoadBalancer) : Prop where
  found : ∀ lb ∈ l, nb.lb? lb.uuid = some lb
  readable : ∀ lb ∈ l, Readable env lb.externalIds
  nodup : (l.map LoadBalancer.uuid).Nodup

theorem EventRows.tail {l : List LoadBalancer} (h : EventRows env nb (row :: l))
    (row' : LoadBalancer) (hu : row'.uuid = row.uuid) : EventRows env (nb.putLb row') l := by
  have hn := h.nodup
  rw [List.map_cons, List.nodup_cons] at hn
  refine ⟨fun lb hlb => ?_, fun lb hlb => h.readable lb (List.mem_cons_of_mem _ hlb), hn.2⟩
  have hne : lb.uuid ≠ row'.uuid := fun he => hn.1 (hu ▸ he ▸ List.mem_map_of_mem hlb)
  rw [Nb.lb?_putLb_of_ne nb hne]
  exact h.found lb (List.mem_cons_of_mem _ hlb)

/-- Rows the event does not name stay. -/
theorem EventRows.lb?_of_notMem {l : List LoadBalancer} (h : EventRows env nb l)
    (hw : nb.WellFormed) {u : Nat} (hu : u ∉ l.map LoadBalancer.uuid) :
    ((Prog.mapEach (hmUpdateEventOn env info) l).run Nb.apply nb).2.lb? u = nb.lb? u := by
  induction l generalizing nb with
  | nil => rfl
  | cons row l ih =>
      rw [List.map_cons, List.mem_cons, not_or] at hu
      obtain ⟨r, hrun, -⟩ := run_hmUpdateEventOn info hw
        (h.found row (List.mem_cons_self ..)) (h.readable row (List.mem_cons_self ..))
      have hput : (nb.putLb (info.written row)).lb? u = nb.lb? u :=
        Nb.lb?_putLb_of_ne nb (by rw [info.uuid_written]; exact hu.1)
      rw [Prog.run_mapEach_cons, hrun]
      cases r with
      | error e => exact hput
      | ok a =>
          dsimp only
          rw [ih (h.tail _ (info.uuid_written row)) (hw.putLb _) hu.2]
          exact hput

/-- A row of the event is written when the rows before it pass, and stays otherwise. -/
theorem EventRows.lb?_run (info : HmEventInfo) {pre post : List LoadBalancer}
    (h : EventRows env nb (pre ++ row :: post)) (hw : nb.WellFormed) :
    ((∀ r ∈ pre, info.Passes env r) →
      ((Prog.mapEach (hmUpdateEventOn env info) (pre ++ row :: post)).run Nb.apply nb).2.lb?
        row.uuid = some (info.written row)) ∧
    ((¬ ∀ r ∈ pre, info.Passes env r) →
      ((Prog.mapEach (hmUpdateEventOn env info) (pre ++ row :: post)).run Nb.apply nb).2.lb?
        row.uuid = some row) := by
  induction pre generalizing nb with
  | nil =>
      refine ⟨fun _ => ?_, fun hno => absurd nofun hno⟩
      rw [List.nil_append] at h ⊢
      have hrow := h.found row (List.mem_cons_self ..)
      obtain ⟨r, hrun, -⟩ := run_hmUpdateEventOn info hw hrow
        (h.readable row (List.mem_cons_self ..))
      have hput : (nb.putLb (info.written row)).lb? row.uuid = some (info.written row) := by
        rw [← info.uuid_written row] at hrow ⊢
        exact Nb.lb?_putLb _ hrow
      rw [Prog.run_mapEach_cons, hrun]
      cases r with
      | error e => exact hput
      | ok a =>
          have hn := h.nodup
          rw [List.map_cons, List.nodup_cons] at hn
          dsimp only
          rw [(h.tail _ (info.uuid_written row)).lb?_of_notMem (hw.putLb _) hn.1]
          exact hput
  | cons first pre ih =>
      rw [List.cons_append] at h ⊢
      have hne : row.uuid ≠ first.uuid := by
        have hn := h.nodup
        rw [List.map_cons, List.nodup_cons] at hn
        exact fun he => hn.1 (he ▸ List.mem_map_of_mem (by simp))
      have hrow := h.found row (by simp)
      obtain ⟨r, hrun, hpass⟩ := run_hmUpdateEventOn info hw
        (h.found first (List.mem_cons_self ..)) (h.readable first (List.mem_cons_self ..))
      have hput : (nb.putLb (info.written first)).lb? row.uuid = some row := by
        rw [Nb.lb?_putLb_of_ne nb (by rwa [info.uuid_written]), hrow]
      have hrest := ih (h.tail _ (info.uuid_written first)) (hw.putLb _)
      rw [Prog.run_mapEach_cons, hrun, List.forall_mem_cons]
      cases r with
      | error e =>
          refine ⟨fun hall => ?_, fun _ => hput⟩
          obtain ⟨a, ha⟩ := hpass.mpr hall.1
          cases ha
      | ok a =>
          have hfirst := hpass.mp ⟨a, rfl⟩
          exact ⟨fun hall => hrest.1 hall.2, fun hno => hrest.2 fun hall => hno ⟨hfirst, hall⟩⟩

theorem lb?_run_hmUpdateEvent (u : Nat) :
    ((hmUpdateEvent env info).run Nb.apply nb).2.lb? u =
      ((Prog.mapEach (hmUpdateEventOn env info) info.ovnLbs).run Nb.apply nb).2.lb? u := by
  rw [hmUpdateEvent, run_bind_reading fun statuses => ?_]
  split
  · exact .pure _
  · exact .pure _

/-- Some member of the row with this id has the address and the port of the event. -/
def HmEventInfo.Hit (info : HmEventInfo) (e : Dict Str Str) (id : Str) : Prop :=
  ∃ ds ∈ poolsIn e, ∃ d ∈ ds, info.hits d = true ∧ d.id = id

/-- The members of the row the event is of have its status, all others theirs of before. -/
def HmEventInfo.Updates (info : HmEventInfo) (row : LoadBalancer) (nb' : Nb) : Prop :=
  ∃ row', nb'.lb? row.uuid = some row' ∧ ∃ statuses,
    loadMemberStatuses row'.externalIds = .ok statuses ∧
      ∀ id, (info.Hit row.externalIds id → statuses.get? id = some info.status) ∧
        (¬ info.Hit row.externalIds id →
          statuses.get? id = (statusesIn row.externalIds).get? id)

/-- The status of the event is stored under the id already. -/
def HmEventInfo.Settled (info : HmEventInfo) (row : LoadBalancer) (id : Str) : Prop :=
  (statusesIn row.externalIds).get? id = some info.status

/-- When an event updates the right members of a row, with `pre` the rows before it. -/
inductive HmEventInfo.LooksUpRight (env : Env) (info : HmEventInfo) (pre : List LoadBalancer)
    (row : LoadBalancer) : Prop
  /-- Nothing is written, as a row before stops the handling or no member has the address and
  the port, and no member of the event needs it. -/
  | idle (hnone : (∃ r ∈ pre, ¬info.Passes env r) ∨
        ∀ ds ∈ poolsIn row.externalIds, ∀ d ∈ ds, info.hits d = false)
      (hothers : ∀ id, info.Hit row.externalIds id → info.Settled row id)
  /-- No entry before a member of the event, in the first pool with one, contains both texts;
  the other members of the event have the status. -/
  | member {early late : List MemberData} {d : MemberData} (hpre : ∀ r ∈ pre, info.Passes env r)
      (hpool : info.InFirstPool (poolsIn row.externalIds) early d late)
      (hearly : ∀ x ∈ early, info.mentions x = false) (hd : info.hits d = true)
      (hothers : ∀ id, info.Hit row.externalIds id → id ≠ d.id → info.Settled row id)
  /-- An entry before them contains both texts, but has the status, or shares its id with a
  member of the event; the others have the status. -/
  | entry {early late : List MemberData} {m : MemberData} (hpre : ∀ r ∈ pre, info.Passes env r)
      (hpool : info.InFirstPool (poolsIn row.externalIds) early m late)
      (hearly : ∀ x ∈ early, info.mentions x = false) (hm : info.mentions m = true)
      (hno : info.hits m = false)
      (hsame : info.Settled row m.id ∨ info.Hit row.externalIds m.id)
      (hothers : ∀ id, info.Hit row.externalIds id → id ≠ m.id → info.Settled row id)

theorem HmEventInfo.hit_of_inFirstPool {early late : List MemberData} {d : MemberData}
    (hpool : info.InFirstPool (poolsIn row.externalIds) early d late) (hd : info.hits d = true) :
    info.Hit row.externalIds d.id := by
  obtain ⟨before, after, h, -⟩ := hpool
  refine ⟨early ++ d :: late, ?_, d, by simp, hd, rfl⟩
  rw [h]
  simp

theorem HmEventInfo.looksUpRight_of_none {pre : List LoadBalancer}
    (hnone : info.lookedUp (poolsIn row.externalIds) = none) : info.LooksUpRight env pre row := by
  rw [lookedUp_eq_none_iff] at hnone
  refine .idle (.inr hnone) fun id hhit => ?_
  obtain ⟨ds, hds, d, hd, hits, -⟩ := hhit
  rw [hnone ds hds d hd] at hits
  cases hits

theorem HmEventInfo.looksUpRight_iff_of_some {pre : List LoadBalancer} {m : MemberData}
    (hpre : ∀ r ∈ pre, info.Passes env r)
    (hsome : info.lookedUp (poolsIn row.externalIds) = some m) : info.LooksUpRight env pre row ↔
      (info.Settled row m.id ∨ info.Hit row.externalIds m.id) ∧
        ∀ id, info.Hit row.externalIds id → id ≠ m.id → info.Settled row id := by
  constructor
  · intro h
    cases h with
    | idle hnone hothers =>
        rcases hnone with ⟨r, hr, hno⟩ | hnone
        · exact absurd (hpre r hr) hno
        · rw [lookedUp_eq_none_iff.mpr hnone] at hsome
          cases hsome
    | member _ hpool hearly hd hothers =>
        cases (lookedUp_eq_some_iff.mpr ⟨info.mentions_of_hits hd, _, _, hpool, hearly⟩).symm.trans
          hsome
        exact ⟨.inr (hit_of_inFirstPool hpool hd), hothers⟩
    | entry _ hpool hearly hm _ hsame hothers =>
        cases (lookedUp_eq_some_iff.mpr ⟨hm, _, _, hpool, hearly⟩).symm.trans hsome
        exact ⟨hsame, hothers⟩
  · rintro ⟨hsame, hothers⟩
    obtain ⟨hm, early, late, hpool, hearly⟩ := lookedUp_eq_some_iff.mp hsome
    cases hhit : info.hits m with
    | true => exact .member hpre hpool hearly hhit hothers
    | false => exact .entry hpre hpool hearly hm hhit hsame hothers

theorem HmEventInfo.looksUpRight_iff_of_stopped {pre : List LoadBalancer}
    (hno : ¬∀ r ∈ pre, info.Passes env r) : info.LooksUpRight env pre row ↔
      ∀ id, info.Hit row.externalIds id → info.Settled row id := by
  constructor
  · intro h
    cases h with
    | idle _ hothers => exact hothers
    | member hpre | entry hpre => exact absurd hpre hno
  · push Not at hno
    exact .idle (.inl hno)

theorem HmEventInfo.statuses_written (info : HmEventInfo) (hr : Readable env row.externalIds) :
    ∃ statuses, loadMemberStatuses (info.written row).externalIds = .ok statuses ∧
      ∀ id, statuses.get? id =
        if (info.lookedUp (poolsIn row.externalIds)).map MemberData.id = some id
        then some info.status else (statusesIn row.externalIds).get? id := by
  rw [written]
  cases info.lookedUp (poolsIn row.externalIds) with
  | none => exact ⟨_, hr.statuses, fun id => rfl⟩
  | some d =>
      refine ⟨_, Readable.loadMemberStatuses_withStatuses _ _, fun id => ?_⟩
      simp only [Dict.get?_set, Option.map_some, Option.some.injEq, eq_comm]

/-- An event updates the right members of a row exactly when the lookup by texts takes the
one member that the event is of. -/
theorem hmUpdateEvent_updates_iff {pre post : List LoadBalancer}
    (hlbs : info.ovnLbs = pre ++ row :: post) (hw : nb.WellFormed)
    (h : EventRows env nb info.ovnLbs) :
    info.Updates row ((hmUpdateEvent env info).run Nb.apply nb).2 ↔
      info.LooksUpRight env pre row := by
  rw [hlbs] at h
  have hr := h.readable row (by simp)
  obtain ⟨hwritten, hstays⟩ := h.lb?_run info hw
  rw [← hlbs, ← lb?_run_hmUpdateEvent] at hwritten hstays
  have hrow : ∀ {row'}, ((hmUpdateEvent env info).run Nb.apply nb).2.lb? row.uuid = some row' →
      ∀ {statuses}, loadMemberStatuses row'.externalIds = .ok statuses →
        (info.Updates row ((hmUpdateEvent env info).run Nb.apply nb).2 ↔
          ∀ id, (info.Hit row.externalIds id → statuses.get? id = some info.status) ∧
            (¬ info.Hit row.externalIds id →
              statuses.get? id = (statusesIn row.externalIds).get? id)) := by
    intro row' hrow' statuses hst
    constructor
    · rintro ⟨row'', hrow'', statuses', hst', hall⟩
      cases hrow'.symm.trans hrow''
      cases hst.symm.trans hst'
      exact hall
    · exact fun hall => ⟨row', hrow', statuses, hst, hall⟩
  by_cases hpre : ∀ r ∈ pre, info.Passes env r
  · obtain ⟨statuses, hst, hget⟩ := info.statuses_written hr
    rw [hrow (hwritten hpre) hst]
    simp only [hget]
    cases hfound : info.lookedUp (poolsIn row.externalIds) with
    | none =>
        refine iff_of_true (fun id => ⟨fun hhit => ?_, fun _ => rfl⟩)
          (HmEventInfo.looksUpRight_of_none hfound)
        obtain ⟨ds, hds, d, hd, hits, -⟩ := hhit
        rw [HmEventInfo.lookedUp_eq_none_iff.mp hfound ds hds d hd] at hits
        cases hits
    | some m =>
        rw [HmEventInfo.looksUpRight_iff_of_some hpre hfound]
        simp only [Option.map_some, Option.some.injEq, HmEventInfo.Settled]
        constructor
        · intro hall
          refine ⟨?_, fun id hhit hne => ?_⟩
          · by_cases hhit : info.Hit row.externalIds m.id
            · exact .inr hhit
            · exact .inl (((hall m.id).2 hhit).symm.trans (if_pos rfl))
          · exact (if_neg (Ne.symm hne)).symm.trans ((hall id).1 hhit)
        · rintro ⟨hsame, hothers⟩ id
          by_cases hid : m.id = id
          · subst hid
            rw [if_pos rfl]
            exact ⟨fun _ => rfl, fun hno => (hsame.resolve_right hno).symm⟩
          · rw [if_neg hid]
            exact ⟨fun hhit => hothers id hhit (Ne.symm hid), fun _ => rfl⟩
  · rw [hrow (hstays hpre) hr.statuses, HmEventInfo.looksUpRight_iff_of_stopped hpre]
    exact forall_congr' fun id => ⟨fun hall => hall.1, fun hhit => ⟨hhit, fun _ => rfl⟩⟩

end Events

section Example

/-- Two members whose addresses begin alike, both online. -/
def exampleNear : MemberData := ⟨"10.0.0.1".toList, "80".toList, "sub".toList, exampleId 'e'⟩

def exampleFar : MemberData := ⟨"10.0.0.10".toList, "80".toList, "sub".toList, exampleId 'f'⟩

theorem wellFormed_exampleNear : exampleNear.WellFormed exampleEnv := by
  have hport : exampleNear.port = ['8', '0'] := rfl
  exact ⟨isUuid_exampleId (by decide), rfl, by decide, by rw [hport]; simp, by decide⟩

theorem wellFormed_exampleFar : exampleFar.WellFormed exampleEnv := by
  have hport : exampleFar.port = ['8', '0'] := rfl
  exact ⟨isUuid_exampleId (by decide), rfl, by decide, by rw [hport]; simp, by decide⟩

def exampleNeighbours : LoadBalancer :=
  { uuid := 2, name := exampleId 'a', protocol := some .tcp, vips := ∅
    externalIds := withStatuses (exampleServingKeys.set (getPoolKey (exampleId 'c') true)
      (poolValue [exampleFar, exampleNear]))
        ((Dict.single exampleNear.id ONLINE).set exampleFar.id ONLINE)
    options := ∅, selectionFields := [], healthCheck := [], ipPortMappings := ∅ }

def exampleNeighboursNb : Nb :=
  { exampleNb with loadBalancers := [exampleNeighbours], nextUuid := 3 }

/-- The first of the two went offline. -/
def exampleEvent : HmEventInfo :=
  { ovnLbs := [exampleNeighbours], ip := exampleNear.ip, port := exampleNear.port, offline := true }

theorem eventRows_example : EventRows exampleEnv exampleNeighboursNb exampleEvent.ovnLbs := by
  refine ⟨fun lb hlb => ?_, fun lb hlb => ?_, List.nodup_singleton _⟩
  · rw [List.mem_singleton.mp hlb]
    decide +kernel
  · rw [List.mem_singleton.mp hlb]
    have hother : getPoolKey (exampleId 'c') (!true) ∉ exampleServingKeys.keys := by
      decide +kernel
    have hid : IsUuid (exampleId 'c') := isUuid_exampleId (by decide)
    have hvalue : IsPoolValue exampleEnv (poolValue [exampleFar, exampleNear]) := by
      refine ⟨_, rfl, fun d hd => ?_⟩
      rcases List.mem_cons.mp hd with rfl | hd
      · exact wellFormed_exampleFar
      · rw [List.mem_singleton.mp hd]
        exact wellFormed_exampleNear
    exact (readable_exampleServingKeys.set_pool hid hother hvalue).withStatuses
      ((Dict.single exampleNear.id ONLINE).set exampleFar.id ONLINE)

/-- The other member went offline, whose entry comes first. -/
def exampleFarEvent : HmEventInfo := { exampleEvent with ip := exampleFar.ip }

theorem hmUpdateEvent_updates_iff_example : exampleFarEvent.Updates exampleNeighbours
    ((hmUpdateEvent exampleEnv exampleFarEvent).run Nb.apply exampleNeighboursNb).2 := by
  have hpools : poolsIn exampleNeighbours.externalIds = [[exampleFar, exampleNear]] := by
    decide +kernel
  refine (hmUpdateEvent_updates_iff
    (show exampleFarEvent.ovnLbs = [] ++ exampleNeighbours :: [] from rfl)
    ⟨by decide, by decide⟩ eventRows_example).mpr ?_
  have hplace : exampleFarEvent.InFirstPool (poolsIn exampleNeighbours.externalIds) [] exampleFar
      [exampleNear] :=
    ⟨[], [], hpools, List.forall_mem_nil _, exampleFar, List.mem_cons_self, rfl⟩
  refine .member (List.forall_mem_nil _) hplace (List.forall_mem_nil _) rfl ?_
  rintro id ⟨ds, hds, x, hx, hhit, rfl⟩ hne
  rw [hpools, List.mem_singleton] at hds
  subst hds
  rcases List.mem_cons.mp hx with rfl | hx
  · exact absurd rfl hne
  · rw [List.mem_singleton.mp hx] at hhit
    cases hhit

/-- The status of the other member changes, whose address contains that of the event. -/
theorem not_updates_exampleEvent : ¬ exampleEvent.Updates exampleNeighbours
    ((hmUpdateEvent exampleEnv exampleEvent).run Nb.apply exampleNeighboursNb).2 := by
  rintro ⟨row', hrow', statuses, hst, hall⟩
  have hhit : exampleEvent.Hit exampleNeighbours.externalIds exampleNear.id := by
    refine ⟨[exampleFar, exampleNear], ?_, exampleNear, ?_, rfl, rfl⟩
    · decide +kernel
    · decide +kernel
  have hleft : ((((hmUpdateEvent exampleEnv exampleEvent).run Nb.apply
      exampleNeighboursNb).2.lb? exampleNeighbours.uuid).map fun row =>
        (loadMemberStatuses row.externalIds).map fun d => d.get? exampleNear.id) =
          some (.ok (some ONLINE)) := by decide +kernel
  rw [hrow', Option.map_some, hst, Except.map, (hall exampleNear.id).1 hhit] at hleft
  exact absurd hleft (by decide)

end Example

end OvnOctavia
