import OvnOctavia.ProtocolRows
import OvnOctavia.RowEntries
import OvnOctavia.SyncedKeys

/-!
The pools of a row after a sync. Whatever members were on the row, a sync that ends
leaves each pool of the tree with exactly its members, in their order: the pool's
value is emptied first, and each member is put at its end.
-/

namespace OvnOctavia

section Holding
variable {env : Env} {held : Str → Str → Prop} {e : Dict Str Str} {k v : Str}

/-- Legible keys with the held entries among them. -/
structure Holding (env : Env) (held : Str → Str → Prop) (e : Dict Str Str) : Prop where
  legible : Legible env e
  held : ∀ k v, held k v → e.get? k = some v

/-- Only entries of objects are held. -/
def HoldsObjects (held : Str → Str → Prop) : Prop := ∀ k v, held k v → k ∉ baseKeys

namespace Holding

theorem update (he : Holding env held e) {kv : Dict Str Str} (hkv : Legible env kv)
    (hheld : ∀ k v w, held k v → kv.get? k = some w → w = v) : Holding env held (e.update kv) where
  legible := he.legible.update hkv
  held := by
    intro k v hk
    rw [Dict.get?_update, he.held k v hk]
    cases h : kv.get? k with
    | none => rfl
    | some w =>
        rw [hheld k v w hk h]
        rfl

theorem set (he : Holding env held e) (hentry : IsEntry env k v) (hk : ∀ w, ¬ held k w) :
    Holding env held (e.set k v) where
  legible := he.legible.set hentry
  held := by
    intro j w hj
    have hjk : j ≠ k := by
      rintro rfl
      exact hk w hj
    rw [Dict.get?_set_of_ne e v hjk]
    exact he.held j w hj

end Holding

/-- What holds of the entries of the objects has nothing to do with the other keys. -/
theorem ignoresStatuses_of_objects {I : Dict Str Str → Prop} (hI : ∀ e e' : Dict Str Str,
    (∀ k, k ∉ baseKeys → e'.get? k = e.get? k) → I e → I e') : IgnoresStatuses I := by
  have hne : ∀ j ∈ baseKeys, ∀ k, k ∉ baseKeys → k ≠ j :=
    fun j hj k hk => (ne_of_mem_of_not_mem hj hk).symm
  have hbase : ∀ k ∈ peripheralKeys, k ∈ baseKeys := by decide
  refine { set := ?_, erase := ?_, statuses := ?_ }
  · exact fun j hj v e => hI _ _ fun k hk => Dict.get?_set_of_ne e v (hne j (hbase j hj) k hk)
  · exact fun j hj e => hI _ _ fun k hk => Dict.get?_erase_of_ne e (hne j (hbase j hj) k hk)
  · exact fun d e => hI _ _ fun k hk => Readable.get?_withStatuses (hne _ (by decide) k hk) e d

theorem ignoresStatuses_legible : IgnoresStatuses (Legible env) where
  set := fun _ hk v _ he => he.setPeripheral hk v
  erase := fun k _ _ he => he.erase k
  statuses := fun d _ he => he.withStatuses d

theorem ignoresStatuses_holding (hp : HoldsObjects held) : IgnoresStatuses (Holding env held) := by
  have hheld : IgnoresStatuses fun e : Dict Str Str => ∀ k v, held k v → e.get? k = some v :=
    ignoresStatuses_of_objects fun e e' h he k v hk => (h k (hp k v hk)).trans (he k v hk)
  have hlegible : IgnoresStatuses (Legible env) := ignoresStatuses_legible
  refine { set := ?_, erase := ?_, statuses := ?_ }
  · exact fun k hk v e he => ⟨hlegible.set k hk v e he.legible, hheld.set k hk v e he.held⟩
  · exact fun k hk e he => ⟨hlegible.erase k hk e he.legible, hheld.erase k hk e he.held⟩
  · exact fun d e he => ⟨hlegible.statuses d e he.legible, hheld.statuses d e he.held⟩

end Holding

section Written
variable {env : Env} {e : Dict Str Str} {ds : List MemberData} {d : MemberData}

/-- A pool's sync empties its value. -/
theorem get?_prepareExternalIds_self (info : PoolInfo) (up : Bool) (e : Dict Str Str) :
    (prepareExternalIds info up e).get? (getPoolKey info.id up) = some [] := by
  unfold prepareExternalIds
  dsimp only
  split
  · exact Dict.get?_set_self _ _ _
  · split
    · exact Dict.get?_set_self _ _ _
    · rw [Dict.get?_set_of_ne _ _ (listenerKey_ne_poolKey _ _ _ _).symm]
      exact Dict.get?_set_self _ _ _

/-- Beside the pool it writes its listener, and leaves the other keys. -/
theorem get?_prepareExternalIds_of_ne {info : PoolInfo} {up : Bool} {k : Str}
    (hk : k ≠ getPoolKey info.id up)
    (hl : ∀ id, listenerOf info = some id → k ≠ getListenerKey id true) :
    (prepareExternalIds info up e).get? k = e.get? k := by
  unfold prepareExternalIds
  dsimp only
  split
  · exact Dict.get?_set_of_ne _ _ hk
  · next id hid =>
      split
      · exact Dict.get?_set_of_ne _ _ hk
      · rw [Dict.get?_set_of_ne _ _ (hl id hid)]
        exact Dict.get?_set_of_ne _ _ hk

/-- A member is put at the end of its pool's value unless it is listed. -/
theorem updatePoolData_eq {present : Option Str} (hds : ∀ d ∈ ds, d.WellFormed env)
    (hd : d.WellFormed env) (hp : present.getD [] = poolValue ds) :
    updatePoolData d.text present = if d ∈ ds then none else some (poolValue (ds ++ [d])) := by
  have hmem : d.text ∈ ds.map MemberData.text ↔ d ∈ ds := by
    rw [List.mem_map]
    refine ⟨?_, fun hm => ⟨d, hm, rfl⟩⟩
    rintro ⟨a, ha, he⟩
    exact MemberData.text_inj (hds a ha) hd he ▸ ha
  unfold updatePoolData
  simp only [hp]
  rw [poolValue_append hds, poolItems_poolValue hds]
  simp only [hmem]

theorem Legible.exists_members (he : Legible env e) (id : Str) (up : Bool) :
    ∃ ds, (e.get? (getPoolKey id up)).getD [] = poolValue ds ∧ ∀ d ∈ ds, d.WellFormed env := by
  cases hv : e.get? (getPoolKey id up) with
  | none => exact ⟨[], rfl, nofun⟩
  | some v => exact he.isPoolValue hv

theorem forall_mem_concat {α : Type} {p : α → Prop} {l : List α} {a : α} (hl : ∀ b ∈ l, p b)
    (ha : p a) : ∀ b ∈ l ++ [a], p b := by
  intro b hb
  rcases List.mem_append.mp hb with hb | hb
  · exact hl b hb
  · rw [List.mem_singleton.mp hb]
    exact ha

end Written

section Trees
variable {env : Env} {held : Str → Str → Prop} {lb : Octavia.LoadBalancer}

/-- A load balancer as Octavia describes it. -/
structure Octavia.LoadBalancer.WellFormed (env : Env) (lb : Octavia.LoadBalancer) : Prop where
  vip : ∀ vip, lb.vipAddress = some vip → (env.ipVersion vip).isSome
  additional : ∀ a ∈ lb.additionalVips, (env.ipVersion a.ipAddress).isSome ∧ ',' ∉ a.ipAddress
  listener : ∀ l ∈ lb.listeners.getD [], IsUuid l.listenerId ∧
    ∀ id, l.defaultPoolId = some id → id ≠ [] → IsUuid id
  pool : ∀ pool ∈ lb.pools.getD [], IsUuid pool.poolId
  distinct : ∀ p ∈ lb.pools.getD [], ∀ q ∈ lb.pools.getD [], p.poolId = q.poolId → p = q
  member : ∀ pool ∈ lb.pools.getD [], ∀ m ∈ pool.members.getD [], ∀ d,
    memberData env lb m = .ok d → d.WellFormed env

/-- The VIP keys that a sync writes are legible. -/
theorem legible_vipKeys (ht : lb.WellFormed env) {vip : Str} (hvip : lb.vipAddress = some vip)
    (vipPortId : Str) (up : Bool) : Legible env
      (addVipKeys (getLoadbalancerRequestInfo lb) (baseExternalIds vip vipPortId up)) := by
  have hvipKey : IsEntry env lbExtIdsVipKey vip := by
    refine .base (by decide) ⟨?_, fun _ => ht.vip vip hvip, ?_, ?_, ?_⟩
    all_goals exact fun h => absurd h (by decide)
  have hbase : Legible env (baseExternalIds vip vipPortId up) :=
    ((Legible.empty.set hvipKey).set (.plain (by decide) (by decide) _)).set
      (.plain (by decide) (by decide) _)
  change Legible env (addAdditionalVips lb.additionalVips (baseExternalIds vip vipPortId up))
  rw [addAdditionalVips]
  split
  · exact hbase
  · next hne =>
      have hvips : IsEntry env lbExtIdsAdditVipKey
          (Str.join ',' (lb.additionalVips.map AdditionalVip.ipAddress)) := by
        refine .base (by decide) ⟨?_, ?_, fun _ => ?_, ?_, ?_⟩
        · exact fun h => absurd h (by decide)
        · exact fun h => absurd h (by decide)
        · rw [Str.splitOn_join (fun t hm => ?_) (by simpa using hne)]
          · intro a ha
            obtain ⟨x, hx, rfl⟩ := List.mem_map.mp ha
            exact (ht.additional x hx).1
          · obtain ⟨x, hx, rfl⟩ := List.mem_map.mp hm
            exact (ht.additional x hx).2
        · exact fun h => absurd h (by decide)
        · exact fun h => absurd h (by decide)
      exact (hbase.set hvips).set (.plain (by decide) (by decide) _)

theorem keepsVip_holding (ht : lb.WellFormed env) (hp : HoldsObjects held) :
    KeepsVip (getLoadbalancerRequestInfo lb) (Holding env held) := by
  intro vip vipPortId up hvip e he
  have hkv := Table.addVipKeys_base (getLoadbalancerRequestInfo lb)
    (Table.baseExternalIds_base vip vipPortId up)
  refine he.update ?_ fun k v w hk hw => ?_
  · exact legible_vipKeys ht hvip vipPortId up
  · exact absurd (hkv k (mem_keys_of_get? hw)) (hp k v hk)

theorem keepsListener_holding {listener : Octavia.Listener} (hid : IsUuid listener.listenerId)
    (hpool : ∀ id, listener.defaultPoolId = some id → id ≠ [] → IsUuid id)
    (hk : ∀ w, ¬ held listener.key w) : KeepsListener listener (Holding env held) := by
  intro info hinfo e he
  obtain ⟨hinfoId, hup, -, hdefault⟩ := getListenerRequestInfo_ok hinfo
  rw [hinfoId, hup, Option.getD_some]
  refine he.set (.listener _ hid (isChainValue_default fun id hd hne => ?_)) hk
  rw [hdefault, Option.some.injEq] at hd
  exact hpool id hd hne

theorem keepsMembers_holding {pool : Octavia.Pool} (hid : IsUuid pool.poolId)
    (hm : ∀ m ∈ pool.members.getD [], ∀ d, memberData env lb m = .ok d → d.WellFormed env)
    (hk : ∀ w, ¬ held pool.key w) : KeepsMembers env lb pool (Holding env held) := by
  intro m hmem d hd read e value hread hvalue he
  have hdw := hm m hmem d hd
  obtain ⟨ds, hpresent, hds⟩ :=
    hread.legible.exists_members pool.poolId (pool.adminStateUp.getD true)
  rw [Octavia.Pool.key, updatePoolData_eq hds hdw hpresent] at hvalue
  split at hvalue
  · cases hvalue
  · cases hvalue
    exact he.set (.pool _ hid ⟨_, rfl, forall_mem_concat hds hdw⟩) hk

theorem keepsPool_holding {pool : Octavia.Pool} (hid : IsUuid pool.poolId)
    (hm : ∀ m ∈ pool.members.getD [], ∀ d, memberData env lb m = .ok d → d.WellFormed env)
    (hk : ∀ w, ¬ held pool.key w) (hl : ∀ id w, ¬ held (getListenerKey id true) w) :
    KeepsPool env lb pool (Holding env held) where
  write := by
    intro info hinfo up hup read e hread he
    obtain ⟨hinfoId, hinfoUp, -⟩ := getPoolRequestInfo_ok hinfo
    refine he.update (hread.legible.prepareExternalIds (hinfoId ▸ hid) up) fun k v w hkv hw => ?_
    have hne : k ≠ getPoolKey info.id up := by
      rintro rfl
      rw [hinfoUp, Option.some.injEq] at hup
      rw [hinfoId, ← hup] at hkv
      exact hk v hkv
    have hother : ∀ id, listenerOf info = some id → k ≠ getListenerKey id true := by
      rintro id - rfl
      exact hl id v hkv
    rw [get?_prepareExternalIds_of_ne hne hother, hread.held k v hkv, Option.some.injEq] at hw
    exact hw.symm
  member := keepsMembers_holding hid hm hk

end Trees

section Progress
variable {env : Env} {lb : LoadBalancer} {nb nb' : Nb} {k : Str}

/-- One entry is held. -/
def only (k v : Str) : Str → Str → Prop := fun j w => j = k ∧ w = v

theorem holdsObjects_only (hk : k ∉ baseKeys) (v : Str) : HoldsObjects (only k v) := by
  rintro _ _ ⟨rfl, -⟩
  exact hk

theorem Legible.holding_only {e : Dict Str Str} {v : Str} (he : Legible env e)
    (hv : e.get? k = some v) : Holding env (only k v) e := by
  refine ⟨he, ?_⟩
  rintro _ _ ⟨rfl, rfl⟩
  exact hv

/-- A pool that is synced starts empty. -/
theorem rowWith_poolSync_empty {info : PoolInfo} {up : Bool} (hid : IsUuid info.id)
    (h : nb.RowWith lb.uuid (Legible env)) (hup : info.adminStateUp = some up) :
    ((poolSync info lb).run Nb.apply nb).2.RowWith lb.uuid
      (Holding env (only (getPoolKey info.id up) [])) := by
  refine rowWith_poolSync h hup fun e he => Legible.holding_only ?_ ?_
  · exact he.update (he.prepareExternalIds hid up)
  · rw [Dict.get?_update, get?_prepareExternalIds_self]
    rfl

/-- The transaction of a member's sync goes through on legible keys. -/
theorem run_memberSyncOn_ok (env : Env) (member : MemberInfo) {row : LoadBalancer} {text : Str}
    {e' : Dict Str Str} (hrow : nb.lb? lb.uuid = some row)
    (he' : e' = ((updatePoolData text (row.externalIds.get? k)).map
      (row.externalIds.set k)).getD row.externalIds)
    (hframe : ∃ vips, frameVipIps env row.externalIds e' = .ok vips) :
    ∃ nb', (memberSyncOn env member lb k row.externalIds text).run Nb.apply nb = (.ok (), nb') ∧
      nb'.RowWith lb.uuid (· = e') := by
  have hexact : nb.RowWith lb.uuid (· = row.externalIds) := ⟨row, hrow, rfl⟩
  have hwrite : ∀ ops : List LbOp, (∀ op ∈ ops, op.SparesKeys) → ∃ nb', (executeCommands
      ((updatePoolData text (row.externalIds.get? k)).toList.map (fun value =>
        .lbUpdate lb.uuid (.setExternalIds (.single k value))) ++
          ops.map (.lbUpdate lb.uuid))).run Nb.apply nb = (.ok (), nb') ∧
      nb'.RowWith lb.uuid (· = e') := by
    intro ops hops
    cases hdata : updatePoolData text (row.externalIds.get? k) with
    | none =>
        rw [hdata] at he'
        subst he'
        exact hexact.run_spares hops
    | some value =>
        rw [hdata] at he'
        subst he'
        exact hexact.run_update (J := (· = row.externalIds.set k value))
          (fun e he => by rw [he]; rfl) hops
  rw [memberSyncOn]
  dsimp only
  rw [← he']
  split
  · obtain ⟨vips, hv⟩ := hframe
    obtain ⟨ops, hrun, hops⟩ := run_refresh_ok hrow hv true
    rw [Prog.run_bind, hrun]
    exact hwrite ops hops
  · exact hwrite [] (List.forall_mem_nil _)

/-- A member that is synced is listed once, at the end when it is new. -/
theorem rowWith_memberSync {member : MemberInfo} {id : Str} {up : Bool} {d : MemberData}
    {ds : List MemberData} (hid : IsUuid id) (htext : getMemberInfo member = .ok d.text)
    (hds : ∀ d ∈ ds, d.WellFormed env) (hd : d.WellFormed env)
    (h : nb.RowWith lb.uuid (Holding env (only (getPoolKey id up) (poolValue ds))))
    (hrun : (memberSync env member lb (getPoolKey id up)).run Nb.apply nb = (.ok (), nb')) :
    nb'.RowWith lb.uuid (Holding env (only (getPoolKey id up)
      (poolValue (if d ∈ ds then ds else ds ++ [d])))) := by
  obtain ⟨row, hrow, he⟩ := h
  have hpresent := he.held _ _ ⟨rfl, rfl⟩
  have hvalue : (row.externalIds.get? (getPoolKey id up)).getD [] = poolValue ds := by
    rw [hpresent, Option.getD_some]
  have hdata := updatePoolData_eq hds hd hvalue
  have hnew : Holding env (only (getPoolKey id up) (poolValue (if d ∈ ds then ds else ds ++ [d])))
      (((updatePoolData d.text (row.externalIds.get? (getPoolKey id up))).map
        (row.externalIds.set (getPoolKey id up))).getD row.externalIds) := by
    rw [hdata]
    split
    · exact he
    · refine Legible.holding_only (he.legible.set ?_) (Dict.get?_set_self _ _ _)
      exact .pool up hid ⟨_, rfl, forall_mem_concat hds hd⟩
  obtain ⟨t, hsync, ht⟩ := run_memberSyncOn_ok env member hrow rfl
    (he.legible.frame_ok hnew.legible)
  simp only [memberSync, Prog.run_bind, run_readLb, live_of_lb? hrow, htext, Prog.run_ofExcept,
    Prog.run_attempt, hsync] at hrun
  have hstart : t.RowWith lb.uuid (Holding env (only (getPoolKey id up)
      (poolValue (if d ∈ ds then ds else ds ++ [d])))) :=
    ht.imp fun e he => he ▸ hnew
  exact hstart.after
    (keepsRow_memberLinks (ignoresStatuses_holding
      (holdsObjects_only (poolKey_notMem_base id up) _)) member lb) hrun

variable {tree : Octavia.LoadBalancer} {pool : Octavia.Pool}

theorem eraseDups_concat {α : Type} [DecidableEq α] (l : List α) (a : α) :
    (l ++ [a]).eraseDups = if a ∈ l.eraseDups then l.eraseDups else l.eraseDups ++ [a] := by
  rw [List.eraseDups_append]
  by_cases h : a ∈ l
  · simp [List.removeAll, h]
  · simp [List.removeAll, List.eraseDups_cons, h]

/-- The members that are synced are listed in their order, each once. -/
theorem rowWith_ensureMembers_each {id : Str} {up : Bool} (hid : IsUuid id)
    {members : List Octavia.Member}
    (hm : ∀ m ∈ members, ∀ d, memberData env tree m = .ok d → d.WellFormed env)
    (listed : List MemberData) (hl : ∀ d ∈ listed, d.WellFormed env)
    (h : nb.RowWith lb.uuid
      (Holding env (only (getPoolKey id up) (poolValue listed.eraseDups))))
    (hrun : (Prog.each (fun member => do
      let info ← getMemberRequestInfo env (Driver.withVipSubnet tree member)
      memberSync env info lb (getPoolKey id up)) members).run Nb.apply nb = (.ok (), nb')) :
    ∃ ds, members.mapM (memberData env tree) = .ok ds ∧ nb'.RowWith lb.uuid
      (Holding env (only (getPoolKey id up) (poolValue (listed ++ ds).eraseDups))) := by
  induction members generalizing nb listed with
  | nil =>
      cases hrun
      exact ⟨[], rfl, by rwa [List.append_nil]⟩
  | cons m members ih =>
      rw [List.forall_mem_cons] at hm
      obtain ⟨_, t, hround, hrest⟩ := Prog.run_bind_ok hrun
      obtain ⟨info, t₁, hinfo, hsync⟩ := Prog.run_bind_ok hround
      have hkept : KeepsRow lb.uuid (Holding env (only (getPoolKey id up)
          (poolValue listed.eraseDups)))
          (getMemberRequestInfo env (Driver.withVipSubnet tree m)) _ := keepsRow_memberInfo m
      have hstep := hkept nb h
      rw [hinfo] at hstep
      obtain ⟨ht₁, hdata⟩ := hstep
      obtain ⟨d, hd, htext, -⟩ := hdata info rfl
      have hdw := hm.1 d hd
      have ht := rowWith_memberSync hid htext
        (fun d hd => hl d (List.mem_eraseDups.mp hd)) hdw ht₁ hsync
      rw [← eraseDups_concat] at ht
      obtain ⟨ds, hds, hr⟩ := ih hm.2 _ (forall_mem_concat hl hdw) ht hrest
      refine ⟨d :: ds, ?_, ?_⟩
      · rw [List.mapM_cons, hd, hds]
        rfl
      · rwa [List.append_assoc, List.singleton_append] at hr

theorem rowWith_ensurePool (hid : IsUuid pool.poolId)
    (hm : ∀ m ∈ pool.members.getD [], ∀ d, memberData env tree m = .ok d → d.WellFormed env)
    (h : nb.RowWith lb.uuid (Legible env))
    (hrun : (ensurePool env tree lb pool).run Nb.apply nb = (.ok (), nb')) :
    ∃ ds, (pool.members.getD []).mapM (memberData env tree) = .ok ds ∧
      nb'.RowWith lb.uuid (Holding env (only pool.key (poolValue ds.eraseDups))) := by
  have hignores : ∀ v, IgnoresStatuses (Holding env (only pool.key v)) := fun v =>
    ignoresStatuses_holding (holdsObjects_only (poolKey_notMem_base _ _) v)
  obtain ⟨info, t, hinfo, hrun⟩ := Prog.run_bind_ok hrun
  obtain ⟨hinfo', rfl⟩ := Prod.mk.inj ((Prog.run_ofExcept Nb.apply _ nb).symm.trans hinfo)
  obtain ⟨hinfoId, hup, -⟩ := getPoolRequestInfo_ok hinfo'
  obtain ⟨_, t, hsync, hrun⟩ := Prog.run_bind_ok hrun
  have ht := rowWith_poolSync_empty (hinfoId.symm ▸ hid) h hup
  rw [hsync, hinfoId] at ht
  rw [getPoolRequestInfo_key hinfo'] at hrun
  dsimp only at hrun
  cases hmembers : pool.members with
  | none =>
      rw [hmembers] at hrun
      refine ⟨[], rfl, ?_⟩
      exact Nb.RowWith.after (I := Holding env (only pool.key [])) ht
        (keepsRow_ensureHm (hignores _) pool.healthmonitor pool.key) hrun
  | some members =>
      rw [hmembers] at hrun hm
      obtain ⟨_, t₁, hall, hrun⟩ := Prog.run_bind_ok hrun
      obtain ⟨_, t₂, heach, hextra⟩ := Prog.run_bind_ok hall
      obtain ⟨ds, hds, hr⟩ := rowWith_ensureMembers_each hid hm [] nofun ht heach
      exact ⟨ds, hds, (hr.after (keepsRow_extraMembers (hignores _) lb _ _ _) hextra).after
        (keepsRow_ensureHm (hignores _) pool.healthmonitor pool.key) hrun⟩

end Progress

section Rebuilding
variable {env : Env} {lb : Octavia.LoadBalancer} {row : LoadBalancer} {s s' : Nb}
  {status : Status}

/-- Each pool of the tree has its members and no others, in their order. -/
def Rebuilt (env : Env) (lb : Octavia.LoadBalancer) (e : Dict Str Str) : Prop :=
  ∀ pool ∈ lb.pools.getD [], ∃ ds, (pool.members.getD []).mapM (memberData env lb) = .ok ds ∧
    e.get? pool.key = some (poolValue ds.eraseDups)

theorem Rebuilt.of_objects {e e' : Dict Str Str} (he : Rebuilt env lb e)
    (h : ∀ k, k ∉ baseKeys → e'.get? k = e.get? k) : Rebuilt env lb e' := by
  intro pool hm
  obtain ⟨ds, hds, hv⟩ := he pool hm
  exact ⟨ds, hds, (h _ (poolKey_notMem_base _ _)).trans hv⟩

theorem ignoresStatuses_rebuilt : IgnoresStatuses (Rebuilt env lb) :=
  ignoresStatuses_of_objects fun _ _ h he => he.of_objects h

theorem keepsTree_legible (ht : lb.WellFormed env) : KeepsTree env lb (Legible env) := by
  have hall : ∀ e, Legible env e → Holding env (fun _ _ => False) e := fun e he => ⟨he, nofun⟩
  have htree : KeepsTree env lb (Holding env fun _ _ => False) :=
    { vip := keepsVip_holding ht nofun
      listener := fun l hl =>
        keepsListener_holding (ht.listener l hl).1 (ht.listener l hl).2 fun _ => id
      pool := fun pool hm =>
        keepsPool_holding (ht.pool pool hm) (ht.member pool hm) (fun _ => id) fun _ _ => id }
  refine ⟨fun vip id up hvip e he => (htree.vip vip id up hvip e (hall e he)).legible,
    fun l hl info hinfo e he => (htree.listener l hl info hinfo e (hall e he)).legible,
    fun pool hm => ⟨?_, ?_⟩⟩
  · exact fun info hinfo up hup read e hread he =>
      ((htree.pool pool hm).write info hinfo up hup read e (hall _ hread) (hall e he)).legible
  · exact fun m hmem d hd read e value hread hvalue he =>
      ((htree.pool pool hm).member m hmem d hd read e value (hall _ hread) hvalue
        (hall e he)).legible

/-- A synced row has one pool rebuilt. -/
theorem rowWith_ensureRow_members (ht : lb.WellFormed env) {pool : Octavia.Pool}
    (hm : pool ∈ lb.pools.getD []) (h : s.RowWith row.uuid (Legible env))
    (hrun : (ensureRow env lb row).run Nb.apply s = (.ok status, s')) :
    ∃ ds, (pool.members.getD []).mapM (memberData env lb) = .ok ds ∧
      s'.RowWith row.uuid (Holding env (only pool.key (poolValue ds.eraseDups))) := by
  have hlegible : KeepsTree env lb (Legible env) := keepsTree_legible ht
  have hround := fun t t' (hr : Nb.RowWith t row.uuid (Legible env))
    (hstep : (ensurePool env lb row pool).run Nb.apply t = (.ok (), t')) =>
      rowWith_ensurePool (ht.pool pool hm) (ht.member pool hm) hr hstep
  -- that the members have data does not depend on the row, so that any property keeps it
  have hdata : s'.RowWith row.uuid fun _ =>
      ∃ ds, (pool.members.getD []).mapM (memberData env lb) = .ok ds := by
    refine rowWith_ensureRow ignoresStatuses_legible hlegible
      (ignoresStatuses_of_objects fun _ _ _ he => he)
      (fun _ _ _ => ⟨fun _ _ _ _ _ _ _ he => he, fun _ _ _ _ _ _ _ _ _ he => he⟩) hm ?_ h hrun
    intro t t' hr hstep
    obtain ⟨ds, hds, row', hrow', -⟩ := hround t t' hr hstep
    exact ⟨row', hrow', ds, hds⟩
  obtain ⟨-, -, ds, hds⟩ := hdata
  have hp := holdsObjects_only (poolKey_notMem_base pool.poolId (pool.adminStateUp.getD true))
    (poolValue ds.eraseDups)
  refine ⟨ds, hds, rowWith_ensureRow ignoresStatuses_legible hlegible (ignoresStatuses_holding hp)
    (fun q hq hne => ?_) hm ?_ h hrun⟩
  · refine keepsPool_holding (ht.pool q hq) (ht.member q hq) ?_ ?_
    · rintro w ⟨hkey, -⟩
      exact hne (ht.distinct q hq pool hm (getPoolKey_inj (ht.pool q hq) (ht.pool pool hm) hkey).1)
    · rintro id w ⟨hkey, -⟩
      exact listenerKey_ne_poolKey _ _ _ _ hkey
  · intro t t' hr hstep
    obtain ⟨ds', hds', hr'⟩ := hround t t' hr hstep
    rw [hds] at hds'
    cases hds'
    exact hr'

theorem rowWith_ensureRow_rebuilt (ht : lb.WellFormed env)
    (h : s.RowWith row.uuid (Legible env))
    (hrun : (ensureRow env lb row).run Nb.apply s = (.ok status, s')) :
    s'.RowWith row.uuid (Rebuilt env lb) := by
  obtain ⟨row', hrow', -⟩ := h.after
    (keepsRow_ensureRow ignoresStatuses_legible row fun _ => keepsTree_legible ht) hrun
  refine ⟨row', hrow', fun pool hm => ?_⟩
  obtain ⟨ds, hds, row'', hrow'', he⟩ := rowWith_ensureRow_members ht hm h hrun
  rw [hrow'] at hrow''
  cases hrow''
  exact ⟨ds, hds, he.held _ _ ⟨rfl, rfl⟩⟩

/-- A sync that ends leaves every row it found with the members of each pool, whatever
members the row had. -/
theorem ensureLoadbalancer_rebuilds {nb nb' : Nb} {statuses : List Status} (hw : nb.WellFormed)
    (ht : lb.WellFormed env) (hm : row ∈ nb.lbsNamed lb.loadbalancerId)
    (hl : Legible env row.externalIds)
    (hrun : (ensureLoadbalancer env lb).run Nb.apply nb = (.ok statuses, nb')) :
    ∃ row', nb'.lb? row.uuid = some row' ∧ Rebuilt env lb row'.externalIds := by
  exact rowWith_ensureLoadbalancer hw ignoresStatuses_legible (keepsTree_legible ht)
    ignoresStatuses_rebuilt hm (fun _ _ _ hr hround => rowWith_ensureRow_rebuilt ht hr hround)
    ⟨row, hw.lb?_of_mem (List.mem_of_mem_filter hm), hl⟩ hrun

end Rebuilding

section Example

/-- A pool with two members, one of them without a subnet. -/
def exampleMembersTree : Octavia.LoadBalancer :=
  { loadbalancerId := exampleId 'a', vipAddress := some "10.0.0.2".toList
    vipNetworkId := some "net".toList, vipSubnetId := some "sub".toList
    listeners := some
      [{ listenerId := exampleId 'b', loadbalancerId := exampleId 'a', protocol := some .tcp
         protocolPort := 80, defaultPoolId := some (exampleId 'c') }]
    pools := some
      [{ poolId := exampleId 'c', loadbalancerId := exampleId 'a', protocol := some .tcp
         lbAlgorithm := some .sourceIpPort, listenerId := some (exampleId 'b')
         members := some
          [{ memberId := exampleId 'd', poolId := exampleId 'c', address := "10.0.0.4".toList
             protocolPort := 8080, subnetId := some "sub".toList },
           { memberId := exampleId 'e', poolId := exampleId 'c', address := "10.0.0.5".toList
             protocolPort := 8080 }] }] }

def exampleSyncedMember (id ip : Str) : MemberData :=
  { id, ip, port := "8080".toList, subnet := "sub".toList }

/-- A row with a member that is gone and without one that is new. -/
def exampleStaleRow : LoadBalancer :=
  { uuid := 2, name := exampleId 'a', protocol := some .tcp, vips := ∅
    externalIds := ((baseExternalIds "10.0.0.2".toList "port".toList true).set
      (getListenerKey (exampleId 'b') true)
        (makeListenerKeyValue 80 (poolChain [(exampleId 'c', true)]))).set
      (getPoolKey (exampleId 'c') true)
        (poolValue [exampleSyncedMember (exampleId 'f') "10.0.0.6".toList,
          exampleSyncedMember (exampleId 'd') "10.0.0.4".toList])
    options := ∅, selectionFields := [], healthCheck := [], ipPortMappings := ∅ }

def exampleStaleNb : Nb := { exampleNb with loadBalancers := [exampleStaleRow], nextUuid := 3 }

def exampleRebuilt : Except Exc (List Status) × Nb :=
  (ensureLoadbalancer exampleEnv exampleMembersTree).run Nb.apply exampleStaleNb

theorem wellFormed_exampleSyncedMember {c : Char} {ip : Str} (hc : c ∈ uuidChars)
    (hip : (exampleEnv.ipVersion ip).isSome) (hchars : '_' ∉ ip ∧ ',' ∉ ip) :
    (exampleSyncedMember (exampleId c) ip).WellFormed exampleEnv where
  id := isUuid_exampleId hc
  address := hip
  ip_chars := hchars
  port_chars := fun _ hc => Str.isDigit_of_mem_ofNat (n := 8080) hc
  subnet_chars := (by decide : '_' ∉ "sub".toList ∧ ',' ∉ "sub".toList)

theorem wellFormed_exampleMembersTree : exampleMembersTree.WellFormed exampleEnv where
  vip := by
    rintro _ ⟨⟩
    decide
  additional := nofun
  listener := by
    intro l hl
    rw [List.mem_singleton.mp hl]
    refine ⟨isUuid_exampleId (by decide), ?_⟩
    rintro _ ⟨⟩ -
    exact isUuid_exampleId (by decide)
  pool := by
    intro pool hm
    rw [List.mem_singleton.mp hm]
    exact isUuid_exampleId (by decide)
  distinct := by
    intro p hp q hq _
    rw [List.mem_singleton.mp hp, List.mem_singleton.mp hq]
  member := by
    intro pool hm m hmem d hd
    rw [List.mem_singleton.mp hm] at hmem
    rcases List.mem_cons.mp hmem with rfl | hmem
    · cases hd
      exact wellFormed_exampleSyncedMember (c := 'd') (by decide) (by decide) (by decide)
    · rw [List.mem_singleton.mp hmem] at hd
      cases hd
      exact wellFormed_exampleSyncedMember (c := 'e') (by decide) (by decide) (by decide)

theorem legible_exampleStaleRow : Legible exampleEnv exampleStaleRow.externalIds := by
  have hvip : IsEntry exampleEnv lbExtIdsVipKey "10.0.0.2".toList := by
    refine .base (by decide) ⟨?_, fun _ => by decide, ?_, ?_, ?_⟩
    all_goals exact fun h => absurd h (by decide)
  have hc : IsUuid (exampleId 'c') := isUuid_exampleId (by decide)
  refine ((((Legible.empty.set hvip).set (.plain (by decide) (by decide) _)).set
    (.plain (by decide) (by decide) _)).set (.listener true (isUuid_exampleId (by decide))
      ⟨80, [(exampleId 'c', true)], rfl, ?_⟩)).set (.pool true hc ⟨_, rfl, ?_⟩)
  · intro p hp
    rw [List.mem_singleton.mp hp]
    exact hc
  · rw [List.forall_mem_cons, List.forall_mem_singleton]
    exact ⟨wellFormed_exampleSyncedMember (c := 'f') (by decide) (by decide) (by decide),
      wellFormed_exampleSyncedMember (c := 'd') (by decide) (by decide) (by decide)⟩

theorem ensureLoadbalancer_rebuilds_example : ∃ row', exampleRebuilt.2.lb? 2 = some row' ∧
    Rebuilt exampleEnv exampleMembersTree row'.externalIds := by
  have hok : exampleRebuilt.1.toOption.isSome = true := by decide +kernel
  have hw : exampleStaleNb.WellFormed := by
    refine ⟨by decide +kernel, fun row hrow => ?_⟩
    rw [List.mem_singleton.mp hrow]
    decide
  cases hrun : exampleRebuilt.1 with
  | error e =>
      rw [hrun] at hok
      cases hok
  | ok statuses =>
      have hm : exampleStaleRow ∈ exampleStaleNb.lbsNamed exampleMembersTree.loadbalancerId := by
        decide +kernel
      exact ensureLoadbalancer_rebuilds hw wellFormed_exampleMembersTree hm
        legible_exampleStaleRow (Prod.ext hrun rfl)

end Example

end OvnOctavia
