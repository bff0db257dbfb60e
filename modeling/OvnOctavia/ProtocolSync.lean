import OvnOctavia.KeptRuns
import OvnOctavia.SyncedKeys

/-!
The sync of a load balancer with several rows. Every row is synced with every
listener and every pool, whatever their protocols, so that the first row gets the
keys of the others.
-/

namespace OvnOctavia

section Poolless
variable {env : Env} {e : Dict Str Str} {nb : Nb}

/-- Keys with no pool among them, and with listeners whose values can be read. -/
def Poolless (e : Dict Str Str) : Prop :=
  (∀ k ∈ e.keys, Str.startsWith lbExtIdsPoolPrefix k = false) ∧
    ∀ k v, e.get? k = some v → hasListenerPrefix k = true → IsListenerValue v

theorem Poolless.set (h : Poolless e) {k v : Str}
    (hk : Str.startsWith lbExtIdsPoolPrefix k = false)
    (hv : hasListenerPrefix k = true → IsListenerValue v) : Poolless (e.set k v) := by
  refine ⟨fun j hj => ?_, fun j w hw hl => ?_⟩
  · rcases (Dict.mem_keys_set _ _ _ _).mp hj with rfl | hj
    · exact hk
    · exact h.1 j hj
  · rw [Dict.get?_set] at hw
    split at hw
    · next hjk =>
        cases hw
        exact hv (hjk ▸ hl)
    · exact h.2 j w hw hl

theorem ignoresBase_poolless : IgnoresBase Poolless where
  set := by
    intro k hk v e he
    refine he.set (startsWith_pool_base hk) fun hl => ?_
    rw [hasListenerPrefix_base hk] at hl
    cases hl
  erase := by
    intro k _ e he
    refine ⟨fun j hj => he.1 j ((Dict.mem_keys_erase _ _ _).mp hj).1, fun j w hw hl => ?_⟩
    rw [Dict.get?_erase] at hw
    split at hw
    · cases hw
    · exact he.2 j w hw hl

theorem Poolless.set_listener (h : Poolless e) (info : ListenerInfo) (up : Bool) :
    Poolless (e.set (getListenerKey info.id up)
      (makeListenerKeyValue info.protocolPort (defaultPoolKey info))) :=
  h.set rfl fun _ => isListenerValue_make _ (defaultPoolKey_cases _)

/-- Without pools there is a traffic map, an empty one. -/
theorem Poolless.frame (h : Poolless e) (env : Env) (statuses : Dict Str Str) :
    ∃ vips, frameVipIps env statuses e = .ok vips := by
  rw [frameVipIps]
  split
  · exact ⟨_, rfl⟩
  · refine Except.foldlM_ok (fun kv hkv acc => ⟨acc, ?_⟩) _
    rw [frameListener]
    split
    · rfl
    · next hl =>
        obtain ⟨n, t, hvalue, ht⟩ := h.2 kv.1 kv.2
          ((Dict.get?_eq_some_iff _ _ _).mpr hkv) (by simp_all)
        rw [extractListenerKeyValue, hvalue, splitOn_listenerValue]
        rcases hparts : t.splitOn ':' with _ | ⟨x, _ | _⟩
        · rfl
        · have hx : t = x := by
            rw [← Str.join_splitOn ':' t, hparts]
            simp [Str.join]
          subst hx
          dsimp only
          rcases ht with rfl | hprefix
          · rw [if_pos (.inr rfl)]
          · have hnone : e.get? t = none := by
              rw [Dict.get?_eq_none_iff]
              intro hm
              have hstarts := h.1 t hm
              rw [Str.startsWith_iff.mpr hprefix] at hstarts
              cases hstarts
            rw [hnone]
            split
            · rfl
            · rfl
        · rfl

end Poolless

section Agreement
variable {env : Env} {lb : Octavia.LoadBalancer} {nb : Nb}

/-- The rows of a load balancer that are as Octavia has it: a row for each protocol in use,
with the listeners and the pools of that protocol. -/
structure AgreesWith (env : Env) (lb : Octavia.LoadBalancer) (rows : List LoadBalancer) :
    Prop where
  readable : ∀ row ∈ rows, Readable env row.externalIds
  distinct : (rows.map LoadBalancer.protocol).Nodup
  inUse : ∀ row ∈ rows, ∃ p, row.protocol = some p ∧
    ((∃ l ∈ lb.listeners.getD [], l.protocol = some p) ∨
      ∃ pool ∈ lb.pools.getD [], pool.protocol = some p)
  listener : ∀ row ∈ rows, ∀ id up, IsUuid id →
    (getListenerKey id up ∈ row.externalIds.keys ↔ ∃ l ∈ lb.listeners.getD [],
      l.listenerId = id ∧ l.protocol = row.protocol ∧ l.adminStateUp.getD true = up)
  pool : ∀ row ∈ rows, ∀ id up, IsUuid id →
    (getPoolKey id up ∈ row.externalIds.keys ↔ ∃ pool ∈ lb.pools.getD [],
      pool.poolId = id ∧ pool.protocol = row.protocol ∧ pool.adminStateUp.getD true = up)

/-- The sync ends, every row keeps its protocol, and every listener and every pool has its
keys on the row of its protocol only. -/
def SyncsByProtocol (env : Env) (lb : Octavia.LoadBalancer) (nb : Nb) : Prop :=
  ∃ statuses nb', (ensureLoadbalancer env lb).run Nb.apply nb = (.ok statuses, nb') ∧
    ∀ row ∈ nb.lbsNamed lb.loadbalancerId, ∃ row', nb'.lb? row.uuid = some row' ∧
      row'.protocol = row.protocol ∧
      (∀ l ∈ lb.listeners.getD [], ∀ up, getListenerKey l.listenerId up ∈ row'.externalIds.keys →
        l.protocol = row'.protocol) ∧
      ∀ pool ∈ lb.pools.getD [], ∀ up, getPoolKey pool.poolId up ∈ row'.externalIds.keys →
        pool.protocol = row'.protocol

theorem keptByWrites_true : KeptByWrites fun _ => True :=
  ⟨fun _ _ _ => trivial, fun _ _ _ _ => trivial⟩

/-- A sync without pools writes none. -/
theorem keepsTree_poolless (hnone : lb.pools.getD [] = []) : KeepsTree env lb Poolless where
  vip := ignoresBase_poolless.keepsVip _
  listener := fun _ _ info _ _ he => he.set_listener info _
  pool := fun pool hm => by
    rw [hnone] at hm
    cases hm

variable {row : LoadBalancer} {status : Status} {s s' : Nb}

/-- A synced row has the key of every pool. -/
theorem rowWith_ensureRow_pool {pool : Octavia.Pool} (hm : pool ∈ lb.pools.getD [])
    (h : s.RowWith row.uuid fun _ => True)
    (hrun : (ensureRow env lb row).run Nb.apply s = (.ok status, s')) :
    s'.RowWith row.uuid (getPoolKey pool.poolId (pool.adminStateUp.getD true) ∈ ·.keys) := by
  have hkept := keptByWrites_mem (poolKey_notMem_base pool.poolId (pool.adminStateUp.getD true))
  refine rowWith_ensureRow keptByWrites_true.ignoresStatuses keptByWrites_true.keepsTree
    hkept.ignoresStatuses (fun q hq _ => hkept.keepsTree.pool q hq) hm ?_ h hrun
  intro r r' hr hround
  obtain ⟨info, r₁, hinfo, hround⟩ := Prog.run_bind_ok hround
  obtain ⟨hinfo', rfl⟩ := Prod.mk.inj ((Prog.run_ofExcept Nb.apply _ r).symm.trans hinfo)
  obtain ⟨hid, hup, -⟩ := getPoolRequestInfo_ok hinfo'
  obtain ⟨_, r₂, hsync, hround⟩ := Prog.run_bind_ok hround
  have hset : ∀ e : Dict Str Str, True → getPoolKey info.id (pool.adminStateUp.getD true) ∈
      (e.update (prepareExternalIds info (pool.adminStateUp.getD true) e)).keys := by
    intro e _
    have hmem := mem_keys_prepareExternalIds info (pool.adminStateUp.getD true) e
    rw [← Dict.contains_iff] at hmem ⊢
    rw [Dict.contains, Dict.get?_update]
    rw [Dict.contains] at hmem
    rw [Option.isSome_or, hmem, Bool.true_or]
  have hwritten := rowWith_poolSync
    (J := (getPoolKey info.id (pool.adminStateUp.getD true) ∈ ·.keys))
    hr hup hset
  rw [hsync, hid] at hwritten
  exact hwritten.after (keepsRow_ensurePoolRest hkept.ignoresStatuses row
    (fun _ => (hkept.keepsTree.pool pool hm).member) hinfo') hround

/-- On a synced row without pools every listener has its key. -/
theorem rowWith_ensureRow_listener {listener : Octavia.Listener}
    (hnone : lb.pools.getD [] = []) (hm : listener ∈ lb.listeners.getD [])
    (h : s.RowWith row.uuid Poolless)
    (hrun : (ensureRow env lb row).run Nb.apply s = (.ok status, s')) :
    s'.RowWith row.uuid
      (getListenerKey listener.listenerId (listener.adminStateUp.getD true) ∈ ·.keys) := by
  have hkept := keptByWrites_mem
    (listenerKey_notMem_base listener.listenerId (listener.adminStateUp.getD true))
  obtain ⟨_, t, hlb, hrun⟩ := Prog.run_bind_ok hrun
  obtain ⟨_, t₁, hlisteners, hrun⟩ := Prog.run_bind_ok hrun
  have htree : KeepsTree env lb Poolless := keepsTree_poolless hnone
  have hall : KeepsTree env lb
    (getListenerKey listener.listenerId (listener.adminStateUp.getD true) ∈ ·.keys) :=
      hkept.keepsTree
  have ht := h.after (keepsRow_lbSync ignoresBase_poolless.peripheral row fun _ => htree.vip) hlb
  have ht₁ : t₁.RowWith row.uuid
      (getListenerKey listener.listenerId (listener.adminStateUp.getD true) ∈ ·.keys) := by
    refine Prog.Keeps.each_reaches (J := fun nb => nb.RowWith row.uuid
        (getListenerKey listener.listenerId (listener.adminStateUp.getD true) ∈ ·.keys))
      (fun l hl => keepsRow_ensureListener row l fun _ => htree.listener l hl)
      (fun l hl _ => keepsRow_ensureListener row l fun _ =>
        hall.listener l hl) (.inr hm) ?_ ht hlisteners
    intro r r' hr hround
    obtain ⟨info, r₁, hinfo, hround⟩ := Prog.run_bind_ok hround
    obtain ⟨hinfo', rfl⟩ := Prod.mk.inj ((Prog.run_ofExcept Nb.apply _ r).symm.trans hinfo)
    obtain ⟨hid, hup, -⟩ := getListenerRequestInfo_ok hinfo'
    have hwritten : ((listenerSync env info row).run Nb.apply r).2.RowWith row.uuid
        (getListenerKey info.id (info.adminStateUp.getD false) ∈ ·.keys) :=
      rowWith_listenerSync env rfl rfl hr (fun e he => (he.set_listener info _).frame env e)
        fun e _ => (Dict.mem_keys_set _ _ _ _).mpr (.inl rfl)
    rw [hround, hid, hup] at hwritten
    exact hwritten
  rw [hnone] at hrun
  exact ht₁.after (.bind (.each fun _ hm => absurd hm List.not_mem_nil) fun _ _ =>
    keepsRow_ensureRest row) hrun

theorem AgreesWith.poolless {rows : List LoadBalancer} (ha : AgreesWith env lb rows)
    (hnone : lb.pools.getD [] = []) (hm : row ∈ rows) : Poolless row.externalIds := by
  have hread := ha.readable row hm
  have hno : ∀ id up, IsUuid id → getPoolKey id up ∉ row.externalIds.keys := by
    intro id up hid hk
    obtain ⟨pool, hp, -⟩ := (ha.pool row hm id up hid).mp hk
    rw [hnone] at hp
    cases hp
  refine ⟨fun k hk => ?_, fun k v hv hl => ?_⟩
  · rcases hread.key k hk with hb | ⟨id, up, -, rfl⟩ | ⟨id, up, hid, rfl⟩
    · exact startsWith_pool_base hb
    · rfl
    · exact absurd hk (hno id up hid)
  · rcases hread.key k (mem_keys_of_get? hv) with hb | ⟨id, up, hid, rfl⟩ | ⟨id, up, hid, rfl⟩
    · rw [hasListenerPrefix_base hb] at hl
      cases hl
    · exact hread.listener id up v hid hv
    · rw [hasListenerPrefix_poolKey hid] at hl
      cases hl

/-- Of several rows one has another protocol than the object. -/
theorem AgreesWith.exists_other {rows : List LoadBalancer} (ha : AgreesWith env lb rows)
    (hseveral : 2 ≤ rows.length) (p : Option Protocol) : ∃ row ∈ rows, row.protocol ≠ p := by
  match rows, hseveral with
  | first :: second :: rest, _ =>
      have hne : first.protocol ≠ second.protocol := by
        have hd := ha.distinct
        rw [List.map_cons, List.map_cons, List.nodup_cons, List.mem_cons, not_or] at hd
        exact hd.1.1
      by_cases hp : first.protocol = p
      · exact ⟨second, List.mem_cons_of_mem _ List.mem_cons_self, fun hs => hne (hp.trans hs.symm)⟩
      · exact ⟨first, List.mem_cons_self, hp⟩

/-- A load balancer with rows for several protocols is never synced by protocol. -/
theorem not_syncsByProtocol (hw : nb.WellFormed)
    (ha : AgreesWith env lb (nb.lbsNamed lb.loadbalancerId))
    (hseveral : 2 ≤ (nb.lbsNamed lb.loadbalancerId).length) : ¬SyncsByProtocol env lb nb := by
  rintro ⟨statuses, nb', hrun, hall⟩
  have hne : nb.lbsNamed lb.loadbalancerId ≠ [] := by
    intro hnil
    rw [hnil] at hseveral
    cases hseveral
  rw [ensureLoadbalancer, Prog.run_bind, Prog.run_attempt, run_findOvnLbs, if_neg hne] at hrun
  have hfound : ∀ row ∈ nb.lbsNamed lb.loadbalancerId, nb.lb? row.uuid = some row :=
    fun row hm => hw.lb?_of_mem (List.mem_of_mem_filter hm)
  cases hpools : lb.pools.getD [] with
  | cons pool pools =>
      have hm : pool ∈ lb.pools.getD [] := hpools ▸ List.mem_cons_self
      obtain ⟨row, hrow, hother⟩ := ha.exists_other hseveral pool.protocol
      have hkept := keptByWrites_mem
        (poolKey_notMem_base pool.poolId (pool.adminStateUp.getD true))
      have hwith : nb'.RowWith row.uuid
          (getPoolKey pool.poolId (pool.adminStateUp.getD true) ∈ ·.keys) :=
        Prog.Keeps.mapEach_reaches (J := fun nb => nb.RowWith row.uuid
            (getPoolKey pool.poolId (pool.adminStateUp.getD true) ∈ ·.keys))
          (fun r _ => keepsRow_ensureRow keptByWrites_true.ignoresStatuses r
            fun _ => keptByWrites_true.keepsTree)
          (fun r _ _ => keepsRow_ensureRow hkept.ignoresStatuses r fun _ => hkept.keepsTree)
          (.inr hrow)
          (fun _ _ _ hr hround => rowWith_ensureRow_pool hm hr hround)
          ⟨row, hfound row hrow, trivial⟩ hrun
      obtain ⟨row₁, hrow₁, hkey⟩ := hwith
      obtain ⟨row', hrow', hprotocol, -, honly⟩ := hall row hrow
      rw [hrow₁, Option.some.injEq] at hrow'
      subst hrow'
      exact hother (hprotocol.symm.trans (honly pool hm _ hkey).symm)
  | nil =>
      obtain ⟨first, hfirst⟩ := List.exists_mem_of_ne_nil _ hne
      obtain ⟨p, -, ⟨l, hm, -⟩ | ⟨pool, hpool, -⟩⟩ := ha.inUse first hfirst
      · obtain ⟨row, hrow, hother⟩ := ha.exists_other hseveral l.protocol
        have hkept := keptByWrites_mem
          (listenerKey_notMem_base l.listenerId (l.adminStateUp.getD true))
        have hwith : nb'.RowWith row.uuid
            (getListenerKey l.listenerId (l.adminStateUp.getD true) ∈ ·.keys) :=
          Prog.Keeps.mapEach_reaches (J := fun nb => nb.RowWith row.uuid
              (getListenerKey l.listenerId (l.adminStateUp.getD true) ∈ ·.keys))
            (fun r _ => keepsRow_ensureRow ignoresBase_poolless.ignoresStatuses r
              fun _ => keepsTree_poolless hpools)
            (fun r _ _ => keepsRow_ensureRow hkept.ignoresStatuses r fun _ => hkept.keepsTree)
            (.inr hrow)
            (fun _ _ _ hr hround => rowWith_ensureRow_listener hpools hm hr hround)
            ⟨row, hfound row hrow, ha.poolless hpools hrow⟩ hrun
        obtain ⟨row₁, hrow₁, hkey⟩ := hwith
        obtain ⟨row', hrow', hprotocol, honly, -⟩ := hall row hrow
        rw [hrow₁, Option.some.injEq] at hrow'
        subst hrow'
        exact hother (hprotocol.symm.trans (honly l hm _ hkey).symm)
      · rw [hpools] at hpool
        cases hpool

end Agreement

section Example

/-- A load balancer with a TCP and a UDP listener. -/
def exampleTwoListeners : Octavia.LoadBalancer :=
  { loadbalancerId := exampleId 'a', vipAddress := some "10.0.0.2".toList
    vipNetworkId := some "net".toList
    listeners := some
      [{ listenerId := exampleId 'b', loadbalancerId := exampleId 'a', protocol := some .tcp
         protocolPort := 80 },
       { listenerId := exampleId 'c', loadbalancerId := exampleId 'a', protocol := some .udp
         protocolPort := 53 }] }

def exampleListenerRow (uuid : Nat) (protocol : Protocol) (id : Str) (port : Nat) : LoadBalancer :=
  { uuid, name := exampleId 'a', protocol := some protocol, vips := ∅
    externalIds := (addVipKeys exampleLb
      (baseExternalIds "10.0.0.2".toList "port".toList true)).set
        (getListenerKey id true) (makeListenerKeyValue port [])
    options := ∅, selectionFields := [], healthCheck := [], ipPortMappings := ∅ }

def exampleTwoRows : Nb :=
  { exampleNb with
    loadBalancers := [exampleListenerRow 2 .tcp (exampleId 'b') 80,
      exampleListenerRow 3 .udp (exampleId 'c') 53]
    nextUuid := 4 }

theorem mem_keys_exampleListenerRow {uuid port : Nat} {p : Protocol} {id k : Str}
    (hk : k ∉ baseKeys) : k ∈ (exampleListenerRow uuid p id port).externalIds.keys ↔
      k = getListenerKey id true := by
  have hbase := Table.addVipKeys_base exampleLb
    (Table.baseExternalIds_base "10.0.0.2".toList "port".toList true)
  rw [exampleListenerRow, Dict.mem_keys_set]
  exact ⟨fun h => h.resolve_right fun hm => hk (hbase k hm), .inl⟩

theorem agreesWith_exampleTwoRows :
    AgreesWith exampleEnv exampleTwoListeners (exampleTwoRows.lbsNamed (exampleId 'a')) := by
  have hrows : exampleTwoRows.lbsNamed (exampleId 'a') =
      [exampleListenerRow 2 .tcp (exampleId 'b') 80,
        exampleListenerRow 3 .udp (exampleId 'c') 53] := by decide +kernel
  have hb : IsUuid (exampleId 'b') := isUuid_exampleId (by decide)
  have hc : IsUuid (exampleId 'c') := isUuid_exampleId (by decide)
  have hread : ∀ uuid p id port, IsUuid id →
      Readable exampleEnv (exampleListenerRow uuid p id port).externalIds := by
    intro uuid p id port hid
    have hbase : Readable exampleEnv
        (addVipKeys exampleLb (baseExternalIds "10.0.0.2".toList "port".toList true)) :=
      .addVipKeys ⟨by rintro a ⟨⟩; decide, nofun, nofun, nofun⟩ rfl
    exact hbase.set_listener hid true (isListenerValue_make port (.inl rfl))
  rw [hrows]
  constructor
  · simp only [List.forall_mem_cons]
    exact ⟨hread _ _ _ _ hb, hread _ _ _ _ hc, by simp⟩
  · decide
  · simp only [List.forall_mem_cons]
    exact ⟨⟨.tcp, rfl, .inl ⟨_, List.mem_cons_self, rfl⟩⟩,
      ⟨.udp, rfl, .inl ⟨_, List.mem_cons_of_mem _ List.mem_cons_self, rfl⟩⟩, by simp⟩
  · have hkey : ∀ {uuid port p i}, IsUuid i → ∀ id up, IsUuid id →
        (getListenerKey id up ∈ (exampleListenerRow uuid p i port).externalIds.keys ↔
          i = id ∧ true = up) := by
      intro uuid port p i hi id up hid
      rw [mem_keys_exampleListenerRow (listenerKey_notMem_base id up)]
      constructor
      · intro he
        obtain ⟨rfl, rfl⟩ := getListenerKey_inj hid hi he
        exact ⟨rfl, rfl⟩
      · rintro ⟨rfl, rfl⟩
        rfl
    simp only [List.forall_mem_cons]
    refine ⟨fun id up hid => ?_, fun id up hid => ?_, by simp⟩
    · rw [hkey hb id up hid]
      simp [exampleTwoListeners, exampleListenerRow]
    · rw [hkey hc id up hid]
      simp [exampleTwoListeners, exampleListenerRow]
  · have hno : ∀ {uuid port p i} id up,
        getPoolKey id up ∉ (exampleListenerRow uuid p i port).externalIds.keys := by
      intro uuid port p i id up hm
      rw [mem_keys_exampleListenerRow (poolKey_notMem_base id up)] at hm
      exact listenerKey_ne_poolKey _ _ _ _ hm.symm
    have hnone : ∀ pool, pool ∉ exampleTwoListeners.pools.getD [] := fun _ => List.not_mem_nil
    simp only [List.forall_mem_cons]
    exact ⟨fun id up _ => iff_of_false (hno id up) fun ⟨pool, hm, _⟩ => hnone pool hm,
      fun id up _ => iff_of_false (hno id up) fun ⟨pool, hm, _⟩ => hnone pool hm, by simp⟩

theorem not_syncsByProtocol_example :
    ¬SyncsByProtocol exampleEnv exampleTwoListeners exampleTwoRows := by
  refine not_syncsByProtocol ⟨by decide +kernel, ?_⟩ agreesWith_exampleTwoRows (by decide +kernel)
  intro row hrow
  rcases List.mem_cons.mp hrow with rfl | hrow
  · decide
  · rw [List.mem_singleton.mp hrow]
    decide

end Example

end OvnOctavia
