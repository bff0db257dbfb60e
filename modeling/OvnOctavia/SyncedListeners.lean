import OvnOctavia.SyncedPools

/-!
The listeners of a row after a sync. A listener is written with its default pool; each pool
made for it then goes to the end of the pools it names. The value depends on the tree alone,
whatever pools the listener of the row named before.
-/

namespace OvnOctavia

namespace Octavia

/-- The default pool counts as enabled. -/
def Listener.defaultChain (l : Listener) : List (Str × Bool) :=
  match l.defaultPoolId with
  | some (c :: id) => [(c :: id, true)]
  | _ => []

/-- A pool made for an enabled listener goes to the end of the pools it names. -/
def Listener.link (l : Listener) (chain : List (Str × Bool)) (pool : Pool) : List (Str × Bool) :=
  if l.adminStateUp.getD true ∧ pool.listenerId = some l.listenerId then
    chain.filter (·.1 ≠ pool.poolId) ++ [(pool.poolId, pool.adminStateUp.getD true)]
  else chain

/-- The pools a listener names after a sync. -/
def LoadBalancer.chain (lb : LoadBalancer) (l : Listener) : List (Str × Bool) :=
  (lb.pools.getD []).foldl l.link l.defaultChain

def Listener.value (l : Listener) (chain : List (Str × Bool)) : Str :=
  makeListenerKeyValue l.protocolPort (poolChain chain)

/-- Listeners have ids of their own, and pools name them by their ids. -/
structure LoadBalancer.Named (lb : LoadBalancer) : Prop where
  distinct : ∀ l ∈ lb.listeners.getD [], ∀ m ∈ lb.listeners.getD [],
    l.listenerId = m.listenerId → l = m
  listener : ∀ pool ∈ lb.pools.getD [], ∀ id, pool.listenerId = some id → id ≠ [] → IsUuid id

end Octavia

section Linking
variable {env : Env} {l : Octavia.Listener} {pool : Octavia.Pool} {chain : List (Str × Bool)}
  {e : Dict Str Str}

theorem isUuid_link (hp : ∀ p ∈ chain, IsUuid p.1) (hid : IsUuid pool.poolId) :
    ∀ p ∈ l.link chain pool, IsUuid p.1 := by
  unfold Octavia.Listener.link
  split
  · exact forall_mem_concat (fun p hm => hp p (List.mem_of_mem_filter hm)) hid
  · exact hp

theorem isUuid_defaultChain (hpool : ∀ id, l.defaultPoolId = some id → id ≠ [] → IsUuid id) :
    ∀ p ∈ l.defaultChain, IsUuid p.1 := by
  unfold Octavia.Listener.defaultChain
  split
  · next c id hd =>
      rw [List.forall_mem_singleton]
      exact hpool _ hd (List.cons_ne_nil c id)
  · exact nofun

theorem isUuid_chain {lb : Octavia.LoadBalancer} (ht : lb.WellFormed env)
    (hl : l ∈ lb.listeners.getD []) : ∀ p ∈ lb.chain l, IsUuid p.1 := by
  have hfold : ∀ (pools : List Octavia.Pool) (chain : List (Str × Bool)),
      (∀ pool ∈ pools, IsUuid pool.poolId) → (∀ p ∈ chain, IsUuid p.1) →
      ∀ p ∈ pools.foldl l.link chain, IsUuid p.1 := by
    intro pools
    induction pools with
    | nil => exact fun _ _ hp => hp
    | cons pool pools ih =>
        intro chain hids hp
        rw [List.forall_mem_cons] at hids
        exact ih _ hids.2 (isUuid_link hp hids.1)
  exact hfold _ _ ht.pool (isUuid_defaultChain (ht.listener l hl).2)

theorem Legible.set_value (he : Legible env e) (hid : IsUuid l.listenerId)
    (hp : ∀ p ∈ chain, IsUuid p.1) : Legible env (e.set l.key (l.value chain)) :=
  he.set (.listener _ hid ⟨_, chain, rfl, hp⟩)

theorem value_of_info {info : ListenerInfo} (hinfo : getListenerRequestInfo l = .ok info) :
    makeListenerKeyValue info.protocolPort (defaultPoolKey info) = l.value l.defaultChain := by
  obtain ⟨-, -, hport, hdefault⟩ := getListenerRequestInfo_ok hinfo
  rw [hport, Octavia.Listener.value, defaultPoolKey, hdefault, Octavia.Listener.defaultChain]
  rcases l.defaultPoolId with _ | _ | ⟨c, id⟩
  · rfl
  · rfl
  · simp [poolChain]

/-- The value of a listener with a pool put at its end. -/
theorem value_link (hp : ∀ p ∈ chain, IsUuid p.1) (hid : IsUuid pool.poolId) :
    (if Str.contains pool.poolId (l.value chain) then
        Str.replace (getPoolKey pool.poolId true) []
          (Str.replace (getPoolKey pool.poolId false) [] (l.value chain))
      else l.value chain) ++ pool.key =
      l.value (chain.filter (·.1 ≠ pool.poolId) ++
        [(pool.poolId, pool.adminStateUp.getD true)]) := by
  have htaken : (if Str.contains pool.poolId (l.value chain) then
      Str.replace (getPoolKey pool.poolId true) []
        (Str.replace (getPoolKey pool.poolId false) [] (l.value chain))
      else l.value chain) = l.value (chain.filter (·.1 ≠ pool.poolId)) := by
    split
    · exact replace_listenerValue hid hp l.protocolPort
    · next hno =>
        rw [List.filter_eq_self.mpr]
        rintro ⟨id, up⟩ hm
        refine decide_eq_true fun hsame => hno ?_
        subst hsame
        exact contains_listenerValue hm l.protocolPort
  rw [htaken, Octavia.Listener.value, makeListenerKeyValue_append, Octavia.Pool.key,
    ← poolChain_append (chain.filter _) (pool.poolId, pool.adminStateUp.getD true)]
  rfl

/-- The sync of a pool links it to its listener. -/
theorem get?_prepareExternalIds_listener {info : PoolInfo} (hl : IsUuid l.listenerId)
    (hid : IsUuid pool.poolId)
    (hnamed : ∀ id, pool.listenerId = some id → id ≠ [] → IsUuid id)
    (hinfo : getPoolRequestInfo pool = .ok info) (hp : ∀ p ∈ chain, IsUuid p.1)
    (he : e.get? l.key = some (l.value chain)) :
    (prepareExternalIds info (pool.adminStateUp.getD true) e).get? l.key =
      some (l.value (l.link chain pool)) := by
  obtain ⟨hinfoId, -, hlistener⟩ := getPoolRequestInfo_ok hinfo
  unfold Octavia.Listener.link
  split
  · next hlink =>
      have hkey : l.key = getListenerKey l.listenerId true := by
        rw [Octavia.Listener.key, hlink.1]
      have hof : listenerOf info = some l.listenerId := by
        rw [listenerOf, hlistener, hlink.2]
        obtain ⟨c, rest, hcons⟩ := List.exists_cons_of_ne_nil hl.ne_nil
        rw [hcons]
      rw [hkey] at he ⊢
      simp only [prepareExternalIds, hof, he, hinfoId]
      rw [Dict.get?_set_self, ← value_link hp hid]
      rfl
  · next hlink =>
      have hother : ∀ id, listenerOf info = some id → l.key ≠ getListenerKey id true := by
        intro id hof hkey
        unfold listenerOf at hof
        split at hof
        · next c rest hsome =>
            cases hof
            rw [hlistener] at hsome
            have hid' := hnamed _ hsome (List.cons_ne_nil c rest)
            obtain ⟨hsame, hup⟩ := getListenerKey_inj hl hid' hkey
            exact hlink ⟨hup, hsame ▸ hsome⟩
        · cases hof
      have hne : l.key ≠ getPoolKey info.id (pool.adminStateUp.getD true) :=
        listenerKey_ne_poolKey _ _ _ _
      rw [get?_prepareExternalIds_of_ne hne hother, he]

end Linking

section Rows
variable {env : Env} {lb : Octavia.LoadBalancer} {l : Octavia.Listener} {row : LoadBalancer}
  {s s' : Nb}

theorem ignoresStatuses_only_listener (v : Str) :
    IgnoresStatuses (Holding env (only l.key v)) :=
  ignoresStatuses_holding (holdsObjects_only (listenerKey_notMem_base _ _) v)

theorem not_only_listener (pool : Octavia.Pool) (v w : Str) : ¬ only l.key v pool.key w := by
  rintro ⟨hkey, -⟩
  exact listenerKey_ne_poolKey _ _ _ _ hkey.symm

/-- A listener that is synced names its default pool. -/
theorem rowWith_ensureListener (hid : IsUuid l.listenerId)
    (hpool : ∀ id, l.defaultPoolId = some id → id ≠ [] → IsUuid id)
    (h : s.RowWith row.uuid (Legible env))
    (hrun : (ensureListener env row l).run Nb.apply s = (.ok (), s')) :
    s'.RowWith row.uuid (Holding env (only l.key (l.value l.defaultChain))) := by
  obtain ⟨info, t, hinfo, hrun⟩ := Prog.run_bind_ok hrun
  obtain ⟨hinfo', rfl⟩ := Prod.mk.inj ((Prog.run_ofExcept Nb.apply _ s).symm.trans hinfo)
  obtain ⟨hinfoId, hup, -⟩ := getListenerRequestInfo_ok hinfo'
  have hkey : getListenerKey info.id (info.adminStateUp.getD false) = l.key := by
    rw [hinfoId, hup]
    rfl
  have hset : ∀ e, Legible env e → Legible env (e.set l.key (l.value l.defaultChain)) :=
    fun e he => he.set_value hid (isUuid_defaultChain hpool)
  have hwritten := rowWith_listenerSync env hkey (value_of_info hinfo') h
    (fun e he => he.frame_ok (hset e he))
    fun e he => (hset e he).holding_only (Dict.get?_set_self e l.key _)
  rw [hrun] at hwritten
  exact hwritten

/-- A pool that is synced is linked to the listener it was made for. -/
theorem rowWith_ensurePool_link {pool : Octavia.Pool} {chain : List (Str × Bool)}
    (hl : IsUuid l.listenerId) (hid : IsUuid pool.poolId)
    (hnamed : ∀ id, pool.listenerId = some id → id ≠ [] → IsUuid id)
    (hm : ∀ m ∈ pool.members.getD [], ∀ d, memberData env lb m = .ok d → d.WellFormed env)
    (hp : ∀ p ∈ chain, IsUuid p.1)
    (h : s.RowWith row.uuid (Holding env (only l.key (l.value chain))))
    (hrun : (ensurePool env lb row pool).run Nb.apply s = (.ok (), s')) :
    s'.RowWith row.uuid (Holding env (only l.key (l.value (l.link chain pool)))) := by
  obtain ⟨info, t, hinfo, hrun⟩ := Prog.run_bind_ok hrun
  obtain ⟨hinfo', rfl⟩ := Prod.mk.inj ((Prog.run_ofExcept Nb.apply _ s).symm.trans hinfo)
  obtain ⟨hinfoId, hup, -⟩ := getPoolRequestInfo_ok hinfo'
  obtain ⟨_, t, hsync, hrun⟩ := Prog.run_bind_ok hrun
  have hset : ∀ e, Holding env (only l.key (l.value chain)) e →
      Holding env (only l.key (l.value (l.link chain pool)))
        (e.update (prepareExternalIds info (pool.adminStateUp.getD true) e)) := by
    intro e he
    refine Legible.holding_only
      (he.legible.update (he.legible.prepareExternalIds (hinfoId ▸ hid) _)) ?_
    rw [Dict.get?_update,
      get?_prepareExternalIds_listener hl hid hnamed hinfo' hp (he.held _ _ ⟨rfl, rfl⟩)]
    rfl
  have hwritten := rowWith_poolSync h hup hset
  rw [hsync] at hwritten
  exact hwritten.after (keepsRow_ensurePoolRest (ignoresStatuses_only_listener _) row
    (fun _ => keepsMembers_holding hid hm (not_only_listener pool _)) hinfo') hrun

/-- Each listener of the tree names the pools of the tree. -/
def Relinked (lb : Octavia.LoadBalancer) (e : Dict Str Str) : Prop :=
  ∀ l ∈ lb.listeners.getD [], e.get? l.key = some (l.value (lb.chain l))

theorem Relinked.of_objects {e e' : Dict Str Str} (he : Relinked lb e)
    (h : ∀ k, k ∉ baseKeys → e'.get? k = e.get? k) : Relinked lb e' :=
  fun l hl => (h _ (listenerKey_notMem_base _ _)).trans (he l hl)

theorem rowWith_ensureRow_link {status : Status} (ht : lb.WellFormed env) (hn : lb.Named)
    (hm : l ∈ lb.listeners.getD []) (h : s.RowWith row.uuid (Legible env))
    (hrun : (ensureRow env lb row).run Nb.apply s = (.ok status, s')) :
    s'.RowWith row.uuid (Holding env (only l.key (l.value (lb.chain l)))) := by
  obtain ⟨hid, hdefault⟩ := ht.listener l hm
  obtain ⟨_, t, hlb, hrun⟩ := Prog.run_bind_ok hrun
  obtain ⟨_, t₁, hlisteners, hrun⟩ := Prog.run_bind_ok hrun
  obtain ⟨_, t₂, hpools, hrun⟩ := Prog.run_bind_ok hrun
  have hlegible : KeepsTree env lb (Legible env) := keepsTree_legible ht
  have hvip := h.after
    (keepsRow_lbSync ignoresStatuses_legible.toIgnoresPeripheral row fun _ => hlegible.vip) hlb
  have hlistener : t₁.RowWith row.uuid (Holding env (only l.key (l.value l.defaultChain))) := by
    refine Prog.Keeps.each_reaches (J := fun nb =>
        nb.RowWith row.uuid (Holding env (only l.key (l.value l.defaultChain))))
      (fun m hm => keepsRow_ensureListener row m fun _ => hlegible.listener m hm)
      (fun m hm' hne => keepsRow_ensureListener row m fun _ => ?_) (.inr hm)
      (fun r r' hr hround => rowWith_ensureListener hid hdefault hr hround) hvip hlisteners
    refine keepsListener_holding (ht.listener m hm').1 (ht.listener m hm').2 ?_
    rintro w ⟨hkey, -⟩
    exact hne (hn.distinct m hm' l hm (getListenerKey_inj (ht.listener m hm').1 hid hkey).1)
  have hlinked := Prog.run_each_foldl (g := l.link)
    (I := fun chain nb => (∀ p ∈ chain, IsUuid p.1) ∧
      nb.RowWith row.uuid (Holding env (only l.key (l.value chain))))
    (fun pool hp chain r r' hr hround => ⟨isUuid_link hr.1 (ht.pool pool hp),
      rowWith_ensurePool_link hid (ht.pool pool hp) (hn.listener pool hp) (ht.member pool hp) hr.1
        hr.2 hround⟩)
    ⟨isUuid_defaultChain hdefault, hlistener⟩ hpools
  exact hlinked.2.after (keepsRow_ensureRest row) hrun

/-- A synced row has all listeners relinked. -/
theorem rowWith_ensureRow_relinked {status : Status} (ht : lb.WellFormed env) (hn : lb.Named)
    (h : s.RowWith row.uuid (Legible env))
    (hrun : (ensureRow env lb row).run Nb.apply s = (.ok status, s')) :
    s'.RowWith row.uuid (Relinked lb) := by
  obtain ⟨row', hrow', -⟩ := h.after
    (keepsRow_ensureRow ignoresStatuses_legible row fun _ => keepsTree_legible ht) hrun
  refine ⟨row', hrow', fun l hl => ?_⟩
  obtain ⟨row'', hrow'', he⟩ := rowWith_ensureRow_link ht hn hl h hrun
  rw [hrow'] at hrow''
  cases hrow''
  exact he.held _ _ ⟨rfl, rfl⟩

end Rows

end OvnOctavia
