import OvnOctavia.Kept
import OvnOctavia.ProtocolRows

/-!
The rows of one load balancer present the same VIPs, ports and floating IPs, and the
admin state last requested for the load balancer, as long as a row for a further
protocol is only created with that admin state.
-/

namespace OvnOctavia

/-- The keys all rows of a load balancer share, the admin state apart. -/
def vipKeys : List Str :=
  [lbExtIdsVipKey, lbExtIdsVipPortIdKey, lbExtIdsAdditVipKey, lbExtIdsAdditVipPortIdKey,
    lbExtIdsVipFipKey, lbExtIdsAdditVipFipKey]

theorem vipKeys_base {k : Str} (h : k ∈ vipKeys) : k ∈ baseKeys := by
  revert k; decide

/-- The keys present the VIP keys of `shared`; their pools are empty. -/
structure Presents (shared e : Dict Str Str) : Prop where
  keys : ∀ k ∈ vipKeys, e.get? k = shared.get? k
  listeners : ∀ k v, hasListenerPrefix k = true → e.get? k = some v → IsListenerValue v
  pools : ∀ k v, lbExtIdsPoolPrefix <+: k → e.get? k = some v → v = []

section Keys
variable {shared e e' : Dict Str Str}

theorem Presents.same (h : Presents shared e) (hs : SameKeys e e') : Presents shared e' := by
  have hget : ∀ k v, k ∉ baseKeys → e'.get? k = some v → e.get? k = some v := by
    intro k v hk hv
    rwa [hs.get? k (Table.notMem_peripheralKeys hk)] at hv
  have hvip : ∀ k ∈ vipKeys, k ∉ peripheralKeys := by decide
  refine ⟨fun k hk => (hs.get? k (hvip k hk)).trans (h.keys k hk), fun k v hk hv => ?_,
    fun k v hk hv => ?_⟩
  · refine h.listeners k v hk (hget k v (fun hb => ?_) hv)
    rw [hasListenerPrefix_base hb] at hk
    cases hk
  · refine h.pools k v hk (hget k v (fun hb => ?_) hv)
    have := startsWith_pool_base hb
    rw [Str.startsWith_iff.mpr hk] at this
    cases this

theorem Presents.setListener (h : Presents shared e) (id : Str) (up : Bool) {v : Str}
    (hv : IsListenerValue v) : Presents shared (e.set (getListenerKey id up) v) := by
  refine ⟨fun k hk => ?_, fun k w hk hw => ?_, fun k w hk hw => ?_⟩
  · have hne : k ≠ getListenerKey id up := by
      rintro rfl
      exact listenerKey_notMem_base id up (vipKeys_base hk)
    rw [Dict.get?_set_of_ne e v hne]
    exact h.keys k hk
  · by_cases he : k = getListenerKey id up
    · rw [he, Dict.get?_set_self] at hw
      cases hw
      exact hv
    · rw [Dict.get?_set_of_ne e v he] at hw
      exact h.listeners k w hk hw
  · have he : k ≠ getListenerKey id up := by
      rintro rfl
      have hl := startsWith_listenerKey id up
      obtain ⟨t, ht⟩ := hk
      rw [← ht] at hl
      cases hl
    rw [Dict.get?_set_of_ne e v he] at hw
    exact h.pools k w hk hw

theorem Presents.setPool (h : Presents shared e) {id : Str} (hid : IsUuid id) (up : Bool) :
    Presents shared (e.set (getPoolKey id up) []) := by
  refine ⟨fun k hk => ?_, fun k w hk hw => ?_, fun k w hk hw => ?_⟩
  · have hne : k ≠ getPoolKey id up := by
      rintro rfl
      exact poolKey_notMem_base id up (vipKeys_base hk)
    rw [Dict.get?_set_of_ne e [] hne]
    exact h.keys k hk
  · have he : k ≠ getPoolKey id up := by
      rintro rfl
      rw [hasListenerPrefix_poolKey hid] at hk
      cases hk
    rw [Dict.get?_set_of_ne e [] he] at hw
    exact h.listeners k w hk hw
  · by_cases he : k = getPoolKey id up
    · rw [he, Dict.get?_set_self] at hw
      cases hw
      rfl
    · rw [Dict.get?_set_of_ne e [] he] at hw
      exact h.pools k w hk hw

theorem Presents.poolCreate (h : Presents shared e) {info : PoolInfo} (hid : IsUuid info.id)
    (up : Bool) : Presents shared (poolCreateExternalIds info up e) := by
  have hpool := h.setPool hid up
  unfold poolCreateExternalIds
  dsimp only
  split
  · next c l _ =>
      split
      · exact hpool
      · next value hv =>
          split
          · exact hpool
          · exact hpool.setListener _ true (isListenerValue_append
              (h.listeners _ value (hasListenerPrefix_listenerKey _ true) hv) info.id up)
  · exact hpool

theorem Presents.setEnabled (h : Presents shared e) (v : Str) :
    Presents shared (e.set enabledKey v) := by
  have hne : ∀ k ∈ vipKeys, k ≠ enabledKey := by decide
  refine ⟨fun k hk => ?_, fun k w hk hw => ?_, fun k w hk hw => ?_⟩
  · rw [Dict.get?_set_of_ne e v (hne k hk)]
    exact h.keys k hk
  · have he : k ≠ enabledKey := by
      rintro rfl
      rw [hasListenerPrefix_base (by decide)] at hk
      cases hk
    rw [Dict.get?_set_of_ne e v he] at hw
    exact h.listeners k w hk hw
  · have he : k ≠ enabledKey := by
      rintro rfl
      exact absurd hk (by decide)
    rw [Dict.get?_set_of_ne e v he] at hw
    exact h.pools k w hk hw

/-- Rows with empty pools serve nothing. -/
theorem Presents.frame (h : Presents shared e) (env : Env) (row : Dict Str Str) :
    frameVipIps env row e = .ok ∅ := by
  have hstep : ∀ kv ∈ e.items, ∀ acc, frameListener env row e acc kv = .ok acc := by
    intro kv hm acc
    unfold frameListener
    split
    · rfl
    · next hk =>
        rw [Bool.or_eq_true, not_or] at hk
        have hget : e.get? kv.1 = some kv.2 := (Dict.get?_eq_some_iff e kv.1 kv.2).mpr hm
        obtain ⟨n, t, hv, ht⟩ := h.listeners kv.1 kv.2 (by simpa using hk.1) hget
        rw [hv]
        split
        · rfl
        · next port pool hx =>
            split
            · rfl
            · next hne =>
                have hpool : pool = t := by
                  by_cases hc : ':' ∈ t
                  · rw [extractListenerKeyValue_of_colon hc] at hx
                    cases hx
                  · rw [extractListenerKeyValue_make hc] at hx
                    cases hx
                    rfl
                subst hpool
                split
                · rfl
                · rfl
                · next c members hget =>
                    rcases ht with ht | ht
                    · exact absurd (.inr ht) hne
                    · cases h.pools _ _ ht hget
  unfold frameVipIps
  split
  · rfl
  · have hfold : ∀ (l : List (Str × Str)) (acc : Dict Str Str), (∀ kv ∈ l, kv ∈ e.items) →
        l.foldlM (frameListener env row e) acc = .ok acc := by
      intro l acc hl
      induction l with
      | nil => rfl
      | cons kv l ih =>
          rw [List.foldlM_cons, hstep kv (hl kv (List.mem_cons_self ..))]
          exact ih fun x hx => hl x (List.mem_cons_of_mem _ hx)
    exact hfold e.items ∅ fun _ h => h

end Keys

/-- The rows of the load balancer present the same VIP keys, and its admin state. -/
structure RowsPresent (lbId : Str) (shared : Dict Str Str) (up : Bool) (nb : Nb) : Prop where
  wellFormed : nb.WellFormed
  rows : ∀ row ∈ nb.lbsNamed lbId, Presents shared row.externalIds
  enabled : ∀ row ∈ nb.lbsNamed lbId, row.externalIds.get? enabledKey = some (strBool up)

/-- The keys a new load balancer shares among its rows. -/
def firstKeys (info : LoadBalancerInfo) (vip vipPortId : Str) : Dict Str Str :=
  addVipKeys info (baseExternalIds vip vipPortId true)

namespace RowsPresent
variable {env : Env} {lbId : Str} {shared : Dict Str Str} {up : Bool} {nb nb' : Nb}
  {row : LoadBalancer}

theorem same (h : RowsPresent lbId shared up nb) (hs : nb.SameObjects nb') :
    RowsPresent lbId shared up nb' := by
  refine ⟨hs.wellFormed h.wellFormed, fun row hrow => ?_, fun row hrow => ?_⟩
  · obtain ⟨old, hold, hsame⟩ := hs.exists_of_mem_named hrow
    exact (h.rows old hold).same hsame.externalIds
  · obtain ⟨old, hold, hsame⟩ := hs.exists_of_mem_named hrow
    rw [hsame.externalIds.get? enabledKey (by decide), h.enabled old hold]

theorem putLb (h : RowsPresent lbId shared up nb) (hrow : row ∈ nb.lbsNamed lbId)
    (row' : LoadBalancer) (hu : row'.uuid = row.uuid) (hn : row'.name = row.name)
    (hp : Presents shared row'.externalIds)
    (he : row'.externalIds.get? enabledKey = some (strBool up)) :
    RowsPresent lbId shared up (nb.putLb row') := by
  have hget := h.wellFormed.lb?_of_mem (Nb.mem_lbsNamed.mp hrow).1
  have hcases : ∀ x ∈ (nb.putLb row').lbsNamed lbId, x = row' ∨ x ∈ nb.lbsNamed lbId := by
    intro x hx
    rw [Nb.lbsNamed_putLb h.wellFormed row' (hu ▸ hget) hn] at hx
    obtain ⟨old, hold, rfl⟩ := List.mem_map.mp hx
    split
    · exact .inl rfl
    · exact .inr hold
  refine ⟨h.wellFormed.putLb row', fun x hx => ?_, fun x hx => ?_⟩
  · rcases hcases x hx with rfl | hx
    · exact hp
    · exact h.rows x hx
  · rcases hcases x hx with rfl | hx
    · exact he
    · exact h.enabled x hx

theorem createLb (h : RowsPresent lbId shared up nb) {p : Option Protocol} {e : Dict Str Str}
    {fields : List Str} (hp : Presents shared e) (he : e.get? enabledKey = some (strBool up)) :
    RowsPresent lbId shared up (nb.createLb lbId p e fields) := by
  have hcases : ∀ x ∈ (nb.createLb lbId p e fields).lbsNamed lbId,
      x.externalIds = e ∨ x ∈ nb.lbsNamed lbId := by
    intro x hx
    obtain ⟨hm, hn⟩ := Nb.mem_lbsNamed.mp hx
    rcases List.mem_append.mp hm with hm | hm
    · exact .inr (Nb.mem_lbsNamed.mpr ⟨hm, hn⟩)
    · rw [List.mem_singleton.mp hm]
      exact .inl rfl
  refine ⟨h.wellFormed.createLb .., fun x hx => ?_, fun x hx => ?_⟩
  · rcases hcases x hx with rfl | hx
    · exact hp
    · exact h.rows x hx
  · rcases hcases x hx with rfl | hx
    · exact he
    · exact h.enabled x hx

/-- What the first row of a load balancer presents. -/
theorem presents_base {shared : Dict Str Str} (info : LoadBalancerInfo) (vip vipPortId : Str)
    (up : Bool) (hkeys : ∀ k ∈ vipKeys,
      (addVipKeys info (baseExternalIds vip vipPortId up)).get? k = shared.get? k) :
    Presents shared (addVipKeys info (baseExternalIds vip vipPortId up)) := by
  have hbase := Table.addVipKeys_base info (Table.baseExternalIds_base vip vipPortId up)
  refine ⟨hkeys, fun k v hk hv => ?_, fun k v hk hv => ?_⟩
  · rw [hasListenerPrefix_base (hbase k (mem_keys_of_get? hv))] at hk
    cases hk
  · have := startsWith_pool_base (hbase k (mem_keys_of_get? hv))
    rw [Str.startsWith_iff.mpr hk] at this
    cases this

/-- A text that is there and not empty, once more. -/
theorem nonempty_twice (v : Option Str) :
    (if (if v.getD [] ≠ [] then v else none).getD [] ≠ [] then
      (if v.getD [] ≠ [] then v else none) else none) = if v.getD [] ≠ [] then v else none := by
  by_cases h : v.getD [] ≠ []
  · rw [if_pos h, if_pos h]
  · rw [if_neg h]
    rfl

/-- A row for a further protocol presents what the row it is copied from does. -/
theorem presents_copy {info : LoadBalancerInfo} {vip vipPortId vip' vipPortId' : Str}
    {first : LoadBalancer} {alg : Option LbAlgorithm}
    (hvips : ((env.getLoadbalancer lbId).map ProviderLoadBalancer.additionalVips).getD [] =
      info.additionalVips)
    (hfirst : Presents (firstKeys info vip vipPortId) first.externalIds)
    (hvip : first.externalIds.get? lbExtIdsVipKey = some vip')
    (hport : first.externalIds.get? lbExtIdsVipPortIdKey = some vipPortId') :
    Presents (firstKeys info vip vipPortId)
      (addVipKeys (copyLbInfo env lbId first up alg) (baseExternalIds vip' vipPortId' up)) := by
  have hk := hfirst.keys
  rw [hk _ (by decide), firstKeys, get?_addVipKeys_vip] at hvip
  rw [hk _ (by decide), firstKeys, get?_addVipKeys_port] at hport
  cases hvip
  cases hport
  have hfip : (copyLbInfo env lbId first up alg).vipFip =
      if info.vipFip.getD [] ≠ [] then info.vipFip else none := by
    have hfirst := hk lbExtIdsVipFipKey (by decide)
    rwa [firstKeys, get?_addVipKeys_fip] at hfirst
  have hfips : (copyLbInfo env lbId first up alg).additionalVipFip =
      if info.additionalVipFip.getD [] ≠ [] then info.additionalVipFip else none := by
    have hfirst := hk lbExtIdsAdditVipFipKey (by decide)
    rwa [firstKeys, get?_addVipKeys_fips] at hfirst
  have hadd : (copyLbInfo env lbId first up alg).additionalVips = info.additionalVips := hvips
  refine presents_base _ vip vipPortId up fun k hmem => ?_
  simp only [vipKeys, List.mem_cons, List.not_mem_nil, or_false] at hmem
  obtain rfl | rfl | rfl | rfl | rfl | rfl := hmem
  · rw [firstKeys, get?_addVipKeys_vip, get?_addVipKeys_vip]
  · rw [firstKeys, get?_addVipKeys_port, get?_addVipKeys_port]
  · rw [firstKeys, get?_addVipKeys_additional, get?_addVipKeys_additional, hadd]
  · rw [firstKeys, get?_addVipKeys_additionalPorts, get?_addVipKeys_additionalPorts, hadd]
  · rw [firstKeys, get?_addVipKeys_fip, get?_addVipKeys_fip, hfip, nonempty_twice]
  · rw [firstKeys, get?_addVipKeys_fips, get?_addVipKeys_fips, hfips, nonempty_twice]

/-- What Octavia tells of a load balancer names the additional VIPs of its creation. -/
def Told (env : Env) (lbId : Str) (info : LoadBalancerInfo) : Prop :=
  ∃ lb, env.getLoadbalancer lbId = some lb ∧ lb.additionalVips = info.additionalVips

/-- A request that needs a row for a further protocol carries the admin state last
requested for the load balancer. -/
def CarriesState (lbId : Str) (up : Bool) (nb : Nb) (p : Protocol) (state : Option Bool) : Prop :=
  nb.lbsNamed lbId ≠ [] → (∀ row ∈ nb.lbsNamed lbId, row.protocol ≠ none ∧ row.protocol ≠ some p) →
    state = some up

section Creating
variable {info : LoadBalancerInfo} {vip vipPortId : Str}

theorem provided (h : RowsPresent lbId (firstKeys info vip vipPortId) up nb)
    (ht : Told env lbId info) {p : Protocol} {state : Option Bool}
    (hc : CarriesState lbId up nb p state)
    (hpr : nb' = nb ∨ ∃ b, state = some b ∧ Provided env lbId p b nb nb') :
    RowsPresent lbId (firstKeys info vip vipPortId) up nb' := by
  obtain rfl | ⟨b, rfl, hpr⟩ := hpr
  · exact h
  · cases hpr with
    | failed hp hs => exact h.same hs
    | @assigned row hrow hnone hp =>
        exact h.putLb hrow _ rfl rfl (h.rows row hrow) (h.enabled row hrow)
    | created hfirst hp hvip hport hs =>
        cases hc (List.ne_nil_of_mem hfirst) hp
        obtain ⟨lb, hlb, hvips⟩ := ht
        have htold : ((env.getLoadbalancer lbId).map
            ProviderLoadBalancer.additionalVips).getD [] = info.additionalVips := by
          rw [hlb]
          exact hvips
        exact (h.createLb (presents_copy htold (h.rows _ hfirst) hvip hport)
          get?_addVipKeys_enabled).same hs

theorem listenerCreate (h : RowsPresent lbId (firstKeys info vip vipPortId) up nb)
    (ht : Told env lbId info) {listener : ListenerInfo} (hlb : listener.loadbalancerId = lbId)
    (hc : CarriesState lbId up nb listener.protocol listener.adminStateUp) :
    RowsPresent lbId (firstKeys info vip vipPortId) up
      (handled env (.listenerCreate listener) nb) := by
  subst hlb
  obtain ⟨nb₁, hpr, hout⟩ := handled_listenerCreate env h.wellFormed listener
  have h₁ := h.provided ht hc (by simpa using hpr)
  rcases hout with hout | ⟨b, row, vips, -, hrow, -, -, hs⟩
  · exact hout ▸ h₁
  · have hne : enabledKey ≠ getListenerKey listener.id b := by
      intro he
      exact listenerKey_notMem_base listener.id b (he ▸ by decide)
    refine (h₁.putLb hrow (createdListener listener b row vips) rfl rfl ?_ ?_).same hs
    · exact (h₁.rows row hrow).setListener _ _
        (isListenerValue_make _ (defaultPoolKey_cases listener))
    · rw [createdListener, Dict.get?_set_of_ne _ _ hne]
      exact h₁.enabled row hrow

theorem poolCreate (h : RowsPresent lbId (firstKeys info vip vipPortId) up nb)
    (ht : Told env lbId info) {pool : PoolInfo} (hlb : pool.loadbalancerId = lbId)
    (hid : IsUuid pool.id) (hc : CarriesState lbId up nb pool.protocol pool.adminStateUp) :
    RowsPresent lbId (firstKeys info vip vipPortId) up (handled env (.poolCreate pool) nb) := by
  subst hlb
  obtain ⟨nb₁, hpr, hout⟩ := handled_poolCreate env h.wellFormed pool
  have h₁ := h.provided ht hc (by simpa using hpr)
  rcases hout with ⟨hout, -⟩ | ⟨b, row, options, -, hrow, -, hout⟩
  · exact hout ▸ h₁
  · rw [hout]
    refine h₁.putLb hrow _ rfl rfl ((h₁.rows row hrow).poolCreate hid b) ?_
    have hpool : enabledKey ≠ getPoolKey pool.id b := by
      intro he
      exact poolKey_notMem_base pool.id b (he ▸ by decide)
    have hlistener : ∀ l, enabledKey ≠ getListenerKey l true := by
      intro l he
      exact listenerKey_notMem_base l true (he ▸ by decide)
    rcases poolCreateExternalIds_cases pool b row.externalIds with he | ⟨l, v, -, -, -, he⟩
    · simp only [he, Dict.get?_set_of_ne _ _ hpool, h₁.enabled row hrow]
    · simp only [he, Dict.get?_set_of_ne _ _ (hlistener l), Dict.get?_set_of_ne _ _ hpool,
        h₁.enabled row hrow]

end Creating

section Updating

/-- A row presents the VIP keys, and the requested admin state or one still to be
changed. -/
structure Updating (lbId : Str) (shared : Dict Str Str) (up : Bool) (todo : List LoadBalancer)
    (nb : Nb) : Prop where
  wellFormed : nb.WellFormed
  present : ∀ lb ∈ todo, ∃ row ∈ nb.lbsNamed lbId, row.uuid = lb.uuid
  rows : ∀ row ∈ nb.lbsNamed lbId, Presents shared row.externalIds
  enabled : ∀ row ∈ nb.lbsNamed lbId, ∃ v, row.externalIds.get? enabledKey = some v ∧
    (v = strBool up ∨ row.uuid ∈ todo.map LoadBalancer.uuid)

theorem run_lbUpdateRow (env : Env) (up : Bool) {lb : LoadBalancer} (hw : nb.WellFormed)
    (hget : nb.lb? lb.uuid = some row) (hp : Presents shared row.externalIds) {v : Str}
    (hv : row.externalIds.get? enabledKey = some v) :
    ∃ row', row'.uuid = row.uuid ∧ row'.name = row.name ∧ Presents shared row'.externalIds ∧
      row'.externalIds.get? enabledKey = some (strBool up) ∧
      (lbUpdateRow env up lb).run Nb.apply nb = (.ok (), nb.putLb row') := by
  by_cases hup : v = strBool up
  · subst hup
    refine ⟨row, rfl, rfl, hp, hv, ?_⟩
    have hself : nb.putLb row = nb := by
      refine Nb.putLb_self hw ?_
      rw [(Nb.lb?_eq_some hget).2, hget]
    rw [hself]
    simp only [lbUpdateRow, Prog.run_bind, run_readLb, live_of_lb? hget, hv, ne_eq,
      not_true_eq_false, if_false, Prog.run_pure]
  · refine ⟨{ row with externalIds := row.externalIds.set enabledKey (strBool up), vips := ∅ },
      rfl, rfl, hp.setEnabled _, Dict.get?_set_self .., ?_⟩
    have hx := run_executeUpdates hw hget
      [.setExternalIds (.single enabledKey (strBool up)), .clearVips, .setVips ∅] rfl
    simp only [lbUpdateRow, Prog.run_bind, run_readLb, live_of_lb? hget, hv, ne_eq, hup,
      not_false_eq_true, if_true, run_refreshLbVips, hp.frame]
    simpa [Except.map, LbOp.apply] using hx

theorem Updating.each (env : Env) {todo : List LoadBalancer} (h : Updating lbId shared up todo nb) :
    ∃ nb', (Prog.each (lbUpdateRow env up) todo).run Nb.apply nb = (.ok (), nb') ∧
      RowsPresent lbId shared up nb' := by
  induction todo generalizing nb with
  | nil =>
      refine ⟨nb, rfl, h.wellFormed, h.rows, fun row hrow => ?_⟩
      obtain ⟨v, hv, rfl | hm⟩ := h.enabled row hrow
      · exact hv
      · cases hm
  | cons lb todo ih =>
      obtain ⟨row, hrow, hu⟩ := h.present lb (List.mem_cons_self ..)
      obtain ⟨v, hv, -⟩ := h.enabled row hrow
      have hget : nb.lb? row.uuid = some row := h.wellFormed.lb?_of_mem (Nb.mem_lbsNamed.mp hrow).1
      obtain ⟨row', hu', hn', hp', he', hrun⟩ :=
        run_lbUpdateRow env up h.wellFormed (hu ▸ hget) (h.rows row hrow) hv
      have hcases : ∀ x, x ∈ (nb.putLb row').lbsNamed lbId ↔ x = row' ∨
          x ∈ nb.lbsNamed lbId ∧ x.uuid ≠ row'.uuid := by
        intro x
        simp only [Nb.mem_lbsNamed, Nb.mem_putLb (hu' ▸ hget)]
        have hname := (Nb.mem_lbsNamed.mp hrow).2
        grind
      have hnext : Updating lbId shared up todo (nb.putLb row') := by
        refine ⟨h.wellFormed.putLb row', fun x hx => ?_, fun x hx => ?_, fun x hx => ?_⟩
        · obtain ⟨old, hold, hxu⟩ := h.present x (List.mem_cons_of_mem _ hx)
          by_cases he : old.uuid = row'.uuid
          · exact ⟨row', (hcases row').mpr (.inl rfl), he.symm.trans hxu⟩
          · exact ⟨old, (hcases old).mpr (.inr ⟨hold, he⟩), hxu⟩
        · rcases (hcases x).mp hx with rfl | ⟨hx, -⟩
          · exact hp'
          · exact h.rows x hx
        · rcases (hcases x).mp hx with rfl | ⟨hx, hne⟩
          · exact ⟨_, he', .inl rfl⟩
          · obtain ⟨w, hw, hend⟩ := h.enabled x hx
            refine ⟨w, hw, hend.imp_right fun hm => ?_⟩
            rcases List.mem_cons.mp hm with hm | hm
            · exact absurd (hm.trans (hu.symm.trans hu'.symm)) hne
            · exact hm
      obtain ⟨nb', hrun', hend⟩ := ih hnext
      refine ⟨nb', ?_, hend⟩
      change (lbUpdateRow env up lb >>= fun _ => Prog.each (lbUpdateRow env up) todo).run
        Nb.apply nb = _
      rw [Prog.run_bind, hrun]
      exact hrun'

theorem lbUpdate {last : Bool} (h : RowsPresent lbId shared last nb) {info : LoadBalancerInfo}
    (hid : info.id = lbId) (hup : info.adminStateUp = some up) :
    RowsPresent lbId shared up (handled env (.lbUpdate info) nb) := by
  subst hid
  rw [handled_eq, handle, run_map_some, OvnOctavia.lbUpdate, hup]
  simp only [Prog.run_bind, Prog.run_attempt, run_findOvnLbs]
  by_cases hrows : nb.lbsNamed info.id = []
  · simp only [hrows, if_true, Prog.run_pure]
    exact ⟨h.wellFormed, by simp [hrows], by simp [hrows]⟩
  · have hstart : Updating info.id shared up (nb.lbsNamed info.id) nb :=
      ⟨h.wellFormed, fun lb hlb => ⟨lb, hlb, rfl⟩, h.rows, fun row hrow =>
        ⟨_, h.enabled row hrow, .inr (List.mem_map_of_mem hrow)⟩⟩
    obtain ⟨nb', hrun, hend⟩ := hstart.each env
    simp only [hrows, if_false, hrun, Prog.run_pure]
    exact hend

end Updating

end RowsPresent

section Runs

/-- One request on a load balancer that was created with `info`; beside the database
stands the admin state last requested for the load balancer. -/
inductive VipStep (info : LoadBalancerInfo) : Bool × Nb → Bool × Nb → Prop
  | lbUpdate {up : Bool} {nb : Nb} (env : Env) {update : LoadBalancerInfo} {up' : Bool}
      (hid : update.id = info.id) (hup : update.adminStateUp = some up') :
      VipStep info (up, nb) (up', handled env (.lbUpdate update) nb)
  | listenerCreate {up : Bool} {nb : Nb} {env : Env} (ht : RowsPresent.Told env info.id info)
      {listener : ListenerInfo} (hlb : listener.loadbalancerId = info.id)
      (hc : RowsPresent.CarriesState info.id up nb listener.protocol listener.adminStateUp) :
      VipStep info (up, nb) (up, handled env (.listenerCreate listener) nb)
  | poolCreate {up : Bool} {nb : Nb} {env : Env} (ht : RowsPresent.Told env info.id info)
      {pool : PoolInfo} (hlb : pool.loadbalancerId = info.id) (hid : IsUuid pool.id)
      (hc : RowsPresent.CarriesState info.id up nb pool.protocol pool.adminStateUp) :
      VipStep info (up, nb) (up, handled env (.poolCreate pool) nb)

/-- The rows of a load balancer carry the same VIP keys, and the admin state `up`. -/
def RowsAgree (lbId : Str) (up : Bool) (nb : Nb) : Prop :=
  ∀ row ∈ nb.lbsNamed lbId, row.externalIds.get? enabledKey = some (strBool up) ∧
    ∀ row' ∈ nb.lbsNamed lbId, ∀ k ∈ vipKeys, row'.externalIds.get? k = row.externalIds.get? k

variable {env : Env} {info : LoadBalancerInfo} {up up' : Bool} {nb nb' : Nb} {vip vipPortId : Str}

theorem RowsPresent.agree {shared : Dict Str Str} (h : RowsPresent info.id shared up nb) :
    RowsAgree info.id up nb := by
  refine fun row hrow => ⟨h.enabled row hrow, fun row' hrow' k hk => ?_⟩
  rw [(h.rows row hrow).keys k hk, (h.rows row' hrow').keys k hk]

theorem RowsPresent.start (env : Env) (hw : nb.WellFormed) (hnone : nb.lbsNamed info.id = [])
    (hup : info.adminStateUp = some up) :
    ∃ vip vipPortId, RowsPresent info.id (firstKeys info vip vipPortId) up
      (handled env (.lbCreate info) nb) := by
  have hempty : ∀ shared, RowsPresent info.id shared up nb :=
    fun shared => ⟨hw, by simp [hnone], by simp [hnone]⟩
  rw [handled_eq, handle, run_map_some]
  rcases lbCreate_outcome env info none nb with
    ⟨hs, -⟩ | ⟨vip, vipPortId, up', fields, hvip, hup', hport, hs⟩
  · exact ⟨[], [], (hempty _).same hs⟩
  · rw [hup, Option.some.injEq] at hup'
    subst hup'
    have hrow : Presents (firstKeys info vip vipPortId)
        (addVipKeys info (baseExternalIds vip vipPortId up)) := by
      refine RowsPresent.presents_base info vip vipPortId up fun k hk => ?_
      simp only [vipKeys, List.mem_cons, List.not_mem_nil, or_false] at hk
      obtain rfl | rfl | rfl | rfl | rfl | rfl := hk
      · rw [firstKeys, get?_addVipKeys_vip, get?_addVipKeys_vip]
      · rw [firstKeys, get?_addVipKeys_port, get?_addVipKeys_port]
      · rw [firstKeys, get?_addVipKeys_additional, get?_addVipKeys_additional]
      · rw [firstKeys, get?_addVipKeys_additionalPorts, get?_addVipKeys_additionalPorts]
      · rw [firstKeys, get?_addVipKeys_fip, get?_addVipKeys_fip]
      · rw [firstKeys, get?_addVipKeys_fips, get?_addVipKeys_fips]
    exact ⟨vip, vipPortId, ((hempty _).createLb hrow get?_addVipKeys_enabled).same hs⟩

theorem RowsPresent.step {s s' : Bool × Nb} (hs : VipStep info s s')
    (h : RowsPresent info.id (firstKeys info vip vipPortId) s.1 s.2) :
    RowsPresent info.id (firstKeys info vip vipPortId) s'.1 s'.2 := by
  cases hs with
  | lbUpdate env hid hup => exact h.lbUpdate hid hup
  | listenerCreate ht hlb hc => exact h.listenerCreate ht hlb hc
  | poolCreate ht hlb hid hc => exact h.poolCreate ht hlb hid hc

/-- As long as a row for a further protocol is only created with the admin state of
the load balancer, all its rows agree. -/
theorem rowsAgree_of_run (hw : nb.WellFormed) (hnone : nb.lbsNamed info.id = [])
    (hup : info.adminStateUp = some up)
    (hrun : Relation.ReflTransGen (VipStep info) (up, handled env (.lbCreate info) nb)
      (up', nb')) : RowsAgree info.id up' nb' := by
  obtain ⟨vip, vipPortId, hstart⟩ := RowsPresent.start env hw hnone hup
  have hkeep : ∀ s, Relation.ReflTransGen (VipStep info) (up, handled env (.lbCreate info) nb) s →
      RowsPresent info.id (firstKeys info vip vipPortId) s.1 s.2 := by
    intro s hrun
    induction hrun with
    | refl => exact hstart
    | tail _ hs ih => exact ih.step hs
  exact (hkeep _ hrun).agree

end Runs

section Example

theorem told_examplePortEnv : RowsPresent.Told examplePortEnv exampleLb.id exampleLb :=
  ⟨_, rfl, rfl⟩

def exampleUdp (up : Bool) : ListenerInfo :=
  { id := exampleId 'c', loadbalancerId := exampleId 'a', protocol := .udp, protocolPort := 53
    defaultPoolId := some none, adminStateUp := some up }

/-- The database after a TCP and a UDP listener were created. -/
def exampleTwoProtocols (up : Bool) : Nb :=
  handled examplePortEnv (.listenerCreate (exampleUdp up))
    (handled examplePortEnv (.listenerCreate exampleListener)
      (handled examplePortEnv (.lbCreate exampleLb) exampleNb))

theorem rowsAgree_of_run_example : RowsAgree exampleLb.id true (exampleTwoProtocols true) :=
  rowsAgree_of_run wellFormed_exampleNb rfl rfl
    ((Relation.ReflTransGen.single (.listenerCreate told_examplePortEnv rfl fun _ _ => rfl)).tail
      (.listenerCreate told_examplePortEnv rfl fun _ _ => rfl))

/-- A UDP listener created disabled on an enabled load balancer leaves it with a
disabled row. -/
theorem not_rowsAgree_of_disabled : ¬RowsAgree exampleLb.id true (exampleTwoProtocols false) := by
  intro h
  have hrows : ((exampleTwoProtocols false).lbsNamed exampleLb.id).map
      (·.externalIds.get? enabledKey) = [some (strBool true), some (strBool false)] := by
    decide +kernel
  have hall : ∀ x ∈ ((exampleTwoProtocols false).lbsNamed exampleLb.id).map
      (·.externalIds.get? enabledKey), x = some (strBool true) := by
    intro x hx
    obtain ⟨row, hrow, rfl⟩ := List.mem_map.mp hx
    exact (h row hrow).1
  rw [hrows] at hall
  exact absurd (hall (some (strBool false)) (by simp)) (by decide)

end Example

end OvnOctavia
