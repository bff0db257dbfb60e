import OvnOctavia.KeptRuns

/-!
What the value of a listener says about its pool. A new pool appends the key it has at
its creation, which is not rewritten when the pool is enabled, and a disabled listener
is not given it at all. An update without a default pool writes a pool that is not there.
-/

namespace OvnOctavia

section Frame
variable {env : Env} {e : Dict Str Str} {id : Str}

theorem frameVipIps_congr_row {r r' : Dict Str Str}
    (h : r'.get? ovnMemberStatusKey = r.get? ovnMemberStatusKey) (e : Dict Str Str) :
    frameVipIps env r' e = frameVipIps env r e := by
  rw [frameVipIps_eq, frameVipIps_eq, backendsIn_congr env h]

/-- A pool without members adds nothing to the traffic. -/
theorem frameVipIps_set_pool (hid : IsUuid id) {up : Bool} (hnew : getPoolKey id up ∉ e.keys)
    (r : Dict Str Str) :
    frameVipIps env r (e.set (getPoolKey id up) []) = frameVipIps env r e := by
  have hbase := Readable.sameBase_set (e := e) (poolKey_notMem_base id up) []
  rw [frameVipIps_eq, frameVipIps_eq]
  refine (frameBy_congr hbase.addresses ?_ fun k hk hs => ?_).symm
  · rw [Dict.keys_set, if_neg hnew, List.filter_append]
    simp [isServing, hasListenerPrefix_poolKey hid]
  · have hne : k ≠ getPoolKey id up := fun h => hnew (h ▸ hk)
    refine .inr ?_
    rw [Dict.get?_set_of_ne e _ hne]
    have hservice : ∀ v, serviceOf (e.set (getPoolKey id up) []) v = serviceOf e v := by
      intro v
      unfold serviceOf
      cases extractListenerKeyValue v with
      | none => rfl
      | some pp =>
          dsimp only
          split
          · rfl
          · rw [Dict.get?_set]
            split
            · next h => rw [h, (Dict.get?_eq_none_iff _ _).mpr hnew]; rfl
            · rfl
    rw [hservice]
    exact ⟨rfl, rfl⟩

end Frame

/-- The update that enables a pool. -/
def enablePool (info : PoolInfo) : PoolInfo :=
  { id := info.id, loadbalancerId := info.loadbalancerId, protocol := info.protocol
    adminStateUp := some true }

def createMembers (env : Env) (nb : Nb) (members : List MemberInfo) : Nb :=
  members.foldl (fun nb m => handled env (.memberCreate m) nb) nb

section Paths
variable (env : Env) (info : PoolInfo) (nb : Nb)

def createdDisabled : Nb := handled env (.poolCreate { info with adminStateUp := some false }) nb

def createdEnabled : Nb := handled env (.poolCreate { info with adminStateUp := some true }) nb

def enabledLater : Nb := handled env (.poolUpdate (enablePool info)) (createdDisabled env info nb)

/-- Both ways leave the same keys on the row, and the same traffic map whatever members are
created, and a disabled listener is given the pool. -/
structure EnablesAlike (listenerId : Str) (row : LoadBalancer) : Prop where
  keys : ∃ later first, (enabledLater env info nb).lb? row.uuid = some later ∧
    (createdEnabled env info nb).lb? row.uuid = some first ∧
    ∀ k, later.externalIds.get? k = first.externalIds.get? k
  vips : ∀ members,
    ((createMembers env (enabledLater env info nb) members).lb? row.uuid).map (·.vips) =
      ((createMembers env (createdEnabled env info nb) members).lb? row.uuid).map (·.vips)
  attached : ∀ v, row.externalIds.get? (getListenerKey listenerId false) = some v →
    ∃ first w, (createdEnabled env info nb).lb? row.uuid = some first ∧
      first.externalIds.get? (getListenerKey listenerId false) = some w ∧
      Str.contains (getPoolKey info.id true) w = true

/-- No value of the listener is to be given the pool, and the traffic map is that of the keys. -/
structure NeedsNoAttaching (listenerId : Str) (row : LoadBalancer) : Prop where
  enabled : ∀ v, row.externalIds.get? (getListenerKey listenerId true) = some v →
    Str.contains (getPoolKey info.id false) v = true
  disabled : ∀ v, row.externalIds.get? (getListenerKey listenerId false) = some v →
    Str.contains (getPoolKey info.id true) v = true
  vips : frameVipIps env row.externalIds row.externalIds = .ok row.vips

end Paths

section Creating
variable {env : Env} {info : PoolInfo} {nb : Nb} {row : LoadBalancer} {listenerId : Str}

/-- The keys a new pool leaves are those with the pool, when its listener is not to be given it. -/
theorem poolCreateExternalIds_of_listed {up : Bool} {e : Dict Str Str}
    (hl : info.listenerId = some listenerId)
    (h : ∀ v, e.get? (getListenerKey listenerId true) = some v →
      Str.contains (getPoolKey info.id up) v = true) :
    poolCreateExternalIds info up e = e.set (getPoolKey info.id up) [] := by
  rcases poolCreateExternalIds_cases info up e with he | ⟨l, v, hlo, hv, hc, -⟩
  · exact he
  · have hll : l = listenerId := by
      rw [listenerOf, hl] at hlo
      cases listenerId with
      | nil => cases hlo
      | cons c cs => exact (Option.some.inj hlo).symm
    rw [h v (hll ▸ hv)] at hc
    cases hc

theorem poolCreateExternalIds_of_unlisted {up : Bool} {e : Dict Str Str} {v : Str}
    (hl : info.listenerId = some listenerId) (hne : listenerId ≠ [])
    (hv : e.get? (getListenerKey listenerId true) = some v)
    (hc : Str.contains (getPoolKey info.id up) v = false) :
    poolCreateExternalIds info up e = (e.set (getPoolKey info.id up) []).set
      (getListenerKey listenerId true) (v ++ getPoolKey info.id up) := by
  obtain ⟨c, cs, rfl⟩ := List.exists_cons_of_ne_nil hne
  simp [poolCreateExternalIds, hl, hv, hc]

theorem contains_poolKey_of_disabled {id v : Str}
    (h : Str.contains (getPoolKey id false) v = true) :
    Str.contains (getPoolKey id true) v = true := by
  rw [Str.contains_iff] at h ⊢
  have hprefix : getPoolKey id true <+: getPoolKey id false := by
    rw [getPoolKey, getPoolKey, if_pos rfl, List.append_nil]
    exact List.prefix_append ..
  exact hprefix.isInfix.trans h

/-- The row after the pool was created disabled, with the keys `e`. -/
def withDisabledPool (info : PoolInfo) (row : LoadBalancer) : LoadBalancer :=
  { row with
    externalIds := poolCreateExternalIds info false row.externalIds
    options := affinityOptions (createdTimeout info) row.options }

section Run
variable (hw : nb.WellFormed)
  (hsel : selectOvnLb info.protocol (nb.lbsNamed info.loadbalancerId) = .ok row)
  (hp : row.protocol = some info.protocol)
include hw hsel hp

theorem createdDisabled_eq : createdDisabled env info nb = nb.putLb (withDisabledPool info row) :=
  show handled env (.poolCreate { info with adminStateUp := some false }) nb = _ from
    handled_poolCreate_found env hw hsel hp rfl

variable (env) in
theorem createdEnabled_eq : createdEnabled env info nb = nb.putLb { row with
    externalIds := poolCreateExternalIds info true row.externalIds
    options := affinityOptions (createdTimeout info) row.options } :=
  show handled env (.poolCreate { info with adminStateUp := some true }) nb = _ from
    handled_poolCreate_found env hw hsel hp rfl

variable (env) in
theorem enabledLater_eq : enabledLater env info nb =
    match (if (withDisabledPool info row).externalIds.contains (getPoolKey info.id false) then
        frameVipIps env (withDisabledPool info row).externalIds (movedPoolKeys
          (getPoolKey info.id false) (getPoolKey info.id true)
          (withDisabledPool info row).externalIds) else .ok row.vips) with
    | .error _ => nb.putLb (withDisabledPool info row)
    | .ok vips => nb.putLb { withDisabledPool info row with
        externalIds := movedPoolKeys (getPoolKey info.id false) (getPoolKey info.id true)
          (withDisabledPool info row).externalIds
        vips } := by
  have hsel' : selectOvnLb (enablePool info).protocol
      ((nb.putLb (withDisabledPool info row)).lbsNamed
      (enablePool info).loadbalancerId) = .ok (withDisabledPool info row) :=
    selectOvnLb_putLb hw hsel rfl rfl rfl
  have hupdate := handled_poolUpdate_found env (hw.putLb _) hsel' rfl
  rw [enabledLater, createdDisabled_eq hw hsel hp, hupdate]
  change (match (if (withDisabledPool info row).externalIds.contains (getPoolKey info.id false) then
      frameVipIps env (withDisabledPool info row).externalIds (movedPoolKeys
        (getPoolKey info.id false) (getPoolKey info.id true)
        (withDisabledPool info row).externalIds) else .ok row.vips) with
    | .error _ => nb.putLb (withDisabledPool info row)
    | .ok vips => (nb.putLb (withDisabledPool info row)).putLb { withDisabledPool info row with
        externalIds := movedPoolKeys (getPoolKey info.id false) (getPoolKey info.id true)
          (withDisabledPool info row).externalIds
        vips }) = _
  split
  · rfl
  · exact Nb.putLb_putLb rfl

end Run

section Iff
variable (hw : nb.WellFormed)
  (hsel : selectOvnLb info.protocol (nb.lbsNamed info.loadbalancerId) = .ok row)
  (hp : row.protocol = some info.protocol) (hid : IsUuid info.id)
  (hl : info.listenerId = some listenerId)
  (hnew : ∀ up, getPoolKey info.id up ∉ row.externalIds.keys)
include hw hsel hp hid hl hnew

variable (env) in
/-- Without a listener to attach to, only the pool's key is added, if the keys have a traffic
map at all. -/
theorem enabledLater_of_listed
    (henabled : ∀ v, row.externalIds.get? (getListenerKey listenerId true) = some v →
      Str.contains (getPoolKey info.id false) v = true) :
    enabledLater env info nb =
      match frameVipIps env row.externalIds row.externalIds with
      | .error _ => nb.putLb (withDisabledPool info row)
      | .ok vips => nb.putLb { row with
          externalIds := row.externalIds.set (getPoolKey info.id true) []
          vips, options := affinityOptions (createdTimeout info) row.options } := by
  have hdisabled := poolCreateExternalIds_of_listed hl henabled
  have hmoved : movedPoolKeys (getPoolKey info.id false) (getPoolKey info.id true)
      (row.externalIds.set (getPoolKey info.id false) []) =
        row.externalIds.set (getPoolKey info.id true) [] := by
    rw [movedPoolKeys, Dict.get?_set_self]
    dsimp only
    rw [Dict.erase_set_of_ne _ _ (getPoolKey_true_ne_false _), Dict.erase_set_self _ (hnew false)]
  have hframe : frameVipIps env (row.externalIds.set (getPoolKey info.id false) [])
      (row.externalIds.set (getPoolKey info.id true) []) =
        frameVipIps env row.externalIds row.externalIds := by
    rw [frameVipIps_set_pool hid (hnew true)]
    exact frameVipIps_congr_row
      (Readable.sameBase_set (poolKey_notMem_base _ _) [] _ (by decide) (by decide)) _
  have hcontains : (row.externalIds.set (getPoolKey info.id false) []).contains
      (getPoolKey info.id false) = true := by
    rw [Dict.contains, Dict.get?_set_self]
    rfl
  rw [enabledLater_eq env hw hsel hp]
  simp only [withDisabledPool, hdisabled, hcontains, if_true, hmoved, hframe]

theorem enablesAlike_of_needsNoAttaching (h : NeedsNoAttaching env info listenerId row) :
    EnablesAlike env info nb listenerId row := by
  have hget := hw.lb?_of_mem (Nb.mem_lbsNamed.mp (selectOvnLb_ok hsel).1).1
  have htrue := poolCreateExternalIds_of_listed hl fun v hv =>
    contains_poolKey_of_disabled (h.enabled v hv)
  have hfirst := createdEnabled_eq env hw hsel hp
  have hsame : enabledLater env info nb = createdEnabled env info nb := by
    rw [enabledLater_of_listed env hw hsel hp hid hl hnew h.enabled, hfirst, htrue, h.vips]
  have hrow := Nb.lb?_putLb { row with
    externalIds := poolCreateExternalIds info true row.externalIds
    options := affinityOptions (createdTimeout info) row.options } hget
  rw [← hfirst] at hrow
  refine ⟨⟨_, _, hsame ▸ hrow, hrow, fun k => rfl⟩, fun members => by rw [hsame], fun v hv => ?_⟩
  refine ⟨_, v, hrow, ?_, h.disabled v hv⟩
  rw [htrue, Dict.get?_set_of_ne _ _ (listenerKey_ne_poolKey _ _ _ _), hv]

theorem needsNoAttaching_of_enablesAlike (hne : listenerId ≠ [])
    (h : EnablesAlike env info nb listenerId row) : NeedsNoAttaching env info listenerId row := by
  have hget := hw.lb?_of_mem (Nb.mem_lbsNamed.mp (selectOvnLb_ok hsel).1).1
  have hkey := fun up up' => listenerKey_ne_poolKey listenerId info.id up up'
  obtain ⟨later, first, hlater, hfirst, hsame⟩ := h.keys
  have hrow := Nb.lb?_putLb { row with
    externalIds := poolCreateExternalIds info true row.externalIds
    options := affinityOptions (createdTimeout info) row.options } hget
  rw [← createdEnabled_eq env hw hsel hp, hfirst] at hrow
  have hfirst_eq := Option.some.inj hrow
  have hput : ∀ {row' : LoadBalancer}, enabledLater env info nb = nb.putLb row' →
      row'.uuid = row.uuid → later = row' := by
    intro row' he hu
    have hrow' := Nb.lb?_putLb row' (hu ▸ hget)
    rw [← he, hu, hlater] at hrow'
    exact Option.some.inj hrow'
  have henabled : ∀ v, row.externalIds.get? (getListenerKey listenerId true) = some v →
      Str.contains (getPoolKey info.id false) v = true := by
    intro v hv
    by_contra hc
    rw [Bool.not_eq_true] at hc
    have hdisabled := poolCreateExternalIds_of_unlisted hl hne hv hc
    -- the value the listener keeps when the pool is enabled
    have hlater_get : later.externalIds.get? (getListenerKey listenerId true) =
        some (v ++ getPoolKey info.id false) := by
      have hrun := enabledLater_eq env hw hsel hp
      have hset : (withDisabledPool info row).externalIds.get? (getListenerKey listenerId true) =
          some (v ++ getPoolKey info.id false) := by
        rw [withDisabledPool, hdisabled]
        exact Dict.get?_set_self ..
      split at hrun
      · rw [hput hrun rfl, hset]
      · rw [hput hrun rfl]
        exact (get?_movedPoolKeys_of_ne (hkey true false) (hkey true true) _).trans hset
    have hfirst_get : first.externalIds.get? (getListenerKey listenerId true) = some v ∨
        first.externalIds.get? (getListenerKey listenerId true) =
          some (v ++ getPoolKey info.id true) := by
      rw [hfirst_eq]
      cases hct : Str.contains (getPoolKey info.id true) v with
      | true =>
          left
          rw [poolCreateExternalIds_of_listed hl fun w hw => by
            rw [hv] at hw; cases hw; exact hct]
          rw [Dict.get?_set_of_ne _ _ (hkey true true), hv]
      | false =>
          right
          rw [poolCreateExternalIds_of_unlisted hl hne hv hct, Dict.get?_set_self]
    rw [← hsame, hlater_get] at hfirst_get
    rcases hfirst_get with he | he
    · have := Option.some.inj he
      simp [getPoolKey, lbExtIdsPoolPrefix] at this
    · exact getPoolKey_true_ne_false _ (List.append_cancel_left (Option.some.inj he)).symm
  refine ⟨henabled, fun v hv => ?_, ?_⟩
  · obtain ⟨first', w, hfirst', hw', hc⟩ := h.attached v hv
    cases hfirst.symm.trans hfirst'
    rw [hfirst_eq, poolCreateExternalIds_of_listed hl fun w hw =>
      contains_poolKey_of_disabled (henabled w hw), Dict.get?_set_of_ne _ _ (hkey false true), hv]
      at hw'
    rw [Option.some.inj hw']
    exact hc
  · have hrun := enabledLater_of_listed env hw hsel hp hid hl hnew henabled
    have htrue := poolCreateExternalIds_of_listed hl fun w hw =>
      contains_poolKey_of_disabled (henabled w hw)
    cases hf : frameVipIps env row.externalIds row.externalIds with
    | error e =>
        -- the pool stays disabled
        simp only [hf] at hrun
        have hd := hsame (getPoolKey info.id false)
        rw [hput hrun rfl, withDisabledPool,
          poolCreateExternalIds_of_listed hl henabled, Dict.get?_set_self, hfirst_eq,
          htrue, Dict.get?_set_of_ne _ _ (getPoolKey_true_ne_false _).symm,
          (Dict.get?_eq_none_iff _ _).mpr (hnew false)] at hd
        cases hd
    | ok vips =>
        simp only [hf] at hrun
        have hv := h.vips []
        simp only [createMembers, List.foldl_nil, hfirst, hlater, Option.map_some] at hv
        rw [hput hrun rfl, hfirst_eq] at hv
        exact congrArg _ (Option.some.inj hv)

end Iff

/-- A pool enabled later is like one enabled at once exactly when the row has no listener to
attach it to. -/
theorem enablesAlike_iff (hw : nb.WellFormed)
    (hsel : selectOvnLb info.protocol (nb.lbsNamed info.loadbalancerId) = .ok row)
    (hp : row.protocol = some info.protocol) (hid : IsUuid info.id)
    (hl : info.listenerId = some listenerId) (hne : listenerId ≠ [])
    (hnew : ∀ up, getPoolKey info.id up ∉ row.externalIds.keys) :
    EnablesAlike env info nb listenerId row ↔ NeedsNoAttaching env info listenerId row :=
  ⟨needsNoAttaching_of_enablesAlike hw hsel hp hid hl hnew hne,
    enablesAlike_of_needsNoAttaching hw hsel hp hid hl hnew⟩

end Creating

section Detaching
variable {env : Env} {info : ListenerInfo} {nb : Nb} {row : LoadBalancer}

/-- A request that gives the listener of `info` a pool. -/
inductive AttachesTo (info : ListenerInfo) : Request → Prop
  | create {pool : PoolInfo} (hlb : pool.loadbalancerId = info.loadbalancerId)
      (hp : pool.protocol = info.protocol) (hl : pool.listenerId = some info.id) :
      AttachesTo info (.poolCreate pool)
  | update {update : ListenerInfo} {poolId : Str} (hid : update.id = info.id)
      (hlb : update.loadbalancerId = info.loadbalancerId) (hp : update.protocol = info.protocol)
      (hport : update.protocolPort = info.protocolPort)
      (hpool : update.defaultPoolId = some (some poolId)) : AttachesTo info (.listenerUpdate update)

/-- The keys of a row whose listener never had a pool. -/
def withoutDefault (info : ListenerInfo) (e : Dict Str Str) : Dict Str Str :=
  e.set (getListenerKey info.id true) (makeListenerKeyValue info.protocolPort [])

/-- After the default pool of a listener is taken away the status names no pool, the value is
the port alone, and whatever is attached next is served as by a listener without a past. -/
structure DetachesCleanly (env : Env) (info : ListenerInfo) (row : LoadBalancer) (nb : Nb) :
    Prop where
  status : ∀ s, ((handle env (.listenerUpdate info)).run Nb.apply nb).1 = .ok (some s) →
    s.pools.getD [] = []
  value : ∃ row', (handled env (.listenerUpdate info) nb).lb? row.uuid = some row' ∧
    row'.externalIds.get? (getListenerKey info.id true) =
      some (makeListenerKeyValue info.protocolPort [])
  later : ∀ r, AttachesTo info r → ∀ vips members,
    frameVipIps env row.externalIds (withoutDefault info row.externalIds) = .ok vips →
      ((createMembers env (handled env r (handled env (.listenerUpdate info) nb)) members).lb?
          row.uuid).map (fun x => (x.externalIds.get? (getListenerKey info.id true), x.vips)) =
        ((createMembers env (handled env r (nb.putLb { row with
          externalIds := withoutDefault info row.externalIds, vips })) members).lb?
          row.uuid).map (fun x => (x.externalIds.get? (getListenerKey info.id true), x.vips))

/-- The default pool of an enabled listener is never taken away cleanly. -/
theorem not_detachesCleanly (env : Env) (hw : nb.WellFormed)
    (hsel : selectOvnLb info.protocol (nb.lbsNamed info.loadbalancerId) = .ok row) (poolId : Str)
    (hvalue : row.externalIds.get? (getListenerKey info.id true) =
      some (makeListenerKeyValue info.protocolPort (getPoolKey poolId true)))
    (hnone : info.defaultPoolId = some none) (hup : info.adminStateUp ≠ some false) :
    ¬ DetachesCleanly env info row nb := by
  rintro ⟨-, ⟨row', hrow', hv⟩, -⟩
  have hget := hw.lb?_of_mem (Nb.mem_lbsNamed.mp (selectOvnLb_ok hsel).1).1
  have hkey : presentListenerKey row.externalIds info.id = some (getListenerKey info.id true) := by
    rw [presentListenerKey, if_pos]
    rw [Dict.contains, hvalue]
    rfl
  have hpool : ∀ x, makeListenerKeyValue info.protocolPort (getPoolKey x true) ≠
      makeListenerKeyValue info.protocolPort [] := by
    intro x he
    have := (makeListenerKeyValue_inj he).2
    simp [getPoolKey, lbExtIdsPoolPrefix] at this
  rcases handled_listenerUpdate env hw info with ⟨e, he, -⟩ | ⟨row₁, hsel₁, hout⟩
  · cases hsel.symm.trans he
  · cases hsel.symm.trans hsel₁
    rcases hout with ⟨-, ⟨-, hd⟩ | hn⟩ | ⟨key, value, hkey', hval, hout⟩
    · rw [hnone] at hd; cases hd
    · rw [hkey] at hn; cases hn
    · cases hkey.symm.trans hkey'
      rcases hout with ⟨-, hsame⟩ | ⟨vips, -, hout⟩
      · -- nothing was written: the old pool is still there
        rw [hsame, hget] at hrow'
        cases hrow'
        exact hpool poolId (Option.some.inj (hvalue.symm.trans hv))
      · have hput := Nb.lb?_putLb { row with
          externalIds := updatedListenerKeys info (getListenerKey info.id true) value
            row.externalIds, vips } hget
        rw [← hout, hrow'] at hput
        cases hput
        have hset : (updatedListenerKeys info (getListenerKey info.id true) value
            row.externalIds).get? (getListenerKey info.id true) =
              some (makeListenerKeyValue info.protocolPort (getPoolKey "None".toList true)) := by
          have hnew : (info.adminStateUp.map (getListenerKey info.id)).getD
              (getListenerKey info.id true) = getListenerKey info.id true := by
            rcases hs : info.adminStateUp with _ | _ | _
            · rfl
            · exact absurd hs hup
            · rfl
          simp only [updatedListenerKeys, hnew, hnone]
          exact Dict.get?_set_self ..
        exact hpool _ (Option.some.inj (hset.symm.trans hv))

end Detaching

section Example

/-- The load balancer with its listener, still without a pool. -/
def exampleListening : Nb := handled exampleEnv (.listenerCreate exampleListener) exampleCreated

def exampleListeningRow : LoadBalancer :=
  (exampleListening.lbsNamed (exampleId 'a')).head (by decide +kernel)

theorem enablesAlike_iff_example :
    EnablesAlike exampleEnv exampleServedPool exampleListening (exampleId 'b') exampleListeningRow ↔
      NeedsNoAttaching exampleEnv exampleServedPool (exampleId 'b') exampleListeningRow :=
  enablesAlike_iff ⟨by decide +kernel, by decide +kernel⟩ (by decide +kernel) (by decide +kernel)
    (isUuid_exampleId (by decide)) rfl (by decide) (by decide +kernel)

/-- The listener keeps the disabled key of the pool. -/
theorem not_enablesAlike_example : ¬ EnablesAlike exampleEnv exampleServedPool exampleListening
    (exampleId 'b') exampleListeningRow := by
  intro h
  obtain ⟨later, first, hlater, hfirst, hsame⟩ := h.keys
  have hne : ((enabledLater exampleEnv exampleServedPool exampleListening).lb?
        exampleListeningRow.uuid).map (·.externalIds.get? (getListenerKey (exampleId 'b') true)) ≠
      ((createdEnabled exampleEnv exampleServedPool exampleListening).lb?
        exampleListeningRow.uuid).map
          (·.externalIds.get? (getListenerKey (exampleId 'b') true)) := by
    decide +kernel
  rw [hlater, hfirst, Option.map_some, Option.map_some, hsame] at hne
  exact hne rfl

def exampleAttachedRow : LoadBalancer :=
  (exampleAttached.lbsNamed (exampleId 'a')).head (by decide +kernel)

theorem not_detachesCleanly_example :
    ¬ DetachesCleanly exampleEnv exampleListener exampleAttachedRow exampleAttached :=
  not_detachesCleanly exampleEnv ⟨by decide +kernel, by decide +kernel⟩ (by decide +kernel)
    (exampleId 'c') (by decide +kernel) rfl (by decide)

/-- The listener is left with the pool `None`. -/
theorem exampleDetached_not_clean : ¬ DetachesCleanly exampleEnv
    { exampleListener with adminStateUp := none } exampleAttachedRow exampleAttached := by
  rintro ⟨-, ⟨row', hrow', hv⟩, -⟩
  have hvalue : ((handled exampleEnv (.listenerUpdate { exampleListener with
      adminStateUp := none }) exampleAttached).lb? exampleAttachedRow.uuid).map
        (·.externalIds.get? (getListenerKey (exampleId 'b') true)) =
          some (some "80:pool_None".toList) := by decide +kernel
  rw [hrow', Option.map_some] at hvalue
  exact absurd (hv.symm.trans (Option.some.inj hvalue)) (by decide)

end Example

end OvnOctavia
