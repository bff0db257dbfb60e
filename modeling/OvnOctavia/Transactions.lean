import OvnOctavia.Handler
import OvnOctavia.Links

/-!
What each transaction of the listener, pool and member requests does to the row
it works on, and when it is given up: the traffic map has to exist, the rest
goes through on a row that is there.
-/

namespace OvnOctavia

section Reads
variable {nb : Nb}

theorem live_of_lb? {lb row : LoadBalancer} (h : nb.lb? lb.uuid = some row) :
    lb.live nb = row := by
  rw [LoadBalancer.live, h, Option.getD_some]

@[simp] theorem run_readLb (lb : LoadBalancer) :
    (readLb lb).run Nb.apply nb = (.ok (lb.live nb), nb) := rfl

theorem run_refreshLbVips (env : Env) (lb : LoadBalancer) (externalIds : Dict Str Str)
    (isSync : Bool) : (refreshLbVips env lb externalIds isSync).run Nb.apply nb =
      ((frameVipIps env (lb.live nb).externalIds externalIds).map fun vips =>
        if isSync && (lb.live nb).vips = vips then []
        else [.lbUpdate lb.uuid .clearVips, .lbUpdate lb.uuid (.setVips vips)], nb) := by
  simp only [refreshLbVips, Prog.run_bind, run_readLb, Prog.run_ofExcept]
  cases frameVipIps env (lb.live nb).externalIds externalIds with
  | error e => rfl
  | ok vips =>
      dsimp only
      split
      · next h => simp only [Except.map, if_pos h]; rfl
      · next h => simp only [Except.map, if_neg h]; rfl

@[simp] theorem run_executeCommands_nil :
    (executeCommands []).run Nb.apply nb = (.ok (), nb) := rfl

/-- A transaction of updates of one row goes through. -/
theorem run_executeUpdates (hw : nb.WellFormed) {u : Nat} {row : LoadBalancer}
    (h : nb.lb? u = some row) {cs : List Command} (ops : List LbOp)
    (hcs : cs = ops.map (.lbUpdate u)) :
    (executeCommands cs).run Nb.apply nb = (.ok (), nb.putLb (ops.foldl LbOp.apply row)) := by
  have ht := Nb.transact_row hw h ops hcs
  cases cs with
  | nil =>
      rw [Prog.transact_nil] at ht
      rw [← Except.ok.inj ht]
      rfl
  | cons c cs => rw [run_executeCommands, ht]

end Reads

section Listeners
variable {nb : Nb} {env : Env} {ovnLb row : LoadBalancer}

/-- The row `listener_create` leaves. -/
def createdListener (info : ListenerInfo) (up : Bool) (row : LoadBalancer)
    (vips : Dict Str Str) : LoadBalancer :=
  { row with
    externalIds := row.externalIds.set (getListenerKey info.id up)
      (makeListenerKeyValue info.protocolPort (defaultPoolKey info))
    protocol := if isListenerInLb row.externalIds then row.protocol else some info.protocol
    vips }

theorem run_listenerCreateOn (hw : nb.WellFormed) (h : nb.lb? ovnLb.uuid = some row)
    (info : ListenerInfo) (up : Bool) :
    (listenerCreateOn env info up ovnLb).run Nb.apply nb =
      match frameVipIps env row.externalIds (row.externalIds.set (getListenerKey info.id up)
          (makeListenerKeyValue info.protocolPort (defaultPoolKey info))) with
      | .error e => (.error e, nb)
      | .ok vips => (.ok (), nb.putLb (createdListener info up row vips)) := by
  simp only [listenerCreateOn, Prog.run_bind, run_readLb, run_refreshLbVips, live_of_lb? h]
  cases frameVipIps env row.externalIds _ with
  | error e => rfl
  | ok vips =>
      have hcs := run_executeUpdates hw h
        (.setExternalIds (.single (getListenerKey info.id up)
            (makeListenerKeyValue info.protocolPort (defaultPoolKey info))) ::
          ((if isListenerInLb row.externalIds then [] else [.setProtocol (some info.protocol)]) ++
            [.clearVips, .setVips vips])) rfl
      simp only [Except.map, Bool.false_and, Bool.false_eq_true, if_false]
      cases hl : isListenerInLb row.externalIds with
      | true =>
          rw [hl] at hcs
          simpa [createdListener, LbOp.apply, hl] using hcs
      | false =>
          rw [hl] at hcs
          simpa [createdListener, LbOp.apply, hl] using hcs

/-- The row `listener_update` leaves, given the key the listener has in it. -/
def updatedListenerKeys (info : ListenerInfo) (presentKey value : Str) (present : Dict Str Str) :
    Dict Str Str :=
  let newKey := (info.adminStateUp.map (getListenerKey info.id)).getD presentKey
  let moved := if presentKey ≠ newKey then (present.set newKey value).erase presentKey else present
  match info.defaultPoolId with
  | some pool =>
      moved.set newKey (makeListenerKeyValue info.protocolPort (getPoolKey (strId pool) true))
  | none => moved

theorem run_listenerUpdateOn (hw : nb.WellFormed) (h : nb.lb? ovnLb.uuid = some row)
    (info : ListenerInfo) {presentKey value : Str}
    (hv : row.externalIds.get? presentKey = some value) :
    (listenerUpdateOn env info presentKey ovnLb row.externalIds).run Nb.apply nb =
      match frameVipIps env row.externalIds
          (updatedListenerKeys info presentKey value row.externalIds) with
      | .error e => (.error e, nb)
      | .ok vips => (.ok (), nb.putLb { row with
          externalIds := updatedListenerKeys info presentKey value row.externalIds, vips }) := by
  have hput := fun ops : List LbOp => run_executeUpdates hw h ops rfl
  simp only [listenerUpdateOn, hv, updatedListenerKeys]
  generalize (info.adminStateUp.map (getListenerKey info.id)).getD presentKey = newKey
  by_cases hmove : presentKey = newKey
  · subst hmove
    cases info.defaultPoolId with
    | none =>
        simp only [ne_eq, not_true_eq_false, if_false, Prog.run_bind, run_refreshLbVips,
          live_of_lb? h]
        cases frameVipIps env row.externalIds row.externalIds with
        | error e => rfl
        | ok vips => simpa [Except.map, LbOp.apply] using hput [.clearVips, .setVips vips]
    | some pool =>
        simp only [ne_eq, not_true_eq_false, if_false, Prog.run_bind, run_refreshLbVips,
          live_of_lb? h]
        generalize makeListenerKeyValue info.protocolPort (getPoolKey (strId pool) true) = value'
        cases frameVipIps env row.externalIds (row.externalIds.set presentKey value') with
        | error e => rfl
        | ok vips =>
            have hs : (∅ : Dict Str Str).set presentKey value' = .single presentKey value' := rfl
            have hne : (Dict.single presentKey value').items ≠ [] := by
              simp [Dict.single, Dict.empty, Dict.set, Dict.setItems]
            simpa [Except.map, LbOp.apply, hs, hne] using
              hput [.setExternalIds (.single presentKey value'), .clearVips, .setVips vips]
  · have hcomm : ∀ v, (row.externalIds.erase presentKey).set newKey v =
        (row.externalIds.set newKey v).erase presentKey :=
      fun v => (Dict.erase_set_of_ne row.externalIds v (Ne.symm hmove)).symm
    cases info.defaultPoolId with
    | none =>
        simp only [ne_eq, hmove, not_false_eq_true, if_true, Prog.run_bind, run_refreshLbVips,
          live_of_lb? h]
        cases frameVipIps env row.externalIds _ with
        | error e => rfl
        | ok vips =>
            have hne : (Dict.single newKey value).items ≠ [] := by
              simp [Dict.single, Dict.empty, Dict.set, Dict.setItems]
            simpa [Except.map, LbOp.apply, hne, hcomm] using
              hput [.removeExternalId presentKey, .setExternalIds (.single newKey value),
                .clearVips, .setVips vips]
    | some pool =>
        simp only [ne_eq, hmove, not_false_eq_true, if_true, Prog.run_bind, run_refreshLbVips,
          live_of_lb? h]
        generalize makeListenerKeyValue info.protocolPort (getPoolKey (strId pool) true) = value'
        have hs : (Dict.single newKey value).set newKey value' = .single newKey value' :=
          Dict.set_set_self ∅ newKey value value'
        have hm : ((row.externalIds.set newKey value).erase presentKey).set newKey value' =
            (row.externalIds.set newKey value').erase presentKey := by
          rw [← hcomm, Dict.set_set_self, hcomm]
        rw [hm]
        cases frameVipIps env row.externalIds _ with
        | error e => rfl
        | ok vips =>
            have hne : (Dict.single newKey value').items ≠ [] := by
              simp [Dict.single, Dict.empty, Dict.set, Dict.setItems]
            simpa [Except.map, LbOp.apply, hs, hne, hcomm] using
              hput [.removeExternalId presentKey, .setExternalIds (.single newKey value'),
                .clearVips, .setVips vips]

end Listeners

section Cleaning
variable {nb : Nb} {env : Env} {ovnLb row : LoadBalancer}

/-- The table with the row `row'`, unless the last object of the row went: the
only row of a load balancer loses its protocol then, one of several is deleted. -/
def Nb.cleaned (nb : Nb) (lbId : Str) (isEmpty : Bool) (row' : LoadBalancer) : Nb :=
  if isEmpty then
    match nb.lbsNamed lbId with
    | [] => nb.putLb row'
    | [_] => nb.putLb { row' with protocol := none }
    | _ => nb.deleteLb row'.uuid
  else nb.putLb row'

/-- Whether cleaning deletes the row. -/
def Nb.cleaningDeletes (nb : Nb) (lbId : Str) (isEmpty : Bool) : Bool :=
  isEmpty && decide (2 ≤ (nb.lbsNamed lbId).length)

theorem run_cleanLbIfEmpty (lbId : Str) (externalIds : Dict Str Str) :
    (cleanLbIfEmpty ovnLb lbId externalIds).run Nb.apply nb =
      (.ok (if isLbEmpty externalIds then
          match nb.lbsNamed lbId with
          | [] => []
          | [_] => [.lbUpdate ovnLb.uuid (.setProtocol none)]
          | _ => [.lbDel ovnLb.uuid]
        else [], nb.cleaningDeletes lbId (isLbEmpty externalIds)), nb) := by
  rw [cleanLbIfEmpty, Prog.run, Nb.cleaningDeletes]
  cases isLbEmpty externalIds with
  | false => rfl
  | true =>
      rcases nb.lbsNamed lbId with _ | ⟨a, _ | ⟨b, l⟩⟩
      · rfl
      · rfl
      · have : decide (2 ≤ (a :: b :: l).length) = true := by simp
        rw [this]
        rfl

/-- A transaction of updates of one row that ends with the cleaning of the row. -/
theorem run_executeCleaned (hw : nb.WellFormed) (h : nb.lb? ovnLb.uuid = some row) (lbId : Str)
    (isEmpty : Bool) {cs : List Command} (ops : List LbOp)
    (hcs : cs = ops.map (.lbUpdate ovnLb.uuid)) {row' : LoadBalancer}
    (hrow : ops.foldl LbOp.apply row = row') (hu : row'.uuid = ovnLb.uuid) :
    (executeCommands (cs ++ if isEmpty then
        match nb.lbsNamed lbId with
        | [] => []
        | [_] => [.lbUpdate ovnLb.uuid (.setProtocol none)]
        | _ => [.lbDel ovnLb.uuid]
      else [])).run Nb.apply nb = (.ok (), nb.cleaned lbId isEmpty row') := by
  subst hrow
  rw [Nb.cleaned]
  cases isEmpty with
  | false =>
      simpa using run_executeUpdates hw h ops hcs
  | true =>
      rcases nb.lbsNamed lbId with _ | ⟨a, _ | ⟨b, l⟩⟩
      · simpa using run_executeUpdates hw h ops hcs
      · have hcs' : cs ++ [.lbUpdate ovnLb.uuid (.setProtocol none)] =
            (ops ++ [LbOp.setProtocol none]).map (.lbUpdate ovnLb.uuid) := by
          rw [hcs, List.map_append, List.map_singleton]
        simpa [LbOp.apply] using run_executeUpdates hw h _ hcs'
      · have ht := Nb.transact_row hw h ops hcs
        have hput : (nb.putLb (ops.foldl LbOp.apply row)).lb? ovnLb.uuid =
            some (ops.foldl LbOp.apply row) := by
          rw [← hu] at h ⊢
          exact Nb.lb?_putLb _ h
        have hdel : Prog.transact Nb.apply (cs ++ [.lbDel ovnLb.uuid]) nb =
            .ok (nb.deleteLb (ops.foldl LbOp.apply row).uuid) := by
          rw [Prog.transact_append, ht]
          change (Nb.apply (.lbDel ovnLb.uuid) _).bind (Prog.transact Nb.apply []) = _
          rw [Nb.apply, hput]
          change Except.ok _ = _
          rw [← hu, Nb.deleteLb_putLb]
        simp only [if_true]
        cases cs with
        | nil => rw [List.nil_append] at hdel ⊢; rw [run_executeCommands, hdel]
        | cons c cs => rw [List.cons_append] at hdel ⊢; rw [run_executeCommands, hdel]

theorem run_listenerDeleteOn (hw : nb.WellFormed) (h : nb.lb? ovnLb.uuid = some row)
    (info : ListenerInfo) :
    (listenerDeleteOn env info ovnLb row.externalIds).run Nb.apply nb =
      let externalIds := row.externalIds.erase (getListenerKey info.id true)
      if nb.cleaningDeletes info.loadbalancerId (isLbEmpty externalIds) then
        (.ok (), nb.deleteLb ovnLb.uuid)
      else match frameVipIps env row.externalIds externalIds with
        | .error e => (.error e, nb)
        | .ok vips => (.ok (), nb.cleaned info.loadbalancerId (isLbEmpty externalIds)
            { row with externalIds, vips }) := by
  have hu : row.uuid = ovnLb.uuid := (Nb.lb?_eq_some h).2
  dsimp only
  generalize he : row.externalIds.erase (getListenerKey info.id true) = externalIds
  simp only [listenerDeleteOn, Prog.run_bind, he, run_cleanLbIfEmpty]
  generalize hempty : isLbEmpty externalIds = isEmpty
  cases hd : nb.cleaningDeletes info.loadbalancerId isEmpty with
  | true =>
      have hx := run_executeCleaned hw h info.loadbalancerId isEmpty
        [.removeExternalId (getListenerKey info.id true)] rfl rfl hu
      rw [Nb.cleaningDeletes, Bool.and_eq_true, decide_eq_true_iff] at hd
      obtain ⟨rfl, hlen⟩ := hd
      rcases hl : nb.lbsNamed info.loadbalancerId with _ | ⟨a, _ | ⟨b, l⟩⟩
      · simp [hl] at hlen
      · simp [hl] at hlen
      · rw [Nb.cleaned, hl] at hx
        simpa [Prog.run_bind, ← hu] using hx
  | false =>
      simp only [Bool.false_eq_true, if_false, Prog.run_bind, run_refreshLbVips, live_of_lb? h]
      cases hf : frameVipIps env row.externalIds externalIds with
      | error e => rfl
      | ok vips =>
          -- the commands of the cleaning stand before those of the refresh
          have hput := fun ops : List LbOp => run_executeUpdates hw h ops rfl
          simp only [Nb.cleaned]
          cases isEmpty with
          | false =>
              simpa [Except.map, LbOp.apply, he] using
                hput [.removeExternalId (getListenerKey info.id true), .clearVips, .setVips vips]
          | true =>
              rcases hl : nb.lbsNamed info.loadbalancerId with _ | ⟨a, _ | ⟨b, l⟩⟩
              · simpa [Except.map, LbOp.apply, he] using
                  hput [.removeExternalId (getListenerKey info.id true), .clearVips, .setVips vips]
              · simpa [Except.map, LbOp.apply, he] using
                  hput [.removeExternalId (getListenerKey info.id true), .setProtocol none,
                    .clearVips, .setVips vips]
              · simp [Nb.cleaningDeletes, hl] at hd

end Cleaning

section Pools
variable {nb : Nb} {env : Env} {ovnLb row : LoadBalancer}

theorem keys_prefix_poolCreateExternalIds (info : PoolInfo) (up : Bool) (e : Dict Str Str) :
    e.keys <+: (poolCreateExternalIds info up e).keys := by
  have hset : ∀ (d : Dict Str Str) (k v : Str), d.keys <+: (d.set k v).keys := by
    intro d k v
    rw [Dict.keys_set]
    split
    · exact List.prefix_rfl
    · exact List.prefix_append ..
  unfold poolCreateExternalIds
  dsimp only
  split
  · split
    · exact hset ..
    · split
      · exact hset ..
      · exact (hset ..).trans (hset ..)
  · exact hset ..

/-- The affinity timeout a new pool sets, and the one an update sets. -/
def createdTimeout (info : PoolInfo) : Option Str :=
  match info.sessionPersistence with
  | some (some p) => if p.hasTimeout then some p.timeoutText else none
  | _ => none

def updatedTimeout (info : PoolInfo) : Option Str :=
  match info.sessionPersistence with
  | some (some p) => some p.timeoutText
  | _ => none

/-- The options of a row with an affinity timeout. -/
def affinityOptions (timeout : Option Str) (options : Dict Str Str) : Dict Str Str :=
  match timeout with
  | none => options
  | some t => options.update (options.set affinityTimeout t)

def affinityOps (timeout : Option Str) (row : LoadBalancer) : List LbOp :=
  timeout.toList.map fun t => .setOptions (row.options.set affinityTimeout t)

theorem foldl_affinityOps (timeout : Option Str) {row lb : LoadBalancer}
    (hlb : lb.options = row.options) : (affinityOps timeout row).foldl LbOp.apply lb =
      { lb with options := affinityOptions timeout row.options } := by
  cases timeout with
  | none => rw [affinityOptions, ← hlb]; rfl
  | some t => rw [affinityOptions, ← hlb]; simp [affinityOps, LbOp.apply, hlb]

private theorem createAffinity_eq {row : LoadBalancer} {u : Nat} (hu : row.uuid = u)
    (info : PoolInfo) :
    createAffinity row info = (affinityOps (createdTimeout info) row).map (.lbUpdate u) := by
  rw [createAffinity, createdTimeout]
  rcases info.sessionPersistence with _ | _ | p
  · rfl
  · rfl
  · dsimp only
    split
    · simp [affinityOps, setAffinity, hu]
    · rfl

theorem updateAffinity_eq {row : LoadBalancer} {u : Nat} (hu : row.uuid = u)
    (info : PoolInfo) :
    updateAffinity row info = (affinityOps (updatedTimeout info) row).map (.lbUpdate u) := by
  rw [updateAffinity, updatedTimeout]
  rcases info.sessionPersistence with _ | _ | p
  · rfl
  · rfl
  · simp [affinityOps, setAffinity, hu]

theorem run_poolCreateOn (hw : nb.WellFormed) (h : nb.lb? ovnLb.uuid = some row)
    (info : PoolInfo) (up : Bool) : (poolCreateOn info up ovnLb).run Nb.apply nb =
      (.ok (), nb.putLb { row with
        externalIds := poolCreateExternalIds info up row.externalIds
        options := affinityOptions (createdTimeout info) row.options }) := by
  have hupdate := Dict.update_of_keys_prefix
    (keys_prefix_poolCreateExternalIds info up row.externalIds)
  have hcs := createAffinity_eq (Nb.lb?_eq_some h).2 info
  have hx := run_executeUpdates hw h (.setExternalIds (poolCreateExternalIds info up
    row.externalIds) :: affinityOps (createdTimeout info) row) rfl
  rw [List.foldl_cons, LbOp.apply, hupdate, foldl_affinityOps _ (by rfl)] at hx
  simpa only [poolCreateOn, Prog.run_bind, run_readLb, live_of_lb? h, hcs, List.map_cons] using hx

private theorem keys_foldl_detachListener {poolKey : Str} (l : List (Str × Str))
    (e : Dict Str Str)
    (hk : ∀ b ∈ l, Str.startsWith lbExtIdsListenerPrefix b.1 = true → b.1 ∈ e.keys) :
    (l.foldl (detachListener poolKey) e).keys = e.keys := by
  induction l generalizing e with
  | nil => rfl
  | cons b l ih =>
      have hb := hk b (List.mem_cons_self ..)
      have hl := fun c hc => hk c (List.mem_cons_of_mem b hc)
      rw [List.foldl_cons, detachListener]
      split
      · next hc =>
          rw [Bool.and_eq_true] at hc
          have hset : (e.set b.1 ((b.2.splitOn ':').headD [] ++ [':'])).keys = e.keys := by
            rw [Dict.keys_set, if_pos (hb hc.1)]
          rw [ih _ (fun c hc' hs => hset ▸ hl c hc' hs), hset]
      · exact ih e hl

/-- Detaching a pool changes values only. -/
theorem keys_detachPool (id : Str) (present : Dict Str Str) :
    (detachPool (getPoolKey id true) present (present.erase (getPoolKey id true))).keys =
      (present.erase (getPoolKey id true)).keys := by
  refine keys_foldl_detachListener present.items _ fun b hb hs => ?_
  rw [Dict.mem_keys_erase]
  refine ⟨(Dict.mem_keys_iff _ _).mpr ⟨b.2, hb⟩, fun he => ?_⟩
  rw [he] at hs
  cases (startsWith_listener_poolKey id true).symm.trans hs

theorem detachPool_of_none {poolKey : Str} {present e : Dict Str Str}
    (h : attachedListeners poolKey present = []) : detachPool poolKey present e = e := by
  rw [attachedListeners, List.filter_eq_nil_iff] at h
  rw [detachPool]
  generalize present.items = l at h
  induction l with
  | nil => rfl
  | cons b l ih =>
      rw [List.foldl_cons, detachListener, if_neg (h b (List.mem_cons_self ..))]
      exact ih fun c hc => h c (List.mem_cons_of_mem b hc)

private theorem foldl_setExternalIds {α : Type} (l : List α) {lb : LoadBalancer}
    {d : Dict Str Str} (hd : lb.externalIds.update d = d) (hl : l = [] → d = lb.externalIds) :
    (l.map fun _ => LbOp.setExternalIds d).foldl LbOp.apply lb = { lb with externalIds := d } := by
  cases l with
  | nil => rw [hl rfl]; rfl
  | cons a l =>
      rw [List.map_cons, List.foldl_cons, LbOp.apply, hd]
      induction l with
      | nil => rfl
      | cons b l ih =>
          rw [List.map_cons, List.foldl_cons, LbOp.apply, Dict.update_self]
          exact ih (by rintro ⟨⟩)

/-- The keys `pool_delete` leaves. -/
def poolDeletedKeys (id : Str) (present : Dict Str Str) : Dict Str Str :=
  (detachPool (getPoolKey id true) present (present.erase (getPoolKey id true))).erase
    (getPoolKey id false)

/-- A deletion takes the affinity timeout of the row away, whatever pool set it. -/
theorem run_poolDeleteOn_options (env : Env) (hw : nb.WellFormed)
    (h : nb.lb? ovnLb.uuid = some row) (info : PoolInfo) :
    (poolDeleteOn env info ovnLb row.externalIds).run Nb.apply nb =
      match (if row.externalIds.contains (getPoolKey info.id true) then
          frameVipIps env row.externalIds (row.externalIds.erase (getPoolKey info.id true))
        else .ok row.vips) with
      | .error e => (.error e, nb)
      | .ok vips => (.ok (), nb.cleaned info.loadbalancerId
          (isLbEmpty (detachPool (getPoolKey info.id true) row.externalIds
            (row.externalIds.erase (getPoolKey info.id true))))
          { row with
            externalIds := poolDeletedKeys info.id row.externalIds, vips
            options := row.options.erase affinityTimeout }) := by
  have hu : row.uuid = ovnLb.uuid := (Nb.lb?_eq_some h).2
  have hkeys := keys_detachPool info.id row.externalIds
  generalize hd : detachPool (getPoolKey info.id true) row.externalIds
    (row.externalIds.erase (getPoolKey info.id true)) = d at hkeys
  have hdetach : ∀ vips, ((attachedListeners (getPoolKey info.id true) row.externalIds).map
      fun _ => LbOp.setExternalIds d).foldl LbOp.apply
        { row with externalIds := row.externalIds.erase (getPoolKey info.id true), vips } =
          { row with externalIds := d, vips } := by
    intro vips
    refine foldl_setExternalIds _ (Dict.update_of_keys_prefix ?_) fun ha => ?_
    · exact hkeys ▸ List.prefix_rfl
    · exact hd ▸ detachPool_of_none ha
  have hdisabled : ∀ lb : LoadBalancer, lb.externalIds = d →
      ((if row.externalIds.contains (getPoolKey info.id false) then
        [LbOp.removeExternalId (getPoolKey info.id false)] else []).foldl LbOp.apply lb) =
          { lb with externalIds := d.erase (getPoolKey info.id false) } := by
    rintro lb rfl
    split
    · rfl
    · next hc =>
        have hnot : getPoolKey info.id false ∉ lb.externalIds.keys := by
          rw [Dict.contains_iff] at hc
          rw [hkeys, Dict.mem_keys_erase]
          exact fun hm => hc hm.1
        rw [Dict.erase_of_notMem hnot]
        rfl
  have hoptions : ∀ lb : LoadBalancer, lb.options = row.options →
      ((if row.options.contains affinityTimeout then [LbOp.removeOption affinityTimeout]
        else []).foldl LbOp.apply lb) =
          { lb with options := row.options.erase affinityTimeout } := by
    intro lb hlb
    split
    · rw [← hlb]
      rfl
    · next hc =>
        rw [Bool.not_eq_true, Dict.contains_eq_false_iff] at hc
        rw [Dict.erase_of_notMem hc, ← hlb]
        rfl
  -- the updates before the cleaning, from those that take the enabled key away
  have hops : ∀ (first : List LbOp) (vips : Dict Str Str),
      first.foldl LbOp.apply row =
        { row with externalIds := row.externalIds.erase (getPoolKey info.id true), vips } →
      (first ++ ((attachedListeners (getPoolKey info.id true) row.externalIds).map
          fun _ => LbOp.setExternalIds d) ++
        (if row.externalIds.contains (getPoolKey info.id false) then
          [LbOp.removeExternalId (getPoolKey info.id false)] else []) ++
        (if row.options.contains affinityTimeout then [LbOp.removeOption affinityTimeout]
          else [])).foldl LbOp.apply row =
      { row with
        externalIds := poolDeletedKeys info.id row.externalIds, vips
        options := row.options.erase affinityTimeout } := by
    intro first vips hfirst
    rw [List.foldl_append, List.foldl_append, List.foldl_append, hfirst, hdetach,
      hdisabled _ rfl, poolDeletedKeys, hd]
    refine (hoptions _ ?_).trans rfl
    rfl
  have hmap : ∀ (c : Bool) (op : LbOp),
      (if c then [Command.lbUpdate ovnLb.uuid op] else []) =
        (if c then [op] else []).map (.lbUpdate ovnLb.uuid) := by
    intro c op
    cases c <;> rfl
  have hdmap : ∀ l : List (Str × Str),
      (l.map fun _ => Command.lbUpdate ovnLb.uuid (.setExternalIds d)) =
        (l.map fun _ => LbOp.setExternalIds d).map (.lbUpdate ovnLb.uuid) := by
    intro l
    rw [List.map_map]
    rfl
  simp only [poolDeleteOn]
  cases hc : row.externalIds.contains (getPoolKey info.id true) with
  | true =>
      simp only [if_true, Prog.run_bind, run_refreshLbVips, live_of_lb? h]
      cases hf : frameVipIps env row.externalIds
          (row.externalIds.erase (getPoolKey info.id true)) with
      | error e => rfl
      | ok vips =>
          have hfirst : [LbOp.removeExternalId (getPoolKey info.id true), .clearVips,
              .setVips vips].foldl LbOp.apply row =
                { row with
                  externalIds := row.externalIds.erase (getPoolKey info.id true), vips } := by
            simp [LbOp.apply]
          have hx := run_executeCleaned hw h info.loadbalancerId (isLbEmpty d) _ rfl
            (hops _ vips hfirst) hu
          simp only [List.map_append, ← hdmap, ← hmap] at hx
          simpa [Except.map, run_cleanLbIfEmpty, hd, live_of_lb? h] using hx
  | false =>
      have hfirst : ([] : List LbOp).foldl LbOp.apply row =
          { row with externalIds := row.externalIds.erase (getPoolKey info.id true) } := by
        rw [Dict.erase_of_notMem]
        · rfl
        · rwa [← Dict.contains_eq_false_iff]
      have hx := run_executeCleaned hw h info.loadbalancerId (isLbEmpty d) _ rfl
        (hops [] row.vips hfirst) hu
      simp only [List.map_append, ← hdmap, ← hmap] at hx
      simpa [Prog.run_bind, run_cleanLbIfEmpty, hd, live_of_lb? h] using hx

theorem run_poolDeleteOn (env : Env) (hw : nb.WellFormed) (h : nb.lb? ovnLb.uuid = some row)
    (info : PoolInfo) : ∃ options, (poolDeleteOn env info ovnLb row.externalIds).run Nb.apply nb =
      match (if row.externalIds.contains (getPoolKey info.id true) then
          frameVipIps env row.externalIds (row.externalIds.erase (getPoolKey info.id true))
        else .ok row.vips) with
      | .error e => (.error e, nb)
      | .ok vips => (.ok (), nb.cleaned info.loadbalancerId
          (isLbEmpty (detachPool (getPoolKey info.id true) row.externalIds
            (row.externalIds.erase (getPoolKey info.id true))))
          { row with externalIds := poolDeletedKeys info.id row.externalIds, vips, options }) :=
  ⟨_, run_poolDeleteOn_options env hw h info⟩

/-- The keys after a pool's key was moved; a pool without the first key stays. -/
def movedPoolKeys (fromKey toKey : Str) (present : Dict Str Str) : Dict Str Str :=
  match present.get? fromKey with
  | none => present
  | some value => (present.set toKey value).erase fromKey

theorem run_poolUpdateOn (env : Env) (hw : nb.WellFormed) (h : nb.lb? ovnLb.uuid = some row)
    (info : PoolInfo) {up : Bool} (hup : info.adminStateUp = some up) :
    (poolUpdateOn env info ovnLb row.externalIds).run Nb.apply nb =
      let externalIds :=
        movedPoolKeys (getPoolKey info.id (!up)) (getPoolKey info.id up) row.externalIds
      match (if row.externalIds.contains (getPoolKey info.id (!up)) then
          frameVipIps env row.externalIds externalIds else .ok row.vips) with
      | .error e => (.error e, nb)
      | .ok vips => (.ok (if up then ONLINE else OFFLINE),
          nb.putLb { row with
            externalIds, vips, options := affinityOptions (updatedTimeout info) row.options }) := by
  have hput := fun ops : List LbOp => run_executeUpdates hw h ops rfl
  have hu : row.uuid = ovnLb.uuid := (Nb.lb?_eq_some h).2
  have hne : getPoolKey info.id up ≠ getPoolKey info.id (!up) := by
    cases up
    · exact (getPoolKey_true_ne_false _).symm
    · exact getPoolKey_true_ne_false _
  have hcs := updateAffinity_eq hu info
  have hops := fun {lb : LoadBalancer} (hlb : lb.options = row.options) =>
    foldl_affinityOps (updatedTimeout info) hlb
  generalize affinityOps (updatedTimeout info) row = ops at hcs hops
  simp only [poolUpdateOn, hup, Prog.run_bind, movePoolKey, movedPoolKeys]
  cases hg : row.externalIds.get? (getPoolKey info.id (!up)) with
  | none =>
      have hc : row.externalIds.contains (getPoolKey info.id (!up)) = false := by
        rw [Dict.contains, hg]; rfl
      have hx := hput ops
      rw [hops rfl] at hx
      simp [hc, live_of_lb? h, hcs, hx]
  | some value =>
      have hc : row.externalIds.contains (getPoolKey info.id (!up)) = true := by
        rw [Dict.contains, hg]; rfl
      simp only [hc, if_true, Prog.run_bind, run_refreshLbVips, live_of_lb? h]
      cases hf : frameVipIps env row.externalIds
          ((row.externalIds.set (getPoolKey info.id up) value).erase
            (getPoolKey info.id (!up))) with
      | error e => rfl
      | ok vips =>
          have hx := hput ([.removeExternalId (getPoolKey info.id (!up)),
            .setExternalIds (.single (getPoolKey info.id up) value), .clearVips,
            .setVips vips] ++ ops)
          have hfold : [LbOp.removeExternalId (getPoolKey info.id (!up)),
              .setExternalIds (.single (getPoolKey info.id up) value), .clearVips,
              .setVips vips].foldl LbOp.apply row =
              { row with
                externalIds := (row.externalIds.set (getPoolKey info.id up) value).erase
                  (getPoolKey info.id (!up))
                vips } := by
            simp [LbOp.apply, Dict.erase_set_of_ne row.externalIds value hne]
          rw [List.foldl_append, hfold] at hx
          have hx' := hx.trans (congrArg (fun r => (Except.ok (), nb.putLb r)) (hops rfl))
          simp only [List.map_cons, ← hcs, List.cons_append, List.nil_append] at hx'
          simp [Except.map, live_of_lb? h, hx']

end Pools

section Members
variable {nb : Nb} {env : Env} {lb row : LoadBalancer}

theorem run_addMemberOn (hw : nb.WellFormed) (h : nb.lb? lb.uuid = some row) (member : MemberInfo)
    (poolKey memberInfo : Str) (items : List Str) :
    (addMemberOn env member lb poolKey memberInfo row.externalIds items).run Nb.apply nb =
      let externalIds := row.externalIds.set poolKey (Str.join ',' (items ++ [memberInfo]))
      match (if member.adminStateUp = some true then frameVipIps env row.externalIds externalIds
        else .ok row.vips) with
      | .error e => (.error e, nb)
      | .ok vips => (.ok (), nb.putLb { row with externalIds, vips }) := by
  have hput := fun ops : List LbOp => run_executeUpdates hw h ops rfl
  simp only [addMemberOn]
  generalize Str.join ',' (items ++ [memberInfo]) = value
  split
  · next hup =>
      simp only [Prog.run_bind, run_refreshLbVips, live_of_lb? h]
      cases frameVipIps env row.externalIds (row.externalIds.set poolKey value) with
      | error e => rfl
      | ok vips =>
          simpa [Except.map, LbOp.apply] using
            hput [.setExternalIds (.single poolKey value), .clearVips, .setVips vips]
  · next hup =>
      simpa [Prog.run_bind, if_neg hup, LbOp.apply] using
        hput [.setExternalIds (.single poolKey value)]

theorem run_removeMemberOn (hw : nb.WellFormed) (h : nb.lb? lb.uuid = some row)
    (poolKey : Str) (present : Dict Str Str) (items : List Str) :
    (removeMemberOn env lb poolKey present items).run Nb.apply nb =
      match frameVipIps env row.externalIds (present.set poolKey (Str.join ',' items)) with
      | .error e => (.error e, nb)
      | .ok vips => (.ok (), nb.putLb { row with
          externalIds := row.externalIds.set poolKey (Str.join ',' items), vips }) := by
  have hput := fun ops : List LbOp => run_executeUpdates hw h ops rfl
  simp only [removeMemberOn, Prog.run_bind, run_refreshLbVips, live_of_lb? h]
  cases frameVipIps env row.externalIds (present.set poolKey (Str.join ',' items)) with
  | error e => rfl
  | ok vips =>
      simpa [Except.map, LbOp.apply] using
        hput [.setExternalIds (.single poolKey (Str.join ',' items)), .clearVips, .setVips vips]

/-- The keys with a status map in them. -/
def withStatuses (e statuses : Dict Str Str) : Dict Str Str :=
  if statuses.items = [] then e.erase ovnMemberStatusKey
  else e.set ovnMemberStatusKey (Json.dumpsTexts statuses)

theorem run_updateExternalIdsMemberStatus (hw : nb.WellFormed) (h : nb.lb? lb.uuid = some row)
    {statuses : Dict Str Str} (hs : loadMemberStatuses row.externalIds = .ok statuses)
    (member : Str) (status : Option Str) :
    (updateExternalIdsMemberStatus (some lb) member status).run Nb.apply nb =
      (.ok (), nb.putLb { row with
        externalIds := withStatuses row.externalIds (withStatus statuses member status) }) := by
  have hstore : ∀ d : Dict Str Str, [storeMemberStatuses lb d] =
      [if d.items = [] then LbOp.removeExternalId ovnMemberStatusKey
        else .setExternalIds (.single ovnMemberStatusKey (Json.dumpsTexts d))].map
          (.lbUpdate lb.uuid) := by
    intro d
    rw [storeMemberStatuses]
    split <;> rfl
  simp only [updateExternalIdsMemberStatus, Prog.run_bind, run_readLb, live_of_lb? h, hs,
    Prog.run_ofExcept, Prog.run_execute, hstore, Nb.transact_row hw h _ rfl, withStatuses]
  split
  · rfl
  · simp [LbOp.apply]

end Members

end OvnOctavia
